import Rcp.MockFrame

/-! Runs of the server: the calls of `mock.h` that read or write its modelled state, in any order and with
    any arguments. -/

namespace Rcp

/-- How an endpoint is looked up: on any stream, as `find_slot` does, or on the given one. -/
abbrev Scope := Option UInt64

/-- One call on the server, with its arguments. The functions that exist once for `find_slot` and once for
    `find_slot_on_stream` are one constructor with a `Scope`. -/
inductive MockOp (σ : Type) where
  | call (c : DispatchCall)
  | dispatchMultiResponse (env : Envelope) (request : Octets) (outCap : Nat)
  | dispatchFrame (kind : FrameKind) (env : FrameEnvelope) (frame : Octets) (outCap : Nat)
  | tick (scope : Scope) (byteBusId : ByteBusId) (ctx : TickCtx)
  | drainEndpoint (scope : Scope) (byteBusId : ByteBusId)
  | notifyTrigger (sourceEp signalNr : UInt8)
  | notifyGptpLockState (locked : Bool) (sourceEp : UInt8)
  | watchdogPurge (scope : Scope) (byteBusId : ByteBusId)
  | broadcastSafeState (requestStreamIndex : UInt8)
  | checkWatchdog (requestStreamIndex : UInt8) (elapsedSinceLastKickMs : UInt64)
  | addEndpoint (byteBusId : ByteBusId) (epEnable : Bool) (handler : Option (Handler σ))
  | addEndpointOnStream (streamId : UInt64) (byteBusId : ByteBusId) (epEnable : Bool) (handler : Option (Handler σ))
  | addEndpointMultiResponse (byteBusId : ByteBusId) (epEnable : Bool) (handler : MultiHandler σ)
  | removeEndpoint (scope : Scope) (byteBusId : ByteBusId)
  | setEndpointEnable (scope : Scope) (byteBusId : ByteBusId) (enable : Bool)
  | setEndpointReqCrcEnable (scope : Scope) (byteBusId : ByteBusId) (enable : Bool)
  | setEndpointRxEnforceE2e (scope : Scope) (byteBusId : ByteBusId) (enable : Bool)
  | stashDeferredResponse (scope : Scope) (byteBusId : ByteBusId) (response : Option Octets)
  | takeDeferredResponse (scope : Scope) (byteBusId : ByteBusId)
  | transition (target : LifecycleState) (snap : Option PlausibilitySnapshot) (writer : WriterCtx)
      (allOtherEpsIdle : Bool)
  | pwrmodeResume
  | setRequestStreamCfg (entries : List RequestStreamCfg)
  | setEpIdMap (entries : List EpIdMapEntry)
  | setSequencerCount (count : UInt16)
  | setSequencerOwner (idx : Nat) (owner : UInt8)
  | setTscfUnsupportedTimeSyncPolicy (policy : TscfFallback)
  | setStreamFaultTracker (tracker : Option StreamFaultTracker)

namespace MockServer

variable {σ : Type}

def lookup (srv : MockServer σ) (scope : Scope) (byteBusId : ByteBusId) : Option EndpointIx :=
  match scope with
  | none => srv.findSlot byteBusId
  | some streamId => srv.findSlotOnStream streamId byteBusId

/-- `tick` or `tick_on_stream`. -/
def tickScoped (srv : MockServer σ) (scope : Scope) (byteBusId : ByteBusId) (ctx : TickCtx) :
    Option (SlotIx × Option Octets) × MockServer σ :=
  match scope with
  | none => srv.tick byteBusId ctx
  | some streamId => srv.tickOnStream streamId byteBusId ctx

/-- A call that fails leaves the server as it was. -/
def orElse (srv : MockServer σ) (r : Except MockErrc (MockServer σ)) : MockServer σ :=
  match r with
  | .error _ => srv
  | .ok srv => srv

/-- The server after one call. -/
def step (srv : MockServer σ) : MockOp σ → MockServer σ
  | .call c => (srv.call c).server
  | .dispatchMultiResponse env request outCap => (srv.dispatchMultiResponse env request outCap).2.2
  | .dispatchFrame kind env frame outCap => (dispatchFrameWith kind srv env frame outCap).2
  | .tick scope byteBusId ctx => (srv.tickScoped scope byteBusId ctx).2
  | .drainEndpoint scope byteBusId => (srv.drainEndpoint (srv.lookup scope byteBusId)).2
  | .notifyTrigger sourceEp signalNr => (srv.notifyTrigger sourceEp signalNr).2
  | .notifyGptpLockState locked sourceEp => (srv.notifyGptpLockState locked sourceEp).2
  | .watchdogPurge scope byteBusId => (srv.watchdogPurge (srv.lookup scope byteBusId)).2
  | .broadcastSafeState requestStreamIndex => (srv.broadcastSafeState requestStreamIndex).2
  | .checkWatchdog requestStreamIndex elapsed => (srv.checkWatchdog requestStreamIndex elapsed).2
  | .addEndpoint byteBusId epEnable handler => srv.orElse (srv.addEndpoint byteBusId epEnable handler)
  | .addEndpointOnStream streamId byteBusId epEnable handler =>
    srv.orElse (srv.addEndpointOnStream streamId byteBusId epEnable handler)
  | .addEndpointMultiResponse byteBusId epEnable handler =>
    srv.orElse (srv.addEndpointMultiResponse byteBusId epEnable handler)
  | .removeEndpoint scope byteBusId => (srv.removeEndpoint (srv.lookup scope byteBusId)).2
  | .setEndpointEnable scope byteBusId enable => (srv.setEndpointEnable (srv.lookup scope byteBusId) enable).2
  | .setEndpointReqCrcEnable scope byteBusId enable =>
    (srv.setEndpointReqCrcEnable (srv.lookup scope byteBusId) enable).2
  | .setEndpointRxEnforceE2e scope byteBusId enable =>
    (srv.setEndpointRxEnforceE2e (srv.lookup scope byteBusId) enable).2
  | .stashDeferredResponse scope byteBusId response =>
    (srv.stashDeferredResponse (srv.lookup scope byteBusId) response).2
  | .takeDeferredResponse scope byteBusId => (srv.takeDeferredResponse (srv.lookup scope byteBusId)).2
  | .transition target snap writer allOtherEpsIdle => (srv.transition target snap writer allOtherEpsIdle).2
  | .pwrmodeResume => srv.pwrmodeResume
  | .setRequestStreamCfg entries => (srv.setRequestStreamCfg entries).2
  | .setEpIdMap entries => (srv.setEpIdMap entries).2
  | .setSequencerCount count => srv.setSequencerCount count
  | .setSequencerOwner idx owner => (srv.setSequencerOwner idx owner).2
  | .setTscfUnsupportedTimeSyncPolicy policy => srv.setTscfUnsupportedTimeSyncPolicy policy
  | .setStreamFaultTracker tracker => srv.setStreamFaultTracker tracker

/-- The server after a sequence of calls. -/
def run (srv : MockServer σ) (ops : List (MockOp σ)) : MockServer σ := ops.foldl step srv

end MockServer
end Rcp
