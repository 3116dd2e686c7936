import Rcp.Acf
import Rcp.Avtp

/-! The server's lifecycle (`lifecycle.c`): the configuration state with its plausibility checks and
    transitions, and the gate every received frame passes first. -/

namespace Rcp

/-- `rcp_lifecycle_state_t`. -/
inductive LifecycleState where
  | hwUnconfigured | hwConfigured | rcpConfigured
deriving DecidableEq, Repr

/-- `rcp_lifecycle_errc_t` without its success value. -/
inductive LifecycleErrc where
  | hwCfgInconsistent | rcpCfgInconsistent | invalidTransition | unauthorized | epsNotIdle
deriving DecidableEq, Repr

structure EndpointPlausibility where
  epUsed : Bool := false
  hwPinMapped : Bool := false
  hasRequestStream : Bool := false
  hasStreamAssoc : Bool := false
  requestStreamIndex : Nat := 0
deriving DecidableEq, Repr

structure RequestStreamPlausibility where
  configured : Bool := false
  hasResponseStream : Bool := false
  responseStreamIndex : Nat := 0
deriving DecidableEq, Repr

/-- `rcp_lifecycle_plausibility_snapshot_t`. -/
structure PlausibilitySnapshot where
  endpoints : List EndpointPlausibility := []
  requestStreams : List RequestStreamPlausibility := []
  responseStreamCount : Nat := 0
deriving DecidableEq, Repr

/-- `rcp_lifecycle_writer_ctx_t`, with the fields the transition reads. -/
structure WriterCtx where
  viaRootClientEp0 : Bool := false
  viaDiscoveryStream : Bool := false
  viaValidStreamAssociation : Bool := false
deriving DecidableEq, Repr

/-- `rcp_lifecycle_accept_t`. -/
inductive LifecycleAccept where
  | accept | drop | reject
deriving DecidableEq, Repr

/-! ### Plausibility and transitions -/

/-- `rcp_lifecycle_check_hw_cfg`; `snap` is `none` for a null pointer. -/
def lifecycleCheckHwCfg (snap : Option PlausibilitySnapshot) : Except LifecycleErrc Unit :=
  match snap with
  | none => .error .hwCfgInconsistent
  | some snap =>
    if snap.endpoints.all fun ep => !ep.epUsed || (ep.hwPinMapped && ep.hasRequestStream) then .ok ()
    else .error .hwCfgInconsistent

/-- `request_streams_consistent`. -/
def requestStreamsConsistent (snap : PlausibilitySnapshot) : Bool :=
  snap.requestStreams.zipIdx.all fun (rs, i) =>
    !rs.configured ||
      (rs.hasResponseStream && decide (rs.responseStreamIndex < snap.responseStreamCount) &&
        snap.endpoints.any fun ep => ep.epUsed && ep.hasStreamAssoc && ep.requestStreamIndex == i)

/-- `rcp_lifecycle_check_rcp_cfg`. -/
def lifecycleCheckRcpCfg (snap : Option PlausibilitySnapshot) : Except LifecycleErrc Unit :=
  match snap with
  | none => .error .rcpCfgInconsistent
  | some snap =>
    if (snap.endpoints.all fun ep => !ep.epUsed || ep.hasStreamAssoc) && requestStreamsConsistent snap then .ok ()
    else .error .rcpCfgInconsistent

/-- `rcp_lifecycle_transition`: the new state, or the error that leaves the state alone. -/
def lifecycleTransition (state target : LifecycleState) (snap : Option PlausibilitySnapshot) (writer : WriterCtx)
    (allOtherEpsIdle : Bool) : Except LifecycleErrc LifecycleState :=
  let authorized := writer.viaDiscoveryStream || writer.viaRootClientEp0 || writer.viaValidStreamAssociation
  if target = state then .ok state else
  match state, target with
  | .hwUnconfigured, .hwConfigured => (lifecycleCheckHwCfg snap).map fun _ => target
  | .hwConfigured, .rcpConfigured =>
    if !authorized then .error .unauthorized else (lifecycleCheckRcpCfg snap).map fun _ => target
  | .rcpConfigured, .hwConfigured =>
    if !writer.viaRootClientEp0 && !writer.viaValidStreamAssociation then .error .unauthorized else
    if !allOtherEpsIdle then .error .epsNotIdle else .ok target
  | .hwConfigured, .hwUnconfigured =>
    if !authorized then .error .unauthorized else
    if !allOtherEpsIdle then .error .epsNotIdle else .ok target
  | .rcpConfigured, .hwUnconfigured =>
    if !writer.viaRootClientEp0 then .error .unauthorized else
    if !allOtherEpsIdle then .error .epsNotIdle else .ok target
  | _, _ => .error .invalidTransition

/-! ### The admission gate -/

/-- `RCP_LIFECYCLE_DISCOVERY_BYTE_BUS_ID`. -/
def discoveryByteBusId : ByteBusId := 0

/-- `rcp_lifecycle_should_accept`. -/
def lifecycleShouldAccept (state : LifecycleState) (timeSyncSupported : Bool) (avtpSubtype acfMsgType : UInt8)
    (byteBusId : ByteBusId) (policy : TscfFallback) : LifecycleAccept :=
  if avtpShouldDropTscf timeSyncSupported avtpSubtype policy then .drop else
  match state with
  | .hwUnconfigured =>
    if avtpSubtype = avtpSubtypeTscf then .drop else
    if avtpSubtype ≠ avtpSubtypeNtscf ∨ byteBusId ≠ discoveryByteBusId then .drop else
    if acfMsgType = Acf.msgTypeAbb then .accept else .reject
  | .hwConfigured =>
    if avtpSubtype = avtpSubtypeTscf then .drop else
    if byteBusId ≠ discoveryByteBusId then .drop else
    if acfMsgType = Acf.msgTypeAbb then .accept else .reject
  | .rcpConfigured => .accept

end Rcp
