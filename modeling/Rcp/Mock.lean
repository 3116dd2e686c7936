import Rcp.E2e
import Rcp.Fragment
import Rcp.Lifecycle
import Rcp.Regmap
import Rcp.Server

/-! The server (`mock.c`): its endpoint table, its configuration, and what does not depend on a received
    frame. A definition has the name of the C function without `rcp_mock_server_`.

    Endpoint handlers are the application's. `world` is the memory their `user_data` pointers lead to, so
    two endpoints may share state. The watchdog keeper is only ever kicked and is left out. The register
    sections no dispatch reads are in `Rcp.MockRegmap`. -/

namespace Rcp

/-- `RCP_MOCK_MAX_ENDPOINTS`. -/
abbrev mockMaxEndpoints : Nat := 64

/-- An index into `endpoints[]`. -/
abbrev EndpointIx := Fin mockMaxEndpoints

/-- `rcp_mock_endpoint_handler_fn`: the response, `none` when its data stays null. -/
abbrev Handler (σ : Type) := Octets → σ → Option Octets × σ

/-- `rcp_mock_endpoint_multi_response_handler_fn`; the number is `out_cap`. -/
abbrev MultiHandler (σ : Type) := Octets → Nat → σ → List Octets × σ

/-- `rcp_mock_endpoint_slot_t`. -/
structure MockEndpoint (σ : Type) where
  inUse : Bool := false
  byteBusId : ByteBusId := 0
  streamScoped : Bool := false
  streamId : UInt64 := 0
  queue : Endpoint := {}
  handler : Option (Handler σ) := none
  multiHandler : Option (MultiHandler σ) := none
  deferredResponse : Option Octets := none
  reqCrcEnable : Bool := false
  rxEnforceE2e : Bool := false

/-- `rcp_server_gptp_trigger_state_t`. -/
structure GptpTriggerState where
  hasPrevious : Bool := false
  previousLocked : Bool := false
deriving DecidableEq, Repr

/-- `rcp_mock_server_t`. -/
structure MockServer (σ : Type) where
  world : σ
  state : LifecycleState := .hwUnconfigured
  endpoints : EndpointIx → MockEndpoint σ := fun _ => {}
  endpointCount : Nat := 0
  requestStreamCfg : RequestStreamTable := {}
  seqTracker : StreamIx → SeqTracker := fun _ => {}
  streamStatus : StreamIx → StreamStatus := fun _ => {}
  fragReasm : StreamIx → Reassembler := fun _ => .init 65536
  fragFirstHeader : StreamIx → Octets := fun _ => []
  gptpTriggerState : GptpTriggerState := {}
  epIdMap : List EpIdMapEntry := [{}]
  sequencers : SequencerTable := {}
  streamFaultTracker : Option StreamFaultTracker := none
  tscfUnsupportedTimeSyncPolicy : TscfFallback := .drop

/-- `rcp_mock_errc_t` without its success value. -/
inductive MockErrc where
  | duplicateBusId | capacity | notFound
deriving DecidableEq, Repr

/-- The signal numbers of `RCP_SERVER_GPTP_TRIGGER_*`. -/
def gptpTriggerEstablished : UInt8 := 0
def gptpTriggerLost : UInt8 := 1

/-- `rcp_server_gptp_trigger_evaluate`: the signal of an edge, if there is one. -/
def gptpTriggerEvaluate (s : GptpTriggerState) (locked : Bool) : Option UInt8 × GptpTriggerState :=
  (if s.hasPrevious && locked != s.previousLocked then
      some (if locked then gptpTriggerEstablished else gptpTriggerLost) else none,
    { hasPrevious := true, previousLocked := locked })

namespace MockServer

variable {σ : Type}

/-- `rcp_mock_server_new`. -/
def new (world : σ) : MockServer σ := { world := world }

/-! ### The endpoint table -/

def findSlot (srv : MockServer σ) (byteBusId : ByteBusId) : Option EndpointIx :=
  Fin.find? fun e => (srv.endpoints e).inUse && (srv.endpoints e).byteBusId == byteBusId

def findSlotOnStream (srv : MockServer σ) (streamId : UInt64) (byteBusId : ByteBusId) : Option EndpointIx :=
  Fin.find? fun e =>
    (srv.endpoints e).inUse && (srv.endpoints e).byteBusId == byteBusId &&
      (!(srv.endpoints e).streamScoped || (srv.endpoints e).streamId == streamId)

def setEndpoint (srv : MockServer σ) (e : EndpointIx) (slot : MockEndpoint σ) : MockServer σ :=
  { srv with endpoints := Function.update srv.endpoints e slot }

def setQueue (srv : MockServer σ) (e : EndpointIx) (queue : Endpoint) : MockServer σ :=
  srv.setEndpoint e { srv.endpoints e with queue := queue }

/-- The part `add_endpoint` and `add_endpoint_on_stream` share: `slot` goes to the first free place. -/
def addSlot (srv : MockServer σ) (slot : MockEndpoint σ) : Except MockErrc (MockServer σ) :=
  if srv.endpointCount ≥ mockMaxEndpoints then .error .capacity else
  match Fin.find? fun e => !(srv.endpoints e).inUse with
  | none => .error .capacity
  | some e => .ok { srv.setEndpoint e slot with endpointCount := srv.endpointCount + 1 }

def addEndpoint (srv : MockServer σ) (byteBusId : ByteBusId) (epEnable : Bool) (handler : Option (Handler σ)) :
    Except MockErrc (MockServer σ) :=
  if (srv.findSlot byteBusId).isSome then .error .duplicateBusId else
  srv.addSlot { inUse := true, byteBusId := byteBusId, queue := .init epEnable, handler := handler }

def addEndpointOnStream (srv : MockServer σ) (streamId : UInt64) (byteBusId : ByteBusId) (epEnable : Bool)
    (handler : Option (Handler σ)) : Except MockErrc (MockServer σ) :=
  if (srv.findSlotOnStream streamId byteBusId).isSome then .error .duplicateBusId else
  srv.addSlot
    { inUse := true, byteBusId := byteBusId, streamScoped := true, streamId := streamId, queue := .init epEnable,
      handler := handler }

def addEndpointMultiResponse (srv : MockServer σ) (byteBusId : ByteBusId) (epEnable : Bool)
    (handler : MultiHandler σ) : Except MockErrc (MockServer σ) :=
  match srv.addEndpoint byteBusId epEnable none with
  | .error e => .error e
  | .ok srv =>
    match srv.findSlot byteBusId with
    | none => .error .capacity
    | some e => .ok (srv.setEndpoint e { srv.endpoints e with multiHandler := some handler })

/-- The part both removals share: the slot is zeroed with its queue and its deferred response. -/
def removeSlot (srv : MockServer σ) (e : EndpointIx) : MockServer σ :=
  { srv.setEndpoint e {} with endpointCount := srv.endpointCount - 1 }

/-- Apply `f` to the endpoint a lookup found; the answer says whether there was one. Each setter of
    `mock.c` has this shape, once with `find_slot` and once with `find_slot_on_stream`. -/
def onSlot (srv : MockServer σ) (found : Option EndpointIx) (f : MockEndpoint σ → MockEndpoint σ) :
    Bool × MockServer σ :=
  match found with
  | none => (false, srv)
  | some e => (true, srv.setEndpoint e (f (srv.endpoints e)))

def setEndpointEnable (srv : MockServer σ) (found : Option EndpointIx) (enable : Bool) : Bool × MockServer σ :=
  srv.onSlot found fun slot => { slot with queue := slot.queue.setEnable enable }

def setEndpointReqCrcEnable (srv : MockServer σ) (found : Option EndpointIx) (enable : Bool) : Bool × MockServer σ :=
  srv.onSlot found fun slot => { slot with reqCrcEnable := enable }

def setEndpointRxEnforceE2e (srv : MockServer σ) (found : Option EndpointIx) (enable : Bool) : Bool × MockServer σ :=
  srv.onSlot found fun slot => { slot with rxEnforceE2e := enable }

def stashDeferredResponse (srv : MockServer σ) (found : Option EndpointIx) (response : Option Octets) :
    Bool × MockServer σ :=
  srv.onSlot found fun slot => { slot with deferredResponse := response }

def removeEndpoint (srv : MockServer σ) (found : Option EndpointIx) : Bool × MockServer σ :=
  match found with
  | none => (false, srv)
  | some e => (true, srv.removeSlot e)

def takeDeferredResponse (srv : MockServer σ) (found : Option EndpointIx) : Option Octets × MockServer σ :=
  match found with
  | none => (none, srv)
  | some e =>
    ((srv.endpoints e).deferredResponse, srv.setEndpoint e { srv.endpoints e with deferredResponse := none })

/-! ### Configuration -/

def transition (srv : MockServer σ) (target : LifecycleState) (snap : Option PlausibilitySnapshot)
    (writer : WriterCtx) (allOtherEpsIdle : Bool) : Except LifecycleErrc Unit × MockServer σ :=
  match lifecycleTransition srv.state target snap writer allOtherEpsIdle with
  | .error e => (.error e, srv)
  | .ok state => (.ok (), { srv with state := state })

/-- `pwrmode_resume`, once `rcp_pwrmode_handshake_resume_queues` has answered true. -/
def pwrmodeResume (srv : MockServer σ) : MockServer σ :=
  { srv with
    endpoints := fun e =>
      let slot := srv.endpoints e
      if slot.inUse then { slot with queue := slot.queue.setEnable true } else slot }

def setRequestStreamCfg (srv : MockServer σ) (entries : List RequestStreamCfg) : Bool × MockServer σ :=
  let (ok, table) := srv.requestStreamCfg.set entries
  (ok, { srv with requestStreamCfg := table })

def setEpIdMap (srv : MockServer σ) (entries : List EpIdMapEntry) : Bool × MockServer σ :=
  if entries.length > epIdMapMaxEntries then (false, srv) else (true, { srv with epIdMap := entries })

/-- `set_sequencer_count`: always a new table, with every sequencer unclaimed. -/
def setSequencerCount (srv : MockServer σ) (count : UInt16) : MockServer σ :=
  { srv with sequencers := .new count }

/-- `rcp_sequencer_set_owner` through the pointer `rcp_mock_server_sequencers` hands out. -/
def setSequencerOwner (srv : MockServer σ) (idx : Nat) (owner : UInt8) : Bool × MockServer σ :=
  let (ok, table) := srv.sequencers.setOwner idx owner
  (ok, { srv with sequencers := table })

def setTscfUnsupportedTimeSyncPolicy (srv : MockServer σ) (policy : TscfFallback) : MockServer σ :=
  { srv with tscfUnsupportedTimeSyncPolicy := policy }

def setStreamFaultTracker (srv : MockServer σ) (tracker : Option StreamFaultTracker) : MockServer σ :=
  { srv with streamFaultTracker := tracker }

/-! ### Triggers, the watchdog and the safe state -/

/-- `notify_trigger`, which reports one occurrence to every registered endpoint. -/
def notifyTrigger (srv : MockServer σ) (sourceEp signalNr : UInt8) : Nat × MockServer σ :=
  ((List.finRange mockMaxEndpoints).foldl
      (fun matched e =>
        if (srv.endpoints e).inUse then matched + ((srv.endpoints e).queue.notifyTrigger sourceEp signalNr).1
        else matched) 0,
    { srv with
      endpoints := fun e =>
        let slot := srv.endpoints e
        if slot.inUse then { slot with queue := (slot.queue.notifyTrigger sourceEp signalNr).2 } else slot })

def notifyGptpLockState (srv : MockServer σ) (locked : Bool) (sourceEp : UInt8) : Nat × MockServer σ :=
  let (edge, s) := gptpTriggerEvaluate srv.gptpTriggerState locked
  let srv := { srv with gptpTriggerState := s }
  match edge with
  | none => (0, srv)
  | some signalNr => srv.notifyTrigger sourceEp signalNr

/-- `watchdog_purge` of one endpoint's store. -/
def watchdogPurge (srv : MockServer σ) (found : Option EndpointIx) : Nat × MockServer σ :=
  match found with
  | none => (0, srv)
  | some e =>
    let (purged, queue) := (srv.endpoints e).queue.watchdogPurge
    (purged, srv.setQueue e queue)

/-- The lookup of one turn of the `broadcast_safe_state` loop. An index beyond the configured rows has no
    stream id, and the scope-blind `find_slot` takes over. -/
def safeStateSlot (srv : MockServer σ) (requestStreamIndex : UInt8) (byteBusId : ByteBusId) : Option EndpointIx :=
  if h : requestStreamIndex.toNat - 1 < requestStreamCfgMaxEntries then
    if requestStreamIndex.toNat ≤ srv.requestStreamCfg.count.val then
      srv.findSlotOnStream (srv.requestStreamCfg.rows ⟨requestStreamIndex.toNat - 1, h⟩).rxStreamId byteBusId
    else srv.findSlot byteBusId
  else srv.findSlot byteBusId

/-- `broadcast_safe_state`. -/
def broadcastSafeState (srv : MockServer σ) (requestStreamIndex : UInt8) : Nat × MockServer σ :=
  if requestStreamIndex = 0 then (0, srv) else
  ((epIdMapByteBusIdsForStream srv.epIdMap requestStreamIndex).take mockMaxEndpoints).foldl
    (fun acc byteBusId =>
      let (purged, srv) := acc
      let (n, srv) := srv.watchdogPurge (srv.safeStateSlot requestStreamIndex byteBusId)
      (purged + n, srv))
    (0, srv)

/-- `check_watchdog`; `none` for an index that names no configured row. -/
def checkWatchdog (srv : MockServer σ) (requestStreamIndex : UInt8) (elapsedSinceLastKickMs : UInt64) :
    Option WdResult × MockServer σ :=
  if h : requestStreamIndex.toNat - 1 < requestStreamCfgMaxEntries then
    if requestStreamIndex = 0 ∨ requestStreamIndex.toNat > srv.requestStreamCfg.count.val then (none, srv) else
    let row : StreamIx := ⟨requestStreamIndex.toNat - 1, h⟩
    let cfg := srv.requestStreamCfg.rows row
    let result := e2eWdEvaluate cfg.rxWdEnable cfg.rxWdTimeoutMs cfg.rxWdSafestateEnable cfg.rxWdInfoEnable
      elapsedSinceLastKickMs
    let srv :=
      { srv with streamStatus := Function.update srv.streamStatus row ((srv.streamStatus row).noteWd result) }
    (some result, if result.enterSafeState then (srv.broadcastSafeState requestStreamIndex).2 else srv)
  else (none, srv)

/-! ### Executing requests -/

/-- `run_handler`. -/
def runHandler (srv : MockServer σ) (e : EndpointIx) (request : Octets) : Option Octets × MockServer σ :=
  match (srv.endpoints e).handler with
  | none => (none, srv)
  | some handler =>
    let (response, world) := handler request srv.world
    (response, { srv with world := world })

/-- The clear-single case of `apply_cancellation` once the request has decoded: the chain coordinates of
    the target are read before `cancel_single` wipes its slot. -/
def applyClearSingle (queue : Endpoint) (byteBusId : ByteBusId) (targetTn tn : UInt8) : Option Octets × Endpoint :=
  let target : Pending := ((queue.findTransaction targetTn).map queue.pending).getD .zero
  match queue.cancelSingle targetTn .queued with
  | (.notFound, queue) => (Acf.buildErrorResponse byteBusId tn .requestNotFound, queue)
  | (.canceled, queue) => (none, (queue.cancelChainFrom target.chainGroup target.chainPosition).2)
  | (.notCancellable, queue) => (none, queue)

/-- `apply_cancellation`. -/
def applyCancellation (queue : Endpoint) (requestType : UInt8) (request : Octets) (byteBusId : ByteBusId) :
    Option Octets × Endpoint :=
  if requestType = RequestType.clearAll then (none, queue.cancelAll.2) else
  if requestType = RequestType.clearNonSafestate then (none, queue.cancelNonSafestate.2) else
  if requestType = RequestType.clearSingle then
    match cancelDecodeClearSingle request with
    | .error _ => (none, queue)
    | .ok (_, targetTn, tn) => applyClearSingle queue byteBusId targetTn tn
  else (none, queue)

/-- The body of `tick` after the lookup. The answer is the slot that was executed and its response. -/
def tickSlot (srv : MockServer σ) (e : EndpointIx) (byteBusId : ByteBusId) (ctx : TickCtx) :
    Option (SlotIx × Option Octets) × MockServer σ :=
  -- The sequencer table is the server's, never the caller's.
  let ctx := { ctx with sequencers := some srv.sequencers }
  match (srv.endpoints e).queue.selectDue ctx with
  | (none, queue) => (none, srv.setQueue e queue)
  | (some index, queue) =>
    let slot := queue.pending index
    let srv := srv.setQueue e queue
    let (response, srv) :=
      if slot.kind = .cancellation then
        let (response, queue) := applyCancellation queue slot.requestType slot.frame byteBusId
        (response, srv.setQueue e queue)
      else srv.runHandler e slot.frame
    let (_, queue, sequencers) := (srv.endpoints e).queue.complete index ctx
    (some (index, response), { srv.setQueue e queue with sequencers := sequencers.getD srv.sequencers })

def tick (srv : MockServer σ) (byteBusId : ByteBusId) (ctx : TickCtx) :
    Option (SlotIx × Option Octets) × MockServer σ :=
  match srv.findSlot byteBusId with
  | none => (none, srv)
  | some e => srv.tickSlot e byteBusId ctx

def tickOnStream (srv : MockServer σ) (streamId : UInt64) (byteBusId : ByteBusId) (ctx : TickCtx) :
    Option (SlotIx × Option Octets) × MockServer σ :=
  match srv.findSlotOnStream streamId byteBusId with
  | none => (none, srv)
  | some e => srv.tickSlot e byteBusId ctx

/-- `drain_endpoint`: `none` when nothing was drained. -/
def drainEndpoint (srv : MockServer σ) (found : Option EndpointIx) : Option (Option Octets) × MockServer σ :=
  match found with
  | none => (none, srv)
  | some e =>
    match (srv.endpoints e).queue.drainOne with
    | (none, queue) => (none, srv.setQueue e queue)
    | (some frame, queue) =>
      let (response, srv) := (srv.setQueue e queue).runHandler e frame
      (some response, srv)

end MockServer
end Rcp
