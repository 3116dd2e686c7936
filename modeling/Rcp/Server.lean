import Rcp.Avtp
import Rcp.E2e
import Rcp.Scheduler
import Mathlib.Data.List.FinRange
import Mathlib.Logic.Function.Basic

/-! One endpoint of the server (`server.c`): the pre-load queue of a disabled endpoint, and the
    conditional-request store with its admission, its scheduling and its cancellations.

    Allocation is taken to succeed, so the branches that undo a failed `rcp_bytes_dup` are left out. -/

namespace Rcp

/-- `RCP_SERVER_MAX_PENDING`. -/
abbrev serverMaxPending : Nat := 32

/-- An index into `pending[]`. -/
abbrev SlotIx := Fin serverMaxPending

/-- `rcp_server_pending_t`. The defaults are the all-zero slot of `memset`. -/
structure Pending where
  inUse : Bool := false
  kind : SchedKind := .standard
  requestType : UInt8 := 0
  transactionNum : UInt8 := 0
  sequence : UInt64 := 0
  frame : Octets := []
  compound : CompoundStep := {}
  compoundWaitEvt : UInt8 := 0
  compoundWaitTarget : Octets := []
  triggered : TriggeredStep := {}
  triggeredRuntime : TriggeredRuntime := {}
  presentationTime : UInt64 := 0
  chainExecDelay : UInt16 := 0
  cs : UInt8 := 0
  chainGroup : UInt32 := 0
  chainPosition : UInt8 := 0
  armed : Bool := false
  armedAt : UInt32 := 0
  predecessorDone : Bool := false
  hasPresentationGate : Bool := false
  presentationGateNs : UInt64 := 0
deriving DecidableEq, Repr

/-- The all-zero slot. -/
def Pending.zero : Pending := {}

/-- `rcp_server_endpoint_t`. -/
structure Endpoint where
  epEnable : Bool := false
  queue : List Octets := []
  pending : SlotIx → Pending := fun _ => .zero
  pendingCount : Nat := 0
  nextSequence : UInt64 := 0
  admissionSuspended : Bool := false

/-- `rcp_server_tick_ctx_t`; `sequencers` is `none` for a null pointer. -/
structure TickCtx where
  now : UInt32 := 0
  gptpNow : UInt64 := 0
  gptpLocked : Bool := false
  sequencers : Option SequencerTable := none
  endpointIdle : Bool := false
  inSafeState : Bool := false
  currentStatus : Octets := []

/-- `rcp_server_admit_t`. -/
inductive ServerAdmit where
  | executeNow | queued | pending | cancellation | rejected | suspended
deriving DecidableEq, Repr

/-- The return value of `rcp_server_endpoint_admit_with_ack` and its out parameters. -/
structure AdmitResult where
  outcome : ServerAdmit
  requestType : UInt8 := 0
  index : Option SlotIx := none
  error : WireError := .none
  ack : Option Octets := none
deriving DecidableEq, Repr

/-- `build_store_ack`. -/
def buildStoreAck (frame : Octets) : Option Octets :=
  if frame.length < 8 then none else
  let hdr := Acf.unpackHeader frame
  if !Acf.evtRequestsAcknowledge hdr.evt then none else
  Acf.buildAcknowledgeResponse hdr.byteBusId hdr.transactionNum

/-! ### The execution condition of one stored request -/

/-- `start_condition_holds`: what sets the exec_delay timer running. -/
def startConditionHolds (slot : Pending) (ctx : TickCtx) : Bool :=
  match slot.kind with
  | .compound | .compoundWait =>
    match ctx.sequencers with
    | none => false
    | some table => compoundStartConditionMet table slot.compound
  | .triggered => triggeredThresholdReached slot.triggered slot.triggeredRuntime
  | .timed => true
  | .chained => slot.predecessorDone
  | .standard => true
  | .cancellation => true

/-- `arm_if_startable`: whether the slot is armed afterwards. A chained request keeps the armed_at that
    `chain_predecessor_done` recorded. -/
def armIfStartable (slot : Pending) (ctx : TickCtx) : Bool × Pending :=
  if slot.armed then (true, slot) else
  if !startConditionHolds slot ctx then (false, slot) else
  (true, { slot with armed := true, armedAt := if slot.kind ≠ .chained then ctx.now else slot.armedAt })

/-- `auxiliary_condition_met`: the non-timer half of the condition. -/
def auxiliaryConditionMet (slot : Pending) (ctx : TickCtx) : Bool :=
  match slot.kind with
  | .compoundWait => Acf.compoundWaitMatch slot.compoundWaitEvt slot.compoundWaitTarget ctx.currentStatus
  | .compound => ctx.endpointIdle
  | .triggered | .chained => ctx.endpointIdle
  | .timed => ctx.gptpLocked
  | _ => true

/-- `delay_expired`. -/
def delayExpired (slot : Pending) (ctx : TickCtx) (elapsed : UInt32) : Bool :=
  match slot.kind with
  | .compound | .compoundWait => compoundExecDelayElapsed slot.compound elapsed
  | .triggered => triggeredExecDelayElapsed slot.triggered elapsed
  | .timed => timedDue slot.presentationTime ctx.gptpNow
  | .chained => chainedExecDelayElapsed slot.chainExecDelay elapsed
  | .standard => true
  | .cancellation => true

/-- `kind_is_gated_by_ep_enable`. -/
def kindIsGatedByEpEnable : SchedKind → Bool
  | .compound | .compoundWait | .triggered | .timed | .chained => true
  | _ => false

/-- The envelope-level presentation gate of `is_due`. -/
def presentationGateOpen (slot : Pending) (ctx : TickCtx) : Bool :=
  !slot.hasPresentationGate || (ctx.gptpLocked && timedDue slot.presentationGateNs ctx.gptpNow)

/-- `is_due`: the answer, and the slot with its timer armed if its start condition holds now. -/
def isDue (slot : Pending) (epEnable : Bool) (ctx : TickCtx) : Bool × Pending :=
  if !epEnable && kindIsGatedByEpEnable slot.kind then (false, slot) else
  if !e2eRequestMayExecute slot.requestType ctx.inSafeState then (false, slot) else
  if !presentationGateOpen slot ctx then (false, slot) else
  match armIfStartable slot ctx with
  | (false, slot) => (false, slot)
  | (true, slot) =>
    if !auxiliaryConditionMet slot ctx then (false, slot) else
    (delayExpired slot ctx (ctx.now - slot.armedAt), slot)

/-! ### Decoding a conditional request into its slot -/

/-- The switch on `kind` in `rcp_server_endpoint_admit_with_ack`: the freshly claimed slot with its decoded
    condition, or the error code of the rejection. -/
def decodeCondition (frame : Octets) (slot : Pending) : Except WireError Pending :=
  match slot.kind with
  | .compound =>
    match compoundDecodeRequest frame with
    | .error _ => .error .none
    | .ok r => .ok { slot with compound := r.step, transactionNum := r.transactionNum }
  | .compoundWait =>
    match compoundDecodeRequest frame with
    | .error _ => .error .none
    | .ok r =>
      -- TC18 §13.5.1: evt[2:0] = 011b is reserved for a compound-wait request.
      if !Acf.compoundWaitEvtValid r.evt then .error .unsupportedCmd else
      .ok
        { slot with
          compound := r.step, compoundWaitEvt := r.evt, compoundWaitTarget := r.payload,
          transactionNum := r.transactionNum }
  | .triggered =>
    match triggeredDecodeRequest frame with
    | .error _ => .error .none
    | .ok r =>
      .ok
        { slot with
          triggered := r.step, transactionNum := r.transactionNum,
          triggeredRuntime := triggeredRuntimeEnterStarted slot.triggeredRuntime }
  | .timed =>
    match timedDecodeRequest frame with
    | .error _ => .error .none
    | .ok r => .ok { slot with presentationTime := r.presentationTime, transactionNum := r.transactionNum }
  | .chained =>
    match chainedDecodeMember frame with
    | .error _ => .error .none
    | .ok r =>
      .ok { slot with chainExecDelay := r.chainExecDelay, cs := r.cs, transactionNum := r.transactionNum }
  | .standard | .cancellation => .error .none

/-- Re-arm for the next repetition: the start condition has to be satisfied again from scratch. -/
def Pending.rearm (slot : Pending) (now : UInt32) : Pending :=
  { slot with
    armed := false, armedAt := now,
    triggeredRuntime :=
      if slot.kind = .triggered then triggeredRuntimeEnterStarted slot.triggeredRuntime else slot.triggeredRuntime }

namespace Endpoint

/-- `rcp_server_endpoint_init`. -/
def init (epEnable : Bool) : Endpoint := { epEnable := epEnable }

/-- Overwrite one slot of the store. -/
def setSlot (ep : Endpoint) (i : SlotIx) (slot : Pending) : Endpoint :=
  { ep with pending := Function.update ep.pending i slot }

/-! ### The pre-load queue -/

/-- Whether `rcp_server_endpoint_submit` takes a request to a disabled endpoint for a configuration
    request: evt[2:0] = 111b, except on a compound-wait request, where evt[2:0] is a comparison mode. -/
def isConfigurationRequest (frame : Octets) : Bool :=
  if frame.length < 8 then false else
  let cfgHdr := Acf.unpackHeader frame
  if cfgHdr.evt &&& 0x07 ≠ 0x07 then false else
  if cfgHdr.acfMsgType = Acf.msgTypeAbb then true else
  if cfgHdr.acfMsgType = Acf.msgTypeGbb then
    match Acf.peekGbbRequestType frame with
    | none => false
    | some requestType => !RequestType.isCompoundWait requestType
  else false

/-- `rcp_server_endpoint_submit`: `true` when the caller must execute the request now. -/
def submit (ep : Endpoint) (frame : Octets) : Bool × Option Octets × Endpoint :=
  if ep.epEnable then (true, none, ep) else
  if isConfigurationRequest frame then (true, none, ep) else
  (false, buildStoreAck frame, { ep with queue := ep.queue ++ [frame] })

/-- `rcp_server_endpoint_set_enable`. -/
def setEnable (ep : Endpoint) (enable : Bool) : Endpoint := { ep with epEnable := enable }

/-- `rcp_server_endpoint_set_admission_suspended`. -/
def setAdmissionSuspended (ep : Endpoint) (suspended : Bool) : Endpoint :=
  { ep with admissionSuspended := suspended }

/-- `rcp_server_endpoint_drain_one`. -/
def drainOne (ep : Endpoint) : Option Octets × Endpoint :=
  if !ep.epEnable then (none, ep) else
  match ep.queue with
  | [] => (none, ep)
  | frame :: rest => (some frame, { ep with queue := rest })

/-! ### Claiming and releasing slots -/

/-- The first slot that is not in use. -/
def firstFree (ep : Endpoint) : Option SlotIx := Fin.find? fun i => !(ep.pending i).inUse

/-- The body of the `claim_slot` loop at a free slot: cleared, marked in use and given the next sequence. -/
def claimAt (ep : Endpoint) (i : SlotIx) : Endpoint :=
  { ep with
    pending := Function.update ep.pending i { inUse := true, sequence := ep.nextSequence }
    nextSequence := ep.nextSequence + 1
    pendingCount := ep.pendingCount + 1 }

/-- `claim_slot`; `none` when the store is full. -/
def claimSlot (ep : Endpoint) : Option (SlotIx × Endpoint) :=
  match ep.firstFree with
  | none => none
  | some i => some (i, ep.claimAt i)

/-- `release_slot`. -/
def releaseSlot (ep : Endpoint) (i : SlotIx) : Endpoint :=
  { ep with pending := Function.update ep.pending i .zero, pendingCount := ep.pendingCount - 1 }

/-! ### Admission -/

/-- `admit_under_tscf_gate`. -/
def admitUnderTscfGate (ep : Endpoint) (frame : Octets) (now : UInt32) (presentationGateNs : UInt64)
    (kind : SchedKind) (requestType : UInt8) : AdmitResult × Endpoint :=
  match ep.claimSlot with
  | none => ({ outcome := .rejected }, ep)
  | some (i, ep) =>
    ({ outcome := .pending, index := some i, ack := buildStoreAck frame },
      ep.setSlot i
        { ep.pending i with
          kind := kind, requestType := requestType, hasPresentationGate := true,
          presentationGateNs := presentationGateNs, armedAt := now, frame := frame })

/-- The standard-request branch of `rcp_server_endpoint_admit_with_ack`: postponed under a TSCF header,
    submitted at once otherwise. -/
def admitStandard (ep : Endpoint) (frame : Octets) (now : UInt32) (tv : Bool) (presentationGateNs : UInt64) :
    AdmitResult × Endpoint :=
  if tv then ep.admitUnderTscfGate frame now presentationGateNs .standard 0 else
  match ep.submit frame with
  | (true, ack, ep) => ({ outcome := .executeNow, ack := ack }, ep)
  | (false, ack, ep) => ({ outcome := .queued, ack := ack }, ep)

/-- The conditional-request branch of `rcp_server_endpoint_admit_with_ack`. -/
def admitConditional (ep : Endpoint) (frame : Octets) (now : UInt32) (tv : Bool) (presentationGateNs : UInt64)
    (kind : SchedKind) (requestType : UInt8) : AdmitResult × Endpoint :=
  match ep.claimSlot with
  | none => ({ outcome := .rejected, requestType := requestType, error := .requestStorageOverflow }, ep)
  | some (i, ep) =>
    match decodeCondition frame { ep.pending i with kind := kind, requestType := requestType } with
    | .error error => ({ outcome := .rejected, requestType := requestType, error := error }, ep.releaseSlot i)
    | .ok slot =>
      ({ outcome := .pending, requestType := requestType, index := some i, ack := buildStoreAck frame },
        ep.setSlot i
          { slot with
            hasPresentationGate := tv, presentationGateNs := presentationGateNs, armedAt := now, frame := frame })

/-- `rcp_server_endpoint_admit_with_ack`. -/
def admitWithAck (ep : Endpoint) (frame : Octets) (now : UInt32) (tv : Bool) (avtpTimestamp : UInt32)
    (gptpReferenceNow : UInt64) : AdmitResult × Endpoint :=
  let presentationGateNs := if tv then avtpExtendTimestamp avtpTimestamp gptpReferenceNow else 0
  if ep.admissionSuspended then ({ outcome := .suspended }, ep) else
  if frame.length ≥ 8 ∧ !Acf.headerIsRequest (Acf.unpackHeader frame) then
    ({ outcome := .rejected, error := .invalidParameter }, ep)
  else
    match compoundPeekRequestType frame with
    | .error _ => ep.admitStandard frame now tv presentationGateNs
    | .ok requestType =>
      match schedClassify true requestType with
      | .standard => ep.admitStandard frame now tv presentationGateNs
      | .cancellation =>
        if tv then
          let (r, ep) := ep.admitUnderTscfGate frame now presentationGateNs .cancellation requestType
          ({ r with requestType := requestType }, ep)
        else ({ outcome := .cancellation, requestType := requestType }, ep)
      | kind => ep.admitConditional frame now tv presentationGateNs kind requestType

/-! ### Scheduling -/

/-- One turn of the `rcp_server_endpoint_select_due` loop: the store, with slot `i` armed if it can be,
    and the best due entry so far. -/
def selectDueStep (ctx : TickCtx) (acc : Endpoint × Option (SlotIx × SchedEntry)) (i : SlotIx) :
    Endpoint × Option (SlotIx × SchedEntry) :=
  let (ep, best) := acc
  if !(ep.pending i).inUse then (ep, best) else
  match isDue (ep.pending i) ep.epEnable ctx with
  | (false, slot) => (ep.setSlot i slot, best)
  | (true, slot) =>
    let entry : SchedEntry := { kind := slot.kind, sequence := slot.sequence }
    match best with
    | none => (ep.setSlot i slot, some (i, entry))
    | some (_, bestEntry) =>
      if schedCompare entry bestEntry < 0 then (ep.setSlot i slot, some (i, entry)) else (ep.setSlot i slot, best)

/-- `rcp_server_endpoint_select_due`: the selected index, `none` when nothing is due. -/
def selectDue (ep : Endpoint) (ctx : TickCtx) : Option SlotIx × Endpoint :=
  let (ep, best) := (List.finRange serverMaxPending).foldl (selectDueStep ctx) (ep, none)
  (best.map (·.1), ep)

/-- The tail of `rcp_server_endpoint_complete` for the kinds with a repeat_count: the last repetition
    releases the slot, any other re-arms it (`setRepeat` writes the decremented count back). -/
def completeRepeat (ep : Endpoint) (i : SlotIx) (slot : Pending) (now : UInt32) (repeatCount : UInt16)
    (setRepeat : UInt16 → Pending → Pending) : Bool × Endpoint :=
  if repeatCount = repeatInfinite then (true, ep.setSlot i (slot.rearm now)) else
  if repeatCount = 0 then (false, ep.releaseSlot i) else
  (true, ep.setSlot i ((setRepeat (repeatCount - 1) slot).rearm now))

/-- `rcp_server_endpoint_complete`: whether the request stays, the store, and the sequencer table behind
    `ctx->sequencers`. -/
def complete (ep : Endpoint) (index : Nat) (ctx : TickCtx) : Bool × Endpoint × Option SequencerTable :=
  if h : index < serverMaxPending then
    let i : SlotIx := ⟨index, h⟩
    let slot := ep.pending i
    if !slot.inUse then (false, ep, ctx.sequencers) else
    let elapsed := ctx.now - slot.armedAt
    match slot.kind with
    | .compound =>
      let sequencers := ctx.sequencers.map fun table => (compoundTick table slot.compound elapsed).2
      let (stays, ep) := ep.completeRepeat i slot ctx.now slot.compound.repeatCount
        fun n slot => { slot with compound := { slot.compound with repeatCount := n } }
      (stays, ep, sequencers)
    | .compoundWait =>
      let sequencers := ctx.sequencers.map fun table =>
        (compoundWaitTick table slot.compound
          (Acf.compoundWaitMatch slot.compoundWaitEvt slot.compoundWaitTarget ctx.currentStatus)).2
      let (stays, ep) := ep.completeRepeat i slot ctx.now slot.compound.repeatCount
        fun n slot => { slot with compound := { slot.compound with repeatCount := n } }
      (stays, ep, sequencers)
    | .triggered =>
      let slot := { slot with triggeredRuntime := (triggeredTick slot.triggered slot.triggeredRuntime elapsed true).2 }
      let (stays, ep) := ep.completeRepeat i slot ctx.now slot.triggered.repeatCount
        fun n slot => { slot with triggered := { slot.triggered with repeatCount := n } }
      (stays, ep, ctx.sequencers)
    | _ => (false, ep.releaseSlot i, ctx.sequencers)
  else (false, ep, ctx.sequencers)

/-- One turn of the `rcp_server_endpoint_notify_trigger` loop. -/
def notifyTriggerStep (sourceEp signalNr : UInt8) (acc : Nat × Endpoint) (i : SlotIx) : Nat × Endpoint :=
  let (matched, ep) := acc
  let slot := ep.pending i
  if !slot.inUse then acc else
  if slot.kind ≠ .triggered then acc else
  match triggeredRuntimeRecordOccurrence slot.triggeredRuntime slot.triggered sourceEp signalNr with
  | (true, rt) => (matched + 1, ep.setSlot i { slot with triggeredRuntime := rt })
  | (false, rt) => (matched, ep.setSlot i { slot with triggeredRuntime := rt })

/-- `rcp_server_endpoint_notify_trigger`. -/
def notifyTrigger (ep : Endpoint) (sourceEp signalNr : UInt8) : Nat × Endpoint :=
  (List.finRange serverMaxPending).foldl (notifyTriggerStep sourceEp signalNr) (0, ep)

/-- `rcp_server_endpoint_chain_predecessor_done`. -/
def chainPredecessorDone (ep : Endpoint) (index : Nat) (now : UInt32) : Bool × Endpoint :=
  if h : index < serverMaxPending then
    let i : SlotIx := ⟨index, h⟩
    let slot := ep.pending i
    if !slot.inUse || slot.kind != .chained then (false, ep) else
    (true, ep.setSlot i { slot with predecessorDone := true, armedAt := now })
  else (false, ep)

/-! ### Cancellation and the watchdog purge -/

/-- One turn of the loop every purge shares: release slot `i` if it is in use and satisfies `drop`. -/
def releaseWhereStep (drop : Pending → Bool) (acc : Nat × Endpoint) (i : SlotIx) : Nat × Endpoint :=
  let (removed, ep) := acc
  if (ep.pending i).inUse && drop (ep.pending i) then (removed + 1, ep.releaseSlot i) else (removed, ep)

/-- The loop every purge shares, with the number of slots it released. -/
def releaseWhere (drop : Pending → Bool) (ep : Endpoint) : Nat × Endpoint :=
  (List.finRange serverMaxPending).foldl (releaseWhereStep drop) (0, ep)

/-- `rcp_server_endpoint_cancel_all`. -/
def cancelAll (ep : Endpoint) : Nat × Endpoint := ep.releaseWhere fun _ => true

/-- The search of `rcp_server_endpoint_cancel_single`: the first in-use slot with this transaction number. -/
def findTransaction (ep : Endpoint) (transactionNum : UInt8) : Option SlotIx :=
  Fin.find? fun i => (ep.pending i).inUse && (ep.pending i).transactionNum == transactionNum

/-- `rcp_server_endpoint_cancel_single`. -/
def cancelSingle (ep : Endpoint) (clearTransactionNum : UInt8) (state : CancelLifecycle) :
    CancelResult × Endpoint :=
  let found := ep.findTransaction clearTransactionNum
  let result := cancelAttempt found.isSome state
  match result, found with
  | .canceled, some i => (result, ep.releaseSlot i)
  | _, _ => (result, ep)

/-- `purge_non_safety`. -/
def purgeNonSafety (ep : Endpoint) : Nat × Endpoint :=
  ep.releaseWhere fun slot => !e2eWatchdogPurgeShouldKeep slot.requestType

/-- `rcp_server_endpoint_cancel_non_safestate`. -/
def cancelNonSafestate (ep : Endpoint) : Nat × Endpoint := ep.purgeNonSafety

/-- `rcp_server_endpoint_watchdog_purge`. -/
def watchdogPurge (ep : Endpoint) : Nat × Endpoint := ep.purgeNonSafety

/-- `rcp_server_endpoint_cancel_chain_from`. Group 0 means "not part of a chain" and matches nothing. -/
def cancelChainFrom (ep : Endpoint) (chainGroup : UInt32) (minPosition : UInt8) : Nat × Endpoint :=
  if chainGroup = 0 then (0, ep) else
  ep.releaseWhere fun slot =>
    slot.chainGroup == chainGroup && cancelChainShouldCascade slot.chainPosition minPosition

end Endpoint
end Rcp
