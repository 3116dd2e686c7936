import Rcp.Sequencer

/-! The request kinds that repurpose the message_timestamp region of an untimed ACF_GBB message
    (`request.c`): compound and compound-wait, triggered, chained, timed, and the cancellations. -/

namespace Rcp

namespace RequestType

def chained : UInt8 := 0x01
def clearAll : UInt8 := 0x05
def clearNonSafestate : UInt8 := 0x06
def clearSingle : UInt8 := 0x07
def timed : UInt8 := 0x0A
def compoundWait : UInt8 := 0x0B
def compoundWaitSafety : UInt8 := 0x8B
def triggered : UInt8 := 0x0E
def triggeredSafety : UInt8 := 0x8E
def compound : UInt8 := 0x0F
def compoundSafety : UInt8 := 0x8F

/-- `rcp_request_type_is_safety`: the most significant bit. -/
def isSafety (requestType : UInt8) : Bool := requestType &&& 0x80 != 0

def isCompound (requestType : UInt8) : Bool := requestType == compound || requestType == compoundSafety

def isCompoundWait (requestType : UInt8) : Bool :=
  requestType == compoundWait || requestType == compoundWaitSafety

def isTriggered (requestType : UInt8) : Bool := requestType == triggered || requestType == triggeredSafety

end RequestType

/-- The error values of `rcp_compound_errc_t`, `rcp_triggered_errc_t`, `rcp_chained_errc_t`,
    `rcp_timed_errc_t` and `rcp_cancel_errc_t`; each decoder returns those its own enumeration has. -/
inductive RequestErrc where
  | shortFrame | badMsgType | notRepurposed | unknownType | reservedNonzero | evtHsCsNonzero | unsupportedCmd
deriving DecidableEq, Repr

/-- How every decoder maps a failed `rcp_acf_decode_gbb`. -/
def RequestErrc.ofAcf : Acf.Errc → RequestErrc
  | .shortFrame => .shortFrame
  | .badMsgType => .badMsgType

/-- The common head of every decoder: an ACF_GBB message whose timestamp region is repurposed. -/
def decodeRepurposed (b : Octets) : Except RequestErrc (Acf.GbbHeader × Octets) :=
  match Acf.decodeGbb b with
  | .error e => .error (.ofAcf e)
  | .ok (hdr, payload) => if hdr.info.mtv ≠ Acf.mtvUntimed then .error .notRepurposed else .ok (hdr, payload)

/-- The opcode octet of a repurposed timestamp region. -/
def opcodeOf (ts : UInt64) : UInt8 := ((ts >>> 56) &&& 0xFF).toUInt8

/-- The raw-header ACF_GBB builder the request encoders share (`encode_gbb_repurposed` and its inline
    copies): mtv = 0 with the timestamp region set to `ts`, op, ms, hs, rsp and err all zero. -/
def encodeGbbRepurposed (byteBusId : ByteBusId) (cs evt transactionNum : UInt8) (ts : UInt64)
    (payload : Octets) : Option Octets :=
  if payload.length > Acf.gbbMaxPayload then none else
  let unpadded := Acf.gbbHeaderLen + payload.length
  let pad := Acf.padLen unpadded
  let quadlets := UInt16.ofNat ((unpadded + pad) / 4)
  some (Acf.packHeader Acf.msgTypeGbb quadlets
      { byteBusId := byteBusId, cs := cs, evt := evt, transactionNum := transactionNum, pad := UInt8.ofNat pad } ++
    putU64 ts ++ payload ++ List.replicate pad 0)

/-! ### Compound and compound-wait -/

/-- `rcp_compound_peek_request_type`. -/
def compoundPeekRequestType (b : Octets) : Except RequestErrc UInt8 :=
  if b.length < Acf.gbbHeaderLen then .error .shortFrame else
  if b.at 0 >>> 1 ≠ Acf.msgTypeGbb then .error .badMsgType else
  if (b.at 2 >>> 5) &&& 0x1 ≠ Acf.mtvUntimed then .error .notRepurposed else
  .ok (b.at Acf.abbHeaderLen)

/-- `rcp_compound_step_t`. -/
structure CompoundStep where
  startState : UInt8 := 0
  nextState : UInt8 := 0
  sequencerIndex : UInt8 := 0
  execDelay : UInt16 := 0
  repeatCount : UInt16 := 0
deriving DecidableEq, Repr

/-- `RCP_COMPOUND_REPEAT_INFINITE`. -/
def repeatInfinite : UInt16 := 0xFFFF

def compoundPackTs (requestType : UInt8) (step : CompoundStep) : UInt64 :=
  (requestType.toUInt64 <<< 56) ||| (step.startState.toUInt64 <<< 48) ||| (step.nextState.toUInt64 <<< 40) |||
  (step.sequencerIndex.toUInt64 <<< 32) ||| (step.execDelay.toUInt64 <<< 16) ||| step.repeatCount.toUInt64

def compoundUnpackTs (ts : UInt64) : CompoundStep where
  startState := ((ts >>> 48) &&& 0xFF).toUInt8
  nextState := ((ts >>> 40) &&& 0xFF).toUInt8
  sequencerIndex := ((ts >>> 32) &&& 0xFF).toUInt8
  execDelay := ((ts >>> 16) &&& 0xFFFF).toUInt16
  repeatCount := (ts &&& 0xFFFF).toUInt16

/-- What `rcp_compound_decode_request` writes through its out parameters. -/
structure CompoundRequest where
  requestType : UInt8
  byteBusId : ByteBusId
  step : CompoundStep
  evt : UInt8
  payload : Octets
  transactionNum : UInt8

/-- `rcp_compound_encode_request`. -/
def compoundEncodeRequest (requestType : UInt8) (byteBusId : ByteBusId) (step : CompoundStep)
    (evt transactionNum : UInt8) (payload : Octets) : Option Octets :=
  if !RequestType.isCompound requestType && !RequestType.isCompoundWait requestType then none else
  encodeGbbRepurposed byteBusId 0 evt transactionNum (compoundPackTs requestType step) payload

/-- `rcp_compound_decode_request`. -/
def compoundDecodeRequest (b : Octets) : Except RequestErrc CompoundRequest :=
  match decodeRepurposed b with
  | .error e => .error e
  | .ok (hdr, payload) =>
    let rt := opcodeOf hdr.messageTimestamp
    if !RequestType.isCompound rt && !RequestType.isCompoundWait rt then .error .unknownType else
    .ok
      { requestType := rt, byteBusId := hdr.info.byteBusId, step := compoundUnpackTs hdr.messageTimestamp,
        evt := hdr.info.evt, payload := payload, transactionNum := hdr.info.transactionNum }

/-- `rcp_compound_advance_guard`. A sequencer in state 0 is disabled. -/
def compoundAdvanceGuard (table : SequencerTable) (step : CompoundStep) : Bool :=
  match table.getState step.sequencerIndex.toNat with
  | none => false
  | some current => if current = 0 then false else current == step.startState

/-- `rcp_compound_start_condition_met`. The disabled check comes before the any-state wildcard. -/
def compoundStartConditionMet (table : SequencerTable) (step : CompoundStep) : Bool :=
  match table.getState step.sequencerIndex.toNat with
  | none => false
  | some current =>
    if current = 0 then false else if step.startState = 0 then true else current == step.startState

/-- `rcp_compound_exec_delay_elapsed`. -/
def compoundExecDelayElapsed (step : CompoundStep) (elapsed : UInt32) : Bool :=
  decide (elapsed ≥ step.execDelay.toUInt32)

/-- `apply_next_state`: next_state 0 leaves the sequencer where it is. -/
def applyNextState (table : SequencerTable) (step : CompoundStep) : Bool × SequencerTable :=
  if step.nextState = 0 then (table.indexValid step.sequencerIndex.toNat, table)
  else table.setState step.sequencerIndex.toNat step.nextState

/-- `rcp_compound_tick`. -/
def compoundTick (table : SequencerTable) (step : CompoundStep) (elapsed : UInt32) : Bool × SequencerTable :=
  if !compoundExecDelayElapsed step elapsed then (false, table) else
  if !compoundAdvanceGuard table step then (false, table) else
  applyNextState table step

/-- `rcp_compound_wait_tick`. -/
def compoundWaitTick (table : SequencerTable) (step : CompoundStep) (conditionMet : Bool) :
    Bool × SequencerTable :=
  if !conditionMet then (false, table) else
  if !compoundAdvanceGuard table step then (false, table) else
  applyNextState table step

/-! ### Triggered -/

/-- `rcp_triggered_step_t`. -/
structure TriggeredStep where
  triggerSourceEp : UInt8 := 0
  triggerSignalNr : UInt8 := 0
  triggerThreshold : UInt8 := 0
  execDelay : UInt16 := 0
  repeatCount : UInt16 := 0
deriving DecidableEq, Repr

/-- `rcp_triggered_runtime_t`. -/
structure TriggeredRuntime where
  occurrenceCount : UInt32 := 0
  started : Bool := false
deriving DecidableEq, Repr

def triggeredPackTs (requestType : UInt8) (step : TriggeredStep) : UInt64 :=
  (requestType.toUInt64 <<< 56) ||| (step.triggerSourceEp.toUInt64 <<< 48) |||
  (step.triggerSignalNr.toUInt64 <<< 40) ||| (step.triggerThreshold.toUInt64 <<< 32) |||
  (step.execDelay.toUInt64 <<< 16) ||| step.repeatCount.toUInt64

def triggeredUnpackTs (ts : UInt64) : TriggeredStep where
  triggerSourceEp := ((ts >>> 48) &&& 0xFF).toUInt8
  triggerSignalNr := ((ts >>> 40) &&& 0xFF).toUInt8
  triggerThreshold := ((ts >>> 32) &&& 0xFF).toUInt8
  execDelay := ((ts >>> 16) &&& 0xFFFF).toUInt16
  repeatCount := (ts &&& 0xFFFF).toUInt16

/-- What `rcp_triggered_decode_request` writes through its out parameters. -/
structure TriggeredRequest where
  requestType : UInt8
  byteBusId : ByteBusId
  step : TriggeredStep
  payload : Octets
  transactionNum : UInt8

/-- `rcp_triggered_encode_request`. -/
def triggeredEncodeRequest (requestType : UInt8) (byteBusId : ByteBusId) (step : TriggeredStep)
    (transactionNum : UInt8) (payload : Octets) : Option Octets :=
  if !RequestType.isTriggered requestType then none else
  encodeGbbRepurposed byteBusId 0 0 transactionNum (triggeredPackTs requestType step) payload

/-- `rcp_triggered_decode_request`. -/
def triggeredDecodeRequest (b : Octets) : Except RequestErrc TriggeredRequest :=
  match decodeRepurposed b with
  | .error e => .error e
  | .ok (hdr, payload) =>
    let rt := opcodeOf hdr.messageTimestamp
    if !RequestType.isTriggered rt then .error .unknownType else
    .ok
      { requestType := rt, byteBusId := hdr.info.byteBusId, step := triggeredUnpackTs hdr.messageTimestamp,
        payload := payload, transactionNum := hdr.info.transactionNum }

/-- `rcp_triggered_runtime_enter_started`. -/
def triggeredRuntimeEnterStarted (_ : TriggeredRuntime) : TriggeredRuntime :=
  { occurrenceCount := 0, started := true }

/-- `rcp_triggered_runtime_record_occurrence`. -/
def triggeredRuntimeRecordOccurrence (rt : TriggeredRuntime) (step : TriggeredStep)
    (sourceEp signalNr : UInt8) : Bool × TriggeredRuntime :=
  if !rt.started then (false, rt) else
  if sourceEp ≠ step.triggerSourceEp then (false, rt) else
  if signalNr ≠ step.triggerSignalNr then (false, rt) else
  (true, { rt with occurrenceCount := rt.occurrenceCount + 1 })

/-- `rcp_triggered_threshold_reached`. -/
def triggeredThresholdReached (step : TriggeredStep) (rt : TriggeredRuntime) : Bool :=
  decide (rt.occurrenceCount > step.triggerThreshold.toUInt32)

/-- `rcp_triggered_exec_delay_elapsed`. -/
def triggeredExecDelayElapsed (step : TriggeredStep) (elapsed : UInt32) : Bool :=
  decide (elapsed ≥ step.execDelay.toUInt32)

/-- `rcp_triggered_tick`. -/
def triggeredTick (step : TriggeredStep) (rt : TriggeredRuntime) (elapsed : UInt32) (endpointIdle : Bool) :
    Bool × TriggeredRuntime :=
  if !rt.started then (false, rt) else
  if !triggeredThresholdReached step rt then (false, rt) else
  if !triggeredExecDelayElapsed step elapsed then (false, rt) else
  if !endpointIdle then (false, rt) else
  (true, { occurrenceCount := 0, started := false })

/-! ### Chained -/

def chainedCsContinue : UInt8 := 0
/-- `RCP_CHAINED_CS_ABORT_ON_ERROR`. -/
def chainedCsAbortOnError : UInt8 := 1

/-- What `rcp_chained_decode_member` writes through its out parameters. -/
structure ChainedMember where
  byteBusId : ByteBusId
  chainExecDelay : UInt16
  cs : UInt8
  payload : Octets
  transactionNum : UInt8

/-- `rcp_chained_encode_member`. -/
def chainedEncodeMember (byteBusId : ByteBusId) (chainExecDelay : UInt16) (cs transactionNum : UInt8)
    (payload : Octets) : Option Octets :=
  encodeGbbRepurposed byteBusId (cs &&& 0x1) 0 transactionNum
    ((RequestType.chained.toUInt64 <<< 56) ||| (chainExecDelay.toUInt64 <<< 16)) payload

/-- `rcp_chained_decode_member`: octets 1..3 and 6..7 of the region are reserved. -/
def chainedDecodeMember (b : Octets) : Except RequestErrc ChainedMember :=
  match decodeRepurposed b with
  | .error e => .error e
  | .ok (hdr, payload) =>
    if opcodeOf hdr.messageTimestamp ≠ RequestType.chained then .error .unknownType else
    if hdr.messageTimestamp &&& 0x00FFFFFF0000FFFF ≠ 0 then .error .reservedNonzero else
    .ok
      { chainExecDelay := ((hdr.messageTimestamp >>> 16) &&& 0xFFFF).toUInt16, cs := hdr.info.cs,
        byteBusId := hdr.info.byteBusId, payload := payload, transactionNum := hdr.info.transactionNum }

/-- `rcp_chained_exec_delay_elapsed`. -/
def chainedExecDelayElapsed (chainExecDelay : UInt16) (elapsed : UInt32) : Bool :=
  decide (elapsed ≥ chainExecDelay.toUInt32)

/-- `rcp_chained_member_outcome_t`. -/
inductive ChainedOutcome where
  | ok | chainError | chainAborted
deriving DecidableEq, Repr

/-- `rcp_chained_advance`: the verdict on a chained member and the new value of `*chain_aborted`. -/
def chainedAdvance (chainAborted hasPredecessor predecessorErrored : Bool) (cs : UInt8) :
    ChainedOutcome × Bool :=
  if !hasPredecessor then (.chainError, true) else
  if chainAborted then (.chainAborted, true) else
  if predecessorErrored && cs == chainedCsAbortOnError then (.chainAborted, true) else
  (.ok, false)

/-! ### Timed -/

/-- `RCP_TIMED_PRESENTATION_TIME_MAX`: the field is 48 bits wide. -/
def timedPresentationTimeMax : UInt64 := 0xFFFFFFFFFFFF
def timedPresentationTimeModulus : UInt64 := 0x1000000000000

/-- What `rcp_timed_decode_request` writes through its out parameters. -/
structure TimedRequest where
  byteBusId : ByteBusId
  presentationTime : UInt64
  payload : Octets
  transactionNum : UInt8

/-- `rcp_timed_encode_request`. -/
def timedEncodeRequest (byteBusId : ByteBusId) (presentationTime : UInt64) (transactionNum : UInt8)
    (payload : Octets) : Option Octets :=
  if presentationTime > timedPresentationTimeMax then none else
  encodeGbbRepurposed byteBusId 0 0 transactionNum
    ((RequestType.timed.toUInt64 <<< 56) ||| (presentationTime &&& timedPresentationTimeMax)) payload

/-- `rcp_timed_decode_request`. -/
def timedDecodeRequest (b : Octets) : Except RequestErrc TimedRequest :=
  match decodeRepurposed b with
  | .error e => .error e
  | .ok (hdr, payload) =>
    if opcodeOf hdr.messageTimestamp ≠ RequestType.timed then .error .unknownType else
    if ((hdr.messageTimestamp >>> 48) &&& 0xFF).toUInt8 ≠ 0 then .error .reservedNonzero else
    if hdr.info.hs ≠ 0 ∨ hdr.info.cs ≠ 0 then .error .unsupportedCmd else
    .ok
      { presentationTime := hdr.messageTimestamp &&& timedPresentationTimeMax,
        byteBusId := hdr.info.byteBusId, payload := payload, transactionNum := hdr.info.transactionNum }

/-- `timed_forward_delta`. -/
def timedForwardDelta (presentationTime now : UInt64) : UInt64 :=
  (presentationTime - now) &&& timedPresentationTimeMax

/-- `timed_in_the_past`. -/
def timedInThePast (delta : UInt64) : Bool := decide (delta > timedPresentationTimeModulus / 2)

/-- `rcp_timed_due`. -/
def timedDue (presentationTime now : UInt64) : Bool :=
  let delta := timedForwardDelta presentationTime now
  delta == 0 || timedInThePast delta

/-! ### Cancellation -/

/-- `cancel_encode_gbb_repurposed`: a fixed sixteen-octet frame. -/
def cancelEncodeGbbRepurposed (byteBusId : ByteBusId) (transactionNum : UInt8) (ts : UInt64) : Octets :=
  Acf.packHeader Acf.msgTypeGbb 4 { byteBusId := byteBusId, transactionNum := transactionNum } ++ putU64 ts

/-- `rcp_cancel_encode_clear_all`. -/
def cancelEncodeClearAll (byteBusId : ByteBusId) (transactionNum : UInt8) : Octets :=
  cancelEncodeGbbRepurposed byteBusId transactionNum (RequestType.clearAll.toUInt64 <<< 56)

/-- `rcp_cancel_encode_clear_single`. -/
def cancelEncodeClearSingle (byteBusId : ByteBusId) (clearTransactionNum transactionNum : UInt8) : Octets :=
  cancelEncodeGbbRepurposed byteBusId transactionNum
    ((RequestType.clearSingle.toUInt64 <<< 56) ||| (clearTransactionNum.toUInt64 <<< 32))

/-- `rcp_compound_encode_clear_non_safestate`. -/
def compoundEncodeClearNonSafestate (byteBusId : ByteBusId) (transactionNum : UInt8) : Option Octets :=
  encodeGbbRepurposed byteBusId 0 0 transactionNum (RequestType.clearNonSafestate.toUInt64 <<< 56) []

/-- The body the three cancellation decoders share: the opcode, the reserved octets of the region and
    evt[2:0], hs and cs. -/
def cancelDecode (opcode : UInt8) (reserved : UInt64) (b : Octets) : Except RequestErrc Acf.GbbHeader :=
  match decodeRepurposed b with
  | .error e => .error e
  | .ok (hdr, _) =>
    if opcodeOf hdr.messageTimestamp ≠ opcode then .error .unknownType else
    if hdr.messageTimestamp &&& reserved ≠ 0 then .error .reservedNonzero else
    if hdr.info.evt &&& 0x07 ≠ 0 ∨ hdr.info.hs ≠ 0 ∨ hdr.info.cs ≠ 0 then .error .evtHsCsNonzero else
    .ok hdr

/-- `rcp_cancel_decode_clear_all`: the bus id and the transaction number. -/
def cancelDecodeClearAll (b : Octets) : Except RequestErrc (ByteBusId × UInt8) :=
  (cancelDecode RequestType.clearAll 0x00FFFFFFFFFFFFFF b).map fun (hdr : Acf.GbbHeader) =>
    (hdr.info.byteBusId, hdr.info.transactionNum)

/-- `rcp_compound_decode_clear_non_safestate`. -/
def compoundDecodeClearNonSafestate (b : Octets) : Except RequestErrc (ByteBusId × UInt8) :=
  (cancelDecode RequestType.clearNonSafestate 0x00FFFFFFFFFFFFFF b).map fun (hdr : Acf.GbbHeader) =>
    (hdr.info.byteBusId, hdr.info.transactionNum)

/-- `rcp_cancel_decode_clear_single`: the bus id, clear_transaction_num and the transaction number. -/
def cancelDecodeClearSingle (b : Octets) : Except RequestErrc (ByteBusId × UInt8 × UInt8) :=
  (cancelDecode RequestType.clearSingle 0x00FFFF00FFFFFFFF b).map fun (hdr : Acf.GbbHeader) =>
    (hdr.info.byteBusId, ((hdr.messageTimestamp >>> 32) &&& 0xFF).toUInt8, hdr.info.transactionNum)

/-- `rcp_cancel_lifecycle_t`. -/
inductive CancelLifecycle where
  | queued | executing | done
deriving DecidableEq, Repr

/-- `rcp_cancel_result_t`. -/
inductive CancelResult where
  | canceled | notCancellable | notFound
deriving DecidableEq, Repr

/-- `rcp_cancel_is_cancellable`. -/
def cancelIsCancellable (state : CancelLifecycle) : Bool := state == .queued

/-- `rcp_cancel_attempt`. -/
def cancelAttempt (found : Bool) (state : CancelLifecycle) : CancelResult :=
  if !found then .notFound else if !cancelIsCancellable state then .notCancellable else .canceled

/-- `rcp_cancel_chain_should_cascade`. -/
def cancelChainShouldCascade (memberPosition canceledPosition : UInt8) : Bool :=
  decide (memberPosition ≥ canceledPosition)

end Rcp
