import Rcp.Avtp
import Rcp.Request
import Mathlib.Data.Fin.Basic
import Mathlib.Data.List.FinRange
import Mathlib.Logic.Function.Basic

/-! End-to-end protection (`e2e.c`): the CRC32 trailer of an ACF message, the execution gates of safety
    requests, the sequence-number gate, and the fault latches of a stream. -/

namespace Rcp

/-! ### The CRC -/

/-- `RCP_E2E_CRC_LEN`. -/
def e2eCrcLen : Nat := 4

/-- One turn of the `crc32_update` loop. -/
def crc32Shift (crc : UInt32) : UInt32 :=
  if crc &&& 1 ≠ 0 then (crc >>> 1) ^^^ 0xC8DF352F else crc >>> 1

/-- `crc32_update`. -/
def crc32Update (crc : UInt32) (b : UInt8) : UInt32 :=
  (List.range 8).foldl (fun crc _ => crc32Shift crc) (crc ^^^ b.toUInt32)

/-- `rcp_e2e_crc32`. -/
def e2eCrc32 (data : Octets) : UInt32 := data.foldl crc32Update 0xFFFFFFFF ^^^ 0xFFFFFFFF

/-- The AVTP header fields a CRC covers, as every `rcp_e2e_*` function takes them. -/
structure E2eHeader where
  avtpSubtype : UInt8
  headerOctet1 : UInt8 := 0
  tu : Bool := false
  streamId : UInt64
  avtpTimestamp : UInt32
deriving DecidableEq, Repr

/-- The octets of those fields in the order the CRC runs over them. -/
def E2eHeader.octets (h : E2eHeader) : Octets :=
  [h.avtpSubtype, h.headerOctet1, if h.tu then 0x01 else 0x00] ++ putU64 h.streamId ++ putU32 h.avtpTimestamp

/-- `rcp_e2e_compute_crc`. -/
def e2eComputeCrc (h : E2eHeader) (acfFrame : Octets) : UInt32 :=
  acfFrame.foldl crc32Update (h.octets.foldl crc32Update 0xFFFFFFFF) ^^^ 0xFFFFFFFF

/-- `rcp_e2e_compute_fragmented_crc`. -/
def e2eComputeFragmentedCrc (h : E2eHeader) (firstFragmentHeader reassembledPayload : Octets) : UInt32 :=
  reassembledPayload.foldl crc32Update
    (firstFragmentHeader.foldl crc32Update (h.octets.foldl crc32Update 0xFFFFFFFF)) ^^^ 0xFFFFFFFF

/-! ### Wrapping and unwrapping -/

/-- `rcp_e2e_errc_t` without its success value. -/
inductive E2eErrc where
  | shortFrame | crcMismatch
deriving DecidableEq, Repr

/-- `rcp_e2e_wire_error`. -/
def E2eErrc.wireError : E2eErrc → WireError
  | .crcMismatch => .pociFailure
  | .shortFrame => .none

/-- `acf_pad_octets`. -/
def acfPadOctets (frame : Octets) : Nat :=
  if frame.length < 3 then 0 else ((frame.at 2 >>> 6) &&& 0x3).toNat

/-- `adapt_acf_msg_length`: the frame with its nine-bit length field moved by `delta`, `none` when the
    frame is too short to have one or the result does not fit. -/
def adaptAcfMsgLength (frame : Octets) (delta : Int) : Option Octets :=
  if frame.length < 2 then none else
  let lenField : UInt16 := ((frame.at 0 &&& 0x01).toUInt16 <<< 8) ||| (frame.at 1).toUInt16
  let adapted : Int := lenField.toNat + delta
  if adapted < 0 ∨ adapted > 0x1FF then none else
  let adapted := UInt16.ofNat adapted.toNat
  some (((frame.at 0 &&& (0xFE : UInt8)) ||| ((adapted >>> 8) &&& 0x01).toUInt8) :: (adapted &&& 0xFF).toUInt8 :: frame.drop 2)

/-- `rcp_e2e_wrap`: the CRC goes between the payload and its pad. -/
def e2eWrap (h : E2eHeader) (acfFrame : Octets) : Option Octets :=
  if acfFrame.length % 4 ≠ 0 then none else
  let padOctets := acfPadOctets acfFrame
  if padOctets > acfFrame.length then none else
  let realLen := acfFrame.length - padOctets
  match adaptAcfMsgLength (acfFrame.take realLen) 1 with
  | none => none
  | some data => some (data ++ putU32 (e2eComputeCrc h data) ++ acfFrame.drop realLen)

/-- `rcp_e2e_unwrap`: the verdict and the frame without its trailer, which a CRC mismatch delivers too. -/
def e2eUnwrap (h : E2eHeader) (frame : Octets) : Except E2eErrc Unit × Octets :=
  if frame.length < e2eCrcLen then (.error .shortFrame, []) else
  let padOctets := acfPadOctets frame
  if padOctets + e2eCrcLen > frame.length then (.error .shortFrame, []) else
  let realLen := frame.length - e2eCrcLen - padOctets
  let got := getU32 frame realLen
  let want := e2eComputeCrc h (frame.take realLen)
  let body := frame.take realLen
  -- The length is put back where the body is long enough to hold it; otherwise the copy goes out as it is.
  let body := ((adaptAcfMsgLength body (-1)).getD body) ++ (frame.drop (realLen + e2eCrcLen)).take padOctets
  (if got ≠ want then .error .crcMismatch else .ok (), body)

/-- The header fields `rcp_e2e_wrap_framed` and `rcp_e2e_unwrap_framed` pass on: an NTSCF frame has no
    timestamp and no tu bit. -/
def e2eFramedHeader (streamId : UInt64) (isNtscfFramed : Bool) (headerOctet1 : UInt8) (tu : Bool)
    (avtpTimestamp : UInt32) : E2eHeader where
  avtpSubtype := if isNtscfFramed then avtpSubtypeNtscf else avtpSubtypeTscf
  headerOctet1 := headerOctet1
  tu := if isNtscfFramed then false else tu
  streamId := streamId
  avtpTimestamp := if isNtscfFramed then 0 else avtpTimestamp

def e2eWrapFramed (streamId : UInt64) (isNtscfFramed : Bool) (headerOctet1 : UInt8) (tu : Bool)
    (avtpTimestamp : UInt32) (acfFrame : Octets) : Option Octets :=
  e2eWrap (e2eFramedHeader streamId isNtscfFramed headerOctet1 tu avtpTimestamp) acfFrame

def e2eUnwrapFramed (streamId : UInt64) (isNtscfFramed : Bool) (headerOctet1 : UInt8) (tu : Bool)
    (avtpTimestamp : UInt32) (frame : Octets) : Except E2eErrc Unit × Octets :=
  e2eUnwrap (e2eFramedHeader streamId isNtscfFramed headerOctet1 tu avtpTimestamp) frame

/-! ### Safety requests -/

/-- `rcp_e2e_request_may_execute`. -/
def e2eRequestMayExecute (requestType : UInt8) (endpointInSafeState : Bool) : Bool :=
  if RequestType.isSafety requestType then endpointInSafeState else true

/-- `rcp_e2e_watchdog_purge_should_keep`. -/
def e2eWatchdogPurgeShouldKeep (requestType : UInt8) : Bool := RequestType.isSafety requestType

/-! ### Watchdog and sequence numbers -/

structure WdResult where
  overflowed : Bool
  enterSafeState : Bool
  notify : Bool
deriving DecidableEq, Repr

/-- `rcp_e2e_wd_evaluate`. -/
def e2eWdEvaluate (rxWdEnable : Bool) (rxWdTimeoutMs : UInt32) (rxWdSafestateEnable rxWdInfoEnable : Bool)
    (elapsedSinceLastKickMs : UInt64) : WdResult :=
  let overflowed := rxWdEnable && decide (elapsedSinceLastKickMs ≥ rxWdTimeoutMs.toUInt64)
  { overflowed := overflowed, enterSafeState := overflowed && rxWdSafestateEnable,
    notify := overflowed && rxWdInfoEnable }

structure SeqTracker where
  hasPrev : Bool := false
  prevSeq : UInt8 := 0
deriving DecidableEq, Repr

structure SeqResult where
  accept : Bool
  discontinuity : Bool
  enterSafeState : Bool
deriving DecidableEq, Repr

/-- `rcp_e2e_seq_evaluate`. A rejected number does not move the tracker. -/
def e2eSeqEvaluate (t : SeqTracker) (rxEnforceSeq rxSeqSafestateEnable : Bool) (seq : UInt8) :
    SeqResult × SeqTracker :=
  if !t.hasPrev then
    ({ accept := true, discontinuity := false, enterSafeState := false }, { hasPrev := true, prevSeq := seq })
  else
    let fwdDistance := seq - t.prevSeq
    let accept := !rxEnforceSeq || (decide (fwdDistance ≥ 1) && decide (fwdDistance ≤ 127))
    let discontinuity := fwdDistance != 1
    ({ accept := accept, discontinuity := discontinuity, enterSafeState := discontinuity && rxSeqSafestateEnable },
      if accept then { t with prevSeq := seq } else t)

/-! ### Stream faults -/

/-- `rcp_e2e_stream_fault_on_crc_error` on the latch of a `rcp_e2e_stream_fault_t`. -/
def streamFaultOnCrcError (faulted rxEnforceE2e : Bool) : Bool := if rxEnforceE2e then true else faulted

/-- `RCP_E2E_STREAM_FAULT_TRACKER_MAX_STREAMS`. -/
abbrev streamFaultTrackerMaxStreams : Nat := 16

structure StreamFaultSlot where
  streamId : UInt64 := 0
  used : Bool := false
  faulted : Bool := false
deriving DecidableEq, Repr

/-- `rcp_e2e_stream_fault_tracker_t`. -/
structure StreamFaultTracker where
  slots : Fin streamFaultTrackerMaxStreams → StreamFaultSlot := fun _ => {}

namespace StreamFaultTracker

/-- `stream_fault_tracker_find`. -/
def find (t : StreamFaultTracker) (streamId : UInt64) : Option (Fin streamFaultTrackerMaxStreams) :=
  Fin.find? fun i => (t.slots i).used && (t.slots i).streamId == streamId

/-- `stream_fault_tracker_find_free`. -/
def findFree (t : StreamFaultTracker) : Option (Fin streamFaultTrackerMaxStreams) :=
  Fin.find? fun i => !(t.slots i).used

/-- `rcp_e2e_stream_fault_tracker_on_crc_error`. -/
def onCrcError (t : StreamFaultTracker) (streamId : UInt64) (rxEnforceE2e : Bool) : Bool × StreamFaultTracker :=
  match t.find streamId with
  | some i =>
    let slot := t.slots i
    (true, { slots := Function.update t.slots i { slot with faulted := streamFaultOnCrcError slot.faulted rxEnforceE2e } })
  | none =>
    match t.findFree with
    | none => (false, t)
    | some i =>
      (true,
        { slots := Function.update t.slots i
            { used := true, streamId := streamId, faulted := streamFaultOnCrcError false rxEnforceE2e } })

/-- `rcp_e2e_stream_fault_tracker_is_faulted`. -/
def isFaulted (t : StreamFaultTracker) (streamId : UInt64) : Bool :=
  match t.find streamId with
  | none => false
  | some i => (t.slots i).faulted

/-- `rcp_e2e_stream_fault_tracker_reset`. -/
def reset (t : StreamFaultTracker) (streamId : UInt64) : StreamFaultTracker :=
  match t.find streamId with
  | none => t
  | some i => { slots := Function.update t.slots i { t.slots i with faulted := false } }

end StreamFaultTracker

/-- `rcp_e2e_stream_status_t`; `crcFaulted` is the latch inside `crc`. -/
structure StreamStatus where
  crcFaulted : Bool := false
  seqBlocked : Bool := false
  wdBlocked : Bool := false
  overflowBlocked : Bool := false
deriving DecidableEq, Repr

namespace StreamStatus

def noteCrcError (s : StreamStatus) (rxEnforceE2e : Bool) : StreamStatus :=
  { s with crcFaulted := streamFaultOnCrcError s.crcFaulted rxEnforceE2e }

def noteSeq (s : StreamStatus) (result : SeqResult) : StreamStatus :=
  if result.enterSafeState then { s with seqBlocked := true } else s

def noteWd (s : StreamStatus) (result : WdResult) : StreamStatus :=
  if result.enterSafeState then { s with wdBlocked := true } else s

def noteOverflow (s : StreamStatus) (enterSafeState : Bool) : StreamStatus :=
  if enterSafeState then { s with overflowBlocked := true } else s

end StreamStatus
end Rcp
