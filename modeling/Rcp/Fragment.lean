import Rcp.Octets

/-! Fragmentation (`fragment.c`): the plan a sender follows and the receiver's reassembler. -/

namespace Rcp

/-- `RCP_FRAGMENT_MAX_INTERMEDIATE_SEGMENTS`: segment_num is 12 bits wide. -/
def fragmentMaxIntermediateSegments : Nat := 4096

/-- `rcp_fragment_errc_t` without its success value. -/
inductive FragmentErrc where
  | disabled | tooManySegments | badSegmentCount
deriving DecidableEq, Repr

/-- `rcp_fragment_segment_t`. -/
structure FragmentSegment where
  offset : Nat
  len : Nat
  ms : Bool
  segmentNum : UInt16
deriving DecidableEq, Repr

/-- `rcp_fragment_plan_count`. -/
def fragmentPlanCount (payloadLen maxFragmentPayload : Nat) : Nat :=
  if payloadLen = 0 then 1 else
  if maxFragmentPayload = 0 then 0 else
  if payloadLen ≤ maxFragmentPayload then 1 else
  let count := (payloadLen + maxFragmentPayload - 1) / maxFragmentPayload
  if count - 1 > fragmentMaxIntermediateSegments then 0 else count

/-- `rcp_fragment_plan`. -/
def fragmentPlan (payloadLen maxFragmentPayload segmentCount : Nat) : Except FragmentErrc (List FragmentSegment) :=
  let expected := fragmentPlanCount payloadLen maxFragmentPayload
  if expected = 0 then .error (if maxFragmentPayload = 0 then .disabled else .tooManySegments) else
  if segmentCount ≠ expected then .error .badSegmentCount else
  if expected = 1 then .ok [{ offset := 0, len := payloadLen, ms := false, segmentNum := 0 }] else
  let off := (expected - 1) * maxFragmentPayload
  .ok
    ((List.range (expected - 1)).map (fun i =>
        { offset := i * maxFragmentPayload, len := maxFragmentPayload, ms := true, segmentNum := UInt16.ofNat i }) ++
      [{ offset := off, len := payloadLen - off, ms := false, segmentNum := 0 }])

namespace SizeT

/-- `rcp_fragment_plan_count`, in the wrapping arithmetic of `size_t`. -/
def fragmentPlanCount (payloadLen maxFragmentPayload : UInt64) : UInt64 :=
  if payloadLen = 0 then 1 else
  if maxFragmentPayload = 0 then 0 else
  if payloadLen ≤ maxFragmentPayload then 1 else
  let count := (payloadLen + maxFragmentPayload - 1) / maxFragmentPayload
  let intermediate := count - 1
  if intermediate > 4096 then 0 else count

/-- The loop of `rcp_fragment_plan` with `n` intermediate segments still to write: the segments, and `off`
    behind them. -/
def planLoop (maxFragmentPayload : UInt64) : Nat → UInt64 → UInt64 → List FragmentSegment × UInt64
  | 0, _, off => ([], off)
  | n + 1, i, off =>
    let (rest, last) := planLoop maxFragmentPayload n (i + 1) (off + maxFragmentPayload)
    ({ offset := off.toNat, len := maxFragmentPayload.toNat, ms := true, segmentNum := i.toUInt16 } :: rest, last)

/-- `rcp_fragment_plan`, in the wrapping arithmetic of `size_t`. -/
def fragmentPlan (payloadLen maxFragmentPayload segmentCount : UInt64) : Except FragmentErrc (List FragmentSegment) :=
  let expected := fragmentPlanCount payloadLen maxFragmentPayload
  if expected = 0 then .error (if maxFragmentPayload = 0 then .disabled else .tooManySegments) else
  if segmentCount ≠ expected then .error .badSegmentCount else
  if expected = 1 then .ok [{ offset := 0, len := payloadLen.toNat, ms := false, segmentNum := 0 }] else
  let (intermediates, off) := planLoop maxFragmentPayload (expected - 1).toNat 0 0
  .ok (intermediates ++ [{ offset := off.toNat, len := (payloadLen - off).toNat, ms := false, segmentNum := 0 }])

end SizeT

/-- `rcp_fragment_reasm_result_t`; allocation is taken to succeed. -/
inductive ReasmResult where
  | continue | complete | outOfOrder | tooLarge
deriving DecidableEq, Repr

/-- `rcp_fragment_reassembler_t`; `buf` holds the `len` octets collected so far. -/
structure Reassembler where
  collecting : Bool := false
  expectedSegmentNum : UInt16 := 0
  buf : Octets := []
  maxTotalLen : Nat := 0
deriving DecidableEq, Repr

namespace Reassembler

/-- `rcp_fragment_reassembler_init`. -/
def init (maxTotalLen : Nat) : Reassembler := { maxTotalLen := maxTotalLen }

/-- `rcp_fragment_reassembler_reset`. -/
def reset (r : Reassembler) : Reassembler := init r.maxTotalLen

/-- `rcp_fragment_reassembler_feed`. -/
def feed (r : Reassembler) (ms : Bool) (segmentNum : UInt16) (payload : Octets) : ReasmResult × Reassembler :=
  if !r.collecting then
    if payload.length > r.maxTotalLen - r.buf.length then (.tooLarge, r) else
    if !ms then (.complete, { r with buf := r.buf ++ payload }) else
    if segmentNum ≠ 0 then (.outOfOrder, r) else
    (.continue, { r with buf := r.buf ++ payload, collecting := true, expectedSegmentNum := 1 })
  else
    if ms && segmentNum != r.expectedSegmentNum then (.outOfOrder, r) else
    if payload.length > r.maxTotalLen - r.buf.length then (.tooLarge, r) else
    if ms then
      (.continue, { r with buf := r.buf ++ payload, expectedSegmentNum := r.expectedSegmentNum + 1 })
    else (.complete, { r with buf := r.buf ++ payload, collecting := false })

/-- `append`, where `grows` says whether the buffer can be made to hold the octets: it already does, or
    `rcp_realloc` succeeds. -/
def append (r : Reassembler) (grows : Bool) (payload : Octets) : Option Reassembler :=
  if payload.length = 0 then some r else
  if !grows then none else
  some { r with buf := r.buf ++ payload }

/-- `rcp_fragment_reassembler_feed` where an allocation can fail; a result of `none` is
    `RCP_FRAGMENT_REASM_ERR_ALLOC`. -/
def feedAlloc (r : Reassembler) (grows ms : Bool) (segmentNum : UInt16) (payload : Octets) :
    Option ReasmResult × Reassembler :=
  if !r.collecting then
    if payload.length > r.maxTotalLen - r.buf.length then (some .tooLarge, r) else
    if !ms then
      match r.append grows payload with
      | none => (none, r)
      | some r => (some .complete, r)
    else
    if segmentNum ≠ 0 then (some .outOfOrder, r) else
    match r.append grows payload with
    | none => (none, r)
    | some r => (some .continue, { r with collecting := true, expectedSegmentNum := 1 })
  else
    if ms && segmentNum != r.expectedSegmentNum then (some .outOfOrder, r) else
    if payload.length > r.maxTotalLen - r.buf.length then (some .tooLarge, r) else
    match r.append grows payload with
    | none => (none, r)
    | some r =>
      if ms then (some .continue, { r with expectedSegmentNum := r.expectedSegmentNum + 1 })
      else (some .complete, { r with collecting := false })

end Reassembler
end Rcp
