import Rcp.Request

/-! Request kinds, their priority order and the split of a multi-request frame (`scheduler.c`). -/

namespace Rcp

/-- `rcp_sched_kind_t`. -/
inductive SchedKind where
  | standard | chained | compoundWait | compound | timed | triggered | cancellation
deriving DecidableEq, Repr

/-- `rcp_sched_entry_t`. -/
structure SchedEntry where
  kind : SchedKind
  sequence : UInt64
deriving DecidableEq, Repr

/-- `rcp_sched_classify`. An unrecognised opcode is a standard request, never over-privileged. -/
def schedClassify (isRepurposed : Bool) (requestType : UInt8) : SchedKind :=
  if !isRepurposed then .standard else
  if requestType = RequestType.clearAll ∨ requestType = RequestType.clearNonSafestate ∨
      requestType = RequestType.clearSingle then .cancellation else
  if RequestType.isTriggered requestType then .triggered else
  if requestType = RequestType.timed then .timed else
  if RequestType.isCompound requestType then .compound else
  if RequestType.isCompoundWait requestType then .compoundWait else
  if requestType = RequestType.chained then .chained else
  .standard

/-- `rcp_sched_kind_rank`. -/
def schedKindRank : SchedKind → UInt8
  | .cancellation => 6
  | .triggered => 5
  | .timed => 4
  | .compound => 3
  | .compoundWait => 2
  | .chained => 1
  | .standard => 0

/-- `rcp_sched_compare`: higher rank first, then first in first out. -/
def schedCompare (a b : SchedEntry) : Int :=
  let ra := schedKindRank a.kind
  let rb := schedKindRank b.kind
  if ra ≠ rb then (if ra > rb then -1 else 1) else
  if a.sequence ≠ b.sequence then (if a.sequence < b.sequence then -1 else 1) else
  0

/-- One turn of the `rcp_sched_split_frame_members` loop on the octets from `offset` on: the length of
    the member there, `none` when it is malformed. -/
def schedMemberLen (b : Octets) : Option Nat :=
  if b.length < 2 then none else
  let msgType := b.at 0 >>> 1
  if msgType ≠ Acf.msgTypeAbb ∧ msgType ≠ Acf.msgTypeGbb then none else
  let headerLen := if msgType = Acf.msgTypeAbb then Acf.abbHeaderLen else Acf.gbbHeaderLen
  if b.length < headerLen then none else
  let quadlets : UInt16 := ((b.at 0 &&& 0x01).toUInt16 <<< 8) ||| (b.at 1).toUInt16
  let msgLen := quadlets.toNat * 4
  if msgLen < headerLen then none else
  if b.length < msgLen then none else
  some msgLen

/-- The loop of `rcp_sched_split_frame_members`. A member is at least eight octets long, so the length
    of the rest bounds the number of turns. -/
def schedSplitLoop (b : Octets) : Nat → Nat → Option (List Nat)
  | 0, _ => some []
  | fuel + 1, offset =>
    if b.length ≤ offset then some [] else
    match schedMemberLen (b.drop offset) with
    | none => none
    | some msgLen => (schedSplitLoop b fuel (offset + msgLen)).map (offset :: ·)

/-- `rcp_sched_split_frame_members`: the offsets of every member; `none` is the zero return of a
    malformed frame. -/
def schedSplitFrameMembers (b : Octets) : Option (List Nat) := schedSplitLoop b b.length 0

/-- The loop of `rcp_sched_split_frame_members` with its locals: `found`, and the part of `out_offsets` written so
    far. It is `none` where `fuel` turns do not end it. -/
def schedSplitScan (b : Octets) (outCap : Nat) : Nat → Nat → Nat → List Nat → Option (Nat × List Nat)
  | 0, offset, found, out => if offset < b.length then none else some (found, out)
  | fuel + 1, offset, found, out =>
    if offset < b.length then
      match schedMemberLen (b.drop offset) with
      | none => some (0, out)
      | some msgLen =>
        schedSplitScan b outCap fuel (offset + msgLen) (found + 1) (if found < outCap then out ++ [offset] else out)
    else some (found, out)

/-- `rcp_sched_split_frame_members`: what it returns, and what it writes into `out_offsets`. -/
def schedSplitInto (b : Octets) (outCap : Nat) : Option (Nat × List Nat) := schedSplitScan b outCap b.length 0 0 []

/-- `rcp_sched_frame_timing_consistent`. -/
def schedFrameTimingConsistent (isTscf : Bool) (memberIsTimed : List Bool) : Bool :=
  if !isTscf then true else
  match memberIsTimed with
  | [] => true
  | first :: rest => rest.all (· == first)

end Rcp
