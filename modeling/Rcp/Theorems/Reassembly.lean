import Mathlib.Data.List.DropRight
import Rcp.Fragment
import Rcp.Lib.Tiling

/-! Plan and reassembly: what the segments of a plan are, that feeding their slices gives the payload back, and what
    any stream of fragments can do to a reassembler. -/

namespace Rcp

/-! ### The plan -/

/-- The `i`-th intermediate segment of a plan. -/
def intermediate (maxPayload i : Nat) : FragmentSegment :=
  { offset := i * maxPayload, len := maxPayload, ms := true, segmentNum := UInt16.ofNat i }

/-- A number the twelve bits of segment_num hold. -/
theorem ofNat_and_segmentMask {i : Nat} (hi : i < fragmentMaxIntermediateSegments) :
    UInt16.ofNat i &&& 0xFFF = UInt16.ofNat i := by
  have hi' : i < 4096 := hi
  apply UInt16.toNat_inj.mp
  rw [UInt16.toNat_and, UInt16.toNat_ofNat_of_lt' (by rw [UInt16.size]; omega)]
  exact Nat.and_two_pow_sub_one_of_lt_two_pow (n := 12) hi'

/-- The last segment of a plan with `n` others before it. -/
def finalSegment (payloadLen maxPayload n : Nat) : FragmentSegment :=
  { offset := n * maxPayload, len := payloadLen - n * maxPayload, ms := false, segmentNum := 0 }

/-- The plan with `n` intermediate segments. -/
def planOf (payloadLen maxPayload n : Nat) : List FragmentSegment :=
  (List.range n).map (intermediate maxPayload) ++ [finalSegment payloadLen maxPayload n]

/-- `n` intermediate segments are the right number: all but the last are full, and the last is not too long. -/
structure Planned (payloadLen maxPayload n : Nat) : Prop where
  few : n ≤ fragmentMaxIntermediateSegments
  below : n ≠ 0 → n * maxPayload < payloadLen
  rest : payloadLen - n * maxPayload ≤ maxPayload

theorem planOf_zero (payloadLen maxPayload : Nat) :
    planOf payloadLen maxPayload 0 = [{ offset := 0, len := payloadLen, ms := false, segmentNum := 0 }] := by
  simp only [planOf, finalSegment, List.range_zero, List.map_nil, List.nil_append, Nat.zero_mul, Nat.sub_zero]

/-- Ceiling division, from the segments that are full. -/
theorem ceil_div {payloadLen maxPayload : Nat} (hmax : 0 < maxPayload) (hpayload : 0 < payloadLen) :
    (payloadLen + maxPayload - 1) / maxPayload = (payloadLen - 1) / maxPayload + 1 := by
  rw [show payloadLen + maxPayload - 1 = payloadLen - 1 + maxPayload by omega, Nat.add_div_right _ hmax]

theorem planned_div {payloadLen maxPayload : Nat} (hmax : 0 < maxPayload) (hpayload : 0 < payloadLen)
    (hfew : (payloadLen - 1) / maxPayload ≤ fragmentMaxIntermediateSegments) :
    Planned payloadLen maxPayload ((payloadLen - 1) / maxPayload) where
  few := hfew
  below := fun _ => by
    have := Nat.div_mul_le_self (payloadLen - 1) maxPayload
    omega
  rest := by
    have := Nat.lt_mul_of_div_lt (Nat.lt_succ_self ((payloadLen - 1) / maxPayload)) hmax
    rw [Nat.succ_mul] at this
    omega

theorem fragmentPlan_planned {payloadLen maxPayload count : Nat} {plan : List FragmentSegment}
    (h : fragmentPlan payloadLen maxPayload count = .ok plan) :
    ∃ n, Planned payloadLen maxPayload n ∧ plan = planOf payloadLen maxPayload n := by
  unfold fragmentPlan at h
  generalize hexpected : fragmentPlanCount payloadLen maxPayload = expected at h
  dsimp only at h
  split at h
  · cases h
  split at h
  · cases h
  rename_i hzero _
  unfold fragmentPlanCount at hexpected
  have hsingle : payloadLen ≤ maxPayload → Planned payloadLen maxPayload 0 := fun hle =>
    { few := Nat.zero_le _, below := fun h0 => absurd rfl h0, rest := by omega }
  split at h
  · rename_i hone
    cases h
    refine ⟨0, hsingle ?_, (planOf_zero _ _).symm⟩
    split at hexpected
    · omega
    split at hexpected
    · omega
    split at hexpected
    · assumption
    dsimp only at hexpected
    rw [ceil_div (by omega) (by omega)] at hexpected
    have := Nat.div_pos (a := payloadLen - 1) (b := maxPayload) (by omega) (by omega)
    split at hexpected <;> omega
  · rename_i hone
    cases h
    split at hexpected
    · omega
    split at hexpected
    · omega
    split at hexpected
    · omega
    dsimp only at hexpected
    rw [ceil_div (by omega) (by omega)] at hexpected
    split at hexpected
    · omega
    rename_i hmax hlong hfew
    refine ⟨(payloadLen - 1) / maxPayload, planned_div (by omega) (by omega) (by omega), ?_⟩
    rw [← hexpected]
    rfl

theorem fragmentPlan_cases {payloadLen maxPayload count : Nat} {plan : List FragmentSegment}
    (h : fragmentPlan payloadLen maxPayload count = .ok plan) :
    plan.length = 1 ∨
      ∃ n, 1 ≤ n ∧ n ≤ fragmentMaxIntermediateSegments ∧ 1 ≤ maxPayload ∧ n * maxPayload < payloadLen ∧
        plan = (List.range n).map (intermediate maxPayload) ++ [finalSegment payloadLen maxPayload n] := by
  obtain ⟨n, hn, rfl⟩ := fragmentPlan_planned h
  rcases Nat.eq_zero_or_pos n with rfl | hpos
  · exact .inl rfl
  · have hbelow := hn.below (by omega)
    refine .inr ⟨n, hpos, hn.few, ?_, hbelow, rfl⟩
    rcases Nat.eq_zero_or_pos maxPayload with rfl | hmax
    · have := hn.rest
      omega
    · exact hmax

namespace SizeT

theorem toNat_ceil {payloadLen : UInt64} (maxPayload : UInt64) (hpayload : payloadLen ≠ 0) :
    (payloadLen + maxPayload - 1).toNat = (payloadLen.toNat + maxPayload.toNat - 1) % 2 ^ 64 := by
  have hpos : payloadLen.toNat ≠ 0 := fun h0 => hpayload (UInt64.toNat_inj.mp h0)
  have := payloadLen.toNat_lt
  have := maxPayload.toNat_lt
  have hone : (1 : UInt64).toNat = 1 := rfl
  rw [UInt64.toNat_sub, UInt64.toNat_add, hone]
  omega

/-- What `rcp_fragment_plan_count` answers, where it does not answer 0. A sum that wraps answers 0 too. -/
theorem fragmentPlanCount_planned {payloadLen maxPayload : UInt64} (h : fragmentPlanCount payloadLen maxPayload ≠ 0) :
    ∃ n, Planned payloadLen.toNat maxPayload.toNat n ∧ (fragmentPlanCount payloadLen maxPayload).toNat = n + 1 := by
  have hsingle : payloadLen.toNat ≤ maxPayload.toNat →
      ∃ n, Planned payloadLen.toNat maxPayload.toNat n ∧ (1 : UInt64).toNat = n + 1 := fun hle =>
    ⟨0, { few := Nat.zero_le _, below := fun h0 => absurd rfl h0, rest := by omega }, rfl⟩
  unfold fragmentPlanCount at h ⊢
  split
  · rename_i hzero
    subst hzero
    exact hsingle (Nat.zero_le _)
  rename_i hpayload
  split
  · simp_all
  rename_i hmax
  split
  · rename_i hle
    exact hsingle (UInt64.le_iff_toNat_le.mp hle)
  rename_i hlong
  rw [if_neg hpayload, if_neg hmax, if_neg hlong] at h
  dsimp only at h ⊢
  split
  · simp_all
  rename_i hfew
  have hmaxPos : 0 < maxPayload.toNat := by
    rw [Nat.pos_iff_ne_zero]
    exact fun h0 => hmax (UInt64.toNat_inj.mp h0)
  rw [UInt64.le_iff_toNat_le] at hlong
  have hsum := toNat_ceil maxPayload hpayload
  have hpayloadPos : 0 < payloadLen.toNat := by omega
  by_cases hwrap : payloadLen.toNat + maxPayload.toNat - 1 < 2 ^ 64
  · have hcount : ((payloadLen + maxPayload - 1) / maxPayload).toNat = (payloadLen.toNat - 1) / maxPayload.toNat + 1 := by
      rw [UInt64.toNat_div, hsum, Nat.mod_eq_of_lt hwrap, ceil_div hmaxPos hpayloadPos]
    have hfew' : (payloadLen.toNat - 1) / maxPayload.toNat ≤ fragmentMaxIntermediateSegments := by
      rw [gt_iff_lt, UInt64.lt_iff_toNat_lt, UInt64.toNat_sub, hcount] at hfew
      have := ((payloadLen + maxPayload - 1) / maxPayload).toNat_lt
      rw [hcount] at this
      have h4096 : (4096 : UInt64).toNat = 4096 := rfl
      have hone : (1 : UInt64).toNat = 1 := rfl
      rw [fragmentMaxIntermediateSegments]
      omega
    exact ⟨_, planned_div hmaxPos hpayloadPos hfew', hcount⟩
  · -- the sum has wrapped to less than one segment, so that the count is 0 and the number of intermediates huge
    have hcount : (payloadLen + maxPayload - 1) / maxPayload = 0 := by
      apply UInt64.toNat_inj.mp
      rw [UInt64.toNat_div, hsum]
      apply Nat.div_eq_of_lt
      have := payloadLen.toNat_lt
      have := maxPayload.toNat_lt
      omega
    rw [hcount] at hfew
    exact absurd (by decide) hfew

/-- The loop writes the intermediate segments from the `i`-th on, as long as `off` does not wrap. -/
theorem planLoop_eq (maxPayload : UInt64) (n : Nat) (i off : UInt64) (hoff : off.toNat = i.toNat * maxPayload.toNat)
    (hi : i.toNat + n ≤ fragmentMaxIntermediateSegments) (hend : (i.toNat + n) * maxPayload.toNat < 2 ^ 64) :
    (planLoop maxPayload n i off).1 = (List.range' i.toNat n).map (intermediate maxPayload.toNat) ∧
      (planLoop maxPayload n i off).2.toNat = (i.toNat + n) * maxPayload.toNat := by
  induction n generalizing i off with
  | zero => exact ⟨rfl, by rw [planLoop, Nat.add_zero]; exact hoff⟩
  | succ n ih =>
    rw [fragmentMaxIntermediateSegments] at hi
    have hi' : (i + 1).toNat = i.toNat + 1 := by
      rw [UInt64.toNat_add]
      exact Nat.mod_eq_of_lt (by have hone : (1 : UInt64).toNat = 1 := rfl; omega)
    have hnext : (i.toNat + 1) * maxPayload.toNat ≤ (i.toNat + (n + 1)) * maxPayload.toNat :=
      Nat.mul_le_mul_right _ (by omega)
    have hoff' : (off + maxPayload).toNat = (i + 1).toNat * maxPayload.toNat := by
      rw [UInt64.toNat_add, hoff, hi', Nat.succ_mul]
      rw [Nat.succ_mul] at hnext
      exact Nat.mod_eq_of_lt (by omega)
    obtain ⟨hrest, hlast⟩ := ih _ _ hoff' (by rw [hi', fragmentMaxIntermediateSegments]; omega)
      (by rw [hi', Nat.add_right_comm, Nat.add_assoc]; exact hend)
    refine ⟨?_, ?_⟩
    · rw [List.range'_succ, List.map_cons, ← hi', ← hrest, planLoop, intermediate, hoff]
      rfl
    · rw [planLoop, hlast, hi', Nat.add_right_comm, Nat.add_assoc]

/-- In `size_t` arithmetic too, what `rcp_fragment_plan` writes is the plan. -/
theorem fragmentPlan_planned {payloadLen maxPayload count : UInt64} {plan : List FragmentSegment}
    (h : fragmentPlan payloadLen maxPayload count = .ok plan) :
    ∃ n, Planned payloadLen.toNat maxPayload.toNat n ∧ plan = planOf payloadLen.toNat maxPayload.toNat n := by
  unfold fragmentPlan at h
  dsimp only at h
  split at h
  · cases h
  split at h
  · cases h
  rename_i hzero _
  obtain ⟨n, hn, hcount⟩ := fragmentPlanCount_planned hzero
  refine ⟨n, hn, ?_⟩
  split at h
  · rename_i hone
    cases h
    rw [hone] at hcount
    obtain rfl : n = 0 := (Nat.succ.inj hcount).symm
    exact (planOf_zero _ _).symm
  · rename_i hone
    have hpred : (fragmentPlanCount payloadLen maxPayload - 1).toNat = n := by
      have := (fragmentPlanCount payloadLen maxPayload).toNat_lt
      have hone' : (1 : UInt64).toNat = 1 := rfl
      rw [UInt64.toNat_sub, hcount]
      omega
    have hbelow : n * maxPayload.toNat < payloadLen.toNat := by
      refine hn.below fun h0 => hone (UInt64.toNat_inj.mp ?_)
      rw [hcount, h0]
      rfl
    have := payloadLen.toNat_lt
    have hzero' : (0 : UInt64).toNat = 0 := rfl
    have hfew := hn.few
    obtain ⟨hloop, hoff⟩ := planLoop_eq maxPayload n 0 0 (by rw [hzero', Nat.zero_mul]) (by omega)
      (by rw [hzero', Nat.zero_add]; omega)
    rw [hzero', Nat.zero_add] at hoff
    rw [hpred] at h
    cases h
    rw [hloop, hzero', ← List.range_eq_range', planOf, finalSegment, hoff, UInt64.toNat_sub_of_le, hoff]
    rw [UInt64.le_iff_toNat_le, hoff]
    omega

end SizeT

/-! ### The segments of a plan -/

def FragmentSegment.span (seg : FragmentSegment) : Nat × Nat := (seg.offset, seg.len)

/-- The full segments follow each other. -/
theorem tiles_intermediates (maxPayload n : Nat) :
    Lib.Tiles 0 (((List.range n).map (intermediate maxPayload)).map FragmentSegment.span) (n * maxPayload) := by
  induction n with
  | zero =>
    rw [Nat.zero_mul]
    rfl
  | succ n ih =>
    rw [List.range_succ, List.map_append, List.map_append, Nat.succ_mul]
    exact ih.append (Lib.Tiles.single _ _)

namespace Planned

variable {payloadLen maxPayload n : Nat}

theorem le (h : Planned payloadLen maxPayload n) : n * maxPayload ≤ payloadLen := by
  rcases Nat.eq_zero_or_pos n with rfl | hn
  · rw [Nat.zero_mul]
    exact Nat.zero_le _
  · exact Nat.le_of_lt (h.below (Nat.ne_of_gt hn))

theorem tiles (h : Planned payloadLen maxPayload n) :
    Lib.Tiles 0 ((planOf payloadLen maxPayload n).map FragmentSegment.span) payloadLen := by
  have hlast := Lib.Tiles.single (n * maxPayload) (payloadLen - n * maxPayload)
  rw [Nat.add_sub_cancel' h.le] at hlast
  rw [planOf, List.map_append]
  exact (tiles_intermediates maxPayload n).append hlast

theorem len_le (h : Planned payloadLen maxPayload n) : ∀ seg ∈ planOf payloadLen maxPayload n, seg.len ≤ maxPayload := by
  intro seg hseg
  rcases List.mem_append.mp hseg with hseg | hseg
  · obtain ⟨i, -, rfl⟩ := List.mem_map.mp hseg
    exact Nat.le_refl _
  · rw [List.mem_singleton.mp hseg]
    exact h.rest

end Planned

/-! ### The slices of a plan, fed in order -/

/-- A decoded fragment, as it is fed. -/
structure DecodedFragment where
  ms : Bool
  segmentNum : UInt16
  payload : Octets
deriving DecidableEq, Repr

/-- What a planned segment carries of the payload. -/
def FragmentSegment.cut (payload : Octets) (seg : FragmentSegment) : DecodedFragment :=
  { ms := seg.ms, segmentNum := seg.segmentNum, payload := Lib.slice payload seg.span }

namespace Reassembler

/-- Fragments fed in order: the results, and the reassembler at the end. -/
def feedAll (r : Reassembler) : List DecodedFragment → List ReasmResult × Reassembler
  | [] => ([], r)
  | f :: rest =>
    let (result, next) := r.feed f.ms f.segmentNum f.payload
    let (results, last) := next.feedAll rest
    (result :: results, last)

theorem feedAll_append (r : Reassembler) (a b : List DecodedFragment) :
    r.feedAll (a ++ b) = ((r.feedAll a).1 ++ ((r.feedAll a).2.feedAll b).1, ((r.feedAll a).2.feedAll b).2) := by
  induction a generalizing r with
  | nil => rfl
  | cons f rest ih => simp only [List.cons_append, feedAll, ih]

/-- A reassembler that has taken the first `n` full segments of a payload and waits for more. -/
def partway (maxTotalLen : Nat) (payload : Octets) (maxPayload n : Nat) : Reassembler where
  collecting := true
  expectedSegmentNum := UInt16.ofNat n
  buf := payload.take (n * maxPayload)
  maxTotalLen := maxTotalLen

/-- The reassembler behind the first `n` full segments. -/
def behind (maxTotalLen : Nat) (payload : Octets) (maxPayload : Nat) : Nat → Reassembler
  | 0 => init maxTotalLen
  | n + 1 => partway maxTotalLen payload maxPayload (n + 1)

variable {maxTotalLen : Nat} {payload : Octets}

theorem feed_first (hlen : payload.length ≤ maxTotalLen) (maxPayload : Nat) :
    (init maxTotalLen).feed true (UInt16.ofNat 0) ((payload.drop (0 * maxPayload)).take maxPayload) =
      (.continue, partway maxTotalLen payload maxPayload 1) := by
  have hfits : ¬(payload.take maxPayload).length > maxTotalLen - ([] : Octets).length := by
    rw [List.length_take, List.length_nil]
    omega
  simp only [feed, init, Nat.zero_mul, List.drop_zero, Bool.not_false, if_true, Bool.not_true, Bool.false_eq_true,
    if_false, List.nil_append, partway, Nat.one_mul, hfits]
  rfl

theorem feed_next (hlen : payload.length ≤ maxTotalLen) (maxPayload n : Nat) :
    (partway maxTotalLen payload maxPayload n).feed true (UInt16.ofNat n)
        ((payload.drop (n * maxPayload)).take maxPayload) =
      (.continue, partway maxTotalLen payload maxPayload (n + 1)) := by
  have hfits : ¬((payload.drop (n * maxPayload)).take maxPayload).length >
      maxTotalLen - (payload.take (n * maxPayload)).length := by
    simp only [List.length_take, List.length_drop]
    omega
  have hnum : UInt16.ofNat n + 1 = UInt16.ofNat (n + 1) := (UInt16.ofNat_add n 1).symm
  simp only [feed, partway, Bool.not_true, Bool.false_eq_true, if_false, bne_self_eq_false, Bool.and_false, if_true,
    hfits, hnum, Nat.succ_mul, List.take_add]

theorem feed_last (hlen : payload.length ≤ maxTotalLen) (maxPayload n : Nat) :
    (partway maxTotalLen payload maxPayload n).feed false 0 (payload.drop (n * maxPayload)) =
      (.complete, { partway maxTotalLen payload maxPayload n with buf := payload, collecting := false }) := by
  have hfits : ¬(payload.drop (n * maxPayload)).length > maxTotalLen - (payload.take (n * maxPayload)).length := by
    simp only [List.length_take, List.length_drop]
    omega
  simp only [feed, partway, Bool.not_true, Bool.false_eq_true, if_false, Bool.false_and, hfits, List.take_append_drop]

/-- A message of one segment. -/
theorem feed_whole (hlen : payload.length ≤ maxTotalLen) :
    (init maxTotalLen).feed false 0 payload = (.complete, { init maxTotalLen with buf := payload }) := by
  have hfits : ¬payload.length > maxTotalLen - ([] : Octets).length := by
    rw [List.length_nil]
    omega
  simp only [feed, init, Bool.not_false, if_true, hfits, if_false, List.nil_append]

theorem feedAll_intermediates (hlen : payload.length ≤ maxTotalLen) (maxPayload n : Nat) :
    (init maxTotalLen).feedAll (((List.range n).map (intermediate maxPayload)).map (FragmentSegment.cut payload)) =
      (List.replicate n .continue, behind maxTotalLen payload maxPayload n) := by
  induction n with
  | zero => rfl
  | succ n ih =>
    have hstep : (behind maxTotalLen payload maxPayload n).feed true (UInt16.ofNat n)
        ((payload.drop (n * maxPayload)).take maxPayload) = (.continue, behind maxTotalLen payload maxPayload (n + 1)) := by
      cases n with
      | zero => exact feed_first hlen maxPayload
      | succ n => exact feed_next hlen maxPayload (n + 1)
    rw [List.range_succ, List.map_append, List.map_append, feedAll_append, ih]
    simp only [List.map_cons, List.map_nil, feedAll, FragmentSegment.cut, FragmentSegment.span, Lib.slice, intermediate,
      hstep, List.replicate_succ']

theorem planOf_results (payloadLen maxPayload n : Nat) :
    (planOf payloadLen maxPayload n).map (fun seg => if seg.ms then ReasmResult.continue else .complete) =
      List.replicate n .continue ++ [.complete] := by
  simp [planOf, intermediate, finalSegment, Function.comp_def]

/-- The slices of a plan give the payload back. -/
theorem feedAll_plan (hlen : payload.length ≤ maxTotalLen) (maxPayload n : Nat) :
    (init maxTotalLen).feedAll ((planOf payload.length maxPayload n).map (FragmentSegment.cut payload)) =
      (List.replicate n .continue ++ [.complete],
        { behind maxTotalLen payload maxPayload n with buf := payload, collecting := false }) := by
  have hcut : (finalSegment payload.length maxPayload n).cut payload =
      { ms := false, segmentNum := 0, payload := payload.drop (n * maxPayload) } := by
    simp only [FragmentSegment.cut, FragmentSegment.span, finalSegment, Lib.slice]
    rw [List.take_of_length_le (by rw [List.length_drop])]
  have hfinal : (behind maxTotalLen payload maxPayload n).feed false 0 (payload.drop (n * maxPayload)) =
      (.complete, { behind maxTotalLen payload maxPayload n with buf := payload, collecting := false }) := by
    cases n with
    | zero =>
      rw [Nat.zero_mul, List.drop_zero]
      exact feed_whole hlen
    | succ n => exact feed_last hlen maxPayload (n + 1)
  rw [planOf, List.map_append, feedAll_append, feedAll_intermediates hlen]
  simp only [List.map_cons, List.map_nil, feedAll, hcut, hfinal]

/-! ### Any fragments -/

/-- The fragment has been taken into the buffer. -/
def Accepted (result : Option ReasmResult) : Prop := result = some .continue ∨ result = some .complete

instance : DecidablePred Accepted := fun _ => inferInstanceAs (Decidable (_ ∨ _))

theorem append_eq (r : Reassembler) (grows : Bool) (payload : Octets) :
    r.append grows payload = none ∨ r.append grows payload = some { r with buf := r.buf ++ payload } := by
  unfold append
  split
  · rename_i hempty
    rw [List.length_eq_zero_iff.mp hempty, List.append_nil]
    exact .inr rfl
  split
  · exact .inl rfl
  · exact .inr rfl

theorem feedAlloc_true (r : Reassembler) (ms : Bool) (segmentNum : UInt16) (payload : Octets) :
    r.feedAlloc true ms segmentNum payload = (some (r.feed ms segmentNum payload).1, (r.feed ms segmentNum payload).2) := by
  have happend : r.append true payload = some { r with buf := r.buf ++ payload } := by
    rcases List.eq_nil_or_concat payload with rfl | ⟨rest, octet, rfl⟩
    · simp only [append, List.length_nil, if_true, List.append_nil]
    · simp [append]
  unfold feedAlloc feed
  rw [happend]
  dsimp only
  split
  · split
    · rfl
    split
    · rfl
    split <;> rfl
  · split
    · rfl
    split
    · rfl
    split <;> rfl

/-- The number the next intermediate fragment has to carry. -/
def wanted (r : Reassembler) : UInt16 := if r.collecting then r.expectedSegmentNum else 0

/-- All that a fed fragment can do. -/
theorem feedAlloc_cases (r : Reassembler) (grows ms : Bool) (segmentNum : UInt16) (payload : Octets) :
    (∃ result, ¬Accepted result ∧ r.feedAlloc grows ms segmentNum payload = (result, r)) ∨
      (payload.length ≤ r.maxTotalLen - r.buf.length ∧
        ((ms = true ∧ segmentNum = r.wanted ∧
            r.feedAlloc grows ms segmentNum payload =
              (some .continue,
                { r with buf := r.buf ++ payload, collecting := true, expectedSegmentNum := r.wanted + 1 })) ∨
          (ms = false ∧
            r.feedAlloc grows ms segmentNum payload =
              (some .complete, { r with buf := r.buf ++ payload, collecting := false })))) := by
  unfold feedAlloc wanted
  by_cases hlarge : payload.length > r.maxTotalLen - r.buf.length
  · left
    rw [if_pos hlarge, if_pos hlarge]
    split
    · exact ⟨_, by decide, rfl⟩
    split
    · exact ⟨_, by decide, rfl⟩
    · exact ⟨_, by decide, rfl⟩
  rw [if_neg hlarge, if_neg hlarge]
  have hfits := Nat.le_of_not_lt hlarge
  rcases append_eq r grows payload with hnone | hsome
  · left
    rw [hnone]
    dsimp only
    split
    · split
      · exact ⟨_, by decide, rfl⟩
      split
      · exact ⟨_, by decide, rfl⟩
      · exact ⟨_, by decide, rfl⟩
    split
    · exact ⟨_, by decide, rfl⟩
    · exact ⟨_, by decide, rfl⟩
  rw [hsome]
  dsimp only
  cases hcollecting : r.collecting with
  | false =>
    rw [Bool.not_false, if_pos rfl]
    cases ms with
    | false => exact .inr ⟨hfits, .inr ⟨rfl, by simp [← hcollecting]⟩⟩
    | true =>
      by_cases hnum : segmentNum = 0
      · exact .inr ⟨hfits, .inl ⟨rfl, by simp [hnum], by simp [hnum]⟩⟩
      · exact .inl ⟨some .outOfOrder, by decide, by simp [hnum]⟩
  | true =>
    rw [Bool.not_true, if_neg (by decide)]
    cases ms with
    | false => exact .inr ⟨hfits, .inr ⟨rfl, rfl⟩⟩
    | true =>
      by_cases hnum : segmentNum = r.expectedSegmentNum
      · exact .inr ⟨hfits, .inl ⟨rfl, by simp [hnum], by simp [hnum]⟩⟩
      · exact .inl ⟨some .outOfOrder, by decide, by simp [hnum]⟩

/-- `rcp_fragment_reassembler_init` and `rcp_fragment_reassembler_reset` leave the reassembler so. -/
inductive Fresh : Reassembler → Prop
  | init (maxTotalLen : Nat) : Fresh (init maxTotalLen)
  | reset (r : Reassembler) : Fresh r.reset

theorem Fresh.eq_init {r : Reassembler} (h : r.Fresh) : r = Reassembler.init r.maxTotalLen := by
  cases h with
  | init => rfl
  | reset => rfl

/-- A call on a reassembler in use. -/
inductive Call where
  | feed (grows : Bool) (f : DecodedFragment)
  | reset
deriving DecidableEq, Repr

/-- A reassembler beside the fragments it has accepted since it was reset last. -/
structure Logged where
  reasm : Reassembler
  accepted : List DecodedFragment := []
deriving DecidableEq, Repr

namespace Logged

def after (s : Logged) : Call → Logged
  | .reset => { reasm := s.reasm.reset }
  | .feed grows f =>
    let out := s.reasm.feedAlloc grows f.ms f.segmentNum f.payload
    { reasm := out.2, accepted := if Accepted out.1 then s.accepted ++ [f] else s.accepted }

def run (maxTotalLen : Nat) (calls : List Call) : Logged := calls.foldl after { reasm := .init maxTotalLen }

/-- The fragments accepted since the last one with ms clear, if there is one. -/
def current (s : Logged) : List DecodedFragment := s.accepted.rtakeWhile (·.ms)

/-- Their segment numbers count up from 0. -/
def Numbered (fragments : List DecodedFragment) : Prop :=
  fragments.map (·.segmentNum) = (List.range fragments.length).map UInt16.ofNat

structure Inv (maxTotalLen : Nat) (s : Logged) : Prop where
  max : s.reasm.maxTotalLen = maxTotalLen
  fits : s.reasm.buf.length ≤ s.reasm.maxTotalLen
  collecting : s.reasm.collecting = true → s.current ≠ []
  wanted : s.reasm.wanted = UInt16.ofNat s.current.length
  numbered : Numbered s.current

theorem inv_fresh {s : Logged} (hreasm : s.reasm.Fresh) (haccepted : s.accepted = []) : Inv s.reasm.maxTotalLen s := by
  have hinit := hreasm.eq_init
  have hcurrent : s.current = [] := by rw [current, haccepted, List.rtakeWhile_nil]
  refine { max := rfl, fits := ?_, collecting := fun h => ?_, wanted := ?_, numbered := ?_ }
  · rw [hinit]
    exact Nat.zero_le _
  · rw [hinit] at h
    cases h
  · rw [hcurrent, hinit]
    rfl
  · rw [hcurrent]
    rfl

theorem Inv.after {maxTotalLen : Nat} {s : Logged} (h : Inv maxTotalLen s) (c : Call) : Inv maxTotalLen (s.after c) := by
  cases c with
  | reset =>
    rw [← h.max]
    exact inv_fresh (s := s.after .reset) (.reset s.reasm) rfl
  | feed grows f =>
    have hfits := h.fits
    rcases feedAlloc_cases s.reasm grows f.ms f.segmentNum f.payload with
      ⟨result, hrefused, hfeed⟩ | ⟨hlen, ⟨hms, hnum, hfeed⟩ | ⟨hms, hfeed⟩⟩
    · rw [Logged.after, hfeed]
      dsimp only
      rw [if_neg hrefused]
      exact h
    · have hcurrent : (s.after (.feed grows f)).current = s.current ++ [f] := by
        rw [current, Logged.after, hfeed]
        exact List.rtakeWhile_concat_pos _ _ _ hms
      refine { max := ?_, fits := ?_, collecting := fun _ => ?_, wanted := ?_, numbered := ?_ }
      · rw [Logged.after, hfeed]
        exact h.max
      · rw [Logged.after, hfeed]
        simp only [List.length_append]
        omega
      · simp [hcurrent]
      · rw [hcurrent, Logged.after, hfeed, List.length_append, List.length_singleton, UInt16.ofNat_add, ← h.wanted]
        rfl
      · rw [hcurrent, Numbered, List.map_append, List.length_append, List.length_singleton, List.range_succ,
          List.map_append, List.map_singleton, List.map_singleton, hnum, h.wanted, h.numbered]
    · have hcurrent : (s.after (.feed grows f)).current = [] := by
        rw [current, Logged.after, hfeed]
        exact List.rtakeWhile_concat_neg _ _ _ (by simp [hms])
      refine { max := ?_, fits := ?_, collecting := fun hc => ?_, wanted := ?_, numbered := ?_ }
      · rw [Logged.after, hfeed]
        exact h.max
      · rw [Logged.after, hfeed]
        simp only [List.length_append]
        omega
      · rw [Logged.after, hfeed] at hc
        cases hc
      · rw [hcurrent, Logged.after, hfeed]
        rfl
      · rw [hcurrent]
        rfl

theorem run_inv (maxTotalLen : Nat) (calls : List Call) : Inv maxTotalLen (run maxTotalLen calls) := by
  induction calls using List.reverseRecOn with
  | nil => exact inv_fresh (s := { reasm := .init maxTotalLen }) (.init maxTotalLen) rfl
  | append_singleton calls c ih =>
    rw [run, List.foldl_concat]
    exact ih.after c

/-- Feeding `f` ends a reassembly in progress. -/
def Completes (s : Logged) (grows : Bool) (f : DecodedFragment) : Prop :=
  s.reasm.collecting = true ∧ (s.reasm.feedAlloc grows f.ms f.segmentNum f.payload).1 = some .complete

instance (s : Logged) (grows : Bool) (f : DecodedFragment) : Decidable (s.Completes grows f) :=
  inferInstanceAs (Decidable (_ ∧ _))

/-- What has been accepted is the messages that are over, if there are any, and the fragments since. -/
theorem current_split (s : Logged) :
    ∃ earlier, s.accepted = earlier ++ s.current ∧ (∀ g ∈ earlier.getLast?, g.ms = false) ∧
      ∀ g ∈ s.current, g.ms = true := by
  refine ⟨s.accepted.rdropWhile (·.ms), (List.rdropWhile_append_rtakeWhile ..).symm, fun g hg => ?_,
    fun g hg => List.mem_rtakeWhile_imp hg⟩
  obtain ⟨hne, rfl⟩ := List.mem_getLast?_eq_getLast hg
  exact Bool.not_eq_true _ ▸ List.rdropWhile_last_not (·.ms) s.accepted hne

theorem completes_cases {s : Logged} {grows : Bool} {f : DecodedFragment} (h : s.Completes grows f) : f.ms = false := by
  rcases feedAlloc_cases s.reasm grows f.ms f.segmentNum f.payload with
    ⟨result, hrefused, hfeed⟩ | ⟨-, ⟨-, -, hfeed⟩ | ⟨hms, -⟩⟩
  · have hresult := h.2
    rw [hfeed] at hresult
    exact absurd (.inr hresult) hrefused
  · have hresult := h.2
    rw [hfeed] at hresult
    cases hresult
  · exact hms

/-- Empty fragments numbered in order are taken without end. -/
theorem run_numbered (maxTotalLen n : Nat) :
    run maxTotalLen ((List.range (n + 1)).map fun i => .feed true ⟨true, UInt16.ofNat i, []⟩) =
      { reasm := { collecting := true, expectedSegmentNum := UInt16.ofNat (n + 1), maxTotalLen := maxTotalLen }
        accepted := (List.range (n + 1)).map fun i => ⟨true, UInt16.ofNat i, []⟩ } := by
  induction n with
  | zero => rfl
  | succ n ih =>
    rw [List.range_succ, List.map_append, List.map_append, run, List.foldl_append, ← run, ih]
    simp only [List.map_cons, List.map_nil, List.foldl_cons, List.foldl_nil, after, feedAlloc, Bool.not_true,
      Bool.false_eq_true, if_false, bne_self_eq_false, Bool.and_false, append, List.length_nil, if_true, Accepted,
      UInt16.ofNat_add (n + 1) 1]
    rfl

end Logged

/-- A plan cuts the payload into consecutive segments, all but the last numbered in order with ms set, and fed in
    order they give the payload back. Whatever is fed, an error changes nothing, the buffer stays within its bound,
    and a reassembly is complete only behind fragments numbered in order since the message before it was complete. -/
theorem reassembly_exact :
    (∀ (payloadLen maxPayload count : UInt64) (plan : List FragmentSegment),
      SizeT.fragmentPlan payloadLen maxPayload count = .ok plan →
        Lib.Tiles 0 (plan.map FragmentSegment.span) payloadLen.toNat ∧ (∀ seg ∈ plan, seg.len ≤ maxPayload.toNat) ∧
        (∃ segs last, plan = segs ++ [last] ∧ last.ms = false ∧
          ∀ (i : Nat) (hi : i < segs.length), segs[i].ms = true ∧ segs[i].segmentNum.toNat = i ∧ i < 4096) ∧
        ∀ (payload : Octets) (r : Reassembler), payload.length = payloadLen.toNat → r.Fresh →
          payload.length ≤ r.maxTotalLen →
          (r.feedAll (plan.map (FragmentSegment.cut payload))).1 =
              plan.map (fun seg => if seg.ms then .continue else .complete) ∧
            (r.feedAll (plan.map (FragmentSegment.cut payload))).2.buf = payload) ∧
    ∀ (maxTotalLen : Nat) (calls : List Call),
      (Logged.run maxTotalLen calls).reasm.buf.length ≤ maxTotalLen ∧
      ∀ (grows : Bool) (f : DecodedFragment),
        (¬Accepted ((Logged.run maxTotalLen calls).reasm.feedAlloc grows f.ms f.segmentNum f.payload).1 →
          ((Logged.run maxTotalLen calls).reasm.feedAlloc grows f.ms f.segmentNum f.payload).2 =
            (Logged.run maxTotalLen calls).reasm) ∧
        ((Logged.run maxTotalLen calls).Completes grows f →
          f.ms = false ∧
          ∃ earlier current, (Logged.run maxTotalLen calls).accepted = earlier ++ current ∧
            (∀ g ∈ earlier.getLast?, g.ms = false) ∧ current ≠ [] ∧ (∀ g ∈ current, g.ms = true) ∧
            Logged.Numbered current) := by
  refine ⟨fun payloadLen maxPayload count plan h => ?_, fun maxTotalLen calls => ?_⟩
  · obtain ⟨n, hn, rfl⟩ := SizeT.fragmentPlan_planned h
    refine ⟨hn.tiles, hn.len_le, ⟨_, _, rfl, rfl, fun i hi => ?_⟩, fun payload r hlen hfresh hmax => ?_⟩
    · rw [List.length_map, List.length_range] at hi
      have hi' : i < 4096 := Nat.lt_of_lt_of_le hi hn.few
      rw [List.getElem_map, List.getElem_range]
      exact ⟨rfl, UInt16.toNat_ofNat_of_lt' (Nat.lt_trans hi' (by decide)), hi'⟩
    · have hfeed := feedAll_plan hmax maxPayload.toNat n
      rw [hlen] at hfeed
      rw [hfresh.eq_init, hfeed]
      exact ⟨(planOf_results ..).symm, rfl⟩
  · have hinv := Logged.run_inv maxTotalLen calls
    refine ⟨Nat.le_trans hinv.fits (Nat.le_of_eq hinv.max), fun grows f => ⟨fun hrefused => ?_, fun hcomplete => ?_⟩⟩
    · rcases feedAlloc_cases (Logged.run maxTotalLen calls).reasm grows f.ms f.segmentNum f.payload with
        ⟨result, -, hfeed⟩ | ⟨-, ⟨-, -, hfeed⟩ | ⟨-, hfeed⟩⟩
      · rw [hfeed]
      · exact absurd (.inl (by rw [hfeed])) hrefused
      · exact absurd (.inr (by rw [hfeed])) hrefused
    · obtain ⟨earlier, hsplit, hearlier, hms⟩ := (Logged.run maxTotalLen calls).current_split
      exact ⟨Logged.completes_cases hcomplete, earlier, _, hsplit, hearlier, hinv.collecting hcomplete.1, hms,
        hinv.numbered⟩

/-- Five octets in segments of two. -/
theorem reassembly_exact_threeSegments :
    ((init 5).feedAll ((planOf 5 2 2).map (FragmentSegment.cut [1, 2, 3, 4, 5]))).2.buf = [1, 2, 3, 4, 5] ∧
      ∃ earlier current,
        (Logged.run 5 [.feed true ⟨true, 0, [1, 2]⟩]).accepted = earlier ++ current ∧
          (∀ g ∈ earlier.getLast?, g.ms = false) ∧ current ≠ [] ∧ (∀ g ∈ current, g.ms = true) ∧
          Logged.Numbered current :=
  ⟨((reassembly_exact.1 5 2 3 (planOf 5 2 2) rfl).2.2.2 [1, 2, 3, 4, 5] (init 5) rfl (.init 5) (by decide)).2,
    (((reassembly_exact.2 5 [.feed true ⟨true, 0, [1, 2]⟩]).2 true ⟨false, 0, [3]⟩).2 (by decide)).2⟩

/-- A message that is over without a reset stays among the fragments since the reset, and the 65537th intermediate
    fragment carries number 0 again. -/
theorem completes_without_reset :
    (¬∀ (maxTotalLen : Nat) (calls : List Call) (grows : Bool) (f : DecodedFragment),
      (Logged.run maxTotalLen calls).Completes grows f →
        ∀ g ∈ (Logged.run maxTotalLen calls).accepted, g.ms = true) ∧
    ¬∀ (maxTotalLen : Nat) (calls : List Call) (grows : Bool) (f : DecodedFragment),
      (Logged.run maxTotalLen calls).Completes grows f →
        ∀ (i : Nat) (hi : i < (Logged.run maxTotalLen calls).accepted.length),
          ((Logged.run maxTotalLen calls).accepted[i]).ms = true →
            ((Logged.run maxTotalLen calls).accepted[i]).segmentNum.toNat = i := by
  refine ⟨fun h => ?_, fun h => ?_⟩
  · exact absurd (h 8 [.feed true ⟨false, 0, [1]⟩, .feed true ⟨true, 0, [2]⟩] true ⟨false, 0, [3]⟩ (by decide)
      ⟨false, 0, [1]⟩ (by decide)) (by decide)
  · have hrun := Logged.run_numbered 0 65536
    have hnum := h 0 ((List.range (65536 + 1)).map fun i => .feed true ⟨true, UInt16.ofNat i, []⟩) true ⟨false, 0, []⟩
      (by rw [hrun]; exact ⟨rfl, rfl⟩) 65536 (by rw [hrun]; simp)
    simp only [hrun, List.getElem_map, List.getElem_range] at hnum
    exact absurd (hnum trivial) (by decide)

end Reassembler

end Rcp
