import Mathlib.Order.Bounds.Defs
import Rcp.Theorems.ResponseQueue

/-! Batches of responses: each takes as many of the oldest entries as fit, and batch after batch the queue is emptied in the
    order of the pushes. -/

namespace Rcp
namespace RespQueue

/-! ### What fits -/

/-- The numbers of oldest entries, at least one, whose octets fit. -/
def Fits (maxAvtpduSizeOctets : UInt64) (es : List RespEntry) : Set Nat :=
  { n | 0 < n ∧ n ≤ es.length ∧ total (es.take n) ≤ maxAvtpduSizeOctets.toNat }

/-- A batch is the longest that fits, a single entry that does not fit, or everything where there is no maximum. -/
structure Planned (maxAvtpduSizeOctets : UInt64) (es : List RespEntry) (n : Nat) : Prop where
  empty : n = 0 ↔ es = []
  unlimited : maxAvtpduSizeOctets = 0 → n = es.length
  longest : maxAvtpduSizeOctets ≠ 0 → 1 ∈ Fits maxAvtpduSizeOctets es → IsGreatest (Fits maxAvtpduSizeOctets es) n
  single : maxAvtpduSizeOctets ≠ 0 → es ≠ [] → 1 ∉ Fits maxAvtpduSizeOctets es → n = 1

variable {maxAvtpduSizeOctets : UInt64} {es : List RespEntry}

theorem total_take_add_total_drop (es : List RespEntry) (n : Nat) : total (es.take n) + total (es.drop n) = total es := by
  rw [total, total, total, ← List.sum_append, ← List.map_append, List.take_append_drop]

theorem total_take_mono {m n : Nat} (h : m ≤ n) (es : List RespEntry) : total (es.take m) ≤ total (es.take n) := by
  have hsplit := total_take_add_total_drop (es.take n) m
  rw [List.take_take, Nat.min_eq_left h] at hsplit
  omega

/-- The loop goes on past a slot as long as the entries up to it fit, and stops before the first that does not. -/
theorem planBatchLoop_spec (es : List RespEntry) {i : Nat} (hi : 0 < i) (sum : UInt64)
    (hmem : sum.toNat + total es < UInt64.size) :
    ∃ k ≤ es.length, planBatchLoop maxAvtpduSizeOctets es i sum = i + k ∧
      (k = 0 ∨ sum.toNat + total (es.take k) ≤ maxAvtpduSizeOctets.toNat) ∧
      (k < es.length → maxAvtpduSizeOctets.toNat < sum.toNat + total (es.take (k + 1))) := by
  induction es generalizing i sum with
  | nil => exact ⟨0, Nat.le_refl 0, rfl, Or.inl rfl, fun h => absurd h (Nat.lt_irrefl 0)⟩
  | cons e es ih =>
    rw [total_cons] at hmem
    have hnext : (sum + e.frame.len).toNat = sum.toNat + e.frame.data.length := by
      rw [UInt64.toNat_add, len_toNat]
      exact Nat.mod_eq_of_lt (Nat.lt_of_le_of_lt (by omega) hmem)
    have hone : total ((e :: es).take 1) = e.frame.data.length := by simp [total]
    by_cases hover : sum + e.frame.len > maxAvtpduSizeOctets
    · refine ⟨0, Nat.zero_le _, ?_, Or.inl rfl, fun _ => ?_⟩
      · rw [planBatchLoop]
        simp [hi, hover]
      · rw [hone, ← hnext]
        exact UInt64.lt_iff_toNat_lt.mp hover
    · have hfits : sum.toNat + e.frame.data.length ≤ maxAvtpduSizeOctets.toNat := by
        rw [← hnext]
        exact UInt64.le_iff_toNat_le.mp (UInt64.not_lt.mp hover)
      obtain ⟨k, hk, hloop, hin, hout⟩ := ih (show 0 < i + 1 by omega) (sum + e.frame.len) (by omega)
      rw [hnext] at hin hout
      refine ⟨k + 1, Nat.succ_le_succ hk, ?_, Or.inr ?_, fun hlt => ?_⟩
      · rw [planBatchLoop]
        simp only [hover, decide_false, Bool.and_false, Bool.false_eq_true, if_false]
        omega
      · rw [List.take_succ_cons, total_cons]
        rcases hin with rfl | hin
        · simpa [total] using hfits
        · omega
      · have hrest := hout (Nat.lt_of_succ_lt_succ hlt)
        rw [List.take_succ_cons, total_cons]
        omega

theorem planBatch_planned (q : RespQueue) (maxAvtpduSizeOctets : UInt64) (hmem : total q.entries < UInt64.size) :
    Planned maxAvtpduSizeOctets q.entries (q.planBatch maxAvtpduSizeOctets) := by
  obtain ⟨es, octets, cap, max, next, overflowed⟩ := q
  cases es with
  | nil =>
    refine ⟨iff_of_true rfl rfl, fun _ => rfl, fun _ hfits => ?_, fun _ hne => absurd rfl hne⟩
    exact absurd hfits.2.1 (Nat.not_succ_le_zero 0)
  | cons e es =>
    rw [planBatch, if_neg (by simp)]
    split
    · rename_i hzero
      exact ⟨iff_of_false (Nat.succ_ne_zero _) (List.cons_ne_nil e es), fun _ => rfl, fun hne => absurd hzero hne,
        fun hne => absurd hzero hne⟩
    · rename_i hne
      -- The first entry is taken without a look at the maximum.
      have hfirst : planBatchLoop maxAvtpduSizeOctets (e :: es) 0 0 = planBatchLoop maxAvtpduSizeOctets es 1 e.frame.len := by
        simp [planBatchLoop]
      change total (e :: es) < _ at hmem
      rw [total_cons] at hmem
      obtain ⟨k, hk, hloop, hin, hout⟩ := @planBatchLoop_spec maxAvtpduSizeOctets es 1 Nat.one_pos
        e.frame.len (by rw [len_toNat]; exact hmem)
      rw [len_toNat] at hin hout
      simp only
      rw [hfirst, hloop, Nat.add_comm 1 k]
      have htake : ∀ m, total ((e :: es).take (m + 1)) = e.frame.data.length + total (es.take m) := fun m => rfl
      refine ⟨iff_of_false (Nat.succ_ne_zero k) (List.cons_ne_nil e es), fun h => absurd h hne, fun _ hone => ?_,
        fun _ _ hone => ?_⟩
      · refine ⟨⟨Nat.succ_pos k, Nat.succ_le_succ hk, ?_⟩, fun m hm => ?_⟩
        · rw [htake]
          rcases hin with rfl | hin
          · exact hone.2.2
          · exact hin
        · by_contra hlong
          have hmono := total_take_mono (show k + 1 + 1 ≤ m by omega) (e :: es)
          have hover := hout (by have := hm.2.1; simp at this; omega)
          rw [htake] at hmono
          have := hm.2.2
          omega
      · rcases hin with rfl | hin
        · rfl
        · refine absurd ⟨Nat.one_pos, Nat.succ_le_succ (Nat.zero_le _), ?_⟩ hone
          rw [htake 0]
          simp [total]
          omega

/-! ### Rounds -/

/-- `n` pops in succession: what they hand out, and the queue after them. -/
def popBatch : Nat → RespQueue → List RcpBytes × RespQueue
  | 0, q => ([], q)
  | n + 1, q =>
    let (frame, q) := q.pop
    let (frames, q) := popBatch n q
    (frame.toList ++ frames, q)

/-- A round: as many pops as `plan_batch` says. -/
def round (maxAvtpduSizeOctets : UInt64) (q : RespQueue) : List RcpBytes × RespQueue :=
  popBatch (q.planBatch maxAvtpduSizeOctets) q

/-- Rounds in succession: their batches, and the queue after them. -/
def rounds (maxAvtpduSizeOctets : UInt64) : Nat → RespQueue → List (List RcpBytes) × RespQueue
  | 0, q => ([], q)
  | n + 1, q =>
    let (batch, q) := round maxAvtpduSizeOctets q
    let (batches, q) := rounds maxAvtpduSizeOctets n q
    (batch :: batches, q)

theorem popBatch_spec (n : Nat) (q : RespQueue) :
    (popBatch n q).1 = (q.entries.take n).map RespEntry.frame ∧ (popBatch n q).2.entries = q.entries.drop n := by
  induction n generalizing q with
  | zero => exact ⟨rfl, rfl⟩
  | succ n ih =>
    obtain ⟨es, octets, cap, max, next, overflowed⟩ := q
    cases es with
    | nil =>
      obtain ⟨hout, hleft⟩ := ih ⟨[], octets, cap, max, next, overflowed⟩
      simpa [popBatch, pop] using And.intro hout hleft
    | cons e es =>
      obtain ⟨hout, hleft⟩ := ih ⟨es, octets - e.frame.len, cap, max, next, overflowed⟩
      exact ⟨congrArg (e.frame :: ·) hout, hleft⟩

/-- The octets of a batch. -/
def batchOctets (batch : List RcpBytes) : Nat := (batch.map fun frame => frame.data.length).sum

theorem batchOctets_map (es : List RespEntry) : batchOctets (es.map RespEntry.frame) = total es := by
  rw [batchOctets, total, List.map_map]
  rfl

/-- A batch that goes out: of at least one frame, and within the maximum unless it is a single one. -/
def Batch (maxAvtpduSizeOctets : UInt64) (batch : List RcpBytes) : Prop :=
  batch ≠ [] ∧ (maxAvtpduSizeOctets ≠ 0 → batchOctets batch ≤ maxAvtpduSizeOctets.toNat ∨ batch.length = 1)

theorem round_batch {q : RespQueue} (hne : q.entries ≠ []) (hmem : total q.entries < UInt64.size) :
    0 < q.planBatch maxAvtpduSizeOctets ∧ Batch maxAvtpduSizeOctets (round maxAvtpduSizeOctets q).1 := by
  obtain ⟨hempty, -, hlongest, hsingle⟩ := planBatch_planned q maxAvtpduSizeOctets hmem
  have hpos : 0 < q.planBatch maxAvtpduSizeOctets := Nat.pos_of_ne_zero fun h => hne (hempty.mp h)
  have hlen : 0 < q.entries.length := List.length_pos_iff.mpr hne
  rw [round, (popBatch_spec _ q).1]
  refine ⟨hpos, ?_, fun hmax => ?_⟩
  · rw [← List.length_pos_iff, List.length_map, List.length_take]
    omega
  · by_cases hone : 1 ∈ Fits maxAvtpduSizeOctets q.entries
    · rw [batchOctets_map]
      exact Or.inl (hlongest hmax hone).1.2.2
    · right
      rw [hsingle hmax hne hone, List.length_map, List.length_take]
      omega

/-- No more rounds than entries empty the queue. -/
theorem rounds_spec (q : RespQueue) (hmem : total q.entries < UInt64.size) :
    ∃ n ≤ q.entries.length, (rounds maxAvtpduSizeOctets n q).2.entries = [] ∧
      (rounds maxAvtpduSizeOctets n q).1.flatten = q.frames ∧
      ∀ batch ∈ (rounds maxAvtpduSizeOctets n q).1, Batch maxAvtpduSizeOctets batch := by
  induction h : q.entries.length using Nat.strong_induction_on generalizing q with
  | h m ih =>
    subst h
    by_cases hne : q.entries = []
    · exact ⟨0, Nat.zero_le _, hne, by simp [rounds, frames, hne], fun batch hb => absurd hb List.not_mem_nil⟩
    · obtain ⟨hpos, hbatch⟩ := @round_batch maxAvtpduSizeOctets q hne hmem
      obtain ⟨hout, hleft⟩ := popBatch_spec (q.planBatch maxAvtpduSizeOctets) q
      have hlen : 0 < q.entries.length := List.length_pos_iff.mpr hne
      have hshort : (round maxAvtpduSizeOctets q).2.entries.length < q.entries.length := by
        rw [round, hleft, List.length_drop]
        omega
      have hsplit := total_take_add_total_drop q.entries (q.planBatch maxAvtpduSizeOctets)
      have hmem' : total (round maxAvtpduSizeOctets q).2.entries < UInt64.size := by
        rw [round, hleft]
        omega
      obtain ⟨n, hn, hempty, hframes, hbatches⟩ := ih _ hshort _ hmem' rfl
      refine ⟨n + 1, by omega, hempty, ?_, ?_⟩
      · calc (rounds maxAvtpduSizeOctets (n + 1) q).1.flatten
            = (round maxAvtpduSizeOctets q).1 ++ (rounds maxAvtpduSizeOctets n (round maxAvtpduSizeOctets q).2).1.flatten := rfl
          _ = (q.entries.take (q.planBatch maxAvtpduSizeOctets)).map RespEntry.frame ++
                (q.entries.drop (q.planBatch maxAvtpduSizeOctets)).map RespEntry.frame := by
              rw [hframes, frames, round, hout, hleft]
          _ = q.frames := by rw [← List.map_append, List.take_append_drop, frames]
      · intro batch hb
        rcases List.mem_cons.mp hb with rfl | hb
        · exact hbatch
        · exact hbatches batch hb

/-! ### The queue over every run -/

/-- After any calls, a batch is planned as `Planned` says, and no more rounds than there are entries empty the queue: they
    hand its frames out batch by batch, once each, in the order they were added. The frames of an unlimited queue are all
    in memory, so that their octets do not exceed a `size_t`. -/
theorem respQueue_batches (capacityOctets ceiling maxAvtpduSizeOctets : UInt64) (calls : List RespQueueCall) (q : RespQueue)
    (hrun : run capacityOctets ceiling calls = some q)
    (hmem : capacityOctets = 0 → total q.entries < UInt64.size) :
    Planned maxAvtpduSizeOctets q.entries (q.planBatch maxAvtpduSizeOctets) ∧
    ∃ n ≤ q.entries.length, (rounds maxAvtpduSizeOctets n q).2.entries = [] ∧
      (rounds maxAvtpduSizeOctets n q).1.flatten = q.frames ∧
      (∀ batch ∈ (rounds maxAvtpduSizeOctets n q).1, Batch maxAvtpduSizeOctets batch) ∧
      (handedOutBy (init capacityOctets ceiling) calls ++ (rounds maxAvtpduSizeOctets n q).1.flatten).Sublist
        (addedBy (init capacityOctets ceiling) calls) := by
  obtain ⟨q', hrun', hinv, hcap, -, horder⟩ := foldlM_spec (init_inv capacityOctets ceiling) calls
  obtain rfl : q' = q := Option.some.inj (hrun'.symm.trans hrun)
  have htotal : total q'.entries < UInt64.size := by
    by_cases hzero : capacityOctets = 0
    · exact hmem hzero
    · have hcap' : q'.capacityOctets = capacityOctets := hcap
      exact hinv.budget.lt_size (hcap'.symm ▸ hzero)
  obtain ⟨n, hn, hempty, hframes, hbatches⟩ := @rounds_spec maxAvtpduSizeOctets q' htotal
  refine ⟨planBatch_planned q' maxAvtpduSizeOctets htotal, n, hn, hempty, hframes, hbatches, ?_⟩
  rw [hframes]
  exact horder

/-- Frames of three, two and one octets. -/
def threePushes : List RespQueueCall :=
  [.push ⟨[1, 2, 3], by decide⟩, .push ⟨[4, 5], by decide⟩, .push ⟨[6], by decide⟩]

/-- With room for five octets the first two go out together. -/
theorem respQueue_batches_threePushes :
    ∃ q, run 100 0 threePushes = some q ∧ q.planBatch 5 = 2 ∧ Planned 5 q.entries (q.planBatch 5) :=
  ⟨_, rfl, by decide, (respQueue_batches 100 0 5 threePushes _ rfl fun h => absurd h (by decide)).1⟩

end RespQueue
end Rcp
