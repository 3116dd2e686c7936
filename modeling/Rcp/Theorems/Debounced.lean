import Rcp.Debounce
import Rcp.Lib.Runs
import Rcp.Lib.Session

/-! What a debounced pin shows: the value of the last run of equal samples that was long enough, whatever came after it and
    however long it was. -/

namespace Rcp
open Lib

namespace DebounceState
variable {n : UInt8} {samples : List Bool} {s : DebounceState} {x : Bool}

/-- The state after samples. -/
def after (n : UInt8) (samples : List Bool) : DebounceState := Session.final (fun s x => s.sample x n) init samples

/-- The counter is at the length of the run that the samples end in, as far as it goes. -/
structure Counts (samples : List Bool) (s : DebounceState) : Prop where
  none : s.hasCandidate = false → samples = []
  some : s.hasCandidate = true → 0 < trailing samples s.candidateValue ∧
    s.consecutiveCount.toNat = min 255 (trailing samples s.candidateValue)

/-- What has settled is the last run. -/
def Settled (n : UInt8) (samples : List Bool) (s : DebounceState) : Prop :=
  ∀ v, LastRun n.toNat samples v ↔ s.hasSettled = true ∧ s.settledValue = v

/-- What the counting leaves: the sample is the candidate, counted with the run before it. -/
theorem Counts.count (h : Counts samples s) (x : Bool) :
    Counts (samples ++ [x]) (s.count x) ∧ (s.count x).hasCandidate = true ∧ (s.count x).candidateValue = x ∧
      (s.count x).hasSettled = s.hasSettled ∧ (s.count x).settledValue = s.settledValue := by
  have hgrown : trailing (samples ++ [x]) x = trailing samples x + 1 := by rw [trailing_concat, if_pos rfl]
  unfold DebounceState.count
  by_cases hnew : (!s.hasCandidate || s.candidateValue != x) = true
  · rw [if_pos hnew]
    have hzero : trailing samples x = 0 := by
      cases hcand : s.hasCandidate with
      | false =>
        rw [h.none hcand]
        rfl
      | true =>
        have hne : s.candidateValue ≠ x := by simpa [hcand] using hnew
        exact trailing_of_ne hne (h.some hcand).1
    refine ⟨⟨fun hf => Bool.noConfusion hf, fun _ => ?_⟩, rfl, rfl, rfl, rfl⟩
    simp only [hgrown, hzero]
    exact ⟨by decide, by decide⟩
  · rw [if_neg hnew]
    obtain ⟨hcand, rfl⟩ : s.hasCandidate = true ∧ s.candidateValue = x := by simpa using hnew
    obtain ⟨-, hcount⟩ := h.some hcand
    split
    · rename_i hlt
      have hlt' : s.consecutiveCount.toNat < 255 := hlt
      have hnext : (s.consecutiveCount + 1).toNat = s.consecutiveCount.toNat + 1 := by
        rw [UInt8.toNat_add]
        exact Nat.mod_eq_of_lt (by simp; omega)
      refine ⟨⟨fun hf => Bool.noConfusion (hcand.symm.trans hf), fun _ => ?_⟩, hcand, rfl, rfl, rfl⟩
      simp only [hgrown, hnext]
      omega
    · rename_i hfull
      have hfull' : ¬ s.consecutiveCount.toNat < 255 := hfull
      refine ⟨⟨fun hf => Bool.noConfusion (hcand.symm.trans hf), fun _ => ?_⟩, hcand, rfl, rfl, rfl⟩
      simp only [hgrown]
      omega

/-- The counter reaches `n` exactly where the samples end in `n` of the candidate. -/
theorem Counts.reaches_iff (h : Counts samples s) (hcand : s.hasCandidate = true) (n : UInt8) :
    n ≤ s.consecutiveCount ↔ EndsRun n.toNat samples s.candidateValue := by
  have hlt := UInt8.toNat_lt n
  rw [endsRun_iff, UInt8.le_iff_toNat_le, (h.some hcand).2]
  omega

/-- What a sample settles: the candidate where it is not what has settled, or nothing. -/
theorem sample_cases (hn : n ≠ 0) (s : DebounceState) (x : Bool) :
    ((n ≤ (s.count x).consecutiveCount ∧
        ((s.count x).hasSettled = true → (s.count x).settledValue ≠ (s.count x).candidateValue)) ∧
      s.sample x n = (⟨(s.count x).candidateValue, (s.count x).hasSettled⟩,
        { s.count x with hasSettled := true, settledValue := (s.count x).candidateValue })) ∨
    (¬ (n ≤ (s.count x).consecutiveCount ∧
        ((s.count x).hasSettled = true → (s.count x).settledValue ≠ (s.count x).candidateValue)) ∧
      s.sample x n = (⟨if (s.count x).hasSettled then (s.count x).settledValue else false, false⟩, s.count x)) := by
  have hiff : (decide ((s.count x).consecutiveCount ≥ n) &&
        (!(s.count x).hasSettled || (s.count x).settledValue != (s.count x).candidateValue)) = true ↔
      n ≤ (s.count x).consecutiveCount ∧
        ((s.count x).hasSettled = true → (s.count x).settledValue ≠ (s.count x).candidateValue) := by
    cases (s.count x).hasSettled <;> simp
  rw [← hiff, sample, if_neg hn]
  by_cases hsettles : (decide ((s.count x).consecutiveCount ≥ n) &&
      (!(s.count x).hasSettled || (s.count x).settledValue != (s.count x).candidateValue)) = true
  · exact Or.inl ⟨hsettles, by simp [hsettles]⟩
  · exact Or.inr ⟨hsettles, by simp [hsettles]⟩

theorem Settled.of_eq {s' : DebounceState} (h : Settled n samples s) (hhas : s'.hasSettled = s.hasSettled)
    (hvalue : s'.settledValue = s.settledValue) : Settled n samples s' := fun v => by rw [hhas, hvalue, h v]

/-- What a sample gives after others. -/
structure Exact (n : UInt8) (samples : List Bool) (x : Bool) (r : DebounceSample) : Prop where
  value : ∀ v, LastRun n.toNat (samples ++ [x]) v → r.value = v
  none : (∀ v, ¬ LastRun n.toNat (samples ++ [x]) v) → r.value = false
  changed : r.changed = true ↔
    ∃ v w, EndsRun n.toNat (samples ++ [x]) v ∧ LastRun n.toNat samples w ∧ v ≠ w

/-- What is returned is what has settled, if anything has. -/
theorem sample_value (hn : n ≠ 0) (s : DebounceState) (x : Bool) :
    (s.sample x n).1.value = if (s.sample x n).2.hasSettled then (s.sample x n).2.settledValue else false := by
  rcases sample_cases hn s x with ⟨-, hsample⟩ | ⟨-, hsample⟩
  · rw [hsample]
    rfl
  · rw [hsample]

theorem sample_exact (hn : n ≠ 0) (hcounts : Counts samples s) (hsettled : Settled n samples s) (x : Bool) :
    Counts (samples ++ [x]) (s.sample x n).2 ∧ Settled n (samples ++ [x]) (s.sample x n).2 ∧
      Exact n samples x (s.sample x n).1 := by
  have hpos : 0 < n.toNat := Nat.pos_of_ne_zero fun h => hn (UInt8.toNat_inj.mp h)
  obtain ⟨hcount, hcand, hvalue, hhas, hold⟩ := hcounts.count x
  have hreach := hcount.reaches_iff hcand n
  have hkept := hsettled.of_eq hhas hold
  have hcases := sample_cases hn s x
  rw [hreach, hvalue] at hcases
  -- The state first; the value is read off it.
  have hstate : Counts (samples ++ [x]) (s.sample x n).2 ∧ Settled n (samples ++ [x]) (s.sample x n).2 ∧
      ((s.sample x n).1.changed = true ↔
        ∃ v w, EndsRun n.toNat (samples ++ [x]) v ∧ LastRun n.toNat samples w ∧ v ≠ w) := by
    rcases hcases with ⟨⟨hends, hnew⟩, hsample⟩ | ⟨hstays, hsample⟩
    · rw [hsample]
      refine ⟨⟨hcount.none, hcount.some⟩, fun v => ?_, fun hchanged => ?_, ?_⟩
      · rw [lastRun_of_endsRun hpos hends]
        exact (and_iff_right rfl).symm
      · exact ⟨x, (s.count x).settledValue, hends, (hkept _).mpr ⟨hchanged, rfl⟩, (hnew hchanged).symm⟩
      · rintro ⟨-, w, -, hw, -⟩
        exact ((hkept w).mp hw).1
    · rw [hsample]
      by_cases hends : EndsRun n.toNat (samples ++ [x]) x
      · have hsame : (s.count x).hasSettled = true ∧ (s.count x).settledValue = x := by
          by_contra hne
          exact hstays ⟨hends, fun hset heq => hne ⟨hset, heq⟩⟩
        refine ⟨hcount, fun v => ?_, iff_of_false Bool.false_ne_true ?_⟩
        · rw [lastRun_of_endsRun hpos hends, hsame.2, and_iff_right hsame.1]
        · rintro ⟨v, w, hv, hw, hne⟩
          exact hne ((hv.unique hpos hends).trans (hsame.2.symm.trans ((hkept w).mp hw).2))
      · refine ⟨hcount, fun v => ?_, iff_of_false Bool.false_ne_true ?_⟩
        · rw [lastRun_of_not_endsRun hpos hends]
          exact hkept v
        · rintro ⟨v, -, hv, -, -⟩
          exact not_endsRun_concat hpos hends v hv
  obtain ⟨hcount', hsettled', hchanged⟩ := hstate
  refine ⟨hcount', hsettled', fun v hv => ?_, fun hnone => ?_, hchanged⟩
  · obtain ⟨hset, heq⟩ := (hsettled' v).mp hv
    rw [sample_value hn, hset]
    exact heq
  · have hunset : ¬ (s.sample x n).2.hasSettled = true := fun hset => hnone _ ((hsettled' _).mpr ⟨hset, rfl⟩)
    rw [sample_value hn]
    exact if_neg hunset

theorem after_concat (n : UInt8) (samples : List Bool) (x : Bool) :
    after n (samples ++ [x]) = ((after n samples).sample x n).2 := Session.final_append init samples [x]

theorem after_tracks (hn : n ≠ 0) (samples : List Bool) :
    Counts samples (after n samples) ∧ Settled n samples (after n samples) := by
  induction samples using List.reverseRecOn with
  | nil =>
    have hpos : 0 < n.toNat := Nat.pos_of_ne_zero fun h => hn (UInt8.toNat_inj.mp h)
    exact ⟨⟨fun _ => rfl, fun h => Bool.noConfusion h⟩, fun v =>
      iff_of_false (not_lastRun_nil hpos) fun h => Bool.noConfusion h.1⟩
  | append_singleton samples x ih =>
    rw [after_concat]
    obtain ⟨hcounts, hsettled, -⟩ := sample_exact hn ih.1 ih.2 x
    exact ⟨hcounts, hsettled⟩

end DebounceState

open DebounceState

/-- After any samples, a further one gives the value of the last run of at least `n` equal samples, `false` where there has
    been none, and a change exactly where it ends such a run of another value than that of the last one before. -/
theorem debounce_exact (n : UInt8) (hn : n ≠ 0) (samples : List Bool) (x : Bool) :
    Exact n samples x ((after n samples).sample x n).1 :=
  (sample_exact hn (after_tracks hn samples).1 (after_tracks hn samples).2 x).2.2

/-- The second of two samples in succession settles the pin for the first time, which is no change. -/
theorem debounce_exact_two :
    Exact 2 [false, true] true ((after 2 [false, true]).sample true 2).1 ∧
      ((after 2 [false, true]).sample true 2).1 = ⟨true, false⟩ :=
  ⟨debounce_exact 2 (by decide) [false, true] true, by decide⟩

end Rcp
