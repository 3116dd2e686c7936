import Rcp.Adc
import Mathlib.Algebra.Order.BigOperators.Group.List
import Mathlib.Algebra.Order.Group.Nat

/-! The average over an interval: the mean of the samples with a signal, at the moment of the last of them. -/

namespace Rcp

/-! ### Means -/

/-- The mean of numbers, rounded down, lies between the least and the greatest of them. -/
theorem mean_between {xs : List Nat} (hne : xs ≠ []) :
    ∃ lo hi, xs.min? = some lo ∧ xs.max? = some hi ∧ lo ≤ xs.sum / xs.length ∧ xs.sum / xs.length ≤ hi := by
  have hpos : 0 < xs.length := List.length_pos_iff.mpr hne
  obtain ⟨lo, hlo⟩ := Option.isSome_iff_exists.mp (List.isSome_min?_of_ne_nil hne)
  obtain ⟨hi, hhi⟩ := Option.isSome_iff_exists.mp (List.isSome_max?_of_ne_nil hne)
  refine ⟨lo, hi, hlo, hhi, ?_, ?_⟩
  · have h := List.card_nsmul_le_sum xs lo (List.min?_eq_some_iff.mp hlo).2
    rw [Nat.le_div_iff_mul_le hpos, Nat.mul_comm]
    exact h
  · have h := List.sum_le_card_nsmul xs hi (List.max?_eq_some_iff.mp hhi).2
    exact Nat.div_le_of_le_mul h

/-! ### The samples with a signal -/

def AdcSample.hasSignal (sample : AdcSample) : Bool := sample.value != pwmInNoSignal

def adcSignals (samples : List AdcSample) : List AdcSample := samples.filter AdcSample.hasSignal

def adcValues (samples : List AdcSample) : List Nat := (adcSignals samples).map (·.value.toNat)

variable {samples samples' : List AdcSample}

theorem ne_nil_of_adcSignals (h : adcSignals samples ≠ []) : samples ≠ [] := by
  rintro rfl
  exact h rfl

theorem adcValues_le : ∀ v ∈ adcValues samples, v ≤ 0xFFFE := by
  intro v hv
  obtain ⟨sample, hsample, rfl⟩ := List.mem_map.mp hv
  have hsignal := (List.mem_filter.mp hsample).2
  have hne : sample.value.toNat ≠ 0xFFFF := fun h => by
    have hvalue : sample.value = pwmInNoSignal := UInt16.toNat_inj.mp h
    simp [AdcSample.hasSignal, hvalue] at hsignal
  have hlt := sample.value.toNat_lt
  omega

/-- The loop that adds up passes over the samples without a signal. -/
theorem foldl_adcCount (acc : UInt64 × UInt64) :
    samples.foldl adcCount acc =
      (adcSignals samples).foldl (fun acc sample => (acc.1 + sample.value.toUInt64, acc.2 + 1)) acc := by
  rw [adcSignals, List.foldl_filter]
  congr 1
  funext acc sample
  rw [adcCount, AdcSample.hasSignal]
  by_cases h : sample.value = pwmInNoSignal <;> simp [h]

theorem foldl_adcCount_toNat (acc : UInt64 × UInt64) :
    (samples.foldl adcCount acc).1.toNat = (acc.1.toNat + (adcValues samples).sum) % 2 ^ 64 ∧
      (samples.foldl adcCount acc).2.toNat = (acc.2.toNat + (adcValues samples).length) % 2 ^ 64 := by
  rw [foldl_adcCount, adcValues]
  induction adcSignals samples generalizing acc with
  | nil => exact ⟨(Nat.mod_eq_of_lt acc.1.toNat_lt).symm, (Nat.mod_eq_of_lt acc.2.toNat_lt).symm⟩
  | cons sample rest ih =>
    obtain ⟨hsum, hcounted⟩ := ih (acc.1 + sample.value.toUInt64, acc.2 + 1)
    rw [List.foldl_cons, hsum, hcounted, List.map_cons, List.sum_cons, List.length_cons]
    rw [UInt64.toNat_add, UInt64.toNat_add, UInt16.toNat_toUInt64, Nat.mod_add_mod, Nat.mod_add_mod, Nat.add_assoc]
    exact ⟨rfl, congrArg (· % 2 ^ 64) (Nat.add_right_comm ..)⟩

/-- Fewer than 2^48 samples of sixteen bits do not overflow the sum. -/
theorem adcCount_exact (hlen : samples.length < 2 ^ 48) :
    (samples.foldl adcCount (0, 0)).1.toNat = (adcValues samples).sum ∧
      (samples.foldl adcCount (0, 0)).2.toNat = (adcValues samples).length := by
  have hcount : (adcValues samples).length ≤ samples.length := by
    rw [adcValues, List.length_map]
    exact List.length_filter_le _ _
  have hsum : (adcValues samples).sum ≤ (adcValues samples).length * 0xFFFE :=
    List.sum_le_card_nsmul _ _ adcValues_le
  have h := @foldl_adcCount_toNat samples (0, 0)
  rw [UInt64.toNat_zero, Nat.zero_add, Nat.zero_add, Nat.mod_eq_of_lt (by omega), Nat.mod_eq_of_lt (by omega)] at h
  exact h

/-! ### The last sample with a signal -/

theorem adcLastTimestamp_eq (timestamp : UInt64) {i : Nat} (hi : i ≤ samples.length) :
    adcLastTimestamp samples timestamp i =
      ((adcSignals (samples.take i)).getLast?.map (·.timestamp)).getD timestamp := by
  induction i with
  | zero => rfl
  | succ i ih =>
    have hget : samples.getD i {} = samples[i] := by
      rw [List.getD_eq_getElem?_getD, List.getElem?_eq_getElem hi, Option.getD_some]
    rw [adcLastTimestamp, hget, List.take_succ_eq_append_getElem hi, adcSignals, List.filter_append]
    split
    · next hmarker =>
      have hnone : [samples[i]].filter AdcSample.hasSignal = [] := by simp [AdcSample.hasSignal, hmarker]
      rw [hnone, List.append_nil]
      exact ih (Nat.le_of_succ_le hi)
    · next hsignal =>
      have hone : [samples[i]].filter AdcSample.hasSignal = [samples[i]] := by simp [AdcSample.hasSignal, hsignal]
      rw [hone, List.getLast?_concat]
      rfl

/-! ### The average -/

theorem adcAverageInterval_eq (hne : samples ≠ []) :
    adcAverageInterval samples =
      { value :=
          if (samples.foldl adcCount (0, 0)).2 = 0 then pwmInNoSignal
          else ((samples.foldl adcCount (0, 0)).1 / (samples.foldl adcCount (0, 0)).2).toUInt16
        timestamp := ((adcSignals samples).getLast?.map (·.timestamp)).getD (samples.getLast hne).timestamp } := by
  have hlast : samples.getD (samples.length - 1) {} = samples.getLast hne := by
    rw [List.getLast_eq_getElem, List.getD_eq_getElem?_getD, List.getElem?_eq_getElem, Option.getD_some]
  rw [adcAverageInterval, if_neg (List.length_eq_zero_iff.not.mpr hne), adcLastTimestamp_eq _ (Nat.le_refl _),
    List.take_length, hlast]

/-- Where there is a signal, only the samples with one count. -/
theorem adcAverageInterval_congr (hsignals : adcSignals samples ≠ []) (h : adcSignals samples' = adcSignals samples) :
    adcAverageInterval samples' = adcAverageInterval samples := by
  have hne := ne_nil_of_adcSignals hsignals
  have hne' := ne_nil_of_adcSignals (h ▸ hsignals)
  rw [adcAverageInterval_eq hne, adcAverageInterval_eq hne', foldl_adcCount, foldl_adcCount, h,
    List.getLast?_eq_some_getLast hsignals]
  rfl

theorem adcAverageInterval_value (hlen : samples.length < 2 ^ 48) (hsignals : adcSignals samples ≠ []) :
    (adcAverageInterval samples).value.toNat = (adcValues samples).sum / (adcValues samples).length := by
  have hne := ne_nil_of_adcSignals hsignals
  have hvalues : adcValues samples ≠ [] := List.map_eq_nil_iff.not.mpr hsignals
  obtain ⟨hsum, hcounted⟩ := adcCount_exact hlen
  obtain ⟨-, hi, -, hmax, -, hle⟩ := mean_between hvalues
  have hbound := adcValues_le hi (List.max?_mem hmax)
  have hzero : (samples.foldl adcCount (0, 0)).2 ≠ 0 := by
    rw [ne_eq, ← UInt64.toNat_inj, hcounted]
    exact List.length_eq_zero_iff.not.mpr hvalues
  rw [adcAverageInterval_eq hne, if_neg hzero, UInt64.toNat_toUInt16, UInt64.toNat_div, hsum, hcounted]
  exact Nat.mod_eq_of_lt (by omega)

/-- An interval is averaged over its samples with a signal, of which there may be none; where the others stand is without
    effect. -/
theorem adc_average_exact (samples : List AdcSample) (hne : samples ≠ []) (hlen : samples.length < 2 ^ 48) :
    (∀ hsignals : adcSignals samples ≠ [],
      (adcAverageInterval samples).value.toNat = (adcValues samples).sum / (adcValues samples).length ∧
        (∃ lo hi, (adcValues samples).min? = some lo ∧ (adcValues samples).max? = some hi ∧
          lo ≤ (adcAverageInterval samples).value.toNat ∧ (adcAverageInterval samples).value.toNat ≤ hi) ∧
        (adcAverageInterval samples).value ≠ pwmInNoSignal ∧
        (adcAverageInterval samples).timestamp = ((adcSignals samples).getLast hsignals).timestamp) ∧
    (adcSignals samples = [] →
      adcAverageInterval samples = { value := pwmInNoSignal, timestamp := (samples.getLast hne).timestamp }) ∧
    ∀ before last after before', samples = before ++ last :: after → last.value ≠ pwmInNoSignal →
      adcSignals before' = adcSignals before →
      adcAverageInterval (before' ++ last :: after) = adcAverageInterval samples := by
  refine ⟨fun hsignals => ?_, fun hnone => ?_, ?_⟩
  · have hvalue := adcAverageInterval_value hlen hsignals
    have hvalues : adcValues samples ≠ [] := List.map_eq_nil_iff.not.mpr hsignals
    obtain ⟨lo, hi, hmin, hmax, hlo, hhi⟩ := mean_between hvalues
    refine ⟨hvalue, ⟨lo, hi, hmin, hmax, hvalue ▸ hlo, hvalue ▸ hhi⟩, ?_, ?_⟩
    · intro hmarker
      have hbound := adcValues_le hi (List.max?_mem hmax)
      have hmax16 : (adcAverageInterval samples).value.toNat = 0xFFFF := congrArg UInt16.toNat hmarker
      omega
    · rw [adcAverageInterval_eq hne, List.getLast?_eq_some_getLast hsignals]
      rfl
  · rw [adcAverageInterval_eq hne, foldl_adcCount, hnone]
    rfl
  · rintro before last after before' rfl hlast hbefore
    have hsignal : last.hasSignal = true := by simpa [AdcSample.hasSignal] using hlast
    refine adcAverageInterval_congr ?_ ?_
    · simp [adcSignals, hsignal]
    · rw [adcSignals, adcSignals, List.filter_append, List.filter_append]
      exact congrArg (· ++ _) hbefore

/-- Two samples around one that saw no signal. -/
def threeSamples : List AdcSample := [⟨100, 2000⟩, ⟨pwmInNoSignal, 2001⟩, ⟨301, 2002⟩]

theorem adc_average_three :
    (adcAverageInterval threeSamples).value.toNat = (100 + 301) / 2 ∧
      adcAverageInterval [⟨pwmInNoSignal, 1999⟩, ⟨100, 2000⟩, ⟨301, 2002⟩] = adcAverageInterval threeSamples :=
  have h := adc_average_exact threeSamples (by decide) (by decide)
  ⟨(h.1 (by decide)).1, h.2.2 [⟨100, 2000⟩, ⟨pwmInNoSignal, 2001⟩] ⟨301, 2002⟩ []
    [⟨pwmInNoSignal, 1999⟩, ⟨100, 2000⟩] rfl (by decide) (by decide)⟩

end Rcp
