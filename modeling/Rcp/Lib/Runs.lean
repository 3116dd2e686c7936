import Mathlib.Data.List.Infix

/-! Runs of equal values in a history that gets longer at its end. -/

namespace Rcp.Lib

variable {α : Type*} {n : Nat} {h : List α} {v w x : α}

/-- The history ends in `n` equal values. -/
def EndsRun (n : Nat) (h : List α) (v : α) : Prop := List.replicate n v <:+ h

/-- The last time that the history ended in `n` equal values, they were these. -/
def LastRun (n : Nat) (h : List α) (v : α) : Prop :=
  ∃ p, p <+: h ∧ EndsRun n p v ∧ ∀ p' v', p' <+: h → EndsRun n p' v' → p'.length ≤ p.length

theorem endsRun_succ_concat : EndsRun (n + 1) (h ++ [x]) v ↔ x = v ∧ EndsRun n h v := by
  rw [EndsRun, List.replicate_succ', List.suffix_concat_iff]
  constructor
  · rintro (hnil | ⟨t, heq, ht⟩)
    · exact absurd hnil (List.append_ne_nil_of_right_ne_nil _ (List.cons_ne_nil v []))
    · obtain ⟨rfl, hx⟩ := List.append_inj' heq rfl
      exact ⟨(List.cons.inj hx).1.symm, ht⟩
  · rintro ⟨rfl, ht⟩
    exact Or.inr ⟨_, rfl, ht⟩

theorem not_endsRun_succ_nil : ¬ EndsRun (n + 1) [] v := fun h => List.cons_ne_nil v _ (List.suffix_nil.mp h)

theorem EndsRun.unique (hn : 0 < n) (hv : EndsRun n h v) (hw : EndsRun n h w) : v = w := by
  obtain ⟨n, rfl⟩ : ∃ m, n = m + 1 := ⟨n - 1, by omega⟩
  induction h using List.reverseRecOn with
  | nil => exact absurd hv not_endsRun_succ_nil
  | append_singleton h x => exact (endsRun_succ_concat.mp hv).1.symm.trans (endsRun_succ_concat.mp hw).1

/-! ### The last run -/

theorem not_lastRun_nil (hn : 0 < n) : ¬ LastRun n [] v := by
  obtain ⟨n, rfl⟩ : ∃ m, n = m + 1 := ⟨n - 1, by omega⟩
  rintro ⟨p, hp, hends, -⟩
  rw [List.prefix_nil.mp hp] at hends
  exact not_endsRun_succ_nil hends

/-- With a further value the last run is the one that ends with it, or the one before where none does. -/
theorem lastRun_concat :
    LastRun n (h ++ [x]) v ↔
      EndsRun n (h ++ [x]) v ∨ (∀ w, ¬ EndsRun n (h ++ [x]) w) ∧ LastRun n h v := by
  constructor
  · rintro ⟨p, hp, hends, hlast⟩
    rcases List.prefix_concat_iff.mp hp with rfl | hp
    · exact Or.inl hends
    · refine Or.inr ⟨fun w hw => ?_, p, hp, hends, fun p' v' hp' => hlast p' v' (hp'.trans (List.prefix_append h [x]))⟩
      have hlong := hlast _ w (List.prefix_refl _) hw
      have hshort := hp.length_le
      rw [List.length_append, List.length_singleton] at hlong
      omega
  · rintro (hends | ⟨hnone, p, hp, hends, hlast⟩)
    · exact ⟨_, List.prefix_refl _, hends, fun p' v' hp' _ => hp'.length_le⟩
    · refine ⟨p, hp.trans (List.prefix_append h [x]), hends, fun p' v' hp' hends' => ?_⟩
      rcases List.prefix_concat_iff.mp hp' with rfl | hp'
      · exact absurd hends' (hnone v')
      · exact hlast p' v' hp' hends'

/-- A value ends no run but its own. -/
theorem not_endsRun_concat (hn : 0 < n) (hx : ¬ EndsRun n (h ++ [x]) x) (w : α) : ¬ EndsRun n (h ++ [x]) w := by
  obtain ⟨n, rfl⟩ : ∃ m, n = m + 1 := ⟨n - 1, by omega⟩
  intro hw
  obtain ⟨rfl, -⟩ := endsRun_succ_concat.mp hw
  exact hx hw

theorem lastRun_of_endsRun (hn : 0 < n) (hx : EndsRun n (h ++ [x]) x) : LastRun n (h ++ [x]) v ↔ x = v := by
  rw [lastRun_concat]
  constructor
  · rintro (hv | ⟨hnone, -⟩)
    · exact hx.unique hn hv
    · exact absurd hx (hnone x)
  · rintro rfl
    exact Or.inl hx

theorem lastRun_of_not_endsRun (hn : 0 < n) (hx : ¬ EndsRun n (h ++ [x]) x) : LastRun n (h ++ [x]) v ↔ LastRun n h v := by
  have hnone := not_endsRun_concat hn hx
  rw [lastRun_concat, or_iff_right (hnone v), and_iff_right hnone]

/-! ### How many equal values the history ends in -/

variable [DecidableEq α]

def trailing (h : List α) (v : α) : Nat := (h.reverse.takeWhile (· = v)).length

@[simp] theorem trailing_nil (v : α) : trailing [] v = 0 := rfl

theorem trailing_concat (h : List α) (x v : α) : trailing (h ++ [x]) v = if x = v then trailing h v + 1 else 0 := by
  rw [trailing, List.reverse_append, List.reverse_singleton, List.singleton_append, List.takeWhile_cons]
  by_cases hx : x = v <;> simp [hx, trailing]

theorem endsRun_iff : EndsRun n h v ↔ n ≤ trailing h v := by
  induction h using List.reverseRecOn generalizing n with
  | nil =>
    cases n with
    | zero => exact iff_of_true List.nil_suffix (Nat.zero_le _)
    | succ n => exact iff_of_false not_endsRun_succ_nil (Nat.not_succ_le_zero n)
  | append_singleton h x ih =>
    cases n with
    | zero => exact iff_of_true List.nil_suffix (Nat.zero_le _)
    | succ n =>
      rw [endsRun_succ_concat, trailing_concat, ih]
      by_cases hx : x = v <;> simp [hx]

/-- The history ends in one value only. -/
theorem trailing_of_ne (hne : v ≠ w) (hv : 0 < trailing h v) : trailing h w = 0 := by
  induction h using List.reverseRecOn with
  | nil => rfl
  | append_singleton h x =>
    rw [trailing_concat] at hv ⊢
    split at hv
    · rename_i hx
      exact if_neg (hx ▸ hne)
    · exact absurd hv (Nat.lt_irrefl 0)

end Rcp.Lib
