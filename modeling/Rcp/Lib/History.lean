import Mathlib.Data.List.Basic
import Mathlib.Data.List.Infix

/-! The history of a run: where a run that has come into a set of states has entered it last, what has happened since
    something else did, and which call was the first of its kind. -/

namespace Rcp.Lib

variable {σ ι : Type*} {step : σ → ι → σ} {P : σ → Prop} {s : σ}

/-- A run that ends in `P` and did not start there is cut by its last entry: one call leads into `P`, and the calls
    after it stay there. -/
theorem exists_last_entry (hs : ¬P s) (calls : List ι) (h : P (calls.foldl step s)) :
    ∃ before c after, calls = before ++ c :: after ∧ ¬P (before.foldl step s) ∧
      ∀ l, l <+: after → P ((before ++ c :: l).foldl step s) := by
  induction calls using List.reverseRecOn with
  | nil => exact absurd h hs
  | append_singleton calls c ih =>
    by_cases hprev : P (calls.foldl step s)
    · obtain ⟨before, c', after, rfl, hout, hin⟩ := ih hprev
      refine ⟨before, c', after ++ [c], by simp, hout, fun l hl => ?_⟩
      rcases List.prefix_concat_iff.mp hl with rfl | hl
      · simpa using h
      · exact hin l hl
    · refine ⟨calls, c, [], rfl, hprev, fun l hl => ?_⟩
      rw [List.prefix_nil] at hl
      subst hl
      exact h

/-- Where a call out of a state in `P` leads into `P` exactly when the call is good, a run stays in `P` exactly when
    all its calls are good. -/
theorem forall_prefix_iff {G : ι → Prop} (hs : P s) (hstep : ∀ t c, P t → (P (step t c) ↔ G c)) (calls : List ι) :
    (∀ before, before <+: calls → P (before.foldl step s)) ↔ ∀ c ∈ calls, G c := by
  induction calls using List.reverseRecOn with
  | nil => simp [hs]
  | append_singleton calls c ih =>
    constructor
    · intro h
      have hbefore : ∀ before, before <+: calls → P (before.foldl step s) := fun before hb =>
        h before (hb.trans (List.prefix_append calls [c]))
      have hlast := h (calls ++ [c]) List.prefix_rfl
      rw [List.foldl_append, List.foldl_cons, List.foldl_nil] at hlast
      intro d hd
      rcases List.mem_append.mp hd with hd | hd
      · exact ih.mp hbefore d hd
      · rw [List.mem_singleton.mp hd]
        exact (hstep _ c (hbefore calls List.prefix_rfl)).mp hlast
    · intro h before hb
      have hprev := ih.mpr fun d hd => h d (List.mem_append_left [c] hd)
      rcases List.prefix_concat_iff.mp hb with rfl | hb
      · rw [List.foldl_append, List.foldl_cons, List.foldl_nil]
        exact (hstep _ c (hprev calls List.prefix_rfl)).mpr (h c (List.mem_append_right calls (List.mem_singleton_self c)))
      · exact hprev before hb

/-! ### Since -/

section
variable {P Q : List ι → ι → Prop} {calls : List ι} {c : ι}

/-- A call of the first kind has been made, and none of the second kind since. Both kinds see the calls before. -/
def Since (P Q : List ι → ι → Prop) (calls : List ι) : Prop :=
  ∃ before c rest, calls = before ++ c :: rest ∧ P before c ∧
    ∀ between d after, rest = between ++ d :: after → ¬Q (before ++ c :: between) d

theorem concat_eq_split {before rest : List ι} {d : ι} (h : calls ++ [c] = before ++ d :: rest) :
    (before = calls ∧ d = c ∧ rest = []) ∨ ∃ rest', rest = rest' ++ [c] ∧ calls = before ++ d :: rest' := by
  rcases List.eq_nil_or_concat rest with rfl | ⟨rest', e, rfl⟩
  · obtain ⟨rfl, hd⟩ := List.append_inj' h rfl
    exact .inl ⟨rfl, (List.cons.inj hd).1.symm, rfl⟩
  · rw [List.concat_eq_append, ← List.cons_append, ← List.append_assoc] at h
    obtain ⟨hcalls, hd⟩ := List.append_inj' h rfl
    cases hd
    exact .inr ⟨rest', List.concat_eq_append, hcalls⟩

theorem not_since_nil : ¬Since P Q [] := by
  rintro ⟨before, c, rest, h, -⟩
  simp at h

theorem since_concat : Since P Q (calls ++ [c]) ↔ P calls c ∨ (Since P Q calls ∧ ¬Q calls c) := by
  constructor
  · rintro ⟨before, d, rest, hsplit, hp, hq⟩
    rcases concat_eq_split hsplit with ⟨rfl, rfl, rfl⟩ | ⟨rest, rfl, rfl⟩
    · exact .inl hp
    · refine .inr ⟨⟨before, d, rest, rfl, hp, fun between e after he => ?_⟩, hq rest c [] rfl⟩
      exact hq between e (after ++ [c]) (by simp [he])
  · rintro (hp | ⟨⟨before, d, rest, rfl, hp, hq⟩, hc⟩)
    · exact ⟨calls, c, [], rfl, hp, fun between d after h => by simp at h⟩
    · refine ⟨before, d, rest ++ [c], by simp, hp, fun between e after hsplit => ?_⟩
      rcases concat_eq_split hsplit with ⟨rfl, rfl, -⟩ | ⟨after, -, rfl⟩
      · exact hc
      · exact hq between e after rfl

theorem Since.mono {P' Q' : List ι → ι → Prop} (hP : ∀ before c, P before c → P' before c)
    (hQ : ∀ before c, Q' before c → Q before c) (h : Since P Q calls) : Since P' Q' calls := by
  obtain ⟨before, c, rest, hcalls, hp, hq⟩ := h
  exact ⟨before, c, rest, hcalls, hP _ _ hp, fun between d after hd hq' => hq between d after hd (hQ _ _ hq')⟩

/-- A call that is made only since another has been made since as well. -/
theorem Since.inner {P' : List ι → ι → Prop} (hP : ∀ before c, P before c → Since P' Q before ∧ ¬Q before c)
    (h : Since P Q calls) : Since P' Q calls := by
  induction calls using List.reverseRecOn with
  | nil => exact absurd h not_since_nil
  | append_singleton calls c ih =>
    rcases since_concat.mp h with hp | ⟨h, hq⟩
    · exact since_concat.mpr (.inr (hP calls c hp))
    · exact since_concat.mpr (.inr ⟨ih h, hq⟩)

end

/-! ### The first call of a kind -/

section
variable {P : List ι → ι → Prop} {calls : List ι} {c d : ι}

/-- `d` is the first call of the kind. The kind sees the calls before. -/
def First (P : List ι → ι → Prop) (calls : List ι) (d : ι) : Prop :=
  ∃ before rest, calls = before ++ d :: rest ∧ P before d ∧
    ∀ between e after, before = between ++ e :: after → ¬P between e

theorem not_first_nil : ¬First P [] d := by
  rintro ⟨before, rest, h, -⟩
  simp at h

/-- Without a first call there is none at all. -/
theorem not_exists_first : (¬∃ d, First P calls d) ↔ ∀ before d rest, calls = before ++ d :: rest → ¬P before d := by
  constructor
  · intro h before d rest hcalls hp
    -- The shortest history at whose end the call is of the kind.
    induction hn : before.length using Nat.strong_induction_on generalizing before d rest with
    | h n ih =>
      refine h ⟨d, before, rest, hcalls, hp, fun between e after hbefore hpe => ?_⟩
      refine ih between.length ?_ between e (after ++ d :: rest) ?_ hpe rfl
      · rw [← hn, hbefore, List.length_append, List.length_cons]
        omega
      · rw [hcalls, hbefore, List.append_assoc, List.cons_append]
  · rintro h ⟨d, before, rest, hcalls, hp, -⟩
    exact h before d rest hcalls hp

theorem first_concat :
    First P (calls ++ [c]) d ↔ First P calls d ∨ ((¬∃ e, First P calls e) ∧ P calls c ∧ d = c) := by
  constructor
  · rintro ⟨before, rest, hsplit, hp, hbefore⟩
    rcases concat_eq_split hsplit with ⟨rfl, rfl, rfl⟩ | ⟨rest, rfl, rfl⟩
    · exact .inr ⟨not_exists_first.mpr hbefore, hp, rfl⟩
    · exact .inl ⟨before, rest, rfl, hp, hbefore⟩
  · rintro (⟨before, rest, rfl, hp, hbefore⟩ | ⟨hnone, hp, rfl⟩)
    · exact ⟨before, rest ++ [c], by simp, hp, hbefore⟩
    · exact ⟨calls, [], rfl, hp, not_exists_first.mp hnone⟩

/-- There is one first call at most. -/
theorem First.unique (h : First P calls c) (h' : First P calls d) : c = d := by
  induction calls using List.reverseRecOn with
  | nil => exact absurd h not_first_nil
  | append_singleton calls e ih =>
    rcases first_concat.mp h with hc | ⟨hnone, -, hc⟩ <;> rcases first_concat.mp h' with hd | ⟨hnone', -, hd⟩
    · exact ih hc hd
    · exact absurd ⟨_, hc⟩ hnone'
    · exact absurd ⟨_, hd⟩ hnone
    · exact hc.trans hd.symm

end

end Rcp.Lib
