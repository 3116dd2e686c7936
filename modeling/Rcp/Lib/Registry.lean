import Mathlib.Logic.Function.Basic

/-! Registrations under addresses. An entry is registered under a key, for one scope or for every scope, and a
    lookup names a key and the scope it comes from. -/

namespace Rcp.Lib

variable {ι κ ς : Type*}

/-- The key of a registration and its scope, `none` for every scope. -/
structure Addr (κ ς : Type*) where
  key : κ
  scope : Option ς
deriving DecidableEq, Repr

/-- A lookup of the key from the scope may find this registration. -/
def Addr.Covers (a : Addr κ ς) (s : ς) (k : κ) : Prop := a.key = k ∧ ∀ s' ∈ a.scope, s' = s

/-- Two registrations under one key are for two different scopes. -/
def Unambiguous (t : ι → Option (Addr κ ς)) : Prop :=
  ∀ i j a b, t i = some a → t j = some b → a.key = b.key → i ≠ j →
    ∃ s s', a.scope = some s ∧ b.scope = some s' ∧ s ≠ s'

namespace Unambiguous
variable {t : ι → Option (Addr κ ς)} {i j : ι} {a b : Addr κ ς} {s : ς} {k : κ}

theorem empty : Unambiguous (fun _ : ι => (none : Option (Addr κ ς))) := fun _ _ _ _ hi => nomatch hi

/-- No lookup has two answers. -/
theorem covers_unique (h : Unambiguous t) (hi : t i = some a) (hj : t j = some b) (ha : a.Covers s k)
    (hb : b.Covers s k) : i = j := by
  by_contra hne
  obtain ⟨s₁, s₂, h₁, h₂, hs⟩ := h i j a b hi hj (ha.1.trans hb.1.symm) hne
  exact hs ((ha.2 s₁ h₁).trans (hb.2 s₂ h₂).symm)

variable [DecidableEq ι]

theorem remove (h : Unambiguous t) (i : ι) : Unambiguous (Function.update t i none) := by
  intro j j' a b hj hj' hkey hne
  have hold : ∀ {x : ι} {c : Addr κ ς}, Function.update t i none x = some c → t x = some c := by
    intro x c hx
    by_cases hxi : x = i
    · subst hxi
      simp at hx
    · rwa [Function.update_of_ne hxi] at hx
  exact h j j' a b (hold hj) (hold hj') hkey hne

/-- A new registration is unambiguous if every other one under its key differs from it in the scope. -/
theorem insert (h : Unambiguous t) (i : ι) {a : Addr κ ς}
    (hnew : ∀ j b, t j = some b → b.key = a.key → ∃ s s', a.scope = some s ∧ b.scope = some s' ∧ s ≠ s') :
    Unambiguous (Function.update t i (some a)) := by
  intro j j' b b' hj hj' hkey hne
  by_cases hji : j = i
  · subst hji
    rw [Function.update_of_ne hne.symm] at hj'
    rw [Function.update_self] at hj
    obtain rfl := Option.some.inj hj
    exact hnew j' b' hj' hkey.symm
  · rw [Function.update_of_ne hji] at hj
    by_cases hji' : j' = i
    · subst hji'
      rw [Function.update_self] at hj'
      obtain rfl := Option.some.inj hj'
      obtain ⟨s, s', hs, hs', hss⟩ := hnew j b hj hkey
      exact ⟨s', s, hs', hs, hss.symm⟩
    · rw [Function.update_of_ne hji'] at hj'
      exact h j j' b b' hj hj' hkey hne

/-- A registration for every scope needs a key that nothing is registered under. -/
theorem insert_unscoped (h : Unambiguous t) (i : ι) (hfree : ∀ j b, t j = some b → b.key ≠ k) :
    Unambiguous (Function.update t i (some ⟨k, none⟩)) :=
  h.insert i fun j b hj hkey => absurd hkey (hfree j b hj)

/-- A registration for one scope needs a lookup from that scope to find nothing. -/
theorem insert_scoped (h : Unambiguous t) (i : ι) (hfree : ∀ j b, t j = some b → ¬b.Covers s k) :
    Unambiguous (Function.update t i (some ⟨k, some s⟩)) := by
  refine h.insert i fun j b hj hkey => ?_
  cases hscope : b.scope with
  | none => exact absurd ⟨hkey, by simp [hscope]⟩ (hfree j b hj)
  | some s' =>
    refine ⟨s, s', rfl, rfl, fun hss => hfree j b hj ⟨hkey, ?_⟩⟩
    rintro s'' hs''
    rw [hscope, Option.mem_some_iff] at hs''
    rw [← hs'', hss]

end Unambiguous
end Rcp.Lib
