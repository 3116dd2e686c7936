import Mathlib.Order.Nat

/-! Behaviours of a state machine: sequences of states in which every step is an action or changes nothing, and what
    fairness to an action brings about. -/

namespace Rcp.Lib

variable {σ : Type*} {A : σ → σ → Prop} {P : σ → Prop} {b : Nat → σ}

/-- The action can be taken in this state. -/
def Enabled (A : σ → σ → Prop) (s : σ) : Prop := ∃ s', A s s'

structure Behavior (init : σ → Prop) (next : σ → σ → Prop) (b : Nat → σ) : Prop where
  init : init (b 0)
  step : ∀ n, next (b n) (b (n + 1)) ∨ b (n + 1) = b n

/-- From some step on, always. -/
def EventuallyAlways (P : σ → Prop) (b : Nat → σ) : Prop := ∃ n, ∀ m, n ≤ m → P (b m)

/-- An action that can be taken from some step on is taken after it. -/
def WeaklyFair (A : σ → σ → Prop) (b : Nat → σ) : Prop :=
  ∀ n, (∀ m, n ≤ m → Enabled A (b m)) → ∃ m, n ≤ m ∧ A (b m) (b (m + 1))

/-- An action that can be taken again and again is taken again and again. -/
def StronglyFair (A : σ → σ → Prop) (b : Nat → σ) : Prop :=
  (∀ n, ∃ m, n ≤ m ∧ Enabled A (b m)) → ∀ n, ∃ m, n ≤ m ∧ A (b m) (b (m + 1))

/-- Where `P` enables a weakly fair action and only that action ends it, the action is taken. -/
theorem WeaklyFair.taken (h : WeaklyFair A b) {n : Nat} (hstart : P (b n))
    (henabled : ∀ m, n ≤ m → P (b m) → Enabled A (b m))
    (hkept : ∀ m, n ≤ m → P (b m) → ¬A (b m) (b (m + 1)) → P (b (m + 1))) :
    ∃ m, n ≤ m ∧ A (b m) (b (m + 1)) := by
  by_contra hnever
  have hnot : ∀ m, n ≤ m → ¬A (b m) (b (m + 1)) := fun m hm hA => hnever ⟨m, hm, hA⟩
  have hP : ∀ m, n ≤ m → P (b m) := by
    intro m hm
    induction m, hm using Nat.le_induction with
    | base => exact hstart
    | succ m hm ih => exact hkept m hm ih (hnot m hm)
  exact hnever (h n fun m hm => henabled m hm (hP m hm))

/-- A strongly fair action that can be taken again and again from some step on is taken after it. -/
theorem StronglyFair.taken (h : StronglyFair A b) {n : Nat}
    (hback : ∀ m, n ≤ m → ∃ k, m ≤ k ∧ Enabled A (b k)) : ∃ m, n ≤ m ∧ A (b m) (b (m + 1)) := by
  refine h (fun k => ?_) n
  obtain ⟨m, hm, henabled⟩ := hback (max n k) (Nat.le_max_left n k)
  exact ⟨m, (Nat.le_max_right n k).trans hm, henabled⟩

end Rcp.Lib
