import Mathlib.Algebra.BigOperators.Group.Finset.Piecewise
import Mathlib.Data.Fintype.Basic
import Mathlib.Data.List.FinRange

/-! Tables with a fixed number of slots, and the loops that visit each slot once.

    A loop of this kind looks at slot `i` only when it reaches it, so what it does to a slot, and what it
    accumulates, can be read off the table the loop started from. -/

namespace Rcp.Lib

/-! ### Sweeps -/

section Sweep
variable {σ α β : Type*} {n : Nat} {view : σ → Fin n → α} {f : α → α} {step : σ → Fin n → σ} {P : σ → Prop}

/-- A turn at `i` rewrites slot `i` by `f` and leaves the other slots alone, in every state that satisfies
    the side condition `P`, which it keeps. -/
structure Sweeps (view : σ → Fin n → α) (f : α → α) (step : σ → Fin n → σ) (P : σ → Prop) : Prop where
  kept : ∀ {s i}, P s → P (step s i)
  view_step : ∀ {s i}, P s → view (step s i) = Function.update (view s) i (f (view s i))

theorem Sweeps.foldl_kept (h : Sweeps view f step P) {s : σ} (hs : P s) (l : List (Fin n)) :
    P (l.foldl step s) := by
  induction l generalizing s with
  | nil => exact hs
  | cons i l ih => exact ih (h.kept hs)

theorem Sweeps.view_foldl_list (h : Sweeps view f step P) {l : List (Fin n)} (hl : l.Nodup) {s : σ} (hs : P s)
    (j : Fin n) : view (l.foldl step s) j = if j ∈ l then f (view s j) else view s j := by
  induction l generalizing s with
  | nil => simp
  | cons i l ih =>
    rw [List.nodup_cons] at hl
    rw [List.foldl_cons, ih hl.2 (h.kept hs), h.view_step hs]
    by_cases hij : j = i
    · subst hij
      simp [hl.1]
    · simp [hij]

/-- After a whole sweep every slot has been rewritten once. -/
theorem Sweeps.view_foldl (h : Sweeps view f step P) {s : σ} (hs : P s) :
    view ((List.finRange n).foldl step s) = fun j => f (view s j) := by
  funext j
  simp [h.view_foldl_list (List.nodup_finRange n) hs]

/-- What a sweep accumulates is what a fold over the initial table accumulates. -/
theorem Sweeps.out_foldl_list (h : Sweeps view f step P) (out : σ → β) (g : β → Fin n → α → β)
    (hout : ∀ {s i}, P s → out (step s i) = g (out s) i (view s i)) {l : List (Fin n)} (hl : l.Nodup) {s : σ}
    (hs : P s) : out (l.foldl step s) = l.foldl (fun b i => g b i (view s i)) (out s) := by
  induction l generalizing s with
  | nil => rfl
  | cons i l ih =>
    rw [List.nodup_cons] at hl
    rw [List.foldl_cons, List.foldl_cons, ih hl.2 (h.kept hs), hout hs, h.view_step hs]
    -- The rest of the loop never looks at slot `i` again.
    refine List.foldl_ext _ _ _ fun b j hj => ?_
    have hji : j ≠ i := fun hji => hl.1 (hji ▸ hj)
    rw [Function.update_of_ne hji]

theorem Sweeps.out_foldl (h : Sweeps view f step P) (out : σ → β) (g : β → Fin n → α → β)
    (hout : ∀ {s i}, P s → out (step s i) = g (out s) i (view s i)) {s : σ} (hs : P s) :
    out ((List.finRange n).foldl step s) = (List.finRange n).foldl (fun b i => g b i (view s i)) (out s) :=
  h.out_foldl_list out g hout (List.nodup_finRange n) hs

end Sweep

/-! ### Counting slots -/

section Count
variable {α : Type*} {n : Nat} (q : α → Prop) [DecidablePred q]

/-- The number of slots whose contents satisfy `q`. -/
def slotCount (t : Fin n → α) : Nat := (Finset.univ.filter fun i => q (t i)).card

theorem slotCount_update (t : Fin n → α) (i : Fin n) (a : α) :
    slotCount q (Function.update t i a) + (if q (t i) then 1 else 0) = slotCount q t + (if q a then 1 else 0) := by
  simp only [slotCount, Finset.card_filter]
  rw [← Finset.add_sum_erase Finset.univ _ (Finset.mem_univ i),
    ← Finset.add_sum_erase Finset.univ (fun j => if q (t j) then 1 else 0) (Finset.mem_univ i)]
  have hrest : ∑ j ∈ Finset.univ.erase i, (if q (Function.update t i a j) then 1 else 0) =
      ∑ j ∈ Finset.univ.erase i, (if q (t j) then 1 else 0) :=
    Finset.sum_congr rfl fun j hj => by rw [Function.update_of_ne (Finset.ne_of_mem_erase hj)]
  rw [hrest, Function.update_self]
  omega

variable {q}

theorem slotCount_update_fill {t : Fin n → α} {i : Fin n} {a : α} (ht : ¬q (t i)) (ha : q a) :
    slotCount q (Function.update t i a) = slotCount q t + 1 := by
  have := slotCount_update q t i a
  simpa [ht, ha] using this

theorem slotCount_update_clear {t : Fin n → α} {i : Fin n} {a : α} (ht : q (t i)) (ha : ¬q a) :
    slotCount q (Function.update t i a) + 1 = slotCount q t := by
  have := slotCount_update q t i a
  simpa [ht, ha] using this

theorem slotCount_congr {t u : Fin n → α} (h : ∀ i, q (t i) ↔ q (u i)) : slotCount q t = slotCount q u := by
  simp only [slotCount, h]

/-- The same number from a loop over the slots. -/
theorem length_filter_finRange (t : Fin n → α) :
    ((List.finRange n).filter fun i => decide (q (t i))).length = slotCount q t := by
  rw [slotCount, Fin.univ_def]
  rfl

end Count

end Rcp.Lib
