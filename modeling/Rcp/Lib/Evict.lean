import Mathlib.Data.List.Perm.Basic
import Mathlib.Order.Lattice

/-! Eviction by key: while a list is full, an element with the lowest key is taken out of it. What is kept stays in
    order, and every element that went had to. -/

namespace Rcp.Lib

variable {α κ : Type*} [LinearOrder κ] {key : α → κ} {full : List α → Prop} {l removed kept : List α} {r : α}

/-- `removed` are the elements evicted from `l`, in the order they went, and `kept` the ones left. -/
inductive Evicts (key : α → κ) (full : List α → Prop) : List α → List α → List α → Prop
  | done {l : List α} (h : ¬full l) : Evicts key full l [] l
  | evict {l removed kept : List α} {i : Nat} (hi : i < l.length) (hlow : ∀ e ∈ l, key l[i] ≤ key e) (hfull : full l)
      (h : Evicts key full (l.eraseIdx i) removed kept) : Evicts key full l (l[i] :: removed) kept

namespace Evicts

theorem not_full (h : Evicts key full l removed kept) : ¬full kept := by
  induction h with
  | done h => exact h
  | evict _ _ _ _ ih => exact ih

/-- What is kept stays in order. -/
theorem sublist (h : Evicts key full l removed kept) : kept.Sublist l := by
  induction h with
  | done => exact List.Sublist.refl _
  | evict _ _ _ _ ih => exact ih.trans (List.eraseIdx_sublist _ _)

/-- Nothing is lost besides what is evicted. -/
theorem perm (h : Evicts key full l removed kept) : (removed ++ kept).Perm l := by
  induction h with
  | done => exact List.Perm.refl _
  | @evict l removed kept i hi _ _ _ ih => exact (ih.cons _).trans (List.getElem_cons_eraseIdx_perm hi)

/-- Each evicted element had the lowest key of those still there, and the list was still full with it. -/
theorem each (h : Evicts key full l removed kept) {before after : List α} (hr : removed = before ++ r :: after) :
    ∃ m, full m ∧ (r :: after ++ kept).Perm m ∧ ∀ e ∈ m, key r ≤ key e := by
  induction h generalizing before with
  | done => simp at hr
  | @evict l removed kept i hi hlow hfull h ih =>
    cases before with
    | nil =>
      obtain ⟨rfl, rfl⟩ := List.cons.inj hr
      exact ⟨l, hfull, (evict hi hlow hfull h).perm, hlow⟩
    | cons b before => exact ih (List.cons.inj hr).2

/-- The evicted elements have the lowest keys. -/
theorem lowest (h : Evicts key full l removed kept) : ∀ r ∈ removed, ∀ k ∈ kept, key r ≤ key k := by
  intro r hr k hk
  obtain ⟨before, after, hsplit⟩ := List.append_of_mem hr
  obtain ⟨m, -, hperm, hlow⟩ := h.each hsplit
  exact hlow k (hperm.subset (List.mem_append_right _ hk))

end Evicts
end Rcp.Lib
