import Mathlib.Tactic.TypeStar

/-! Tilings: consecutive spans, each an offset and a length, that cover a stretch of a list without a gap. -/

namespace Rcp.Lib

variable {α : Type*} {spans spans' : List (Nat × Nat)} {lo mid hi : Nat}

/-- The spans cover `[lo, hi)` in order, each starting where the one before it ends. -/
def Tiles : Nat → List (Nat × Nat) → Nat → Prop
  | lo, [], hi => lo = hi
  | lo, span :: rest, hi => span.1 = lo ∧ Tiles (lo + span.2) rest hi

/-- The part of `l` under a span. -/
def slice (l : List α) (span : Nat × Nat) : List α := (l.drop span.1).take span.2

/-- The spans of consecutive pieces with these lengths. -/
def spansFrom : Nat → List Nat → List (Nat × Nat)
  | _, [] => []
  | lo, len :: rest => (lo, len) :: spansFrom (lo + len) rest

namespace Tiles

theorem append (h : Tiles lo spans mid) (h' : Tiles mid spans' hi) : Tiles lo (spans ++ spans') hi := by
  induction spans generalizing lo with
  | nil =>
    obtain rfl : lo = mid := h
    exact h'
  | cons span rest ih => exact ⟨h.1, ih h.2⟩

theorem single (lo len : Nat) : Tiles lo [(lo, len)] (lo + len) := ⟨rfl, rfl⟩

end Tiles

/-- Pieces put together, and cut again by their lengths. -/
theorem map_slice_spansFrom (before : List α) (pieces : List (List α)) :
    (spansFrom before.length (pieces.map List.length)).map (slice (before ++ pieces.flatten)) = pieces := by
  induction pieces generalizing before with
  | nil => rfl
  | cons piece rest ih =>
    have hrest := ih (before ++ piece)
    rw [List.length_append, List.append_assoc] at hrest
    rw [List.map_cons, spansFrom, List.map_cons, List.flatten_cons, hrest, slice, List.drop_left, List.take_left]

/-- Every piece of a tiled list is found under its span. -/
theorem Tiles.slice_eq {before : List α} {tiles : List ((Nat × Nat) × List α)}
    (h : Tiles before.length (tiles.map Prod.fst) hi) (hlen : ∀ t ∈ tiles, t.2.length = t.1.2) :
    ∀ t ∈ tiles, slice (before ++ (tiles.map Prod.snd).flatten) t.1 = t.2 := by
  induction tiles generalizing before with
  | nil => simp
  | cons t rest ih =>
    rw [List.forall_mem_cons] at hlen ⊢
    rw [List.map_cons, List.flatten_cons]
    constructor
    · rw [slice, h.1, List.drop_left, ← hlen.1, List.take_left]
    · rw [← List.append_assoc]
      refine ih ?_ hlen.2
      rw [List.length_append, hlen.1]
      exact h.2

theorem length_spansFrom (lo : Nat) (lens : List Nat) : (spansFrom lo lens).length = lens.length := by
  induction lens generalizing lo with
  | nil => rfl
  | cons len rest ih => rw [spansFrom, List.length_cons, List.length_cons, ih]

end Rcp.Lib
