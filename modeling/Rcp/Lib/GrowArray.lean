import Mathlib.Data.List.Basic

/-! Growable arrays: allocated cells, of which the first `len` are in use. A full array grows by doubling its cells, and
    the first item is removed by moving every other one a cell down. -/

namespace Rcp.Lib

variable {α : Type*}

structure GrowArray (α : Type*) where
  slots : List α
  len : Nat
  len_le : len ≤ slots.length
deriving DecidableEq, Repr

namespace GrowArray
variable {a : GrowArray α} {x : α}

def cap (a : GrowArray α) : Nat := a.slots.length

/-- The items. -/
def contents (a : GrowArray α) : List α := a.slots.take a.len

def empty : GrowArray α where
  slots := []
  len := 0
  len_le := Nat.le_refl 0

@[simp] theorem contents_empty : (empty : GrowArray α).contents = [] := rfl

@[simp] theorem length_contents (a : GrowArray α) : a.contents.length = a.len := by
  rw [contents, List.length_take, Nat.min_eq_left a.len_le]

theorem contents_eq_nil (h : a.len = 0) : a.contents = [] := List.length_eq_zero_iff.mp (a.length_contents.trans h)

variable [Inhabited α]

/-- The cells that a full array has after it has grown; `first` where it had none. -/
def grownCap (first cap : Nat) : Nat := if cap = 0 then first else cap * 2

/-- Cells are added when none is free. -/
def reserve (first : Nat) (a : GrowArray α) : List α :=
  if a.len = a.cap then a.slots ++ List.replicate (grownCap first a.cap - a.cap) default else a.slots

theorem lt_length_reserve {first : Nat} (hfirst : 0 < first) (a : GrowArray α) : a.len < (a.reserve first).length := by
  have hle : a.len ≤ a.cap := a.len_le
  rw [reserve]
  split
  · rename_i hfull
    rw [List.length_append, List.length_replicate, grownCap]
    change a.len < a.cap + _
    split <;> omega
  · exact Nat.lt_of_le_of_ne hle ‹_›

theorem take_reserve (first : Nat) (a : GrowArray α) : (a.reserve first).take a.len = a.contents := by
  rw [reserve]
  split
  · rw [List.take_append_of_le_length a.len_le, contents]
  · rfl

/-- An array of four cells has one to begin with. -/
theorem four_pos : 0 < 4 := by decide

/-- The item goes into the first cell that is free. -/
def push (first : Nat) (hfirst : 0 < first) (a : GrowArray α) (x : α) : GrowArray α where
  slots := (a.reserve first).set a.len x
  len := a.len + 1
  len_le := by
    rw [List.length_set]
    exact lt_length_reserve hfirst a

theorem contents_push {first : Nat} (hfirst : 0 < first) (a : GrowArray α) (x : α) :
    (a.push first hfirst x).contents = a.contents ++ [x] := by
  have hlt := lt_length_reserve hfirst a
  calc (a.push first hfirst x).contents
      = ((a.reserve first).set a.len x).take (a.len + 1) := rfl
    _ = ((a.reserve first).set a.len x).take a.len ++ [x] := by
        rw [List.take_add_one, List.getElem?_set_self hlt, Option.toList_some]
    _ = a.contents ++ [x] := by rw [List.take_set_of_le (Nat.le_refl _), take_reserve]

/-! ### Removing the first item -/

/-- The loop that moves the cells from 1 on down, `n` of them. -/
def shiftDown (slots : List α) (n : Nat) : List α :=
  (List.range' 1 n).foldl (fun slots i => slots.set (i - 1) (slots.getD i default)) slots

@[simp] theorem length_shiftDown (slots : List α) (n : Nat) : (shiftDown slots n).length = slots.length := by
  induction n with
  | zero => rfl
  | succ n ih =>
    rw [shiftDown, List.range'_concat, List.foldl_append]
    exact List.length_set.trans ih

/-- After `n` rounds the first `n` cells hold the items one further on, and the others are as they were. -/
theorem shiftDown_eq {slots : List α} {n : Nat} (h : n < slots.length) :
    shiftDown slots n = (slots.drop 1).take n ++ slots.drop n := by
  induction n with
  | zero => rfl
  | succ n ih =>
    have hn : n < slots.length := Nat.lt_of_succ_lt h
    have hlen : ((slots.drop 1).take n).length = n := by simp; omega
    have hstep : shiftDown slots (n + 1) =
        (shiftDown slots n).set n ((shiftDown slots n).getD (n + 1) default) := by
      rw [shiftDown, List.range'_concat, List.foldl_append, Nat.one_mul, Nat.add_comm 1 n]
      rfl
    have hnext : ((slots.drop 1).take n ++ slots.drop n).getD (n + 1) default = slots[n + 1] := by
      rw [List.getD_eq_getElem?_getD, List.getElem?_append_right (by omega), hlen, List.getElem?_drop,
        show n + (n + 1 - n) = n + 1 by omega, List.getElem?_eq_getElem h, Option.getD_some]
    calc shiftDown slots (n + 1)
        = ((slots.drop 1).take n ++ slots.drop n).set n slots[n + 1] := by rw [hstep, ih hn, hnext]
      _ = (slots.drop 1).take n ++ (slots[n + 1] :: slots.drop (n + 1)) := by
          rw [List.set_append_right _ _ (by omega), hlen, Nat.sub_self, List.drop_eq_getElem_cons hn, List.set_cons_zero]
      _ = (slots.drop 1).take (n + 1) ++ slots.drop (n + 1) := by
          rw [List.take_add_one, List.getElem?_drop, Nat.add_comm 1 n, List.getElem?_eq_getElem h, Option.toList_some,
            List.append_assoc, List.singleton_append]

/-- The first item, -/
def front (a : GrowArray α) : α := a.slots.getD 0 default

/-- and the array without it. -/
def popFront (a : GrowArray α) : GrowArray α where
  slots := shiftDown a.slots (a.len - 1)
  len := a.len - 1
  len_le := by
    rw [length_shiftDown]
    exact Nat.le_trans (Nat.sub_le _ _) a.len_le

theorem contents_eq_cons (h : 0 < a.len) : a.contents = a.front :: a.popFront.contents := by
  obtain ⟨n, hn⟩ : ∃ n, a.len = n + 1 := ⟨a.len - 1, by omega⟩
  obtain ⟨x, rest, hslots⟩ : ∃ x rest, a.slots = x :: rest :=
    List.exists_cons_of_length_pos (Nat.lt_of_lt_of_le h a.len_le)
  have hle : n + 1 ≤ (x :: rest).length := hslots ▸ hn ▸ a.len_le
  have hlen : (rest.take n).length = n := by rw [List.length_take, Nat.min_eq_left (Nat.le_of_succ_le_succ hle)]
  have hrest : a.popFront.contents = rest.take n := by
    change (shiftDown a.slots (a.len - 1)).take (a.len - 1) = _
    rw [hn, hslots, Nat.add_sub_cancel, shiftDown_eq hle, List.drop_succ_cons, List.drop_zero, List.take_left' hlen]
  rw [hrest, contents, front, hn, hslots, List.take_succ_cons, List.getD_cons_zero]

end GrowArray
end Rcp.Lib
