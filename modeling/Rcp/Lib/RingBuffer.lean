import Mathlib.Data.List.Basic
import Mathlib.Data.Nat.ModEq

/-! Ring buffers: a fixed number of slots, of which those from `head` on, around the end, hold a queue. -/

namespace Rcp.Lib

variable {α : Type*}

structure RingBuffer (α : Type*) where
  slots : List α
  head : Nat
  count : Nat
deriving DecidableEq, Repr

namespace RingBuffer

def cap (r : RingBuffer α) : Nat := r.slots.length

/-- The slot of the item at a position of the queue. -/
def index (r : RingBuffer α) (i : Nat) : Nat := (r.head + i) % r.cap

/-- The item goes into the slot behind the last one. -/
def push (r : RingBuffer α) (x : α) : RingBuffer α := { r with slots := r.slots.set (r.index r.count) x, count := r.count + 1 }

/-- The front is a slot, and there are no more items than slots. -/
structure Valid (r : RingBuffer α) : Prop where
  head_lt : r.head < r.cap
  count_le : r.count ≤ r.cap

variable {r : RingBuffer α} {x : α}

@[simp] theorem cap_push (r : RingBuffer α) (x : α) : (r.push x).cap = r.cap := List.length_set

/-- Positions that are less than a turn apart have different slots. -/
theorem index_ne {i j : Nat} (hij : i < j) (hj : j < i + r.cap) : r.index i ≠ r.index j := by
  intro heq
  have hmod : r.head + i ≡ r.head + j [MOD r.cap] := heq
  have hdvd := (Nat.modEq_iff_dvd' (by omega)).mp hmod
  have := Nat.le_of_dvd (by omega) hdvd
  omega

theorem Valid.index_lt (h : r.Valid) (i : Nat) : r.index i < r.cap :=
  Nat.mod_lt _ (Nat.lt_of_le_of_lt (Nat.zero_le _) h.head_lt)

theorem Valid.index_zero (h : r.Valid) : r.index 0 = r.head := Nat.mod_eq_of_lt h.head_lt

theorem Valid.push (h : r.Valid) (hroom : r.count < r.cap) : (r.push x).Valid where
  head_lt := (cap_push r x).symm ▸ h.head_lt
  count_le := (cap_push r x).symm ▸ hroom

variable [Inhabited α]

/-- A ring of empty slots. -/
def new (cap : Nat) : RingBuffer α where
  slots := List.replicate cap default
  head := 0
  count := 0

/-- The item at the front. -/
def front (r : RingBuffer α) : α := r.slots.getD r.head default

/-- The slot of the front is emptied and left. -/
def pop (r : RingBuffer α) : RingBuffer α where
  slots := r.slots.set r.head default
  head := r.index 1
  count := r.count - 1

/-- The items, the front first. -/
def items (r : RingBuffer α) : List α := (List.range r.count).map fun i => r.slots.getD (r.index i) default

@[simp] theorem items_new (n : Nat) : (new n : RingBuffer α).items = [] := rfl
@[simp] theorem items_length (r : RingBuffer α) : r.items.length = r.count := by simp [items]
@[simp] theorem cap_new (n : Nat) : (new n : RingBuffer α).cap = n := List.length_replicate
@[simp] theorem cap_pop (r : RingBuffer α) : r.pop.cap = r.cap := List.length_set

theorem valid_new {n : Nat} (h : 0 < n) : (new n : RingBuffer α).Valid where
  head_lt := by simpa [new, cap] using h
  count_le := Nat.zero_le _

theorem items_eq_nil (h : r.count = 0) : r.items = [] := List.length_eq_zero_iff.mp ((items_length r).trans h)

namespace Valid

/-- What is pushed becomes the last item. -/
theorem items_push (h : r.Valid) (hroom : r.count < r.cap) : (r.push x).items = r.items ++ [x] := by
  have hindex : ∀ i, (r.push x).index i = r.index i := fun i => by simp [index, RingBuffer.push, cap]
  have hlast : (r.push x).slots.getD (r.index r.count) default = x := by
    have hlt : r.index r.count < r.slots.length := h.index_lt r.count
    simp [RingBuffer.push, List.getD_eq_getElem?_getD, hlt]
  have hkept : ∀ i < r.count, (r.push x).slots.getD (r.index i) default = r.slots.getD (r.index i) default := by
    intro i hi
    have hne : r.index r.count ≠ r.index i := (index_ne hi (by omega)).symm
    simp [RingBuffer.push, List.getD_eq_getElem?_getD, hne]
  rw [items, items, show (r.push x).count = r.count + 1 from rfl, List.range_succ, List.map_append, List.map_cons,
    List.map_nil]
  simp only [hindex, hlast]
  rw [List.map_congr_left fun i hi => hkept i (List.mem_range.mp hi)]

theorem pop (h : r.Valid) : r.pop.Valid where
  head_lt := (cap_pop r).symm ▸ h.index_lt 1
  count_le := by
    rw [cap_pop]
    exact Nat.le_trans (Nat.sub_le _ _) h.count_le

/-- The front is the first item, and the others stay. -/
theorem items_pop (h : r.Valid) (hsome : 0 < r.count) : r.items = r.front :: r.pop.items := by
  obtain ⟨n, hn⟩ : ∃ n, r.count = n + 1 := ⟨r.count - 1, by omega⟩
  have hindex : ∀ i, r.pop.index i = r.index (i + 1) := by
    intro i
    rw [index, cap_pop]
    change (r.index 1 + i) % r.cap = _
    rw [index, index, Nat.mod_add_mod, Nat.add_assoc, Nat.add_comm 1 i]
  have hkept : ∀ i < n, r.pop.slots.getD (r.index (i + 1)) default = r.slots.getD (r.index (i + 1)) default := by
    intro i hi
    have hle := h.count_le
    have hne : r.head ≠ r.index (i + 1) := h.index_zero ▸ index_ne (Nat.succ_pos i) (by omega)
    simp [RingBuffer.pop, List.getD_eq_getElem?_getD, hne]
  rw [items, items, hn, List.range_succ_eq_map, List.map_cons, List.map_map, h.index_zero, front,
    show r.pop.count = n by change r.count - 1 = n; omega]
  congr 1
  refine List.map_congr_left fun i hi => ?_
  rw [hindex, hkept i (List.mem_range.mp hi)]
  rfl

end Valid
end RingBuffer
end Rcp.Lib
