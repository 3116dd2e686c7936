import Rcp.Lib.Image

/-! A block of cells that shows a configuration. A write renders the configuration, lays the data over the cells that
    may be written, and parses the configuration back from the whole block; so a field the write does not address is
    worth afterwards what its own cells said before. -/

namespace Rcp.Lib

variable {γ β : Type}

/-- How a configuration is shown in a block of `len` cells and read back from one. `parse` is given the configuration
    as it was, for what has no cells. -/
structure Block (γ β : Type) where
  len : Nat
  render : γ → List β
  parse : γ → List β → γ
  readOnly : Nat → Bool
  length_render : ∀ c, (render c).length = len

/-- A field of a configuration and the cells it is shown in, none for a field that is not shown. -/
structure BlockField (γ : Type) where
  {Value : Type}
  get : γ → Value
  offset : Nat
  width : Nat

namespace Block
variable (b : Block γ β) {c : γ} {data data' : List β} {start : Nat}

/-- The block of a configuration with `data` over its writable cells from `start` on. -/
def patched (c : γ) (start : Nat) (data : List β) : List β :=
  (b.render c).mapIdx fun k cell =>
    if !b.readOnly k && decide (start ≤ k) then data.getD (k - start) cell else cell

def write (c : γ) (start : Nat) (data : List β) : γ := b.parse c (b.patched c start data)

theorem getElem?_patched (k : Nat) :
    (b.patched c start data)[k]? =
      (b.render c)[k]?.map fun cell =>
        if !b.readOnly k && decide (start ≤ k) then data.getD (k - start) cell else cell := List.getElem?_mapIdx

/-- The write changes the cell: it reaches it, and the cell may be written. -/
def Writes (start len k : Nat) : Prop := b.readOnly k = false ∧ Reaches start len k

variable {b}

theorem getElem?_patched_of_not_writes {k : Nat} (h : ¬b.Writes start data.length k) :
    (b.patched c start data)[k]? = (b.render c)[k]? := by
  rw [getElem?_patched]
  cases (b.render c)[k]? with
  | none => rfl
  | some cell =>
    rw [Option.map_some]
    by_cases hk : b.readOnly k = false ∧ start ≤ k
    · have hlen : data.length ≤ k - start := by
        have hreach : ¬Reaches start data.length k := fun hreach => h ⟨hk.1, hreach⟩
        unfold Reaches at hreach
        omega
      rw [hk.1, if_pos (by simpa using hk.2), List.getD_eq_default data cell hlen]
    · have hcond : (!b.readOnly k && decide (start ≤ k)) = false := by
        simpa using hk
      rw [hcond]
      rfl

theorem patched_congr (hlen : data.length = data'.length)
    (h : ∀ k, b.Writes start data.length k → data[k - start]? = data'[k - start]?) :
    b.patched c start data = b.patched c start data' := by
  refine List.ext_getElem? fun k => ?_
  by_cases hw : b.Writes start data.length k
  · rw [getElem?_patched, getElem?_patched]
    simp only [List.getD_eq_getElem?_getD, h k hw]
  · rw [getElem?_patched_of_not_writes hw, getElem?_patched_of_not_writes (hlen ▸ hw)]

/-- Octets that may not be written have no effect. -/
theorem write_congr (hlen : data.length = data'.length)
    (h : ∀ k, b.Writes start data.length k → data[k - start]? = data'[k - start]?) :
    b.write c start data = b.write c start data' := by
  rw [write, write, patched_congr hlen h]

/-- Laying a part of the block over itself leaves the block. -/
theorem patched_rendered (c : γ) (start n : Nat) :
    b.patched c start (((b.render c).drop start).take n) = b.render c := by
  refine List.ext_getElem? fun k => ?_
  rw [getElem?_patched]
  cases hk : (b.render c)[k]? with
  | none => rfl
  | some cell =>
    rw [Option.map_some]
    split
    · rename_i hcond
      have hle : start ≤ k := by
        have := (Bool.and_eq_true_iff.mp hcond).2
        simpa using this
      rw [List.getD_eq_getElem?_getD]
      by_cases hn : k - start < n
      · rw [List.getElem?_take_of_lt hn, List.getElem?_drop, Nat.add_sub_cancel' hle, hk, Option.getD_some]
      · rw [List.getElem?_take, if_neg hn, Option.getD_none]
    · rfl

theorem write_rendered (c : γ) (start n : Nat) :
    b.write c start (((b.render c).drop start).take n) = b.parse c (b.render c) := by
  rw [write, patched_rendered]

end Block

namespace BlockField
variable {f : BlockField γ} {b : Block γ β} {c : γ} {data : List β} {start : Nat}

/-- A write reaches no cell of the field. -/
def Untouched (f : BlockField γ) (start len : Nat) : Prop :=
  ∀ k, f.offset ≤ k → k < f.offset + f.width → ¬Reaches start len k

/-- The field is parsed from its own cells. -/
def Local (f : BlockField γ) (b : Block γ β) : Prop :=
  ∀ {c : γ} {x y : List β}, (∀ k, f.offset ≤ k → k < f.offset + f.width → x[k]? = y[k]?) →
    f.get (b.parse c x) = f.get (b.parse c y)

/-- A field the write does not touch is worth what its cells said before it. -/
theorem Local.get_write (hf : f.Local b) (h : f.Untouched start data.length) :
    f.get (b.write c start data) = f.get (b.parse c (b.render c)) :=
  hf fun k hlo hhi => Block.getElem?_patched_of_not_writes fun hw => h k hlo hhi hw.2

end BlockField
end Rcp.Lib
