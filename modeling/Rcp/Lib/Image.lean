import Mathlib.Data.List.Basic
import Mathlib.Data.List.Flatten
import Mathlib.Data.List.GetD

/-! Tables that are kept as rows and written as one image. A row renders to a fixed number of cells; a write patches
    the image of all rows and parses every row back from it, so a field the write does not touch is worth what its own
    cells say, not what the row held. -/

namespace Rcp.Lib

variable {ρ β : Type}

/-- The block with `data` over its cells from `start` on. -/
def patch (block : List β) (start : Nat) (data : List β) : List β :=
  block.mapIdx fun k cell => if start ≤ k then data.getD (k - start) cell else cell

section patch
variable {block data : List β} {start k : Nat}

@[simp] theorem length_patch : (patch block start data).length = block.length := List.length_mapIdx

theorem getElem?_patch :
    (patch block start data)[k]? =
      block[k]?.map fun cell => if start ≤ k then data.getD (k - start) cell else cell := List.getElem?_mapIdx

/-- The write reaches the cell. -/
def Reaches (start len k : Nat) : Prop := start ≤ k ∧ k < start + len

instance (start len k : Nat) : Decidable (Reaches start len k) := inferInstanceAs (Decidable (_ ∧ _))

theorem getElem?_patch_of_not_reaches (h : ¬Reaches start data.length k) :
    (patch block start data)[k]? = block[k]? := by
  rw [getElem?_patch]
  cases block[k]? with
  | none => rfl
  | some cell =>
    by_cases hk : start ≤ k
    · have hlen : data.length ≤ k - start := by
        unfold Reaches at h
        omega
      rw [Option.map_some, if_pos hk, List.getD_eq_default data cell hlen]
    · simp [hk]

theorem getElem?_patch_of_reaches (h : Reaches start data.length k) (hk : k < block.length) :
    (patch block start data)[k]? = data[k - start]? := by
  have hlt : k - start < data.length := by
    have := h.1
    have := h.2
    omega
  rw [getElem?_patch, List.getElem?_eq_getElem hk]
  simp [h.1, hlt]

end patch

/-! ### Blocks of one length -/

section flatten
variable {blocks : List (List β)} {n : Nat}

theorem length_flatten_of_length (h : ∀ b ∈ blocks, b.length = n) : blocks.flatten.length = n * blocks.length := by
  induction blocks with
  | nil => rfl
  | cons b blocks ih =>
    rw [List.forall_mem_cons] at h
    rw [List.flatten_cons, List.length_append, h.1, ih h.2, List.length_cons, Nat.mul_succ, Nat.add_comm]

/-- Cell `k` of block `i`. -/
theorem getElem?_flatten_of_length (h : ∀ b ∈ blocks, b.length = n) {k : Nat} (hk : k < n) (i : Nat) :
    blocks.flatten[n * i + k]? = blocks[i]?.bind (·[k]?) := by
  induction blocks generalizing i with
  | nil => rfl
  | cons b blocks ih =>
    rw [List.forall_mem_cons] at h
    rw [List.flatten_cons]
    cases i with
    | zero => rw [Nat.mul_zero, Nat.zero_add, List.getElem?_append_left (by omega), List.getElem?_cons_zero,
        Option.bind_some]
    | succ i =>
      have hstep : n * (i + 1) + k = b.length + (n * i + k) := by
        rw [h.1, Nat.mul_succ]
        omega
      rw [hstep, List.getElem?_append_right (Nat.le_add_right _ _), Nat.add_sub_cancel_left, ih h.2,
        List.getElem?_cons_succ]

end flatten

/-! ### Rows as they are shown -/

/-- The image of the rows; what a row shows may depend on its place. -/
def imageOf (shown : Nat → ρ → List β) (rows : List ρ) : List β := (rows.mapIdx shown).flatten

section imageOf
variable {shown : Nat → ρ → List β} {rows : List ρ} {n i k : Nat} {r : ρ}

theorem length_of_mem_shown (h : ∀ i r, (shown i r).length = n) : ∀ cells ∈ rows.mapIdx shown, cells.length = n := by
  intro cells hmem
  obtain ⟨i, hi, rfl⟩ := List.mem_mapIdx.mp hmem
  exact h i _

theorem length_imageOf (h : ∀ i r, (shown i r).length = n) : (imageOf shown rows).length = n * rows.length := by
  rw [imageOf, length_flatten_of_length (length_of_mem_shown h), List.length_mapIdx]

theorem getElem?_imageOf (h : ∀ i r, (shown i r).length = n) (hr : rows[i]? = some r) (hk : k < n) :
    (imageOf shown rows)[n * i + k]? = (shown i r)[k]? := by
  rw [imageOf, getElem?_flatten_of_length (length_of_mem_shown h) hk, List.getElem?_mapIdx, hr]
  rfl

theorem flatMap_eq_imageOf (render : ρ → List β) (rows : List ρ) :
    rows.flatMap render = imageOf (fun _ => render) rows := by
  rw [imageOf, List.flatMap_def]
  congr 1
  refine List.ext_getElem? fun i => ?_
  rw [List.getElem?_map, List.getElem?_mapIdx]

end imageOf

/-- How a row is laid out in the image. `parse` is given the row as it was, for what has no cells of its own. -/
structure RowCodec (ρ β : Type) where
  stride : Nat
  render : ρ → List β
  parse : ρ → List β → ρ
  stride_pos : 0 < stride
  length_render : ∀ r, (render r).length = stride

namespace RowCodec
variable (c : RowCodec ρ β) {rows : List ρ} {block data : List β} {start i k : Nat} {r : ρ}

def image (rows : List ρ) : List β := rows.flatMap c.render

/-- Each row from its own cells of the block. -/
def reparse (rows : List ρ) (block : List β) : List ρ :=
  rows.mapIdx fun i r => c.parse r (block.drop (c.stride * i))

def write (rows : List ρ) (start : Nat) (data : List β) : List ρ :=
  c.reparse rows (patch (c.image rows) start data)

theorem image_eq_imageOf (rows : List ρ) : c.image rows = imageOf (fun _ => c.render) rows :=
  flatMap_eq_imageOf c.render rows

theorem length_image (rows : List ρ) : (c.image rows).length = c.stride * rows.length := by
  rw [image_eq_imageOf, length_imageOf fun _ => c.length_render]

@[simp] theorem length_write : (c.write rows start data).length = rows.length := List.length_mapIdx

theorem getElem?_image (hr : rows[i]? = some r) (hk : k < c.stride) :
    (c.image rows)[c.stride * i + k]? = (c.render r)[k]? := by
  rw [image_eq_imageOf, getElem?_imageOf (fun _ => c.length_render) hr hk]

theorem getElem?_write (hr : rows[i]? = some r) :
    (c.write rows start data)[i]? = some (c.parse r ((patch (c.image rows) start data).drop (c.stride * i))) := by
  rw [write, reparse, List.getElem?_mapIdx, hr]
  rfl

end RowCodec

/-! ### Fields -/

/-- A field of a row and the cells it has in the row's part of the image, none for a field that is not shown. -/
structure RowField (ρ : Type) where
  {Value : Type}
  get : ρ → Value
  offset : Nat
  width : Nat

namespace RowField
variable {f : RowField ρ} {c : RowCodec ρ β} {rows : List ρ} {data : List β} {start i : Nat} {r : ρ}

/-- A write reaches no cell of the field in row `i`. -/
def Untouched (f : RowField ρ) (stride i start len : Nat) : Prop :=
  ∀ k, f.offset ≤ k → k < f.offset + f.width → ¬Reaches start len (stride * i + k)

/-- The field is parsed from its own cells. -/
structure Local (f : RowField ρ) (c : RowCodec ρ β) : Prop where
  within : f.offset + f.width ≤ c.stride
  parsed : ∀ {r : ρ} {b b' : List β}, (∀ k, f.offset ≤ k → k < f.offset + f.width → b[k]? = b'[k]?) →
    f.get (c.parse r b) = f.get (c.parse r b')

/-- The row's cells say what the field holds. -/
def Exact (f : RowField ρ) (c : RowCodec ρ β) (r : ρ) : Prop := f.get (c.parse r (c.render r)) = f.get r

/-- A field the write does not touch is worth what its cells said before it. -/
theorem Local.get_write (hf : f.Local c) (hr : rows[i]? = some r) (h : f.Untouched c.stride i start data.length) :
    (c.write rows start data)[i]?.map f.get = some (f.get (c.parse r (c.render r))) := by
  rw [c.getElem?_write hr, Option.map_some]
  congr 1
  refine hf.parsed fun k hlo hhi => ?_
  have hk : k < c.stride := Nat.lt_of_lt_of_le hhi hf.within
  rw [List.getElem?_drop, getElem?_patch_of_not_reaches (h k hlo hhi), c.getElem?_image hr hk]

/-- It keeps its value exactly when its cells said it. -/
theorem Local.kept_iff (hf : f.Local c) (hr : rows[i]? = some r) (h : f.Untouched c.stride i start data.length) :
    (c.write rows start data)[i]?.map f.get = rows[i]?.map f.get ↔ f.Exact c r := by
  rw [hf.get_write hr h, hr, Option.map_some, Option.some.injEq]
  exact Iff.rfl

end RowField
end Rcp.Lib
