import Mathlib.Data.List.Basic

/-! Lists of entries that are found by their keys. -/

namespace Rcp.Lib

section Keyed
variable {α κ : Type*} {key : α → κ} {l l' : List α} {i : Nat} {x y : α}

/-- An entry that is replaced by one under its key leaves the keys as they are. -/
theorem map_set_of_key (hx : l[i]? = some x) (hkey : key y = key x) : (l.set i y).map key = l.map key := by
  refine List.ext_getElem? fun n => ?_
  rw [List.getElem?_map, List.getElem?_map]
  by_cases hn : i = n
  · subst hn
    rw [List.getElem?_set_self (List.getElem?_eq_some_iff.mp hx).1, hx, Option.map_some, Option.map_some, hkey]
  · rw [List.getElem?_set_ne hn]

theorem map_modify_of_key {f : α → α} (hkey : ∀ x, key (f x) = key x) (l : List α) (i : Nat) :
    (l.modify i f).map key = l.map key := by
  refine List.ext_getElem? fun n => ?_
  rw [List.getElem?_map, List.getElem?_map, List.getElem?_modify]
  cases l[n]? with
  | none => rfl
  | some x =>
    simp only [Option.map_eq_map, Option.map_some]
    split
    · rw [hkey]
    · rfl

theorem findIdx?_congr_key [BEq κ] (h : l'.map key = l.map key) (k : κ) :
    l'.findIdx? (key · == k) = l.findIdx? (key · == k) := by
  have hmap : ∀ l : List α, l.findIdx? (key · == k) = (l.map key).findIdx? (· == k) := by
    intro l
    rw [List.findIdx?_map]
    rfl
  rw [hmap, hmap, h]

end Keyed

end Rcp.Lib
