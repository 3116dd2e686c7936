import Mathlib.Data.List.Chain
import Mathlib.Data.List.Destutter

/-! A detector that reports a value whenever it is another than the one it reported last. -/

namespace Rcp.Lib

variable {α : Type*} [DecidableEq α]

/-- What is reported of values that come in one after the other, `last` having been reported before. -/
def edges (last : α) : List α → List α
  | [] => []
  | v :: vs => if v = last then edges last vs else v :: edges v vs

variable {last v : α} {vs ws : List α}

theorem cons_edges (last : α) (vs : List α) : last :: edges last vs = vs.destutter' (· ≠ ·) last := by
  induction vs generalizing last with
  | nil => rfl
  | cons v vs ih =>
    by_cases hv : v = last
    · subst hv
      rw [edges, if_pos rfl, List.destutter'_cons_neg _ (not_not.mpr rfl), ih]
    · rw [edges, if_neg hv, List.destutter'_cons_pos _ (Ne.symm hv), ih]

/-- No value is reported twice in a row. -/
theorem edges_isChain (last : α) (vs : List α) : (last :: edges last vs).IsChain (· ≠ ·) := by
  rw [cons_edges]
  exact List.isChain_destutter' (· ≠ ·) vs last

/-- The value reported last is always the one that came in last. -/
theorem getLastD_edges (last : α) (vs : List α) : (edges last vs).getLastD last = vs.getLastD last := by
  induction vs generalizing last with
  | nil => rfl
  | cons v vs ih =>
    rw [edges, List.getLastD_cons]
    split
    · rename_i hv
      rw [hv, ih]
    · rw [List.getLastD_cons, ih]

theorem getLastD_append {β : Type*} (last : β) (vs ws : List β) :
    (vs ++ ws).getLastD last = ws.getLastD (vs.getLastD last) := by
  induction vs generalizing last with
  | nil => rfl
  | cons v vs ih => rw [List.cons_append, List.getLastD_cons, List.getLastD_cons, ih]

theorem edges_append (last : α) (vs ws : List α) :
    edges last (vs ++ ws) = edges last vs ++ edges (vs.getLastD last) ws := by
  induction vs generalizing last with
  | nil => rfl
  | cons v vs ih =>
    rw [List.cons_append, edges, edges, List.getLastD_cons]
    split
    · rename_i hv
      rw [ih, hv]
    · rw [ih, List.cons_append]

/-- One more value. -/
theorem edges_concat (last v : α) (vs : List α) :
    edges last (vs ++ [v]) = edges last vs ++ if v = vs.getLastD last then [] else [v] := by
  rw [edges_append]
  rfl

end Rcp.Lib
