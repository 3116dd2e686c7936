import Mathlib.Data.List.Nodup
import Mathlib.Data.List.Perm.Basic
import Mathlib.Logic.Function.Basic

/-! Cells of a memory and their owners: every cell in use has exactly one. -/

namespace Rcp.Lib

variable {κ α β : Type*} {fits : α → β → Prop} {memory : κ → Option β} {owners owners' : List (κ × α)} {k : κ} {a : α}
  {b : β}

/-- Each cell in use has one owner, and its content fits what the owner knows of it. -/
structure Owned (fits : α → β → Prop) (memory : κ → Option β) (owners : List (κ × α)) : Prop where
  nodup : (owners.map Prod.fst).Nodup
  alive : ∀ k, (memory k).isSome = true ↔ k ∈ owners.map Prod.fst
  fit : ∀ o ∈ owners, ∀ b, memory o.1 = some b → fits o.2 b

theorem Owned.nil : Owned fits (fun _ : κ => none) [] where
  nodup := List.nodup_nil
  alive := fun _ => ⟨nofun, nofun⟩
  fit := nofun

theorem Owned.perm (h : Owned fits memory owners) (hperm : owners.Perm owners') : Owned fits memory owners' where
  nodup := (hperm.map Prod.fst).nodup_iff.mp h.nodup
  alive := fun k => (h.alive k).trans (hperm.map Prod.fst).mem_iff
  fit := fun o ho => h.fit o (hperm.mem_iff.mpr ho)

theorem Owned.content (h : Owned fits memory owners) (hk : (k, a) ∈ owners) : ∃ b, memory k = some b ∧ fits a b := by
  obtain ⟨b, hb⟩ := Option.isSome_iff_exists.mp ((h.alive k).mpr (List.mem_map_of_mem hk))
  exact ⟨b, hb, h.fit (k, a) hk b hb⟩

variable [DecidableEq κ]

/-- A cell that was not in use gets an owner. -/
theorem Owned.alloc (h : Owned fits memory owners) (hk : memory k = none) (hb : fits a b) :
    Owned fits (Function.update memory k (some b)) ((k, a) :: owners) where
  nodup := by
    refine List.nodup_cons.mpr ⟨fun hmem => ?_, h.nodup⟩
    have halive := (h.alive k).mpr hmem
    rw [hk] at halive
    cases halive
  alive := fun j => by
    rw [List.map_cons, List.mem_cons, ← h.alive]
    by_cases hj : j = k
    · subst hj
      rw [Function.update_self]
      exact ⟨fun _ => .inl rfl, fun _ => rfl⟩
    · rw [Function.update_of_ne hj]
      exact ⟨.inr, fun hor => hor.resolve_left hj⟩
  fit := fun o ho c hc => by
    rcases List.mem_cons.mp ho with rfl | ho
    · rw [Function.update_self] at hc
      cases hc
      exact hb
    · have hne : o.1 ≠ k := by
        intro hsame
        have halive := (h.alive o.1).mpr (List.mem_map_of_mem ho)
        rw [hsame, hk] at halive
        cases halive
      rw [Function.update_of_ne hne] at hc
      exact h.fit o ho c hc

/-- An owner gives up its cell. -/
theorem Owned.free (h : Owned fits memory ((k, a) :: owners)) : Owned fits (Function.update memory k none) owners := by
  obtain ⟨hk, hnodup⟩ := List.nodup_cons.mp h.nodup
  refine ⟨hnodup, fun j => ?_, fun o ho c hc => ?_⟩
  · by_cases hj : j = k
    · subst hj
      rw [Function.update_self]
      exact ⟨nofun, fun hmem => absurd hmem hk⟩
    · rw [Function.update_of_ne hj, h.alive, List.map_cons, List.mem_cons]
      exact ⟨fun hor => hor.resolve_left hj, .inr⟩
  · have hne : o.1 ≠ k := fun hsame => hk (List.mem_map.mpr ⟨o, ho, hsame⟩)
    rw [Function.update_of_ne hne] at hc
    exact h.fit o (List.mem_cons_of_mem _ ho) c hc

/-- An owner changes what is in its cell. -/
theorem Owned.put (h : Owned fits memory owners) (hk : (k, a) ∈ owners) (hb : fits a b) :
    Owned fits (Function.update memory k (some b)) owners where
  nodup := h.nodup
  alive := fun j => by
    by_cases hj : j = k
    · subst hj
      rw [Function.update_self]
      exact ⟨fun _ => List.mem_map_of_mem hk, fun _ => rfl⟩
    · rw [Function.update_of_ne hj, h.alive]
  fit := fun o ho c hc => by
    by_cases hj : o.1 = k
    · have hsame : o = (k, a) := List.inj_on_of_nodup_map h.nodup ho hk hj
      rw [hsame, Function.update_self] at hc
      cases hc
      rw [hsame]
      exact hb
    · rw [Function.update_of_ne hj] at hc
      exact h.fit o ho c hc

/-- When all owners give up their cells, none is in use. -/
theorem Owned.freeAll (h : Owned fits memory owners) :
    owners.foldl (fun (memory : κ → Option β) o => Function.update memory o.1 none) memory = fun _ => none := by
  induction owners generalizing memory with
  | nil =>
    funext k
    exact Option.not_isSome_iff_eq_none.mp fun hk => nomatch (h.alive k).mp hk
  | cons o owners ih => exact ih h.free

end Rcp.Lib
