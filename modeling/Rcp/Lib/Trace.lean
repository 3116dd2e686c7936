import Mathlib.Data.List.Basic

/-! Traces of a system: the events of a run in order, each with the state it finds and the state it leaves.
    Between two events the system may change in ways that `same` does not see. -/

namespace Rcp.Lib

variable {σ ε : Type*} {before after : ε → σ} {same : σ → σ → Prop} {I : σ → Prop}

/-- The events lead from one state to another. -/
inductive Trace (before after : ε → σ) (same : σ → σ → Prop) : σ → List ε → σ → Prop
  | nil {s t : σ} (h : same s t) : Trace before after same s [] t
  | cons {s t : σ} {e : ε} {es : List ε} (h : same s (before e)) (ht : Trace before after same (after e) es t) :
      Trace before after same s (e :: es) t

namespace Trace

theorem append {s t u : σ} {es es' : List ε} (h : Trace before after same s es t)
    (h' : Trace before after same t es' u) (htrans : ∀ a b c, same a b → same b c → same a c) :
    Trace before after same s (es ++ es') u := by
  induction h with
  | nil hs =>
    cases h' with
    | nil ht => exact .nil (htrans _ _ _ hs ht)
    | cons ht h' => exact .cons (htrans _ _ _ hs ht) h'
  | cons hs _ ih => exact .cons hs (ih h')

/-- What `same` does not see may change at the end as well. -/
theorem extend {s t u : σ} {es : List ε} (h : Trace before after same s es t) (ht : same t u)
    (htrans : ∀ a b c, same a b → same b c → same a c) : Trace before after same s es u := by
  induction h with
  | nil hs => exact .nil (htrans _ _ _ hs ht)
  | cons hs _ ih => exact .cons hs (ih ht)

/-- A trace can be cut in two at any of its events. -/
theorem split {s t : σ} {e : ε} {es es' : List ε} (h : Trace before after same s (es ++ e :: es') t) :
    Trace before after same s es (before e) ∧ Trace before after same (after e) es' t := by
  induction es generalizing s with
  | nil =>
    cases h with
    | cons hs h => exact ⟨.nil hs, h⟩
  | cons e' es ih =>
    cases h with
    | cons hs h =>
      obtain ⟨hl, hr⟩ := ih h
      exact ⟨.cons hs hl, hr⟩

/-- What every event keeps, and `same` cannot tell, holds at the end. -/
theorem invariant {s t : σ} {es : List ε} (h : Trace before after same s es t)
    (hsame : ∀ a b, same a b → I a → I b) (hstep : ∀ e ∈ es, I (before e) → I (after e)) (hs : I s) : I t := by
  induction h with
  | nil hst => exact hsame _ _ hst hs
  | @cons s t e es hse _ ih =>
    refine ih (fun e' he' => hstep e' (List.mem_cons_of_mem e he')) ?_
    exact hstep e (List.mem_cons_self ..) (hsame _ _ hse hs)

end Trace
end Rcp.Lib
