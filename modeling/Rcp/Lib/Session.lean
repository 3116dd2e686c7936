import Mathlib.Data.List.Infix

/-! Sessions: a run of calls together with what each of them returned, of which one can say what has come in and what has
    gone out. -/

namespace Rcp.Lib.Session

variable {σ ι ρ α : Type*} {step : σ → ι → ρ × σ} {I : σ → Prop}

/-- The state after the calls. -/
def final (step : σ → ι → ρ × σ) (s : σ) (calls : List ι) : σ := calls.foldl (fun s c => (step s c).2) s

/-- The calls, each with what it returned. -/
def log (step : σ → ι → ρ × σ) : σ → List ι → List (ι × ρ)
  | _, [] => []
  | s, c :: calls => (c, (step s c).1) :: log step (step s c).2 calls

@[simp] theorem final_nil (s : σ) : final step s [] = s := rfl
@[simp] theorem final_cons (s : σ) (c : ι) (calls : List ι) :
    final step s (c :: calls) = final step (step s c).2 calls := rfl
@[simp] theorem log_nil (s : σ) : log step s [] = [] := rfl
@[simp] theorem log_cons (s : σ) (c : ι) (calls : List ι) :
    log step s (c :: calls) = (c, (step s c).1) :: log step (step s c).2 calls := rfl

theorem final_append (s : σ) (calls calls' : List ι) :
    final step s (calls ++ calls') = final step (final step s calls) calls' := List.foldl_append

/-- What every call keeps holds at the end. -/
theorem invariant (hstep : ∀ s c, I s → I (step s c).2) {s : σ} (hs : I s) (calls : List ι) : I (final step s calls) := by
  induction calls generalizing s with
  | nil => exact hs
  | cons c calls ih => exact ih (hstep s c hs)

/-! ### First in, first out -/

section
variable (content : σ → List α) {enters leaves : ι × ρ → List α}

/-- Where every call puts what comes in behind the content and takes what goes out from its front, the same is true of
    all the calls together. -/
theorem fifo (hkeep : ∀ s c, I s → I (step s c).2)
    (hstep : ∀ s c, I s →
      content s ++ enters (c, (step s c).1) = leaves (c, (step s c).1) ++ content (step s c).2)
    {s : σ} (hs : I s) (calls : List ι) :
    content s ++ (log step s calls).flatMap enters =
      (log step s calls).flatMap leaves ++ content (final step s calls) := by
  induction calls generalizing s with
  | nil => simp
  | cons c calls ih =>
    calc content s ++ (log step s (c :: calls)).flatMap enters
        = content s ++ enters (c, (step s c).1) ++ (log step (step s c).2 calls).flatMap enters := by
          rw [log_cons, List.flatMap_cons, List.append_assoc]
      _ = leaves (c, (step s c).1) ++ (content (step s c).2 ++ (log step (step s c).2 calls).flatMap enters) := by
          rw [hstep s c hs, List.append_assoc]
      _ = (log step s (c :: calls)).flatMap leaves ++ content (final step s (c :: calls)) := by
          rw [ih (hkeep s c hs), log_cons, List.flatMap_cons, final_cons, List.append_assoc]

end

end Rcp.Lib.Session
