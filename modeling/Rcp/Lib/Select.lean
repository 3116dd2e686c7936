import Mathlib.Data.Fintype.Card
import Mathlib.Data.List.MinMax

/-! Selection by a single scan that keeps the strictly best candidate it has seen. With distinct keys the
    selected candidate does not depend on the order of the scan. A system that takes the best candidate out again and
    again goes through them in the order of their keys. -/

namespace Rcp.Lib

variable {ι κ : Type*} [LinearOrder κ] {cand : ι → Bool} {key : ι → κ} {l : List ι} {m : ι}

/-- One turn of the scan: a candidate replaces the best so far only if it is strictly better. -/
def keepBest (cand : ι → Bool) (key : ι → κ) (best : Option ι) (i : ι) : Option ι :=
  if cand i then
    match best with
    | none => some i
    | some b => if key i < key b then some i else some b
  else best

theorem foldl_keepBest (l : List ι) : l.foldl (keepBest cand key) none = (l.filter cand).argmin key := by
  induction l using List.reverseRecOn with
  | nil => rfl
  | append_singleton l i ih =>
    rw [List.foldl_append, ih, List.filter_append, List.foldl_cons, List.foldl_nil]
    unfold keepBest
    by_cases hi : cand i = true
    · rw [if_pos hi, List.filter_cons_of_pos hi, List.filter_nil, List.argmin_concat]
      cases (l.filter cand).argmin key <;> rfl
    · rw [if_neg hi, List.filter_cons_of_neg hi, List.filter_nil, List.append_nil]

theorem foldl_keepBest_eq_none : l.foldl (keepBest cand key) none = none ↔ ∀ i ∈ l, cand i = false := by
  rw [foldl_keepBest, List.argmin_eq_none, List.filter_eq_nil_iff]
  simp

/-- The selected candidate is one, and none is strictly better. -/
theorem foldl_keepBest_minimal (h : l.foldl (keepBest cand key) none = some m) :
    m ∈ l ∧ cand m = true ∧ ∀ i ∈ l, cand i = true → key m ≤ key i := by
  rw [foldl_keepBest] at h
  obtain ⟨hm, hc⟩ := List.mem_filter.mp (List.argmin_mem h)
  refine ⟨hm, hc, fun i hi hci => ?_⟩
  exact List.le_of_mem_argmin (List.mem_filter.mpr ⟨hi, hci⟩) h

/-- With distinct keys the selection is the unique minimum, whatever the order of the scan. -/
theorem foldl_keepBest_eq_some (hinj : ∀ i ∈ l, ∀ j ∈ l, cand i = true → cand j = true → key i = key j → i = j) :
    l.foldl (keepBest cand key) none = some m ↔
      m ∈ l ∧ cand m = true ∧ ∀ i ∈ l, cand i = true → i ≠ m → key m < key i := by
  constructor
  · intro h
    obtain ⟨hm, hc, hmin⟩ := foldl_keepBest_minimal h
    refine ⟨hm, hc, fun i hi hci hne => lt_of_le_of_ne (hmin i hi hci) fun heq => ?_⟩
    exact hne (hinj i hi m hm hci hc heq.symm)
  · rintro ⟨hm, hc, hlt⟩
    cases hsel : l.foldl (keepBest cand key) none with
    | none =>
      have := foldl_keepBest_eq_none.mp hsel m hm
      rw [hc] at this
      cases this
    | some b =>
      obtain ⟨hb, hcb, hmin⟩ := foldl_keepBest_minimal hsel
      by_cases hbm : b = m
      · rw [hbm]
      · exact absurd (hmin m hm hc) (not_le.mpr (hlt b hb hcb hbm))

/-! ### Taking candidates out -/

section Drain
variable {σ δ ω ρ : Type*}

/-- Steps until one takes nothing out, with what the steps took out. -/
def drain (step : σ → Option (ι × ρ) × σ) : Nat → σ → List (ι × ρ) × σ
  | 0, s => ([], s)
  | n + 1, s =>
    match step s with
    | (none, s) => ([], s)
    | (some out, s) =>
      let (outs, s) := drain step n s
      (out :: outs, s)

/-- Acting on one item of data after the other. -/
def actAll (act : δ → ω → ρ × ω) (data : ι → δ) : List ι → ω → List (ι × ρ) × ω
  | [], w => ([], w)
  | i :: rest, w =>
    let (out, w) := act (data i) w
    let (outs, w) := actAll act data rest w
    ((i, out) :: outs, w)

/-- A step takes the best candidate out and acts on its data. The other candidates stay, with their data. -/
structure Extracts (step : σ → Option (ι × ρ) × σ) (I : σ → Prop) (cand : σ → ι → Bool) (data : σ → ι → δ)
    (key : δ → κ) (view : σ → ω) (act : δ → ω → ρ × ω) : Prop where
  idle : ∀ s, I s → (step s).1 = none → (∀ i, cand (step s).2 i = false) ∧ (∀ i, cand s i = false) ∧
    view (step s).2 = view s
  taken : ∀ s i out, I s → (step s).1 = some (i, out) → I (step s).2 ∧ cand s i = true ∧
    (∀ j, cand s j = true → j ≠ i → key (data s i) < key (data s j)) ∧
    (∀ j, cand (step s).2 j = true ↔ cand s j = true ∧ j ≠ i) ∧
    (∀ j, cand s j = true → j ≠ i → data (step s).2 j = data s j) ∧
    (out, view (step s).2) = act (data s i) (view s)

theorem actAll_congr {act : δ → ω → ρ × ω} {data data' : ι → δ} {order : List ι} (h : ∀ i ∈ order, data' i = data i)
    (w : ω) : actAll act data' order w = actAll act data order w := by
  induction order generalizing w with
  | nil => rfl
  | cons i order ih =>
    rw [actAll, actAll, h i List.mem_cons_self]
    dsimp only
    rw [ih fun j hj => h j (List.mem_cons_of_mem i hj)]

/-- Only the part of the data that the action looks at matters. -/
theorem actAll_comp {ε : Type*} (act : ε → ω → ρ × ω) (part : δ → ε) (data : ι → δ) (order : List ι) (w : ω) :
    actAll (fun d => act (part d)) data order w = actAll act (fun i => part (data i)) order w := by
  induction order generalizing w with
  | nil => rfl
  | cons i order ih =>
    rw [actAll, actAll]
    dsimp only
    rw [ih]

section
variable {step : σ → Option (ι × ρ) × σ} {I : σ → Prop} {cand : σ → ι → Bool} {data : σ → ι → δ} {key : δ → κ}
  {view : σ → ω} {act : δ → ω → ρ × ω} {n : Nat} {s : σ}

theorem Extracts.drain_candidates (h : Extracts step I cand data key view act) (hI : I s) (left : Finset ι)
    (hleft : ∀ i, i ∈ left ↔ cand s i = true) (hn : left.card ≤ n) :
    ∃ order : List ι, (∀ i, i ∈ order ↔ cand s i = true) ∧
      order.Pairwise (fun i j => key (data s i) < key (data s j)) ∧
      ((Lib.drain step n s).1, view (Lib.drain step n s).2) = actAll act (data s) order (view s) ∧
      ∀ i, cand (Lib.drain step n s).2 i = false := by
  induction n generalizing s left with
  | zero =>
    have hnone : ∀ i, cand s i = false := by
      intro i
      by_contra hi
      have hmem := (hleft i).mpr (by simpa using hi)
      rw [Finset.card_eq_zero.mp (Nat.le_zero.mp hn)] at hmem
      exact absurd hmem (Finset.notMem_empty i)
    exact ⟨[], fun i => by simp [hnone i], .nil, rfl, hnone⟩
  | succ n ih =>
    rcases hstep : step s with ⟨_ | ⟨i, out⟩, t⟩
    · obtain ⟨hafter, hbefore, hview⟩ := h.idle s hI (by rw [hstep])
      rw [hstep] at hafter hview
      rw [Lib.drain, hstep]
      refine ⟨[], fun i => by simp [hbefore i], .nil, ?_, hafter⟩
      rw [actAll, hview]
    · obtain ⟨hI', hi, hmin, hcand, hdata, hact⟩ := h.taken s i out hI (by rw [hstep])
      rw [hstep] at hI' hcand hdata hact
      dsimp only at hI' hcand hdata hact
      -- One candidate fewer, so the steps that are left are enough.
      classical
      have hmem := (hleft i).mpr hi
      have hleft' : ∀ j, j ∈ left.erase i ↔ cand t j = true := by
        intro j
        rw [Finset.mem_erase, hleft, hcand, and_comm]
      obtain ⟨order, horder, hsorted, hout, hdone⟩ := ih hI' (left.erase i) hleft' (by
        rw [Finset.card_erase_of_mem hmem]
        omega)
      have hcands : ∀ j ∈ order, cand s j = true ∧ j ≠ i := fun j hj => (hcand j).mp ((horder j).mp hj)
      rw [Lib.drain, hstep]
      refine ⟨i :: order, fun j => ?_, ?_, ?_, hdone⟩
      · rw [List.mem_cons, horder, hcand]
        constructor
        · rintro (rfl | ⟨hj, -⟩)
          · exact hi
          · exact hj
        · intro hj
          by_cases hji : j = i
          · exact .inl hji
          · exact .inr ⟨hj, hji⟩
      · refine List.pairwise_cons.mpr ⟨fun j hj => hmin j (hcands j hj).1 (hcands j hj).2, ?_⟩
        refine hsorted.imp_of_mem fun {a b} ha hb hab => ?_
        rwa [hdata a (hcands a ha).1 (hcands a ha).2, hdata b (hcands b hb).1 (hcands b hb).2] at hab
      · rw [actAll, ← hact]
        dsimp only
        rw [← actAll_congr (fun j hj => hdata j (hcands j hj).1 (hcands j hj).2), ← hout]

/-- The candidates are gone through once each, in the order of their keys. -/
theorem Extracts.drain [Fintype ι] (h : Extracts step I cand data key view act) (hI : I s)
    (hn : Fintype.card ι ≤ n) :
    ∃ order : List ι, (∀ i, i ∈ order ↔ cand s i = true) ∧
      order.Pairwise (fun i j => key (data s i) < key (data s j)) ∧
      ((Lib.drain step n s).1, view (Lib.drain step n s).2) = actAll act (data s) order (view s) ∧
      ∀ i, cand (Lib.drain step n s).2 i = false :=
  h.drain_candidates hI (Finset.univ.filter fun i => cand s i = true) (by simp) ((Finset.card_le_univ _).trans hn)

end

end Drain

end Rcp.Lib
