import Rcp.Theorems.Store

/-! Every sweep of a request store that releases slots clears a set of them, and what two sweeps leave is what one
    over both sets leaves. -/

namespace Rcp
namespace Endpoint
variable {ep : Endpoint} {i j : SlotIx} {D D' : SlotIx → Bool}

/-- Release every slot of `D` that is in use. -/
def cleared (ep : Endpoint) (D : SlotIx → Bool) : Endpoint :=
  { ep with
    pending := fun j => if (ep.pending j).inUse && D j then .zero else ep.pending j
    pendingCount := ep.pendingCount - (List.finRange serverMaxPending).countP fun j => (ep.pending j).inUse && D j }

theorem cleared_pending (ep : Endpoint) (D : SlotIx → Bool) (j : SlotIx) :
    (ep.cleared D).pending j = if (ep.pending j).inUse && D j then .zero else ep.pending j := rfl

theorem cleared_inUse (ep : Endpoint) (D : SlotIx → Bool) (j : SlotIx) :
    ((ep.cleared D).pending j).inUse = ((ep.pending j).inUse && !D j) := by
  rw [cleared_pending]
  cases hu : (ep.pending j).inUse <;> cases hD : D j <;> simp [hu, Pending.zero]

/-- What is still in use has not been touched. -/
theorem cleared_kept (hu : ((ep.cleared D).pending j).inUse = true) : (ep.cleared D).pending j = ep.pending j := by
  rw [cleared_inUse, Bool.and_eq_true, Bool.not_eq_true'] at hu
  rw [cleared_pending, hu.1, hu.2]
  rfl

theorem cleared_congr (h : ∀ j, (ep.pending j).inUse = true → D j = D' j) : ep.cleared D = ep.cleared D' := by
  have hand : ∀ j, ((ep.pending j).inUse && D j) = ((ep.pending j).inUse && D' j) := by
    intro j
    cases hu : (ep.pending j).inUse with
    | false => rfl
    | true => rw [h j hu]
  simp only [cleared, hand]

theorem cleared_inj (h : ep.cleared D = ep.cleared D') (hu : (ep.pending j).inUse = true) : D j = D' j := by
  have hj := cleared_inUse ep D j
  rw [h, cleared_inUse, hu] at hj
  simpa using hj.symm

/-- Two sweeps are one. -/
theorem cleared_cleared (ep : Endpoint) (D D' : SlotIx → Bool) :
    (ep.cleared D).cleared D' = ep.cleared fun j => D j || D' j := by
  have hslot : ∀ j, (if ((ep.cleared D).pending j).inUse && D' j then Pending.zero else (ep.cleared D).pending j) =
      if (ep.pending j).inUse && (D j || D' j) then .zero else ep.pending j := by
    intro j
    rw [cleared_inUse, cleared_pending]
    cases (ep.pending j).inUse <;> cases D j <;> cases D' j <;> simp
  have hcount : ∀ l : List SlotIx, l.countP (fun j => (ep.pending j).inUse && (D j || D' j)) =
      l.countP (fun j => (ep.pending j).inUse && D j) + l.countP fun j => ((ep.cleared D).pending j).inUse && D' j := by
    intro l
    induction l with
    | nil => rfl
    | cons j l ih =>
      simp only [List.countP_cons, ih, cleared_inUse]
      cases (ep.pending j).inUse <;> cases D j <;> cases D' j <;> simp <;> omega
  have hpending : ((ep.cleared D).cleared D').pending = (ep.cleared fun j => D j || D' j).pending := funext hslot
  have hpendingCount : ((ep.cleared D).cleared D').pendingCount = (ep.cleared fun j => D j || D' j).pendingCount := by
    simp only [cleared, hcount, ← Nat.sub_sub]
  simp only [cleared] at hpending hpendingCount ⊢
  rw [hpending, hpendingCount]

theorem cleared_none (ep : Endpoint) : (ep.cleared fun _ => false) = ep := by
  simp [cleared]

theorem releaseSlot_eq_cleared (hu : (ep.pending i).inUse = true) : ep.releaseSlot i = ep.cleared fun j => j == i := by
  have hpending : Function.update ep.pending i .zero =
      fun j => if (ep.pending j).inUse && (j == i) then Pending.zero else ep.pending j := by
    funext j
    by_cases hji : j = i
    · subst hji
      simp [hu]
    · simp [hji]
  have hcount : (List.finRange serverMaxPending).countP (fun j => (ep.pending j).inUse && (j == i)) = 1 := by
    have heq : ∀ j ∈ List.finRange serverMaxPending, ((ep.pending j).inUse && (j == i)) = true ↔ (j == i) = true := by
      intro j _
      by_cases hji : j = i
      · subst hji
        simp [hu]
      · simp [hji]
    rw [List.countP_congr heq]
    exact List.count_eq_one_of_mem (List.nodup_finRange _) (List.mem_finRange i)
  simp only [releaseSlot, cleared, hpending, hcount]

theorem releaseWhere_eq_cleared (drop : Pending → Bool) (ep : Endpoint) :
    (ep.releaseWhere drop).2 = ep.cleared fun j => drop (ep.pending j) := by
  -- Induction over the slots still to be visited: those before are cleared, none of them twice.
  have hloop : ∀ (l : List SlotIx) (n : Nat) (done : SlotIx → Bool), l.Nodup → (∀ j ∈ l, done j = false) →
      (l.foldl (releaseWhereStep drop) (n, ep.cleared done)).2 =
        ep.cleared fun j => done j || (decide (j ∈ l) && drop (ep.pending j)) := by
    intro l
    induction l with
    | nil =>
      intro n done _ _
      simp
    | cons i l ih =>
      intro n done hl hdone
      rw [List.nodup_cons] at hl
      have hi : (ep.cleared done).pending i = ep.pending i := by
        rw [cleared_pending, hdone i (List.mem_cons_self ..), Bool.and_false]
        rfl
      have hrest : ∀ done' : SlotIx → Bool, (∀ j, j ≠ i → done' j = done j) → ∀ j ∈ l, done' j = false := by
        intro done' hd j hj
        have hne : j ≠ i := fun h => hl.1 (h ▸ hj)
        rw [hd j hne]
        exact hdone j (List.mem_cons_of_mem i hj)
      have hturn : releaseWhereStep drop (n, ep.cleared done) i =
          if (ep.pending i).inUse && drop (ep.pending i) then (n + 1, (ep.cleared done).releaseSlot i)
          else (n, ep.cleared done) := by
        simp only [releaseWhereStep, hi]
      rw [List.foldl_cons, hturn]
      cases hdrop : (ep.pending i).inUse && drop (ep.pending i) with
      | false =>
        rw [if_neg Bool.false_ne_true, ih n done hl.2 (hrest done fun _ _ => rfl)]
        refine cleared_congr fun j hu => ?_
        by_cases hji : j = i
        · subst hji
          rw [hu, Bool.true_and] at hdrop
          simp [hdrop]
        · simp [hji]
      | true =>
        obtain ⟨hu, hd⟩ := Bool.and_eq_true_iff.mp hdrop
        have hu' : ((ep.cleared done).pending i).inUse = true := by rw [hi, hu]
        rw [if_pos rfl, releaseSlot_eq_cleared hu', cleared_cleared,
          ih (n + 1) _ hl.2 (hrest _ fun j hji => by simp [hji])]
        refine cleared_congr fun j hj => ?_
        by_cases hji : j = i
        · subst hji
          simp [hd]
        · simp [beq_eq_false_iff_ne.mpr hji, hji]
  have h := hloop (List.finRange serverMaxPending) 0 (fun _ => false) (List.nodup_finRange _) fun _ _ => rfl
  rw [cleared_none] at h
  rw [releaseWhere, h]
  simp

end Endpoint
end Rcp
