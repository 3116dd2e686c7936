import Rcp.Lib.Select
import Rcp.Theorems.StoreInv
import Mathlib.Data.Prod.Lex

/-! Scheduling: `select_due` returns the best due entry under the order of scheduler.h, and the slots the
    entries happen to occupy play no part in the choice. -/

namespace Rcp

/-! ### The order of scheduler.h -/

/-- The key `rcp_sched_compare` sorts by: higher rank first, then smaller sequence. -/
def SchedEntry.key (e : SchedEntry) : ℕ ×ₗ ℕ := toLex (6 - (schedKindRank e.kind).toNat, e.sequence.toNat)

theorem schedKindRank_le (k : SchedKind) : (schedKindRank k).toNat ≤ 6 := by
  cases k <;> decide

theorem schedCompare_neg {a b : SchedEntry} : schedCompare a b < 0 ↔ a.key < b.key := by
  have ha := schedKindRank_le a.kind
  have hb := schedKindRank_le b.kind
  unfold schedCompare SchedEntry.key
  rw [Prod.Lex.toLex_lt_toLex]
  dsimp only
  simp only [ne_eq, gt_iff_lt, UInt8.lt_iff_toNat_lt, ← UInt8.toNat_inj, UInt64.lt_iff_toNat_lt,
    ← UInt64.toNat_inj]
  split
  · split <;> omega
  · split
    · split <;> omega
    · omega

namespace Pending

/-- What scheduler.h sees of a slot. -/
def entry (slot : Pending) : SchedEntry := { kind := slot.kind, sequence := slot.sequence }

end Pending

namespace Endpoint
variable {ep : Endpoint} {ctx : TickCtx} {i j : SlotIx}

/-- Slot `i` is in use and its execution condition is satisfied. -/
def due (ep : Endpoint) (ctx : TickCtx) (i : SlotIx) : Bool :=
  (ep.pending i).inUse && (isDue (ep.pending i) ep.epEnable ctx).1

/-- No two requests in the store carry the same sequence number. -/
def DistinctSequences (ep : Endpoint) : Prop :=
  ∀ i j, (ep.pending i).inUse = true → (ep.pending j).inUse = true →
    (ep.pending i).sequence = (ep.pending j).sequence → i = j

theorem better_eq_keepBest (best : Option SlotIx) (i : SlotIx) :
    better (best.map fun b => (b, (ep.pending b).entry)) i (ep.candidate ctx (ep.pending i)) =
      (Lib.keepBest (ep.due ctx) (fun b => (ep.pending b).entry.key) best i).map fun b =>
        (b, (ep.pending b).entry) := by
  unfold better candidate Lib.keepBest due
  by_cases hd : ((ep.pending i).inUse && (isDue (ep.pending i) ep.epEnable ctx).1) = true
  · rw [if_pos hd, if_pos hd]
    cases best with
    | none => rfl
    | some b =>
      simp only [Option.map_some]
      rw [show ({ kind := (ep.pending i).kind, sequence := (ep.pending i).sequence } : SchedEntry) =
        (ep.pending i).entry from rfl]
      by_cases hlt : schedCompare (ep.pending i).entry (ep.pending b).entry < 0
      · rw [if_pos hlt, if_pos (schedCompare_neg.mp hlt)]
        rfl
      · rw [if_neg hlt, if_neg (fun h => hlt (schedCompare_neg.mpr h))]
        rfl
  · rw [if_neg hd, if_neg hd]

/-- `select_due` is the scan of the library over the due slots. -/
theorem selectDue_eq_keepBest (ep : Endpoint) (ctx : TickCtx) :
    (ep.selectDue ctx).1 =
      (List.finRange serverMaxPending).foldl (Lib.keepBest (ep.due ctx) fun b => (ep.pending b).entry.key) none := by
  have hfold : ∀ (l : List SlotIx) (best : Option SlotIx),
      l.foldl (fun best i => better best i (ep.candidate ctx (ep.pending i)))
        (best.map fun b => (b, (ep.pending b).entry)) =
      (l.foldl (Lib.keepBest (ep.due ctx) fun b => (ep.pending b).entry.key) best).map fun b =>
        (b, (ep.pending b).entry) := by
    intro l
    induction l with
    | nil => intro best; rfl
    | cons i l ih =>
      intro best
      rw [List.foldl_cons, List.foldl_cons, better_eq_keepBest, ih]
  rw [selectDue_index]
  have := hfold (List.finRange serverMaxPending) none
  rw [Option.map_none] at this
  rw [this, Option.map_map]
  exact congrFun Option.map_id _

/-! ### What is selected -/

theorem selectDue_none : (ep.selectDue ctx).1 = none ↔ ∀ i, ep.due ctx i = false := by
  rw [selectDue_eq_keepBest, Lib.foldl_keepBest_eq_none]
  simp

theorem selectDue_minimal (h : (ep.selectDue ctx).1 = some i) :
    ep.due ctx i = true ∧ ∀ j, ep.due ctx j = true → ¬schedCompare (ep.pending j).entry (ep.pending i).entry < 0 := by
  rw [selectDue_eq_keepBest] at h
  obtain ⟨-, hd, hmin⟩ := Lib.foldl_keepBest_minimal h
  refine ⟨hd, fun j hj hlt => ?_⟩
  exact absurd (schedCompare_neg.mp hlt) (not_lt.mpr (hmin j (List.mem_finRange j) hj))

theorem due_inUse (h : ep.due ctx i = true) : (ep.pending i).inUse = true := by
  unfold due at h
  exact (Bool.and_eq_true_iff.mp h).1

theorem due_gatesOpen (h : ep.due ctx i = true) : GatesOpen (ep.pending i) ep.epEnable ctx := by
  unfold due at h
  exact (isDue_due (Bool.and_eq_true_iff.mp h).2).1

theorem key_injective (hdist : ep.DistinctSequences) (hi : ep.due ctx i = true) (hj : ep.due ctx j = true)
    (hkey : (ep.pending i).entry.key = (ep.pending j).entry.key) : i = j := by
  refine hdist i j (due_inUse hi) (due_inUse hj) ?_
  unfold SchedEntry.key at hkey
  exact UInt64.toNat_inj.mp (congrArg (fun k => (ofLex k).2) hkey)

/-- With distinct sequence numbers the selected entry is the unique minimum of the due entries. -/
theorem selectDue_eq_some (hdist : ep.DistinctSequences) :
    (ep.selectDue ctx).1 = some i ↔
      ep.due ctx i = true ∧
      ∀ j, ep.due ctx j = true → j ≠ i → schedCompare (ep.pending i).entry (ep.pending j).entry < 0 := by
  rw [selectDue_eq_keepBest, Lib.foldl_keepBest_eq_some fun _ _ _ _ hj hk => key_injective hdist hj hk]
  simp [schedCompare_neg]

/-! ### Permuting the slots -/

/-- The same store with its entries in other slots. -/
def permute (ep : Endpoint) (π : Equiv.Perm SlotIx) : Endpoint := ep.withPending (ep.pending ∘ π)

theorem permute_due (π : Equiv.Perm SlotIx) : (ep.permute π).due ctx i = ep.due ctx (π i) := rfl

theorem permute_distinct (hdist : ep.DistinctSequences) (π : Equiv.Perm SlotIx) :
    (ep.permute π).DistinctSequences :=
  fun i j hi hj hij => π.injective (hdist (π i) (π j) hi hj hij)

theorem permute_selectDue_index (hdist : ep.DistinctSequences) (π : Equiv.Perm SlotIx) :
    ((ep.permute π).selectDue ctx).1 = (ep.selectDue ctx).1.map π.symm := by
  apply Option.ext
  intro i
  rw [selectDue_eq_some (permute_distinct hdist π), Option.map_eq_some_iff]
  constructor
  · rintro ⟨hd, hmin⟩
    refine ⟨π i, (selectDue_eq_some hdist).mpr ⟨hd, fun j hj hne => ?_⟩, π.symm_apply_apply i⟩
    have hlt := hmin (π.symm j) (by rwa [permute_due, π.apply_symm_apply]) (fun h => hne (by simp [← h]))
    simpa [permute] using hlt
  · rintro ⟨k, hk, rfl⟩
    obtain ⟨hd, hmin⟩ := (selectDue_eq_some hdist).mp hk
    refine ⟨by rwa [permute_due, π.apply_symm_apply], fun j hj hne => ?_⟩
    have hlt := hmin (π j) (by rwa [permute_due] at hj) (fun h => hne (by simp [← h]))
    simpa [permute] using hlt

theorem permute_selectDue_endpoint (π : Equiv.Perm SlotIx) :
    ((ep.permute π).selectDue ctx).2 = (ep.selectDue ctx).2.permute π := by
  rw [selectDue_endpoint, selectDue_endpoint]
  rfl

/-- `select_due` answers nothing exactly when nothing is due; its answer is due and no due entry sorts before
    it; the safe state, the enable flag and the presentation gate are respected; and as long as the sequence
    numbers are distinct, the answer is the unique minimum of the due entries and a permutation of the slots
    permutes the answer and nothing else. -/
theorem selectDue_spec (ep : Endpoint) (ctx : TickCtx) :
    ((ep.selectDue ctx).1 = none ↔ ∀ i, ep.due ctx i = false) ∧
    (∀ i, (ep.selectDue ctx).1 = some i →
      (ep.due ctx i = true ∧
        ∀ j, ep.due ctx j = true → ¬schedCompare (ep.pending j).entry (ep.pending i).entry < 0) ∧
      (RequestType.isSafety (ep.pending i).requestType = true → ctx.inSafeState = true) ∧
      ((ep.pending i).kind ∈ [.compound, .compoundWait, .triggered, .timed, .chained] → ep.epEnable = true) ∧
      ((ep.pending i).hasPresentationGate = true →
        ctx.gptpLocked = true ∧ timedDue (ep.pending i).presentationGateNs ctx.gptpNow = true)) ∧
    (ep.DistinctSequences →
      (∀ i, (ep.selectDue ctx).1 = some i ↔ ep.due ctx i = true ∧
        ∀ j, ep.due ctx j = true → j ≠ i → schedCompare (ep.pending i).entry (ep.pending j).entry < 0) ∧
      ∀ π : Equiv.Perm SlotIx,
        (ep.permute π).selectDue ctx = ((ep.selectDue ctx).1.map π.symm, (ep.selectDue ctx).2.permute π)) := by
  refine ⟨selectDue_none, fun i hi => ?_, fun hdist => ⟨fun i => selectDue_eq_some hdist, fun π => ?_⟩⟩
  · have hmin := selectDue_minimal hi
    have hopen := due_gatesOpen hmin.1
    refine ⟨hmin, fun hsafe => ?_, fun hk => hopen.enabled ?_, fun hg => ?_⟩
    · simpa [e2eRequestMayExecute, hsafe] using hopen.mayExecute
    · revert hk
      cases (ep.pending i).kind <;> decide
    · simpa [presentationGateOpen, hg] using hopen.presentation
  · exact Prod.ext (permute_selectDue_index hdist π) (permute_selectDue_endpoint π)

/-- Once the counter has wrapped, two due requests can compare equal: the selected one is not the unique
    minimum. -/
theorem selectDue_tie_after_wrap :
    ∃ (ops : List EndpointOp) (ctx : TickCtx) (i j : SlotIx),
      (((Endpoint.init true).run ops).selectDue ctx).1 = some i ∧
      ((Endpoint.init true).run ops).due ctx j = true ∧ j ≠ i ∧
      ¬schedCompare (((Endpoint.init true).run ops).pending i).entry
        (((Endpoint.init true).run ops).pending j).entry < 0 := by
  refine ⟨wrapOps ++ [admitTimed], { gptpLocked := true }, 0, 1, ?_⟩
  rw [run_concat, run_wrapOps]
  decide

end Endpoint
end Rcp
