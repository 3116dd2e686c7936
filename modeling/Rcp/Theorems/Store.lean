import Rcp.EndpointRun
import Rcp.Lib.Slots

/-! What each call does to the conditional-request store, slot by slot. The proofs of the following
    modules use these facts and never unfold a call again. -/

namespace Rcp

/-! ### Slots -/

namespace Pending

/-- A freshly claimed slot. -/
def claimed (sequence : UInt64) : Pending := { inUse := true, sequence := sequence }

/-- The repeat_count of the kinds that have one. -/
def repeatCount? (slot : Pending) : Option UInt16 :=
  match slot.kind with
  | .compound | .compoundWait => some slot.compound.repeatCount
  | .triggered => some slot.triggered.repeatCount
  | _ => none

/-- Write the repeat_count that `repeatCount?` reads. -/
def setRepeatCount (slot : Pending) (n : UInt16) : Pending :=
  match slot.kind with
  | .compound | .compoundWait => { slot with compound := { slot.compound with repeatCount := n } }
  | .triggered => { slot with triggered := { slot.triggered with repeatCount := n } }
  | _ => slot

/-- The slot after `complete`, all-zero when it was its last execution. -/
def completed (slot : Pending) (now : UInt32) : Pending :=
  match slot.repeatCount? with
  | none => zero
  | some n =>
    if n = repeatInfinite then slot.rearm now else
    if n = 0 then zero else (slot.setRepeatCount (n - 1)).rearm now

/-- The slot after `notify_trigger`. -/
def notified (slot : Pending) (sourceEp signalNr : UInt8) : Pending :=
  if slot.inUse ∧ slot.kind = .triggered then
    { slot with
      triggeredRuntime := (triggeredRuntimeRecordOccurrence slot.triggeredRuntime slot.triggered sourceEp signalNr).2 }
  else slot

/-- The slot after `chain_predecessor_done`. -/
def predecessorFinished (slot : Pending) (now : UInt32) : Pending :=
  if slot.inUse ∧ slot.kind = .chained then { slot with predecessorDone := true, armedAt := now } else slot

/-- The slot after its turn in the `select_due` loop. -/
def swept (slot : Pending) (epEnable : Bool) (ctx : TickCtx) : Pending :=
  if slot.inUse then (isDue slot epEnable ctx).2 else slot

@[simp] theorem zero_inUse : zero.inUse = false := rfl
@[simp] theorem rearm_inUse (slot : Pending) (now : UInt32) : (slot.rearm now).inUse = slot.inUse := rfl

@[simp] theorem setRepeatCount_inUse (slot : Pending) (n : UInt16) : (slot.setRepeatCount n).inUse = slot.inUse := by
  unfold setRepeatCount
  split <;> rfl

/-- A completed slot stays in use or is cleared. -/
theorem completed_eq_zero {slot : Pending} {now : UInt32} (hu : slot.inUse = true)
    (h : (slot.completed now).inUse = false) : slot.completed now = zero := by
  unfold completed at h ⊢
  cases hn : slot.repeatCount? with
  | none => rfl
  | some n =>
    simp only [hn] at h ⊢
    by_cases hinf : n = repeatInfinite
    · simp [hinf, hu] at h
    · by_cases hzero : n = 0
      · rw [if_neg hinf, if_pos hzero]
      · simp [hinf, hzero, hu] at h

theorem completed_triggeredRuntime {slot : Pending} (hk : slot.kind = .triggered) (rt : TriggeredRuntime) (now : UInt32) :
    ({ slot with triggeredRuntime := rt } : Pending).completed now = slot.completed now := by
  simp [completed, repeatCount?, setRepeatCount, rearm, hk, triggeredRuntimeEnterStarted]

end Pending

/-! ### `is_due` -/

section IsDue
variable {slot : Pending} {epEnable : Bool} {ctx : TickCtx}

/-- Every gate `is_due` passes before it looks at the timer. -/
structure GatesOpen (slot : Pending) (epEnable : Bool) (ctx : TickCtx) : Prop where
  enabled : kindIsGatedByEpEnable slot.kind = true → epEnable = true
  mayExecute : e2eRequestMayExecute slot.requestType ctx.inSafeState = true
  presentation : presentationGateOpen slot ctx = true

/-- The slot with its exec_delay timer running from `ctx`. -/
def Pending.arm (slot : Pending) (ctx : TickCtx) : Pending :=
  { slot with armed := true, armedAt := if slot.kind ≠ .chained then ctx.now else slot.armedAt }

/-- The timer and the auxiliary half of the condition, of an armed slot. -/
def timerExpired (slot : Pending) (ctx : TickCtx) : Bool :=
  auxiliaryConditionMet slot ctx && delayExpired slot ctx (ctx.now - slot.armedAt)

theorem isDue_of_closed (h : ¬GatesOpen slot epEnable ctx) : isDue slot epEnable ctx = (false, slot) := by
  unfold isDue
  by_cases he : (!epEnable && kindIsGatedByEpEnable slot.kind) = true
  · simp [he]
  by_cases hm : e2eRequestMayExecute slot.requestType ctx.inSafeState = true
  · by_cases hp : presentationGateOpen slot ctx = true
    · refine absurd ⟨fun hk => ?_, hm, hp⟩ h
      simpa [hk] using he
    · simp [he, hm, hp]
  · simp [he, hm]

theorem isDue_of_open (h : GatesOpen slot epEnable ctx) :
    isDue slot epEnable ctx =
      if slot.armed = true then (timerExpired slot ctx, slot)
      else if startConditionHolds slot ctx = true then (timerExpired (slot.arm ctx) ctx, slot.arm ctx)
      else (false, slot) := by
  have he : (!epEnable && kindIsGatedByEpEnable slot.kind) = false := by
    cases hk : kindIsGatedByEpEnable slot.kind with
    | false => simp
    | true => simp [h.enabled hk]
  have htimer : ∀ slot : Pending, (if (!auxiliaryConditionMet slot ctx) = true then (false, slot)
      else (delayExpired slot ctx (ctx.now - slot.armedAt), slot)) = (timerExpired slot ctx, slot) := by
    intro slot
    unfold timerExpired
    cases auxiliaryConditionMet slot ctx <;> simp
  unfold isDue armIfStartable
  simp only [he, h.mayExecute, h.presentation, Bool.not_true, Bool.false_eq_true, ↓reduceIte]
  by_cases ha : slot.armed = true
  · simp only [ha, ↓reduceIte]
    exact htimer slot
  · by_cases hs : startConditionHolds slot ctx = true
    · simp only [ha, hs, Bool.not_true, Bool.false_eq_true, ↓reduceIte]
      exact htimer (slot.arm ctx)
    · simp [ha, hs]

/-- `is_due` leaves the slot alone, or it arms a slot whose start condition holds now. -/
theorem isDue_slot_cases (slot : Pending) (epEnable : Bool) (ctx : TickCtx) :
    (isDue slot epEnable ctx).2 = slot ∨
    (slot.armed = false ∧ GatesOpen slot epEnable ctx ∧ startConditionHolds slot ctx = true ∧
      (isDue slot epEnable ctx).2 = slot.arm ctx) := by
  by_cases hopen : GatesOpen slot epEnable ctx
  · rw [isDue_of_open hopen]
    by_cases ha : slot.armed = true
    · simp [ha]
    · by_cases hs : startConditionHolds slot ctx = true
      · exact Or.inr ⟨by simpa using ha, hopen, hs, by simp [ha, hs]⟩
      · simp [ha, hs]
  · rw [isDue_of_closed hopen]
    exact Or.inl rfl

/-- What a due slot has been through in this very call. -/
theorem isDue_due (h : (isDue slot epEnable ctx).1 = true) :
    GatesOpen slot epEnable ctx ∧ (isDue slot epEnable ctx).2.armed = true ∧
    timerExpired (isDue slot epEnable ctx).2 ctx = true := by
  by_cases hopen : GatesOpen slot epEnable ctx
  · rw [isDue_of_open hopen] at h ⊢
    by_cases ha : slot.armed = true
    · rw [if_pos ha] at h ⊢
      exact ⟨hopen, ha, h⟩
    · by_cases hs : startConditionHolds slot ctx = true
      · rw [if_neg ha, if_pos hs] at h ⊢
        exact ⟨hopen, rfl, h⟩
      · simp [ha, hs] at h
  · simp [isDue_of_closed hopen] at h

end IsDue

namespace Endpoint
variable {ep ep' : Endpoint} {i j : SlotIx}

@[simp] theorem setSlot_pending (slot : Pending) : (ep.setSlot i slot).pending = Function.update ep.pending i slot := rfl
@[simp] theorem setSlot_epEnable (slot : Pending) : (ep.setSlot i slot).epEnable = ep.epEnable := rfl
@[simp] theorem setSlot_pendingCount (slot : Pending) : (ep.setSlot i slot).pendingCount = ep.pendingCount := rfl
@[simp] theorem setSlot_nextSequence (slot : Pending) : (ep.setSlot i slot).nextSequence = ep.nextSequence := rfl
@[simp] theorem releaseSlot_pending : (ep.releaseSlot i).pending = Function.update ep.pending i .zero := rfl
@[simp] theorem releaseSlot_nextSequence : (ep.releaseSlot i).nextSequence = ep.nextSequence := rfl
@[simp] theorem releaseSlot_epEnable : (ep.releaseSlot i).epEnable = ep.epEnable := rfl

/-! ### Claiming a slot -/

theorem firstFree_eq_some :
    ep.firstFree = some i ↔ (ep.pending i).inUse = false ∧ ∀ j < i, (ep.pending j).inUse = true := by
  unfold firstFree
  rw [Fin.find?_eq_some_iff]
  simp

theorem firstFree_free (h : ep.firstFree = some i) : (ep.pending i).inUse = false := (firstFree_eq_some.mp h).1

/-- A free slot filled with an admitted request. -/
def storeAt (ep : Endpoint) (i : SlotIx) (slot : Pending) : Endpoint := (ep.claimAt i).setSlot i slot

/-- A free slot claimed and given back, which uses up one sequence number. -/
def burnAt (ep : Endpoint) (i : SlotIx) : Endpoint := (ep.claimAt i).releaseSlot i

@[simp] theorem claimAt_pending_self : (ep.claimAt i).pending i = .claimed ep.nextSequence := by
  simp [claimAt, Pending.claimed]

@[simp] theorem storeAt_pending (slot : Pending) :
    (ep.storeAt i slot).pending = Function.update ep.pending i slot := by
  simp [storeAt, claimAt]

@[simp] theorem storeAt_pendingCount (slot : Pending) : (ep.storeAt i slot).pendingCount = ep.pendingCount + 1 := rfl
@[simp] theorem storeAt_nextSequence (slot : Pending) : (ep.storeAt i slot).nextSequence = ep.nextSequence + 1 := rfl
@[simp] theorem storeAt_epEnable (slot : Pending) : (ep.storeAt i slot).epEnable = ep.epEnable := rfl

@[simp] theorem burnAt_pending : (ep.burnAt i).pending = Function.update ep.pending i .zero := by
  simp [burnAt, claimAt]

@[simp] theorem burnAt_pendingCount : (ep.burnAt i).pendingCount = ep.pendingCount := rfl
@[simp] theorem burnAt_nextSequence : (ep.burnAt i).nextSequence = ep.nextSequence + 1 := rfl
@[simp] theorem burnAt_epEnable : (ep.burnAt i).epEnable = ep.epEnable := rfl

/-! ### Admission -/

/-- The slot `admit_under_tscf_gate` stores. -/
def gatedSlot (sequence : UInt64) (frame : Octets) (now : UInt32) (gate : UInt64) (kind : SchedKind)
    (requestType : UInt8) : Pending :=
  { Pending.claimed sequence with
    kind := kind, requestType := requestType, hasPresentationGate := true, presentationGateNs := gate,
    armedAt := now, frame := frame }

/-- The slot a conditional request is stored in, from its decoded condition. -/
def conditionalSlot (slot : Pending) (frame : Octets) (now : UInt32) (tv : Bool) (gate : UInt64) : Pending :=
  { slot with hasPresentationGate := tv, presentationGateNs := gate, armedAt := now, frame := frame }

/-- Everything the admission of a frame can do to an endpoint. -/
inductive Admits (ep : Endpoint) (frame : Octets) (now : UInt32) (tv : Bool) (gate : UInt64) :
    AdmitResult → Endpoint → Prop
  | refused {r : AdmitResult} (hr : r.outcome = .suspended ∨ r.outcome = .rejected ∨ r.outcome = .cancellation)
      (hindex : r.index = none) : Admits ep frame now tv gate r ep
  | submitted {r : AdmitResult} (htv : tv = false)
      (hr : r = { outcome := if (ep.submit frame).1 then .executeNow else .queued, ack := (ep.submit frame).2.1 }) :
      Admits ep frame now tv gate r (ep.submit frame).2.2
  | burned {r : AdmitResult} {i : SlotIx} {kind : SchedKind} {requestType : UInt8} {error : WireError}
      (hi : ep.firstFree = some i) (hr : r.outcome = .rejected ∧ r.index = none)
      (hd : decodeCondition frame
        { Pending.claimed ep.nextSequence with kind := kind, requestType := requestType } = .error error) :
      Admits ep frame now tv gate r (ep.burnAt i)
  | gated {r : AdmitResult} {i : SlotIx} {kind : SchedKind} {requestType : UInt8} (hi : ep.firstFree = some i)
      (htv : tv = true)
      (hk : kind = .standard ∧ requestType = 0 ∨ kind = .cancellation ∧ schedClassify true requestType = kind)
      (hr : r.outcome = .pending ∧ r.index = some i ∧ r.requestType = requestType) :
      Admits ep frame now tv gate r (ep.storeAt i (gatedSlot ep.nextSequence frame now gate kind requestType))
  | stored {r : AdmitResult} {i : SlotIx} {kind : SchedKind} {requestType : UInt8} {slot : Pending}
      (hi : ep.firstFree = some i) (hk : schedClassify true requestType = kind)
      (hd : decodeCondition frame
        { Pending.claimed ep.nextSequence with kind := kind, requestType := requestType } = .ok slot)
      (hr : r.outcome = .pending ∧ r.index = some i ∧ r.requestType = requestType) :
      Admits ep frame now tv gate r (ep.storeAt i (conditionalSlot slot frame now tv gate))

section Admit
variable {frame : Octets} {now : UInt32} {tv : Bool} {gate : UInt64}

theorem admitUnderTscfGate_admits {kind : SchedKind} {requestType : UInt8} (htv : tv = true)
    (hk : kind = .standard ∧ requestType = 0 ∨ kind = .cancellation ∧ schedClassify true requestType = kind)
    {r : AdmitResult} (hadm : r.outcome = (ep.admitUnderTscfGate frame now gate kind requestType).1.outcome)
    (hindex : r.index = (ep.admitUnderTscfGate frame now gate kind requestType).1.index)
    (hrt : r.requestType = requestType) :
    Admits ep frame now tv gate r (ep.admitUnderTscfGate frame now gate kind requestType).2 := by
  unfold admitUnderTscfGate claimSlot at *
  cases hi : ep.firstFree with
  | none =>
    simp only [hi] at hadm hindex
    exact .refused (.inr (.inl hadm)) hindex
  | some i =>
    simp only [hi] at hadm hindex
    simp only [claimAt_pending_self]
    exact .gated hi htv hk ⟨hadm, hindex, hrt⟩

theorem admitStandard_admits :
    Admits ep frame now tv gate (ep.admitStandard frame now tv gate).1 (ep.admitStandard frame now tv gate).2 := by
  unfold admitStandard
  cases tv with
  | true =>
    refine admitUnderTscfGate_admits rfl (.inl ⟨rfl, rfl⟩) rfl rfl ?_
    simp only [if_true]
    unfold admitUnderTscfGate
    split <;> rfl
  | false =>
    have h : Admits ep frame now false gate _ _ := .submitted rfl rfl
    rcases hsub : ep.submit frame with ⟨executeNow, ack, ep'⟩
    rw [hsub] at h
    cases executeNow <;> exact h

theorem admitConditional_admits {kind : SchedKind} {requestType : UInt8} (hk : schedClassify true requestType = kind) :
    Admits ep frame now tv gate (ep.admitConditional frame now tv gate kind requestType).1
      (ep.admitConditional frame now tv gate kind requestType).2 := by
  unfold admitConditional claimSlot
  cases hi : ep.firstFree with
  | none => exact .refused (.inr (.inl rfl)) rfl
  | some i =>
    simp only [claimAt_pending_self]
    split
    · exact .burned hi ⟨rfl, rfl⟩ ‹_›
    · exact .stored hi hk ‹_› ⟨rfl, rfl, rfl⟩

/-- `rcp_server_endpoint_admit_with_ack` does nothing else. -/
theorem admitWithAck_admits (ep : Endpoint) (frame : Octets) (now : UInt32) (tv : Bool) (avtpTimestamp : UInt32)
    (gptpReferenceNow : UInt64) :
    Admits ep frame now tv (if tv then avtpExtendTimestamp avtpTimestamp gptpReferenceNow else 0)
      (ep.admitWithAck frame now tv avtpTimestamp gptpReferenceNow).1
      (ep.admitWithAck frame now tv avtpTimestamp gptpReferenceNow).2 := by
  unfold admitWithAck
  generalize (if tv then avtpExtendTimestamp avtpTimestamp gptpReferenceNow else 0) = gate
  dsimp only
  split
  · exact .refused (.inl rfl) rfl
  split
  · exact .refused (.inr (.inl rfl)) rfl
  split
  · exact admitStandard_admits
  split
  · exact admitStandard_admits
  · rename_i hk
    cases tv with
    | false => exact .refused (.inr (.inr rfl)) rfl
    | true => exact admitUnderTscfGate_admits rfl (.inr ⟨rfl, hk⟩) rfl rfl rfl
  · exact admitConditional_admits rfl

end Admit

/-! ### Loops over the store -/

/-- The endpoint with another store; every loop below changes nothing else. -/
def withPending (ep : Endpoint) (pending : SlotIx → Pending) : Endpoint := { ep with pending := pending }

@[simp] theorem withPending_pending (t : SlotIx → Pending) : (ep.withPending t).pending = t := rfl
@[simp] theorem withPending_epEnable (t : SlotIx → Pending) : (ep.withPending t).epEnable = ep.epEnable := rfl
@[simp] theorem withPending_pendingCount (t : SlotIx → Pending) : (ep.withPending t).pendingCount = ep.pendingCount := rfl
@[simp] theorem withPending_nextSequence (t : SlotIx → Pending) : (ep.withPending t).nextSequence = ep.nextSequence := rfl

theorem eq_withPending_self : ep = ep.withPending ep.pending := rfl

theorem withPending_setSlot (t : SlotIx → Pending) (slot : Pending) :
    (ep.withPending t).setSlot i slot = ep.withPending (Function.update t i slot) := rfl

/-- The candidate slot `i` offers to `select_due`. -/
def candidate (ep : Endpoint) (ctx : TickCtx) (slot : Pending) : Option SchedEntry :=
  if slot.inUse && (isDue slot ep.epEnable ctx).1 then some { kind := slot.kind, sequence := slot.sequence } else none

/-- Keep the better of the best entry so far and a candidate; the earlier one wins a tie. -/
def better (best : Option (SlotIx × SchedEntry)) (i : SlotIx) : Option SchedEntry → Option (SlotIx × SchedEntry)
  | none => best
  | some entry =>
    match best with
    | none => some (i, entry)
    | some (_, bestEntry) => if schedCompare entry bestEntry < 0 then some (i, entry) else best

theorem isDue_slot_entry (slot : Pending) (epEnable : Bool) (ctx : TickCtx) :
    (isDue slot epEnable ctx).2.kind = slot.kind ∧ (isDue slot epEnable ctx).2.sequence = slot.sequence := by
  rcases isDue_slot_cases slot epEnable ctx with h | ⟨-, -, -, h⟩ <;> rw [h] <;> exact ⟨rfl, rfl⟩

theorem selectDueStep_eq (ctx : TickCtx) (ep : Endpoint) (best : Option (SlotIx × SchedEntry)) (i : SlotIx) :
    selectDueStep ctx (ep, best) i =
      (ep.setSlot i ((ep.pending i).swept ep.epEnable ctx), better best i (ep.candidate ctx (ep.pending i))) := by
  unfold selectDueStep candidate Pending.swept
  obtain ⟨hkind, hseq⟩ := isDue_slot_entry (ep.pending i) ep.epEnable ctx
  by_cases hu : (ep.pending i).inUse = true
  · rcases hdue : isDue (ep.pending i) ep.epEnable ctx with ⟨due, slot⟩
    rw [hdue] at hkind hseq
    simp only at hkind hseq
    simp only [hu, hdue, Bool.not_true, Bool.false_eq_true, ↓reduceIte, Bool.true_and]
    cases due with
    | false => rfl
    | true =>
      cases best with
      | none => simp [better, hkind, hseq]
      | some b =>
        simp only [better, hkind, hseq, ↓reduceIte]
        split <;> rfl
  · have hself : ep.setSlot i (ep.pending i) = ep := by simp [setSlot]
    simp [hu, better, hself]

theorem selectDue_sweeps (ep : Endpoint) (ctx : TickCtx) :
    Lib.Sweeps (fun acc : Endpoint × Option (SlotIx × SchedEntry) => acc.1.pending)
      (fun slot => slot.swept ep.epEnable ctx) (selectDueStep ctx) (fun acc => ∃ t, acc.1 = ep.withPending t) where
  kept := by
    rintro ⟨_, best⟩ i ⟨t, rfl⟩
    exact ⟨_, by rw [selectDueStep_eq, withPending_setSlot]⟩
  view_step := by
    rintro ⟨_, best⟩ i ⟨t, rfl⟩
    rw [selectDueStep_eq]
    rfl

/-- `select_due` sweeps the store and changes nothing else. -/
theorem selectDue_endpoint (ep : Endpoint) (ctx : TickCtx) :
    (ep.selectDue ctx).2 = ep.withPending fun i => (ep.pending i).swept ep.epEnable ctx := by
  have hs : ∃ t, ep = ep.withPending t := ⟨_, eq_withPending_self⟩
  have hview := (selectDue_sweeps ep ctx).view_foldl (s := (ep, none)) hs
  obtain ⟨t, ht⟩ := (selectDue_sweeps ep ctx).foldl_kept (s := (ep, none)) hs (List.finRange serverMaxPending)
  have hpending : t = fun i => (ep.pending i).swept ep.epEnable ctx := by
    rw [← hview, ht, withPending_pending]
  rw [← hpending]
  exact ht

/-- The index `select_due` returns is accumulated over the store it started from. -/
theorem selectDue_index (ep : Endpoint) (ctx : TickCtx) :
    (ep.selectDue ctx).1 =
      ((List.finRange serverMaxPending).foldl (fun best i => better best i (ep.candidate ctx (ep.pending i)))
        none).map (·.1) := by
  have hs : ∃ t, ep = ep.withPending t := ⟨_, eq_withPending_self⟩
  have hout := (selectDue_sweeps ep ctx).out_foldl (fun acc => acc.2)
    (fun best i slot => better best i (ep.candidate ctx slot))
    (by rintro ⟨_, best⟩ i ⟨t, rfl⟩; rw [selectDueStep_eq]; rfl) (s := (ep, none)) hs
  exact congrArg (Option.map (·.1)) hout

theorem notifyTriggerStep_eq (sourceEp signalNr : UInt8) (matched : Nat) (ep : Endpoint) (i : SlotIx) :
    (notifyTriggerStep sourceEp signalNr (matched, ep) i).2 =
      ep.setSlot i ((ep.pending i).notified sourceEp signalNr) := by
  unfold notifyTriggerStep Pending.notified
  have hself : ep = ep.setSlot i (ep.pending i) := by simp [setSlot]
  by_cases hu : (ep.pending i).inUse = true
  · by_cases hk : (ep.pending i).kind = .triggered
    · simp only [hu, hk, Bool.not_true, Bool.false_eq_true, ↓reduceIte, ne_eq, not_true_eq_false, and_self]
      split <;> rename_i heq <;> rw [heq]
    · simpa [hu, hk] using hself
  · simpa [hu] using hself

theorem notifyTrigger_endpoint (ep : Endpoint) (sourceEp signalNr : UInt8) :
    (ep.notifyTrigger sourceEp signalNr).2 = ep.withPending fun i => (ep.pending i).notified sourceEp signalNr := by
  have hsweeps : Lib.Sweeps (fun acc : Nat × Endpoint => acc.2.pending) (fun slot => slot.notified sourceEp signalNr)
      (notifyTriggerStep sourceEp signalNr) (fun acc => ∃ t, acc.2 = ep.withPending t) := by
    constructor
    · rintro ⟨matched, _⟩ i ⟨t, rfl⟩
      exact ⟨_, by rw [notifyTriggerStep_eq, withPending_setSlot]⟩
    · rintro ⟨matched, _⟩ i ⟨t, rfl⟩
      rw [notifyTriggerStep_eq]
      rfl
  have hs : ∃ t, ep = ep.withPending t := ⟨_, eq_withPending_self⟩
  have hview := hsweeps.view_foldl (s := (0, ep)) hs
  obtain ⟨t, ht⟩ := hsweeps.foldl_kept (s := (0, ep)) hs (List.finRange serverMaxPending)
  have hpending : t = fun i => (ep.pending i).notified sourceEp signalNr := by
    rw [← hview, ht, withPending_pending]
  rw [← hpending]
  exact ht

/-- What a purge leaves of a slot. -/
def purged (drop : Pending → Bool) (slot : Pending) : Pending :=
  if slot.inUse && drop slot then .zero else slot

theorem releaseWhere_sweeps (drop : Pending → Bool) :
    Lib.Sweeps (fun acc : Nat × Endpoint => acc.2.pending) (purged drop) (releaseWhereStep drop) (fun _ => True) := by
  refine ⟨fun _ => trivial, ?_⟩
  rintro ⟨removed, ep⟩ i -
  unfold purged releaseWhereStep
  cases hu : (ep.pending i).inUse && drop (ep.pending i) <;> simp [hu]

theorem releaseWhere_pending (drop : Pending → Bool) (ep : Endpoint) :
    (ep.releaseWhere drop).2.pending = fun i => purged drop (ep.pending i) :=
  (releaseWhere_sweeps drop).view_foldl (s := (0, ep)) trivial

/-- The number a purge answers. -/
theorem releaseWhere_count (drop : Pending → Bool) (ep : Endpoint) :
    (ep.releaseWhere drop).1 =
      (List.finRange serverMaxPending).countP fun i => (ep.pending i).inUse && drop (ep.pending i) := by
  have hout := (releaseWhere_sweeps drop).out_foldl (fun acc => acc.1)
    (fun n _ slot => if slot.inUse && drop slot then n + 1 else n)
    (by
      rintro ⟨removed, ep⟩ i -
      dsimp only [releaseWhereStep]
      split <;> rfl) (s := (0, ep)) trivial
  have hfold : ∀ (l : List SlotIx) (n : Nat),
      l.foldl (fun n i => if (ep.pending i).inUse && drop (ep.pending i) then n + 1 else n) n =
        n + l.countP fun i => (ep.pending i).inUse && drop (ep.pending i) := by
    intro l
    induction l with
    | nil => simp
    | cons i l ih =>
      intro n
      rw [List.foldl_cons, ih, List.countP_cons]
      split <;> omega
  exact hout.trans ((hfold _ 0).trans (Nat.zero_add _))

/-- Every step of a purge releases a slot that is in use, so what such releases keep, the purge keeps. -/
theorem releaseWhere_induction {Q : Endpoint → Prop} (drop : Pending → Bool) (hQ : Q ep)
    (hstep : ∀ ep i, Q ep → (ep.pending i).inUse = true → Q (ep.releaseSlot i)) : Q (ep.releaseWhere drop).2 := by
  unfold releaseWhere
  refine List.foldlRecOn (List.finRange serverMaxPending) _ (motive := fun acc : Nat × Endpoint => Q acc.2) hQ ?_
  rintro ⟨removed, ep⟩ h i -
  unfold releaseWhereStep
  cases hu : (ep.pending i).inUse with
  | false => simpa [hu] using h
  | true =>
    cases hd : drop (ep.pending i) with
    | false => simpa [hd] using h
    | true => simpa [hu, hd] using hstep ep i h hu

/-! ### Completion -/

theorem completeRepeat_endpoint {slot : Pending} {now : UInt32} {n : UInt16} {setRepeat : UInt16 → Pending → Pending}
    (hu : slot.inUse = true) (hn : slot.repeatCount? = some n) (hset : ∀ m, setRepeat m slot = slot.setRepeatCount m) :
    (ep.completeRepeat i slot now n setRepeat).2 =
      if (slot.completed now).inUse then ep.setSlot i (slot.completed now) else ep.releaseSlot i := by
  unfold completeRepeat Pending.completed
  rw [hn, hset]
  by_cases hinf : n = repeatInfinite
  · simp [hinf, hu]
  · by_cases hzero : n = 0
    · subst hzero
      simp [hinf]
    · simp [hinf, hzero, hu]

/-- `complete` on a slot in use: the slot goes to its next repetition, or it is released. -/
theorem complete_endpoint (ctx : TickCtx) (hu : (ep.pending i).inUse = true) :
    (ep.complete i ctx).2.1 =
      if ((ep.pending i).completed ctx.now).inUse then ep.setSlot i ((ep.pending i).completed ctx.now)
      else ep.releaseSlot i := by
  obtain ⟨index, hindex⟩ := i
  unfold complete
  rw [dif_pos hindex]
  dsimp only
  rw [if_neg (by simp [hu])]
  split
  · rename_i hk
    exact completeRepeat_endpoint hu (by simp [Pending.repeatCount?, hk]) fun m => by simp [Pending.setRepeatCount, hk]
  · rename_i hk
    exact completeRepeat_endpoint hu (by simp [Pending.repeatCount?, hk]) fun m => by simp [Pending.setRepeatCount, hk]
  · rename_i hk
    -- Re-arming restarts the occurrence counter, so what `triggered_tick` left in it does not matter.
    rw [← Pending.completed_triggeredRuntime hk _ ctx.now]
    exact completeRepeat_endpoint hu (by simp [Pending.repeatCount?, hk]) fun m => by simp [Pending.setRepeatCount, hk]
  · rename_i hc hw ht
    have hn : (ep.pending ⟨index, hindex⟩).repeatCount? = none := by
      unfold Pending.repeatCount?
      split <;> simp_all
    simp [Pending.completed, hn]

/-- `complete` on a free slot or past the end of the store does nothing. -/
theorem complete_of_free {index : Nat} (ctx : TickCtx) (hf : ∀ i : SlotIx, i.val = index → (ep.pending i).inUse = false) :
    (ep.complete index ctx).2.1 = ep := by
  unfold complete
  split
  · rename_i h
    simp [hf ⟨index, h⟩ rfl]
  · rfl

/-! ### The remaining calls -/

theorem submit_endpoint (ep : Endpoint) (frame : Octets) :
    ∃ queue, (ep.submit frame).2.2 = { ep with queue := queue } := by
  unfold submit
  split
  · exact ⟨_, rfl⟩
  · split <;> exact ⟨_, rfl⟩

theorem drainOne_endpoint (ep : Endpoint) : ∃ queue, ep.drainOne.2 = { ep with queue := queue } := by
  unfold drainOne
  split
  · exact ⟨_, rfl⟩
  · split <;> exact ⟨_, rfl⟩

theorem chainPredecessorDone_endpoint (ep : Endpoint) (index : Nat) (now : UInt32) :
    (ep.chainPredecessorDone index now).2 =
      ep.withPending fun i =>
        if i.val = index then (ep.pending i).predecessorFinished now else ep.pending i := by
  unfold chainPredecessorDone
  split
  · rename_i h
    have hupdate : (fun i : SlotIx =>
        if i.val = index then (ep.pending i).predecessorFinished now else ep.pending i) =
        Function.update ep.pending ⟨index, h⟩ ((ep.pending ⟨index, h⟩).predecessorFinished now) := by
      funext i
      by_cases hi : i = ⟨index, h⟩
      · subst hi
        simp
      · have hval : i.val ≠ index := fun hval => hi (Fin.ext hval)
        simp [hi, hval]
    rw [hupdate]
    unfold Pending.predecessorFinished
    by_cases hu : (ep.pending ⟨index, h⟩).inUse = true
    · by_cases hk : (ep.pending ⟨index, h⟩).kind = .chained
      · simp [hu, hk, setSlot, withPending]
      · simp [hu, hk, withPending]
    · simp [hu, withPending]
  · rename_i h
    have hsame : (fun i : SlotIx =>
        if i.val = index then (ep.pending i).predecessorFinished now else ep.pending i) = ep.pending := by
      funext i
      have := i.isLt
      rw [if_neg (by omega)]
    rw [hsame]
    rfl

theorem findTransaction_eq_some {transactionNum : UInt8} :
    ep.findTransaction transactionNum = some i ↔
      ((ep.pending i).inUse = true ∧ (ep.pending i).transactionNum = transactionNum) ∧
      ∀ j < i, (ep.pending j).inUse = true → (ep.pending j).transactionNum ≠ transactionNum := by
  unfold findTransaction
  rw [Fin.find?_eq_some_iff]
  simp

/-- `cancel_single` releases the slot its search stops at, if it is asked about a queued request. -/
theorem cancelSingle_endpoint (ep : Endpoint) (clearTransactionNum : UInt8) (state : CancelLifecycle) :
    (ep.cancelSingle clearTransactionNum state).2 =
      match ep.findTransaction clearTransactionNum with
      | some i => if state = .queued then ep.releaseSlot i else ep
      | none => ep := by
  unfold cancelSingle cancelAttempt cancelIsCancellable
  cases ep.findTransaction clearTransactionNum with
  | none => simp
  | some i => cases state <;> simp

/-! ### One call, slot by slot -/

/-- The contents of slot `i` after a call that does not fill it. -/
def slotAfter (ep : Endpoint) (i : SlotIx) : EndpointOp → Pending
  | .selectDue ctx => (ep.pending i).swept ep.epEnable ctx
  | .complete index ctx =>
    if i.val = index ∧ (ep.pending i).inUse then (ep.pending i).completed ctx.now else ep.pending i
  | .notifyTrigger sourceEp signalNr => (ep.pending i).notified sourceEp signalNr
  | .chainPredecessorDone index now =>
    if i.val = index then (ep.pending i).predecessorFinished now else ep.pending i
  | .cancelAll => purged (fun _ => true) (ep.pending i)
  | .cancelSingle clearTransactionNum state =>
    if ep.findTransaction clearTransactionNum = some i ∧ state = .queued then .zero else ep.pending i
  | .cancelNonSafestate | .watchdogPurge =>
    purged (fun slot => !e2eWatchdogPurgeShouldKeep slot.requestType) (ep.pending i)
  | .cancelChainFrom chainGroup minPosition =>
    if chainGroup = 0 then ep.pending i
    else purged (fun slot => slot.chainGroup == chainGroup && cancelChainShouldCascade slot.chainPosition minPosition)
      (ep.pending i)
  | _ => ep.pending i

theorem admits_pending {frame : Octets} {now : UInt32} {tv : Bool} {gate : UInt64} {r : AdmitResult}
    (h : Admits ep frame now tv gate r ep') (hu : (ep.pending i).inUse = true) : ep'.pending i = ep.pending i := by
  have hne : ∀ {k}, ep.firstFree = some k → i ≠ k := by
    rintro k hk rfl
    rw [firstFree_free hk] at hu
    cases hu
  cases h with
  | refused hr hindex => rfl
  | submitted htv hr =>
    obtain ⟨queue, hq⟩ := submit_endpoint ep frame
    rw [hq]
  | burned hk hr hd => rw [burnAt_pending, Function.update_of_ne (hne hk)]
  | gated hk htv hkind hr => rw [storeAt_pending, Function.update_of_ne (hne hk)]
  | stored hk hkind hd hr => rw [storeAt_pending, Function.update_of_ne (hne hk)]

/-- What a call does to a slot that is in use, or to any slot if it is not an admission. -/
theorem step_pending (op : EndpointOp) (h : (ep.pending i).inUse = true ∨ op.isAdmit = false) :
    (ep.step op).pending i = ep.slotAfter i op := by
  cases op with
  | admitWithAck frame now tv avtpTimestamp gptpReferenceNow =>
    have hu : (ep.pending i).inUse = true := by simpa [EndpointOp.isAdmit] using h
    exact admits_pending (admitWithAck_admits ep frame now tv avtpTimestamp gptpReferenceNow) hu
  | submit frame =>
    obtain ⟨queue, hq⟩ := submit_endpoint ep frame
    simp [step, slotAfter, hq]
  | setEnable enable => rfl
  | setAdmissionSuspended suspended => rfl
  | drainOne =>
    obtain ⟨queue, hq⟩ := drainOne_endpoint ep
    simp [step, slotAfter, hq]
  | selectDue ctx => simp [step, slotAfter, selectDue_endpoint]
  | complete index ctx =>
    simp only [step, slotAfter]
    by_cases hf : ∀ k : SlotIx, k.val = index → (ep.pending k).inUse = false
    · rw [complete_of_free ctx hf, if_neg]
      rintro ⟨hi, hu⟩
      rw [hf i hi] at hu
      cases hu
    · simp only [not_forall, Bool.not_eq_false] at hf
      obtain ⟨k, rfl, hu⟩ := hf
      rw [complete_endpoint ctx hu]
      by_cases hik : i = k
      · subst hik
        cases hc : ((ep.pending i).completed ctx.now).inUse with
        | true => simp [hu]
        | false => simp [hu, Pending.completed_eq_zero hu hc]
      · have hval : i.val ≠ k.val := fun hval => hik (Fin.ext hval)
        split <;> simp [hik, hval]
  | notifyTrigger sourceEp signalNr => simp [step, slotAfter, notifyTrigger_endpoint]
  | chainPredecessorDone index now => simp [step, slotAfter, chainPredecessorDone_endpoint]
  | cancelAll => simp [step, slotAfter, cancelAll, releaseWhere_pending]
  | cancelSingle clearTransactionNum state =>
    simp only [step, slotAfter, cancelSingle_endpoint]
    cases hfind : ep.findTransaction clearTransactionNum with
    | none => simp
    | some k =>
      by_cases hs : state = .queued
      · by_cases hik : i = k
        · subst hik
          simp [hs]
        · have hki : k ≠ i := fun h => hik h.symm
          simp [hs, hik, hki]
      · simp [hs]
  | cancelNonSafestate => simp [step, slotAfter, cancelNonSafestate, purgeNonSafety, releaseWhere_pending]
  | watchdogPurge => simp [step, slotAfter, watchdogPurge, purgeNonSafety, releaseWhere_pending]
  | cancelChainFrom chainGroup minPosition =>
    simp only [step, slotAfter, cancelChainFrom]
    split
    · rfl
    · rw [releaseWhere_pending]

end Endpoint

end Rcp
