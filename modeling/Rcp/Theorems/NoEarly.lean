import Rcp.Theorems.Select
import Rcp.Theorems.Lifetime

/-! No early execution. A selected compound, compound-wait or triggered request was armed by an earlier or
    equal tick of its current repetition, at which its start condition really held, and its exec_delay has
    run since then. The proof follows the slot through the whole run. -/

namespace Rcp

/-- The kinds with a start condition of their own and an exec_delay. -/
def SchedKind.isDelayed : SchedKind → Bool
  | .compound | .compoundWait | .triggered => true
  | _ => false

/-- The exec_delay of those kinds. -/
def Pending.execDelay (slot : Pending) : UInt16 :=
  match slot.kind with
  | .triggered => slot.triggered.execDelay
  | _ => slot.compound.execDelay

namespace Endpoint
variable {ep : Endpoint} {i : SlotIx} {op : EndpointOp}

/-! ### Epochs -/

/-- The call starts a new repetition of slot `i`: it admits a request into it, or it completes the request
    there. -/
def EpochEvent (i : SlotIx) (ep : Endpoint) : EndpointOp → Prop
  | .admitWithAck frame now tv avtpTimestamp gptpReferenceNow =>
    (ep.admitWithAck frame now tv avtpTimestamp gptpReferenceNow).1.index = some i
  | .complete index _ => index = i.val ∧ (ep.pending i).inUse = true
  | _ => False

/-- No call of the list starts a new repetition of slot `i`. -/
def Quiet (i : SlotIx) : Endpoint → List EndpointOp → Prop
  | _, [] => True
  | ep, op :: ops => ¬EpochEvent i ep op ∧ Quiet i (ep.step op) ops

theorem quiet_concat {ops : List EndpointOp} :
    Quiet i ep (ops ++ [op]) ↔ Quiet i ep ops ∧ ¬EpochEvent i (ep.run ops) op := by
  induction ops generalizing ep with
  | nil => simp [Quiet]
  | cons op' ops ih => simp [Quiet, ih, and_assoc]

/-- The call notifies an occurrence that this trigger counts. -/
def matchesTrigger (trigger : TriggeredStep) : EndpointOp → Bool
  | .notifyTrigger sourceEp signalNr => sourceEp == trigger.triggerSourceEp && signalNr == trigger.triggerSignalNr
  | _ => false

/-- The number of matching occurrences notified by the calls. -/
def notifications (trigger : TriggeredStep) (ops : List EndpointOp) : Nat := ops.countP (matchesTrigger trigger)

/-- The start condition of `slot` at a tick `ctx` of the endpoint `ep`, with the calls of its current
    repetition so far: enabled, presentation gate open, and the sequencer in the start state or the trigger
    threshold exceeded. -/
structure Started (slot : Pending) (ep : Endpoint) (ctx : TickCtx) (since : List EndpointOp) : Prop where
  enabled : ep.epEnable = true
  gate : slot.hasPresentationGate = true →
    ctx.gptpLocked = true ∧ timedDue slot.presentationGateNs ctx.gptpNow = true
  sequencer : slot.kind = .compound ∨ slot.kind = .compoundWait →
    ∃ table state, ctx.sequencers = some table ∧ table.getState slot.compound.sequencerIndex.toNat = some state ∧
      state ≠ 0 ∧ (slot.compound.startState = 0 ∨ state = slot.compound.startState)
  trigger : slot.kind = .triggered → slot.triggered.triggerThreshold.toNat < notifications slot.triggered since

theorem startCondition_sequencer {slot : Pending} {ctx : TickCtx} (h : startConditionHolds slot ctx = true)
    (hk : slot.kind = .compound ∨ slot.kind = .compoundWait) :
    ∃ table state, ctx.sequencers = some table ∧ table.getState slot.compound.sequencerIndex.toNat = some state ∧
      state ≠ 0 ∧ (slot.compound.startState = 0 ∨ state = slot.compound.startState) := by
  have hmet : ∃ table, ctx.sequencers = some table ∧ compoundStartConditionMet table slot.compound = true := by
    cases htable : ctx.sequencers with
    | none => rcases hk with hk | hk <;> simp [startConditionHolds, hk, htable] at h
    | some table =>
      refine ⟨table, rfl, ?_⟩
      rcases hk with hk | hk <;> simpa [startConditionHolds, hk, htable] using h
  obtain ⟨table, htable, hmet⟩ := hmet
  unfold compoundStartConditionMet at hmet
  cases hstate : table.getState slot.compound.sequencerIndex.toNat with
  | none => simp [hstate] at hmet
  | some state =>
    rw [hstate] at hmet
    simp only [Bool.if_false_left, Bool.if_true_left, Bool.and_eq_true, Bool.or_eq_true, Bool.not_eq_true',
      decide_eq_false_iff_not, decide_eq_true_eq, beq_iff_eq] at hmet
    exact ⟨table, state, htable, hstate, hmet.1, hmet.2⟩

/-! ### One call -/

/-- How an armed slot came to be armed. -/
theorem slotAfter_armed (hop : op.completes i = false) (hk : (ep.pending i).kind ≠ .chained)
    (ha : (ep.slotAfter i op).armed = true) :
    ((ep.pending i).armed = true ∧ (ep.slotAfter i op).armedAt = (ep.pending i).armedAt) ∨
    ∃ ctx, op = .selectDue ctx ∧ GatesOpen (ep.pending i) ep.epEnable ctx ∧
      startConditionHolds (ep.pending i) ctx = true ∧ (ep.slotAfter i op).armedAt = ctx.now := by
  have hpurge : ∀ drop, (purged drop (ep.pending i)).armed = true →
      (ep.pending i).armed = true ∧ (purged drop (ep.pending i)).armedAt = (ep.pending i).armedAt := by
    intro drop h
    rcases Pending.purged_cases drop (ep.pending i) with hz | hs
    · rw [hz] at h
      cases h
    · rw [hs] at h ⊢
      exact ⟨h, rfl⟩
  cases op with
  | selectDue ctx =>
    simp only [slotAfter, Pending.swept] at ha ⊢
    split at ha
    · rename_i hu
      rw [if_pos hu]
      rcases isDue_slot_cases (ep.pending i) ep.epEnable ctx with h | ⟨-, hopen, hstart, h⟩
      · rw [h] at ha ⊢
        exact Or.inl ⟨ha, rfl⟩
      · refine Or.inr ⟨ctx, rfl, hopen, hstart, ?_⟩
        rw [h]
        simp [Pending.arm, hk]
    · rename_i hu
      rw [if_neg hu]
      exact Or.inl ⟨ha, rfl⟩
  | complete index ctx =>
    have hne : i.val ≠ index := by
      rintro rfl
      simp [EndpointOp.completes] at hop
    simp only [slotAfter, hne, false_and, ↓reduceIte] at ha ⊢
    exact Or.inl ⟨ha, trivial⟩
  | notifyTrigger sourceEp signalNr =>
    left
    simp only [slotAfter, Pending.notified] at ha ⊢
    split at ha
    · rename_i h
      rw [if_pos h]
      exact ⟨ha, rfl⟩
    · rename_i h
      rw [if_neg h]
      exact ⟨ha, rfl⟩
  | chainPredecessorDone index now =>
    left
    have hsame : (ep.pending i).predecessorFinished now = ep.pending i := by simp [Pending.predecessorFinished, hk]
    simp only [slotAfter, hsame, ite_self] at ha ⊢
    exact ⟨ha, trivial⟩
  | cancelAll => exact Or.inl (hpurge _ ha)
  | cancelSingle clearTransactionNum state =>
    left
    simp only [slotAfter] at ha ⊢
    split at ha
    · cases ha
    · rename_i h
      rw [if_neg h]
      exact ⟨ha, rfl⟩
  | cancelNonSafestate => exact Or.inl (hpurge _ ha)
  | watchdogPurge => exact Or.inl (hpurge _ ha)
  | cancelChainFrom chainGroup minPosition =>
    left
    simp only [slotAfter] at ha ⊢
    split at ha
    · rename_i h
      rw [if_pos h]
      exact ⟨ha, rfl⟩
    · rename_i h
      rw [if_neg h]
      exact hpurge _ ha
  | admitWithAck frame now tv avtpTimestamp gptpReferenceNow => exact Or.inl ⟨ha, rfl⟩
  | submit frame => exact Or.inl ⟨ha, rfl⟩
  | setEnable enable => exact Or.inl ⟨ha, rfl⟩
  | setAdmissionSuspended suspended => exact Or.inl ⟨ha, rfl⟩
  | drainOne => exact Or.inl ⟨ha, rfl⟩

/-- Only a matching notification moves the occurrence counter up, and by one. -/
theorem slotAfter_occurrences (ep : Endpoint) (hop : op.completes i = false) :
    (ep.slotAfter i op).triggeredRuntime.occurrenceCount.toNat ≤
      (ep.pending i).triggeredRuntime.occurrenceCount.toNat +
        if matchesTrigger (ep.pending i).triggered op then 1 else 0 := by
  have hpurge : ∀ drop, (purged drop (ep.pending i)).triggeredRuntime.occurrenceCount.toNat ≤
      (ep.pending i).triggeredRuntime.occurrenceCount.toNat := by
    intro drop
    rcases Pending.purged_cases drop (ep.pending i) with h | h <;> rw [h]
    exact Nat.zero_le _
  cases op with
  | selectDue ctx =>
    simp only [slotAfter, Pending.swept]
    split
    · rcases isDue_slot_cases (ep.pending i) ep.epEnable ctx with h | ⟨-, -, -, h⟩ <;> rw [h] <;>
        exact Nat.le_add_right _ _
    · exact Nat.le_add_right _ _
  | complete index ctx =>
    have hne : i.val ≠ index := by
      rintro rfl
      simp [EndpointOp.completes] at hop
    simp [slotAfter, hne]
  | notifyTrigger sourceEp signalNr =>
    simp only [slotAfter, Pending.notified, triggeredRuntimeRecordOccurrence, matchesTrigger]
    split
    · dsimp only
      split
      · exact Nat.le_add_right _ _
      · split
        · exact Nat.le_add_right _ _
        · rename_i hsource
          split
          · exact Nat.le_add_right _ _
          · rename_i hsignal
            simp only [ne_eq, not_not] at hsource hsignal
            simp only [hsource, hsignal, beq_self_eq_true, Bool.and_self, ↓reduceIte]
            rw [UInt32.toNat_add]
            exact Nat.mod_le _ _
    · exact Nat.le_add_right _ _
  | chainPredecessorDone index now =>
    simp only [slotAfter, Pending.predecessorFinished]
    split
    · split <;> exact Nat.le_add_right _ _
    · exact Nat.le_add_right _ _
  | cancelAll => exact Nat.le_add_right_of_le (hpurge _)
  | cancelSingle clearTransactionNum state =>
    simp only [slotAfter]
    split
    · exact Nat.zero_le _
    · exact Nat.le_add_right _ _
  | cancelNonSafestate => exact Nat.le_add_right_of_le (hpurge _)
  | watchdogPurge => exact Nat.le_add_right_of_le (hpurge _)
  | cancelChainFrom chainGroup minPosition =>
    simp only [slotAfter]
    split
    · exact Nat.le_add_right _ _
    · exact Nat.le_add_right_of_le (hpurge _)
  | admitWithAck frame now tv avtpTimestamp gptpReferenceNow => exact Nat.le_add_right _ _
  | submit frame => exact Nat.le_add_right _ _
  | setEnable enable => exact Nat.le_add_right _ _
  | setAdmissionSuspended suspended => exact Nat.le_add_right _ _
  | drainOne => exact Nat.le_add_right _ _

section Admit
variable {ep' : Endpoint} {frame : Octets} {now : UInt32} {tv : Bool} {gate : UInt64} {r : AdmitResult}

/-- An admission fills no slot but the one it reports. -/
theorem admits_filled (h : Admits ep frame now tv gate r ep') (hf : (ep.pending i).inUse = false)
    (hu : (ep'.pending i).inUse = true) : r.index = some i := by
  have hat : ∀ {k slot}, ep'.pending = Function.update ep.pending k slot → slot.inUse = true → i = k := by
    intro k slot hp _
    by_contra hik
    rw [hp, Function.update_of_ne hik, hf] at hu
    cases hu
  cases h with
  | refused hr hindex =>
    rw [hf] at hu
    cases hu
  | submitted htv hr =>
    obtain ⟨queue, hq⟩ := submit_endpoint ep frame
    simp [hq, hf] at hu
  | @burned k _ _ _ hi hr hd =>
    rw [burnAt_pending] at hu
    by_cases hik : i = k
    · subst hik
      simp at hu
    · rw [Function.update_of_ne hik, hf] at hu
      cases hu
  | gated hi htv hk hr =>
    rw [hat (storeAt_pending _) rfl]
    exact hr.2.1
  | stored hi hk hd hr =>
    rw [hat (storeAt_pending _) (decodeCondition_decoded hd).inUse]
    exact hr.2.1

theorem admits_fresh (h : Admits ep frame now tv gate r ep') (hindex : r.index = some i) :
    (ep'.pending i).armed = false ∧
    ((ep'.pending i).kind = .triggered → (ep'.pending i).triggeredRuntime.occurrenceCount = 0) := by
  cases h with
  | refused hr hnone => simp [hnone] at hindex
  | submitted htv hr => simp [hr] at hindex
  | burned hi hr hd => simp [hr.2] at hindex
  | gated hi htv hk hr =>
    obtain rfl := Option.some.inj (hr.2.1.symm.trans hindex)
    rcases hk with ⟨hk, -⟩ | ⟨hk, -⟩ <;> simp [gatedSlot, Pending.claimed, hk]
  | stored hi hk hd hr =>
    obtain rfl := Option.some.inj (hr.2.1.symm.trans hindex)
    have hdec := decodeCondition_decoded hd
    simp only [storeAt_pending, Function.update_self, conditionalSlot]
    exact ⟨hdec.armed, fun hkind => hdec.started (hdec.kind.symm.trans hkind)⟩

end Admit

/-- A slot that comes into use was filled by an admission. -/
theorem epochEvent_of_filled (hf : (ep.pending i).inUse = false) (hu : ((ep.step op).pending i).inUse = true) :
    EpochEvent i ep op := by
  cases hop : op.isAdmit with
  | false =>
    rw [step_pending op (.inr hop)] at hu
    cases hc : op.completes i with
    | false =>
      rcases slotAfter_cases ep hc with h | ⟨-, h⟩
      · rw [h.inUse, hf] at hu
        cases hu
      · rw [h] at hu
        cases hu
    | true =>
      cases op with
      | complete index ctx =>
        simp [slotAfter, hf] at hu
      | _ => cases hc
  | true =>
    cases op with
    | admitWithAck frame now tv avtpTimestamp gptpReferenceNow =>
      exact admits_filled (admitWithAck_admits ep frame now tv avtpTimestamp gptpReferenceNow) hf hu
    | _ => cases hop

/-- A new repetition starts unarmed and with no occurrence counted. -/
theorem epochEvent_fresh (h : EpochEvent i ep op) (hu : ((ep.step op).pending i).inUse = true) :
    ((ep.step op).pending i).armed = false ∧
    (((ep.step op).pending i).kind = .triggered →
      ((ep.step op).pending i).triggeredRuntime.occurrenceCount = 0) := by
  cases op with
  | admitWithAck frame now tv avtpTimestamp gptpReferenceNow =>
    exact admits_fresh (admitWithAck_admits ep frame now tv avtpTimestamp gptpReferenceNow) h
  | complete index ctx =>
    obtain ⟨rfl, hbefore⟩ := h
    have hslot := step_pending (.complete i ctx) (.inl hbefore)
    simp only [slotAfter, hbefore, and_self, ↓reduceIte] at hslot
    rw [hslot] at hu ⊢
    unfold Pending.completed at hu ⊢
    cases hn : (ep.pending i).repeatCount? with
    | none => simp [hn] at hu
    | some n =>
      simp only [hn] at hu ⊢
      by_cases hinf : n = repeatInfinite
      · rw [if_pos hinf]
        exact ⟨rfl, fun hk => by simp_all [Pending.rearm, triggeredRuntimeEnterStarted]⟩
      · by_cases hzero : n = 0
        · rw [if_neg hinf, if_pos hzero] at hu
          cases hu
        · rw [if_neg hinf, if_neg hzero]
          exact ⟨rfl, fun hk => by simp_all [Pending.rearm, triggeredRuntimeEnterStarted]⟩
  | _ => exact h.elim

/-! ### Whole runs -/

/-- The last call of the run starts a new repetition of slot `i`. -/
def EpochStart (i : SlotIx) (epEnable : Bool) (past : List EndpointOp) : Prop :=
  ∃ before op, past = before ++ [op] ∧ EpochEvent i ((Endpoint.init epEnable).run before) op

/-- What the run `past ++ since` says about the request in slot `i`, whose current repetition began with the
    last call of `past`. -/
structure Traced (i : SlotIx) (epEnable : Bool) (past since : List EndpointOp) : Prop where
  start : EpochStart i epEnable past
  quiet : Quiet i ((Endpoint.init epEnable).run past) since
  occurrences : ∀ slot, slot = ((Endpoint.init epEnable).run (past ++ since)).pending i → slot.kind = .triggered →
    slot.triggeredRuntime.occurrenceCount.toNat ≤ notifications slot.triggered since
  armed : ∀ slot, slot = ((Endpoint.init epEnable).run (past ++ since)).pending i → slot.armed = true →
    ∃ early ctx late, since = early ++ .selectDue ctx :: late ∧
      Started slot ((Endpoint.init epEnable).run (past ++ early)) ctx early ∧ slot.armedAt = ctx.now

theorem startCondition_trigger {slot : Pending} {ctx : TickCtx} (h : startConditionHolds slot ctx = true)
    (hk : slot.kind = .triggered) :
    slot.triggered.triggerThreshold.toNat < slot.triggeredRuntime.occurrenceCount.toNat := by
  have : slot.triggered.triggerThreshold.toUInt32 < slot.triggeredRuntime.occurrenceCount := by
    simpa [startConditionHolds, hk, triggeredThresholdReached] using h
  simpa [UInt32.lt_iff_toNat_lt] using this

theorem Started.congr {slot slot' : Pending} {ctx : TickCtx} {since : List EndpointOp}
    (h : Started slot ep ctx since) (hs : Pending.SameRequest slot slot') : Started slot' ep ctx since := by
  rw [hs]
  exact ⟨h.enabled, h.gate, h.sequencer, h.trigger⟩

/-- A slot armed by this very tick has its start condition satisfied at it. -/
theorem started_of_armed {ctx : TickCtx} {since : List EndpointOp} (hk : (ep.pending i).kind.isDelayed = true)
    (hopen : GatesOpen (ep.pending i) ep.epEnable ctx) (hstart : startConditionHolds (ep.pending i) ctx = true)
    (hocc : (ep.pending i).kind = .triggered →
      (ep.pending i).triggeredRuntime.occurrenceCount.toNat ≤ notifications (ep.pending i).triggered since) :
    Started (ep.pending i) ep ctx since where
  enabled := by
    refine hopen.enabled ?_
    revert hk
    cases (ep.pending i).kind <;> decide
  gate hg := by simpa [presentationGateOpen, hg] using hopen.presentation
  sequencer hc := startCondition_sequencer hstart hc
  trigger ht := Nat.lt_of_lt_of_le (startCondition_trigger hstart ht) (hocc ht)

/-- One more call that starts no new repetition keeps the trace. -/
theorem Traced.step {epEnable : Bool} {past since : List EndpointOp} (h : Traced i epEnable past since)
    (hep : ep = (Endpoint.init epEnable).run (past ++ since)) (hu : (ep.pending i).inUse = true)
    (hk : (ep.pending i).kind.isDelayed = true) (hop : op.completes i = false) (hev : ¬EpochEvent i ep op)
    (hsame : Pending.SameRequest (ep.pending i) ((ep.step op).pending i)) :
    Traced i epEnable past (since ++ [op]) := by
  have hrun : (Endpoint.init epEnable).run (past ++ (since ++ [op])) = ep.step op := by
    rw [← List.append_assoc, run_concat, hep]
  have hslot := step_pending op (.inl hu)
  have hocc := h.occurrences (ep.pending i) (by rw [hep])
  refine ⟨h.start, ?_, ?_, ?_⟩
  · rw [quiet_concat, ← run_append, ← hep]
    exact ⟨h.quiet, hev⟩
  · rintro slot rfl hkind
    rw [hrun] at hkind ⊢
    have htrigger : ((ep.step op).pending i).triggered = (ep.pending i).triggered := by rw [hsame]
    have hkind' : (ep.pending i).kind = .triggered := by rw [hsame] at hkind; exact hkind
    have hle := slotAfter_occurrences ep hop
    rw [← hslot] at hle
    have hcount : notifications (ep.pending i).triggered (since ++ [op]) =
        notifications (ep.pending i).triggered since +
          if matchesTrigger (ep.pending i).triggered op then 1 else 0 := by
      simp [notifications, List.countP_append, List.countP_singleton]
    rw [htrigger, hcount]
    exact hle.trans (Nat.add_le_add_right (hocc hkind') _)
  · rintro slot rfl ha
    rw [hrun] at ha ⊢
    have hchained : (ep.pending i).kind ≠ .chained := by
      intro hc
      rw [hc] at hk
      cases hk
    rw [hslot] at ha hsame ⊢
    rcases slotAfter_armed hop hchained ha with ⟨hbefore, hat⟩ | ⟨ctx, rfl, hopen, hstart, hat⟩
    · obtain ⟨early, ctx, late, rfl, hstarted, hnow⟩ := h.armed (ep.pending i) (by rw [hep]) hbefore
      exact ⟨early, ctx, late ++ [op], by simp, hstarted.congr hsame, hat.trans hnow⟩
    · refine ⟨since, ctx, [], rfl, ?_, hat⟩
      rw [← hep]
      exact (started_of_armed hk hopen hstart hocc).congr hsame

/-- Every stored request with a start condition of its own can be traced back to the call its current
    repetition began with. -/
theorem traced_run (epEnable : Bool) (ops : List EndpointOp)
    (hu : (((Endpoint.init epEnable).run ops).pending i).inUse = true)
    (hk : (((Endpoint.init epEnable).run ops).pending i).kind.isDelayed = true) :
    ∃ past since, ops = past ++ since ∧ Traced i epEnable past since := by
  induction ops using List.reverseRecOn with
  | nil => cases hu
  | append_singleton ops op ih =>
    rw [run_concat] at hu hk
    by_cases hev : EpochEvent i ((Endpoint.init epEnable).run ops) op
    · obtain ⟨harmed, hocc⟩ := epochEvent_fresh hev hu
      refine ⟨ops ++ [op], [], by simp, ⟨ops, op, rfl, hev⟩, trivial, ?_, ?_⟩
      · rintro slot rfl hkind
        rw [List.append_nil, run_concat] at hkind ⊢
        rw [hocc hkind]
        exact Nat.zero_le _
      · rintro slot rfl ha
        rw [List.append_nil, run_concat, harmed] at ha
        cases ha
    · have hu' : (((Endpoint.init epEnable).run ops).pending i).inUse = true := by
        by_contra hf
        exact hev (epochEvent_of_filled (by simpa using hf) hu)
      have hop : op.completes i = false := by
        by_contra hc
        obtain ⟨ctx, rfl, -⟩ := slotAfter_completes hu' (by simpa using hc)
        exact hev ⟨rfl, hu'⟩
      have hsame : Pending.SameRequest (((Endpoint.init epEnable).run ops).pending i)
          ((((Endpoint.init epEnable).run ops).step op).pending i) := by
        rw [step_pending op (.inl hu')] at hu ⊢
        rcases slotAfter_cases ((Endpoint.init epEnable).run ops) hop with h | ⟨-, h⟩
        · exact h
        · rw [h] at hu
          cases hu
      have hk' : (((Endpoint.init epEnable).run ops).pending i).kind.isDelayed = true := by
        rw [hsame] at hk
        exact hk
      obtain ⟨past, since, rfl, htraced⟩ := ih hu' hk'
      exact ⟨past, since ++ [op], by simp, htraced.step rfl hu' hk' hop hev hsame⟩

theorem timerExpired_delay {slot : Pending} {ctx : TickCtx} (hk : slot.kind.isDelayed = true)
    (h : timerExpired slot ctx = true) : slot.execDelay.toNat ≤ (ctx.now - slot.armedAt).toNat := by
  have hdelay := (Bool.and_eq_true_iff.mp h).2
  have hle : slot.execDelay.toUInt32 ≤ ctx.now - slot.armedAt := by
    unfold delayExpired at hdelay
    unfold Pending.execDelay
    cases hkind : slot.kind <;> simp only [hkind] at hk hdelay ⊢
    case compound => exact of_decide_eq_true hdelay
    case compoundWait => exact of_decide_eq_true hdelay
    case triggered => exact of_decide_eq_true hdelay
    all_goals cases hk
  simpa [UInt32.le_iff_toNat_le] using hle

/-- Whenever `select_due` returns a compound, compound-wait or triggered entry, some earlier or equal tick of
    the run, after the entry's admission and after its previous completion, found the endpoint enabled, the
    presentation gate open and the start condition satisfied, and at least exec_delay has gone by since. -/
theorem no_early_execution (epEnable : Bool) (ops : List EndpointOp) (ctx : TickCtx) (i : SlotIx)
    (hsel : (((Endpoint.init epEnable).run ops).selectDue ctx).1 = some i)
    (hk : (((Endpoint.init epEnable).run ops).pending i).kind.isDelayed = true) :
    ∃ past early ctx₀ late, ops ++ [.selectDue ctx] = past ++ (early ++ .selectDue ctx₀ :: late) ∧
      EpochStart i epEnable past ∧ Quiet i ((Endpoint.init epEnable).run past) (early ++ .selectDue ctx₀ :: late) ∧
      Started (((Endpoint.init epEnable).run ops).pending i) ((Endpoint.init epEnable).run (past ++ early)) ctx₀ early ∧
      (((Endpoint.init epEnable).run ops).pending i).execDelay.toNat ≤ (ctx.now - ctx₀.now).toNat := by
  have hdue := (selectDue_minimal hsel).1
  have hu := due_inUse hdue
  -- The tick itself arms the entry if nothing did before, so the trace is taken after it.
  have hafter : ((Endpoint.init epEnable).run (ops ++ [.selectDue ctx])).pending i =
      (isDue (((Endpoint.init epEnable).run ops).pending i) ((Endpoint.init epEnable).run ops).epEnable ctx).2 := by
    rw [run_concat, step_pending _ (.inl hu)]
    simp [slotAfter, Pending.swept, hu]
  obtain ⟨-, harmed, htimer⟩ := isDue_due (Bool.and_eq_true_iff.mp hdue).2
  have hsame := Pending.swept_sameRequest (((Endpoint.init epEnable).run ops).pending i)
    ((Endpoint.init epEnable).run ops).epEnable ctx
  rw [Pending.swept, if_pos hu] at hsame
  rw [← hafter] at harmed htimer hsame
  have hk' : (((Endpoint.init epEnable).run (ops ++ [.selectDue ctx])).pending i).kind.isDelayed = true := by
    rw [hsame]
    exact hk
  obtain ⟨past, since, hsplit, htraced⟩ := traced_run epEnable (ops ++ [.selectDue ctx])
    (hsame.inUse.trans hu) hk'
  obtain ⟨early, ctx₀, late, rfl, hstarted, hnow⟩ := htraced.armed _ (by rw [hsplit]) harmed
  have hback : Pending.SameRequest (((Endpoint.init epEnable).run (ops ++ [.selectDue ctx])).pending i)
      (((Endpoint.init epEnable).run ops).pending i) := by
    rw [hsame]
    rfl
  have hdelay := timerExpired_delay hk' htimer
  rw [hnow] at hdelay
  refine ⟨past, early, ctx₀, late, hsplit, htraced.start, htraced.quiet, hstarted.congr hback, ?_⟩
  have hexec : (((Endpoint.init epEnable).run ops).pending i).execDelay =
      (((Endpoint.init epEnable).run (ops ++ [.selectDue ctx])).pending i).execDelay := by
    rw [hsame]
    rfl
  rw [hexec]
  exact hdelay

/-- A tick of an idle endpoint with one sequencer, in its power-on state. -/
def idleTick (now : UInt32) : TickCtx := { now := now, sequencers := some (.new 1), endpointIdle := true }

theorem no_early_execution_compound :
    (((Endpoint.init true).run [.admitWithAck compoundTwiceFrame 0 false 0 0]).selectDue (idleTick 9)).1 = some 0 ∧
    ∃ past early ctx₀ late, [.admitWithAck compoundTwiceFrame 0 false 0 0, .selectDue (idleTick 9)] =
        past ++ (early ++ .selectDue ctx₀ :: late) ∧
      EpochStart 0 true past ∧ ((Endpoint.init true).run (past ++ early)).epEnable = true := by
  refine ⟨by decide, ?_⟩
  obtain ⟨past, early, ctx₀, late, hsplit, hstart, -, hstarted, -⟩ :=
    no_early_execution true [.admitWithAck compoundTwiceFrame 0 false 0 0] (idleTick 9) 0 (by decide) (by decide)
  exact ⟨past, early, ctx₀, late, hsplit, hstart, hstarted.enabled⟩

end Endpoint
end Rcp
