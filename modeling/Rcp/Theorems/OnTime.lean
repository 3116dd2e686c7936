import Rcp.Lib.History
import Rcp.Theorems.NoEarly

/-! No missed execution. The timer of a compound, compound-wait or triggered request runs from the first tick of its
    repetition that finds its gates open and its start condition satisfied, so the history of the calls decides
    exactly when the request is due. -/

namespace Rcp
namespace Endpoint
variable {ep : Endpoint} {i : SlotIx} {op : EndpointOp} {slot slot' : Pending}

/-! ### Startable ticks -/

/-- A tick of the endpoint `ep` finds the gates of the request open and its start condition satisfied, with the calls
    of its current repetition so far. The occurrence counter has 32 bits. -/
structure Startable (slot : Pending) (ep : Endpoint) (ctx : TickCtx) (since : List EndpointOp) : Prop where
  gates : GatesOpen slot ep.epEnable ctx
  sequencer : slot.kind = .compound ∨ slot.kind = .compoundWait →
    ∃ table, ctx.sequencers = some table ∧ compoundStartConditionMet table slot.compound = true
  trigger : slot.kind = .triggered →
    slot.triggered.triggerThreshold.toNat < notifications slot.triggered since % 2 ^ 32

/-- The call is such a tick. `past` is the run up to the current repetition. -/
def Starts (slot : Pending) (epEnable : Bool) (past since : List EndpointOp) : EndpointOp → Prop
  | .selectDue ctx => Startable slot ((Endpoint.init epEnable).run (past ++ since)) ctx since
  | _ => False

theorem GatesOpen.congr {epEnable : Bool} {ctx : TickCtx} (h : Pending.SameRequest slot slot') :
    GatesOpen slot' epEnable ctx ↔ GatesOpen slot epEnable ctx := by
  rw [h]
  exact ⟨fun h => ⟨h.enabled, h.mayExecute, h.presentation⟩, fun h => ⟨h.enabled, h.mayExecute, h.presentation⟩⟩

theorem Starts.congr {epEnable : Bool} {past : List EndpointOp} (h : Pending.SameRequest slot slot') :
    Starts slot' epEnable past = Starts slot epEnable past := by
  funext since op
  cases op with
  | selectDue ctx =>
    refine propext ⟨fun hs => ?_, fun hs => ?_⟩
    · refine ⟨(GatesOpen.congr h).mp hs.gates, fun hk => ?_, fun hk => ?_⟩
      · have hs' := hs.sequencer
        rw [h] at hs'
        exact hs' hk
      · have hs' := hs.trigger
        rw [h] at hs'
        exact hs' hk
    · refine ⟨(GatesOpen.congr h).mpr hs.gates, fun hk => ?_, fun hk => ?_⟩
      · rw [h] at hk ⊢
        exact hs.sequencer hk
      · rw [h] at hk ⊢
        exact hs.trigger hk
  | _ => rfl

/-- The start condition of the code is that of the history, once the counter is. -/
theorem startConditionHolds_iff {ctx : TickCtx} {since : List EndpointOp} (hk : slot.kind.isDelayed = true)
    (hcount : slot.kind = .triggered →
      slot.triggeredRuntime.occurrenceCount.toNat = notifications slot.triggered since % 2 ^ 32)
    (hopen : GatesOpen slot ep.epEnable ctx) :
    startConditionHolds slot ctx = true ↔ Startable slot ep ctx since := by
  constructor
  · intro h
    refine ⟨hopen, fun hc => ?_, fun ht => ?_⟩
    · unfold startConditionHolds at h
      cases htable : ctx.sequencers with
      | none => rcases hc with hc | hc <;> simp [hc, htable] at h
      | some table =>
        refine ⟨table, rfl, ?_⟩
        rcases hc with hc | hc <;> simpa [hc, htable] using h
    · rw [← hcount ht]
      exact startCondition_trigger h ht
  · intro h
    unfold startConditionHolds
    cases hkind : slot.kind with
    | compound =>
      obtain ⟨table, htable, hmet⟩ := h.sequencer (.inl hkind)
      rw [htable]
      exact hmet
    | compoundWait =>
      obtain ⟨table, htable, hmet⟩ := h.sequencer (.inr hkind)
      rw [htable]
      exact hmet
    | triggered =>
      have hlt := h.trigger hkind
      rw [← hcount hkind] at hlt
      refine decide_eq_true ?_
      rw [gt_iff_lt, UInt32.lt_iff_toNat_lt]
      simpa using hlt
    | standard | timed | cancellation => rfl
    | chained =>
      rw [hkind] at hk
      cases hk

/-! ### One call -/

/-- What a call that neither fills nor completes nor releases a slot can do to it. -/
inductive Turn (slot : Pending) (epEnable : Bool) : EndpointOp → Pending → Prop
  | kept {op : EndpointOp} (hnotify : ∀ sourceEp signalNr, op ≠ .notifyTrigger sourceEp signalNr)
      (htick : ∀ ctx, op = .selectDue ctx → slot.armed = false → GatesOpen slot epEnable ctx →
        startConditionHolds slot ctx = false) : Turn slot epEnable op slot
  | armed {ctx : TickCtx} (hidle : slot.armed = false) (hopen : GatesOpen slot epEnable ctx)
      (hstart : startConditionHolds slot ctx = true) : Turn slot epEnable (.selectDue ctx) (slot.arm ctx)
  | notified {sourceEp signalNr : UInt8} :
      Turn slot epEnable (.notifyTrigger sourceEp signalNr) (slot.notified sourceEp signalNr)

namespace Turn
variable {epEnable : Bool}

theorem not_matches (h : Turn slot epEnable op slot') (trigger : TriggeredStep)
    (hnotify : ∀ sourceEp signalNr, op ≠ .notifyTrigger sourceEp signalNr) : matchesTrigger trigger op = false := by
  cases op with
  | notifyTrigger sourceEp signalNr => exact absurd rfl (hnotify sourceEp signalNr)
  | _ => rfl

/-- A notification that matches is counted, modulo the width of the counter, and nothing else is. -/
theorem counted (h : Turn slot epEnable op slot') (hu : slot.inUse = true) (hk : slot.kind = .triggered)
    (hstarted : slot.triggeredRuntime.started = true) :
    slot'.triggeredRuntime.started = true ∧
    slot'.triggeredRuntime.occurrenceCount.toNat =
      (slot.triggeredRuntime.occurrenceCount.toNat + if matchesTrigger slot.triggered op then 1 else 0) % 2 ^ 32 := by
  have hsize : slot.triggeredRuntime.occurrenceCount.toNat % 2 ^ 32 = slot.triggeredRuntime.occurrenceCount.toNat :=
    Nat.mod_eq_of_lt slot.triggeredRuntime.occurrenceCount.toNat_lt
  have hmatches := h.not_matches slot.triggered
  cases h with
  | kept hnotify htick =>
    rw [hmatches hnotify, if_neg Bool.false_ne_true, Nat.add_zero, hsize]
    exact ⟨hstarted, rfl⟩
  | armed hidle hopen hstart =>
    refine ⟨hstarted, ?_⟩
    rw [hmatches (fun _ _ h => by cases h), if_neg Bool.false_ne_true, Nat.add_zero, hsize]
    rfl
  | @notified sourceEp signalNr =>
    simp only [Pending.notified, hu, hk, and_self, ↓reduceIte, triggeredRuntimeRecordOccurrence, hstarted,
      Bool.not_true, Bool.false_eq_true, matchesTrigger]
    by_cases hsource : sourceEp = slot.triggered.triggerSourceEp
    · by_cases hsignal : signalNr = slot.triggered.triggerSignalNr
      · simp only [hsource, hsignal, ne_eq, not_true, beq_self_eq_true, Bool.and_self, ↓reduceIte, true_and]
        rw [UInt32.toNat_add]
        rfl
      · simp [hsource, hsignal, hstarted]
    · simp [hsource, hstarted]

/-- A running timer is left alone. -/
theorem running (h : Turn slot epEnable op slot') (ha : slot.armed = true) :
    slot'.armed = true ∧ slot'.armedAt = slot.armedAt := by
  cases h with
  | kept hnotify htick => exact ⟨ha, rfl⟩
  | armed hidle hopen hstart =>
    rw [ha] at hidle
    cases hidle
  | notified =>
    unfold Pending.notified
    split
    · exact ⟨ha, rfl⟩
    · exact ⟨ha, rfl⟩

/-- An idle timer is set running by the first startable tick, and by nothing else. -/
theorem idle (h : Turn slot epEnable op slot') (hk : slot.kind ≠ .chained) (ha : slot.armed = false) :
    (slot'.armed = true ∧ ∃ ctx, op = .selectDue ctx ∧ GatesOpen slot epEnable ctx ∧
      startConditionHolds slot ctx = true ∧ slot'.armedAt = ctx.now) ∨
    (slot'.armed = false ∧ ∀ ctx, op = .selectDue ctx → GatesOpen slot epEnable ctx →
      startConditionHolds slot ctx = false) := by
  cases h with
  | kept hnotify htick => exact .inr ⟨ha, fun ctx hctx => htick ctx hctx ha⟩
  | @armed ctx hidle hopen hstart => exact .inl ⟨rfl, ctx, rfl, hopen, hstart, by simp [Pending.arm, hk]⟩
  | notified =>
    refine .inr ⟨?_, fun ctx h => by cases h⟩
    unfold Pending.notified
    split
    · exact ha
    · exact ha

end Turn

/-! ### Whole runs -/

/-- What the run `past ++ since` says about the timer of `slot`, whose current repetition began with the last call of
    `past`. -/
structure Timed (slot : Pending) (epEnable : Bool) (past since : List EndpointOp) : Prop where
  counter : slot.kind = .triggered → slot.triggeredRuntime.started = true ∧
    slot.triggeredRuntime.occurrenceCount.toNat = notifications slot.triggered since % 2 ^ 32
  idle : slot.armed = false → ¬∃ op, Lib.First (Starts slot epEnable past) since op
  running : slot.armed = true →
    ∃ ctx, Lib.First (Starts slot epEnable past) since (.selectDue ctx) ∧ slot.armedAt = ctx.now

theorem Timed.step {epEnable : Bool} {past since : List EndpointOp} (h : Timed slot epEnable past since)
    (hep : ep = (Endpoint.init epEnable).run (past ++ since)) (hu : slot.inUse = true) (hk : slot.kind.isDelayed = true)
    (hsame : Pending.SameRequest slot slot') (hturn : Turn slot ep.epEnable op slot') :
    Timed slot' epEnable past (since ++ [op]) := by
  have hchained : slot.kind ≠ .chained := by
    intro hc
    rw [hc] at hk
    cases hk
  have hkind : slot'.kind = slot.kind := by rw [hsame]
  have htrigger : slot'.triggered = slot.triggered := by rw [hsame]
  -- What the code takes for the start condition is the condition on the history.
  have hcond : ∀ ctx, op = .selectDue ctx →
      ((GatesOpen slot ep.epEnable ctx ∧ startConditionHolds slot ctx = true) ↔ Starts slot epEnable past since op) := by
    rintro ctx rfl
    unfold Starts
    rw [← hep]
    constructor
    · rintro ⟨hopen, hstart⟩
      exact (startConditionHolds_iff hk (fun ht => (h.counter ht).2) hopen).mp hstart
    · intro hs
      exact ⟨hs.gates, (startConditionHolds_iff hk (fun ht => (h.counter ht).2) hs.gates).mpr hs⟩
  have htick : Starts slot epEnable past since op → ∃ ctx, op = .selectDue ctx := by
    intro hs
    cases op with
    | selectDue ctx => exact ⟨ctx, rfl⟩
    | _ => exact hs.elim
  refine ⟨fun ht => ?_, fun ha => ?_, fun ha => ?_⟩
  · rw [hkind] at ht
    obtain ⟨hstarted, hcount⟩ := hturn.counted hu ht (h.counter ht).1
    refine ⟨hstarted, ?_⟩
    have hnotified : notifications slot.triggered (since ++ [op]) =
        notifications slot.triggered since + if matchesTrigger slot.triggered op then 1 else 0 := by
      simp [notifications, List.countP_append, List.countP_singleton]
    rw [hcount, htrigger, hnotified, (h.counter ht).2, Nat.mod_add_mod]
  · rw [Starts.congr hsame]
    rintro ⟨op', hfirst⟩
    cases hbefore : slot.armed with
    | true =>
      rw [(hturn.running hbefore).1] at ha
      cases ha
    | false =>
      rcases hturn.idle hchained hbefore with ⟨harmed, -⟩ | ⟨-, hno⟩
      · rw [harmed] at ha
        cases ha
      rcases Lib.first_concat.mp hfirst with hold | ⟨-, hs, -⟩
      · exact h.idle hbefore ⟨op', hold⟩
      · obtain ⟨ctx, hctx⟩ := htick hs
        obtain ⟨hopen, hstart⟩ := (hcond ctx hctx).mpr hs
        rw [hno ctx hctx hopen] at hstart
        cases hstart
  · rw [Starts.congr hsame]
    cases hbefore : slot.armed with
    | true =>
      obtain ⟨ctx, hfirst, hat⟩ := h.running hbefore
      exact ⟨ctx, Lib.first_concat.mpr (.inl hfirst), (hturn.running hbefore).2.trans hat⟩
    | false =>
      rcases hturn.idle hchained hbefore with ⟨-, ctx, rfl, hopen, hstart, hat⟩ | ⟨hidle, -⟩
      · refine ⟨ctx, Lib.first_concat.mpr (.inr ⟨h.idle hbefore, ?_, rfl⟩), hat⟩
        exact (hcond ctx rfl).mp ⟨hopen, hstart⟩
      · rw [hidle] at ha
        cases ha

end Endpoint
end Rcp
