import Rcp.Theorems.Access
import Rcp.Theorems.Quiet

/-! The sequencer registers over whole runs: what a tick may do to them, and that nothing else does. -/

namespace Rcp

/-! ### Completing one request -/

/-- The completed request `slot` has moved sequencer `s`, from its start_state to its next_state. -/
structure Advances (slot : Pending) (ctx : TickCtx) (table table' : SequencerTable) (s : Nat) : Prop where
  index : slot.compound.sequencerIndex.toNat = s
  source : table.getState s = some slot.compound.startState
  enabled : slot.compound.startState ≠ 0
  target : table'.getState s = some slot.compound.nextState
  advances : slot.compound.nextState ≠ 0
  condition : slot.kind = .compound ∧ compoundExecDelayElapsed slot.compound (ctx.now - slot.armedAt) = true ∨
    slot.kind = .compoundWait ∧
      Acf.compoundWaitMatch slot.compoundWaitEvt slot.compoundWaitTarget ctx.currentStatus = true
  others : ∀ s', s' ≠ s → table'.rows[s']? = table.rows[s']?

theorem compoundAdvanceGuard_spec {table : SequencerTable} {step : CompoundStep}
    (h : compoundAdvanceGuard table step = true) :
    table.getState step.sequencerIndex.toNat = some step.startState ∧ step.startState ≠ 0 := by
  unfold compoundAdvanceGuard at h
  split at h
  · cases h
  · rename_i current hcur
    split at h
    · cases h
    · obtain rfl := beq_iff_eq.mp h
      exact ⟨hcur, ‹_›⟩

theorem SequencerTable.setState_spec {table : SequencerTable} {idx : Nat} {state old : UInt8}
    (h : table.getState idx = some old) :
    (table.setState idx state).2.getState idx = some state ∧
      ∀ s', s' ≠ idx → (table.setState idx state).2.rows[s']? = table.rows[s']? := by
  obtain ⟨row, hrow, -⟩ := Option.map_eq_some_iff.mp h
  have hlt : idx < table.rows.length := (List.getElem?_eq_some_iff.mp hrow).1
  simp only [setState, hrow, getState]
  refine ⟨by simp [hlt], fun s' hs' => ?_⟩
  exact List.getElem?_set_ne (Ne.symm hs')

/-- A step whose guard holds moves its sequencer, or has no next_state and moves nothing. -/
theorem applyNextState_spec {table : SequencerTable} {step : CompoundStep} (h : compoundAdvanceGuard table step = true) :
    (applyNextState table step).2 = table ∨
    step.nextState ≠ 0 ∧ (applyNextState table step).2.getState step.sequencerIndex.toNat = some step.nextState ∧
      ∀ s', s' ≠ step.sequencerIndex.toNat → (applyNextState table step).2.rows[s']? = table.rows[s']? := by
  unfold applyNextState
  split
  · exact Or.inl rfl
  · exact Or.inr ⟨‹_›, SequencerTable.setState_spec (compoundAdvanceGuard_spec h).1⟩

/-- `rcp_compound_tick` and `rcp_compound_wait_tick` are one function of their condition. -/
theorem compoundTick_eq (table : SequencerTable) (step : CompoundStep) (elapsed : UInt32) :
    compoundTick table step elapsed = compoundWaitTick table step (compoundExecDelayElapsed step elapsed) := rfl

theorem compoundWaitTick_advances {slot : Pending} {ctx : TickCtx} {table : SequencerTable} {met : Bool}
    (hcond : met = true →
      slot.kind = .compound ∧ compoundExecDelayElapsed slot.compound (ctx.now - slot.armedAt) = true ∨
      slot.kind = .compoundWait ∧
        Acf.compoundWaitMatch slot.compoundWaitEvt slot.compoundWaitTarget ctx.currentStatus = true) :
    (compoundWaitTick table slot.compound met).2 = table ∨
      Advances slot ctx table (compoundWaitTick table slot.compound met).2 slot.compound.sequencerIndex.toNat := by
  unfold compoundWaitTick
  split
  · exact Or.inl rfl
  split
  · exact Or.inl rfl
  rename_i hmet hguard
  have hguard : compoundAdvanceGuard table slot.compound = true := by simpa using hguard
  obtain ⟨hsource, henabled⟩ := compoundAdvanceGuard_spec hguard
  rcases applyNextState_spec hguard with h | ⟨hne, htarget, hothers⟩
  · exact Or.inl h
  · exact Or.inr ⟨rfl, hsource, henabled, htarget, hne, hcond (by simpa using hmet), hothers⟩

/-- A completion leaves the table alone, or the completed request advances its own sequencer. -/
theorem Endpoint.complete_sequencers (ep : Endpoint) (i : SlotIx) {ctx : TickCtx} {table : SequencerTable}
    (hctx : ctx.sequencers = some table) :
    (ep.complete i ctx).2.2.getD table = table ∨ (ep.pending i).inUse = true ∧
      Advances (ep.pending i) ctx table ((ep.complete i ctx).2.2.getD table)
        (ep.pending i).compound.sequencerIndex.toNat := by
  unfold complete
  rw [dif_pos i.isLt]
  dsimp only [Fin.eta]
  cases hu : (ep.pending i).inUse with
  | false => simp [hctx]
  | true =>
    simp only [hctx, Bool.not_true, Bool.false_eq_true, if_false, Option.map_some, true_and]
    split
    · rw [compoundTick_eq]
      exact compoundWaitTick_advances fun h => Or.inl ⟨‹_›, h⟩
    · exact compoundWaitTick_advances fun h => Or.inr ⟨‹_›, h⟩
    · exact Or.inl rfl
    · exact Or.inl rfl

namespace MockServer
variable {σ : Type} {srv srv' : MockServer σ}

/-! ### One tick -/

/-- The tick leaves every sequencer alone, or it moves one, as the request it has selected and completed says. -/
def TickAdvances (srv : MockServer σ) (scope : Scope) (byteBusId : ByteBusId) (ctx : TickCtx) : Prop :=
  (srv.tickScoped scope byteBusId ctx).2.sequencers = srv.sequencers ∨
  ∃ e i response s, srv.lookup scope byteBusId = some e ∧
    (srv.tickScoped scope byteBusId ctx).1 = some (i, response) ∧
    ((srv.endpoints e).queue.selectDue (srv.tickCtx ctx)).1 = some i ∧ (srv.slot e i).inUse = true ∧
    Advances (((srv.endpoints e).queue.selectDue (srv.tickCtx ctx)).2.pending i) ctx srv.sequencers
      (srv.tickScoped scope byteBusId ctx).2.sequencers s

theorem tickAdvances (srv : MockServer σ) (scope : Scope) (byteBusId : ByteBusId) (ctx : TickCtx) :
    srv.TickAdvances scope byteBusId ctx := by
  unfold TickAdvances
  rw [tickScoped_eq]
  cases srv.lookup scope byteBusId with
  | none => exact Or.inl rfl
  | some e =>
    dsimp only
    cases hr : (srv.tickSlot e byteBusId ctx).1 with
    | none => exact Or.inl (tickSlot_idle hr)
    | some r =>
      obtain ⟨i, response⟩ := r
      obtain ⟨hsel, -, hseq⟩ := tickSlot_executed hr
      rw [hseq]
      refine (Endpoint.complete_sequencers _ i rfl).imp_right ?_
      rintro ⟨hu, hadv⟩
      -- What is completed is what was selected: a cancellation moves no sequencer.
      have hslot : (executedQueue ((srv.endpoints e).queue.selectDue (srv.tickCtx ctx)).2 i byteBusId).pending i =
          ((srv.endpoints e).queue.selectDue (srv.tickCtx ctx)).2.pending i := by
        unfold executedQueue at hu ⊢
        split at hu
        · rename_i hk
          rw [if_pos hk]
          exact (Endpoint.Released.applyCancellation _ _ _ _).inUse hu
        · rename_i hk
          rw [if_neg hk]
      rw [hslot] at hu hadv
      have hin : (srv.slot e i).inUse = true := (Endpoint.Keeps.selectDue _ (srv.tickCtx ctx) i hu).1
      exact ⟨e, i, response, _, rfl, rfl, hsel, hin, hadv.index, hadv.source, hadv.enabled, hadv.target, hadv.advances,
        hadv.condition, hadv.others⟩

/-! ### Every other call -/

theorem CallEffect.sequencers {streamId : UInt64} {byteBusId : ByteBusId} {request : Octets} {result : DispatchResult}
    (h : CallEffect srv streamId byteBusId request result srv') : srv'.sequencers = srv.sequencers := by
  cases h with
  | admitted hfind henv h =>
    cases h with
    | stored hi hf hs hn => exact hs.sequencers
    | unadmitted hi hf hk hs hn => exact hs.sequencers
    | cancelled hpeek hs => exact hs.sequencers
    | other hr hp => exact hp.sequencers
  | other hr hp => exact hp.sequencers

theorem call_sequencers (srv : MockServer σ) (c : DispatchCall) : (srv.call c).server.sequencers = srv.sequencers := by
  obtain ⟨request, -, h⟩ := call_effect srv c
  exact h.sequencers

theorem frameSeqGateAdmits_sequencers (srv : MockServer σ) (streamId : UInt64) (sequenceNum : UInt8) :
    (srv.frameSeqGateAdmits streamId sequenceNum).2.sequencers = srv.sequencers := by
  unfold frameSeqGateAdmits
  split
  · rfl
  dsimp only
  split
  · exact (SameSides.broadcastSafeState _ _).sequencers
  · rfl

theorem frameMember_sequencers (kind : FrameKind) (env : FrameEnvelope) (s : MockServer σ × FrameLoop)
    (member : Octets) : (frameMember kind env s member).1.sequencers = s.1.sequencers := by
  unfold frameMember
  dsimp only
  split
  · rfl
  · rfl
  · exact (SameSides.tagMember _ _ _ _ _).sequencers.trans (call_sequencers _ _)

theorem foldl_frameMember_sequencers (kind : FrameKind) (env : FrameEnvelope) (ms : List Octets) :
    ∀ s : MockServer σ × FrameLoop, (ms.foldl (frameMember kind env) s).1.sequencers = s.1.sequencers := by
  induction ms with
  | nil => exact fun _ => rfl
  | cons member ms ih => exact fun s => (ih _).trans (frameMember_sequencers kind env s member)

theorem dispatchFrameWith_sequencers (kind : FrameKind) (srv : MockServer σ) (env : FrameEnvelope) (frame : Octets)
    (outCap : Nat) : (dispatchFrameWith kind srv env frame outCap).2.sequencers = srv.sequencers := by
  have hgate := frameSeqGateAdmits_sequencers srv env.streamId env.sequenceNum
  unfold dispatchFrameWith
  split
  · rfl
  · rfl
  split
  · rename_i heq
    rw [heq] at hgate
    exact hgate
  · rename_i heq
    rw [heq] at hgate
    exact (foldl_frameMember_sequencers kind env _ _).trans hgate

theorem checkWatchdog_sequencers (srv : MockServer σ) (requestStreamIndex : UInt8) (elapsed : UInt64) :
    (srv.checkWatchdog requestStreamIndex elapsed).2.sequencers = srv.sequencers := by
  unfold checkWatchdog
  split
  · split
    · rfl
    dsimp only
    split
    · exact (SameSides.broadcastSafeState _ _).sequencers
    · rfl
  · rfl

end MockServer

/-- A write to the state registers that no request makes. -/
def MockOp.writesSequencers {σ : Type} : MockOp σ → Bool
  | .setSequencerCount .. => true
  | _ => false

theorem SequencerTable.setOwner_getState (table : SequencerTable) (idx : Nat) (owner : UInt8) (s : Nat) :
    (table.setOwner idx owner).2.getState s = table.getState s := by
  unfold setOwner
  split
  · rfl
  · rename_i row hrow
    obtain ⟨hlt, hget⟩ := List.getElem?_eq_some_iff.mp hrow
    by_cases hs : idx = s
    · subst hs
      simp [getState, hlt, ← hget]
    · simp [getState, List.getElem?_set_ne hs]

/-- How a register may change: state 0 is for ever, and no other state becomes 0; an index that names no register
    never will. -/
structure Disciplined (table table' : SequencerTable) : Prop where
  absent : ∀ s, table.getState s = none → table'.getState s = none
  disabled : ∀ s, table.getState s = some 0 → table'.getState s = some 0
  enabled : ∀ s v, table.getState s = some v → v ≠ 0 → ∃ v', table'.getState s = some v' ∧ v' ≠ 0

namespace Disciplined

theorem of_getState {table table' : SequencerTable} (h : ∀ s, table'.getState s = table.getState s) :
    Disciplined table table' where
  absent s hs := (h s).trans hs
  disabled s hs := (h s).trans hs
  enabled s v hs hv := ⟨v, (h s).trans hs, hv⟩

theorem trans {a b c : SequencerTable} (h : Disciplined a b) (h' : Disciplined b c) : Disciplined a c where
  absent s hs := h'.absent s (h.absent s hs)
  disabled s hs := h'.disabled s (h.disabled s hs)
  enabled s v hs hv := by
    obtain ⟨v', hs', hv'⟩ := h.enabled s v hs hv
    exact h'.enabled s v' hs' hv'

theorem of_advances {slot : Pending} {ctx : TickCtx} {table table' : SequencerTable} {s : Nat}
    (h : Advances slot ctx table table' s) : Disciplined table table' := by
  have hother : ∀ s', s' ≠ s → table'.getState s' = table.getState s' := by
    intro s' hs'
    rw [SequencerTable.getState, h.others s' hs', SequencerTable.getState]
  refine ⟨fun s' hs' => ?_, fun s' hs' => ?_, fun s' v hs' hv => ?_⟩
  · by_cases hss : s' = s
    · rw [hss, h.source] at hs'
      cases hs'
    · exact (hother s' hss).trans hs'
  · by_cases hss : s' = s
    · rw [hss, h.source] at hs'
      exact absurd (Option.some.inj hs') h.enabled
    · exact (hother s' hss).trans hs'
  · by_cases hss : s' = s
    · subst hss
      exact ⟨_, h.target, h.advances⟩
    · exact ⟨v, (hother s' hss).trans hs', hv⟩

end Disciplined

namespace MockServer
variable {σ : Type} {srv : MockServer σ}

/-- A call other than a tick moves no sequencer. -/
theorem step_getState (srv : MockServer σ) {op : MockOp σ} (hw : op.writesSequencers = false)
    (ht : ∀ scope byteBusId ctx, op ≠ .tick scope byteBusId ctx) (s : Nat) :
    (srv.step op).sequencers.getState s = srv.sequencers.getState s := by
  by_cases hq : op.quiet = true
  · rw [(step_quiet srv hq).sequencers]
  cases op with
  | call c => exact congrArg (fun table => table.getState s) (call_sequencers srv c)
  | dispatchFrame kind env frame outCap =>
    exact congrArg (fun table => table.getState s) (dispatchFrameWith_sequencers kind srv env frame outCap)
  | tick scope byteBusId ctx => exact absurd rfl (ht scope byteBusId ctx)
  | checkWatchdog requestStreamIndex elapsed =>
    exact congrArg (fun table => table.getState s) (checkWatchdog_sequencers srv requestStreamIndex elapsed)
  | setSequencerCount count => cases hw
  | setSequencerOwner idx owner => exact SequencerTable.setOwner_getState srv.sequencers idx owner s
  | setRequestStreamCfg | setStreamFaultTracker => rfl
  | _ => exact absurd rfl hq

theorem step_disciplined (srv : MockServer σ) {op : MockOp σ} (hw : op.writesSequencers = false) :
    Disciplined srv.sequencers (srv.step op).sequencers := by
  by_cases ht : ∃ scope byteBusId ctx, op = .tick scope byteBusId ctx
  · obtain ⟨scope, byteBusId, ctx, rfl⟩ := ht
    rcases tickAdvances srv scope byteBusId ctx with h | ⟨e, i, response, s, -, -, -, -, h⟩
    · exact .of_getState fun s => congrArg (fun table => table.getState s) h
    · exact .of_advances h
  · push Not at ht
    exact .of_getState (step_getState srv hw ht)

theorem run_disciplined (ops : List (MockOp σ)) : ∀ {srv : MockServer σ},
    (∀ op ∈ ops, op.writesSequencers = false) → Disciplined srv.sequencers (srv.run ops).sequencers := by
  induction ops with
  | nil => exact fun _ => .of_getState fun _ => rfl
  | cons op ops ih =>
    intro srv hops
    have hop := hops op (List.mem_cons_self ..)
    exact (step_disciplined srv hop).trans (ih fun op' h => hops op' (List.mem_cons_of_mem op h))

/-- In every run that writes no sequencer directly, from any table: only ticks move sequencers, each at most one
    and as the completed request says; a disabled one stays disabled and no other becomes so. -/
theorem sequencers_disciplined (srv : MockServer σ) (ops : List (MockOp σ))
    (hops : ∀ op ∈ ops, op.writesSequencers = false) :
    Disciplined srv.sequencers (srv.run ops).sequencers ∧
    (∀ scope byteBusId ctx, (srv.run ops).TickAdvances scope byteBusId ctx) ∧
    ∀ op : MockOp σ, op.writesSequencers = false → (∀ scope byteBusId ctx, op ≠ .tick scope byteBusId ctx) →
      ∀ s, ((srv.run ops).step op).sequencers.getState s = (srv.run ops).sequencers.getState s :=
  ⟨run_disciplined ops hops, tickAdvances (srv.run ops), fun _ hw ht => step_getState (srv.run ops) hw ht⟩

/-- A compound request moves sequencer 0 from state 1 to state 2. -/
theorem sequencers_disciplined_moved :
    ((new ()).run Tracked.tableInstalledLater).sequencers.getState 0 = some 1 ∧
    (((new ()).run Tracked.tableInstalledLater).run
      [.tick none 1 { endpointIdle := true }]).sequencers.getState 0 = some 2 ∧
    Disciplined ((new ()).run Tracked.tableInstalledLater).sequencers
      (((new ()).run Tracked.tableInstalledLater).run [.tick none 1 { endpointIdle := true }]).sequencers :=
  ⟨by decide +kernel, by decide +kernel,
    (sequencers_disciplined ((new ()).run Tracked.tableInstalledLater) [.tick none 1 { endpointIdle := true }]
      (by simp [MockOp.writesSequencers])).1⟩

end MockServer
end Rcp
