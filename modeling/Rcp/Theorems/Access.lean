import Rcp.Theorems.Provenance

/-! Sequencer access control over whole runs: whose requests can move a sequencer. -/

namespace Rcp

/-! ### Moving a sequencer -/

theorem SequencerTable.setState_getState {table : SequencerTable} {idx s : Nat} {state : UInt8}
    (h : (table.setState idx state).2.getState s ≠ table.getState s) : idx = s := by
  unfold setState at h
  split at h
  · exact absurd rfl h
  · by_contra hne
    exact h (by simp [getState, List.getElem?_set_ne hne])

theorem applyNextState_getState {table : SequencerTable} {step : CompoundStep} {s : Nat}
    (h : (applyNextState table step).2.getState s ≠ table.getState s) : step.sequencerIndex.toNat = s := by
  unfold applyNextState at h
  split at h
  · exact absurd rfl h
  · exact SequencerTable.setState_getState h

theorem compoundTick_getState {table : SequencerTable} {step : CompoundStep} {elapsed : UInt32} {s : Nat}
    (h : (compoundTick table step elapsed).2.getState s ≠ table.getState s) : step.sequencerIndex.toNat = s := by
  unfold compoundTick at h
  split at h
  · exact absurd rfl h
  split at h
  · exact absurd rfl h
  · exact applyNextState_getState h

theorem compoundWaitTick_getState {table : SequencerTable} {step : CompoundStep} {met : Bool} {s : Nat}
    (h : (compoundWaitTick table step met).2.getState s ≠ table.getState s) : step.sequencerIndex.toNat = s := by
  unfold compoundWaitTick at h
  split at h
  · exact absurd rfl h
  split at h
  · exact absurd rfl h
  · exact applyNextState_getState h

/-- A completion moves at most the sequencer of the compound request it completes. -/
theorem Endpoint.complete_getState {ep : Endpoint} {i : SlotIx} {ctx : TickCtx} {table : SequencerTable} {s : Nat}
    (hctx : ctx.sequencers = some table) (h : ((ep.complete i ctx).2.2.getD table).getState s ≠ table.getState s) :
    (ep.pending i).inUse = true ∧ ((ep.pending i).kind = .compound ∨ (ep.pending i).kind = .compoundWait) ∧
      (ep.pending i).compound.sequencerIndex.toNat = s := by
  unfold complete at h
  rw [dif_pos i.isLt] at h
  dsimp only [Fin.eta] at h
  cases hu : (ep.pending i).inUse with
  | false => simp [hu, hctx] at h
  | true =>
    simp only [hu, hctx, Bool.not_true, Bool.false_eq_true, if_false, Option.map_some] at h
    refine ⟨rfl, ?_⟩
    split at h
    · exact ⟨Or.inl ‹_›, compoundTick_getState h⟩
    · exact ⟨Or.inr ‹_›, compoundWaitTick_getState h⟩
    · exact absurd rfl h
    · exact absurd rfl h

namespace MockServer
variable {σ : Type} {srv : MockServer σ}

/-- The request a tick has executed when it moves a sequencer. -/
theorem tickScoped_getState {scope : Scope} {byteBusId : ByteBusId} {ctx : TickCtx} {s : Nat}
    (h : (srv.tickScoped scope byteBusId ctx).2.sequencers.getState s ≠ srv.sequencers.getState s) :
    ∃ e i response, srv.lookup scope byteBusId = some e ∧
      (srv.tickScoped scope byteBusId ctx).1 = some (i, response) ∧ (srv.slot e i).inUse = true ∧
      ((srv.slot e i).kind = .compound ∨ (srv.slot e i).kind = .compoundWait) ∧
      (srv.slot e i).compound.sequencerIndex.toNat = s := by
  rw [tickScoped_eq] at h ⊢
  cases he : srv.lookup scope byteBusId with
  | none =>
    rw [he] at h
    exact absurd rfl h
  | some e =>
    rw [he] at h
    dsimp only at h ⊢
    cases hr : (srv.tickSlot e byteBusId ctx).1 with
    | none => exact absurd (congrArg (fun table => table.getState s) (tickSlot_idle hr)) h
    | some r =>
      obtain ⟨i, response⟩ := r
      obtain ⟨-, -, hseq⟩ := tickSlot_executed hr
      obtain ⟨hu, hk, hs⟩ := Endpoint.complete_getState rfl fun heq =>
        h ((congrArg (fun table => table.getState s) hseq).trans heq)
      -- A cancellation leaves the slots it does not clear as the selection left them.
      have hexec : Endpoint.Keeps (srv.endpoints e).queue
          (executedQueue ((srv.endpoints e).queue.selectDue (srv.tickCtx ctx)).2 i byteBusId) := by
        refine .trans (.selectDue _ (srv.tickCtx ctx)) ?_
        unfold executedQueue
        split
        · exact .of_released (.applyCancellation _ _ _ _)
        · exact .refl _
      obtain ⟨hu', hkept⟩ := hexec i hu
      rw [hkept.kind] at hk
      rw [hkept.sequencerIndex] at hs
      exact ⟨e, i, response, rfl, rfl, hu', hk, hs⟩

/-- The access check reads nothing of a slot but its kind and its sequencer. -/
theorem sequencerAccess_continues {a b : Pending} (h : Pending.Continues a b) (streamId : UInt64) :
    srv.sequencerAccess b streamId = srv.sequencerAccess a streamId := by
  simp only [sequencerAccess, h.kind, h.sequencerIndex]

end MockServer

/-- The stream of the request owned sequencer `s` when the request was admitted. -/
def Admission.Owns {σ : Type} (a : Admission σ) (s : Nat) : Prop :=
  ∃ owner, a.server.sequencers.getOwner s = some owner ∧ owner ≠ SequencerTable.ownerUnclaimed ∧
    a.server.requestStreamCfg.resolveIndex a.call.env.streamId = owner

theorem SequencerTable.accessCheck_ok {table : SequencerTable} {idx : Nat} {requester : UInt8}
    (h : table.accessCheck idx requester = .ok) :
    ∃ owner, table.getOwner idx = some owner ∧ owner ≠ ownerUnclaimed ∧ requester = owner := by
  unfold accessCheck at h
  split at h
  · cases h
  · rename_i owner howner
    split at h
    · cases h
    · rename_i hclaimed
      split at h
      · exact ⟨owner, howner, hclaimed, ‹owner = requester›.symm⟩
      · cases h

namespace Tracked
variable {σ : Type} {t : Tracked σ}

/-- Every stored request has passed the access check at its admission, or was not answered PENDING. -/
def Accessed (t : Tracked σ) : Prop :=
  ∀ e i, t.InUse e i → ∃ a, t.origin e i = some a ∧
    (a.result = .pending → a.server.sequencerAccess (t.server.slot e i) a.call.env.streamId = .ok)

theorem Accessed.call (h : t.Accessed) (c : DispatchCall) (place : Option FramePlace) :
    Accessed { t with server := (t.server.call c).server, origin := t.noteOrigin c place } := by
  intro e i hu
  rcases t.noteOrigin_cases c place hu with ⟨hold, hslot, horigin⟩ | ⟨-, hfilled, horigin⟩
  · obtain ⟨a, ha, hacc⟩ := h e i hold
    exact ⟨a, horigin.trans ha, fun hr => by rw [hslot]; exact hacc hr⟩
  · refine ⟨_, horigin, fun hr => ?_⟩
    rcases hfilled.answer with ⟨-, hok⟩ | ⟨hrej, -⟩
    · exact hok
    · have : (t.server.call c).result = .pending := hr
      rw [hrej] at this
      cases this

theorem Accessed.continues {srv : MockServer σ} (h : t.Accessed)
    (hc : ∀ e i, (srv.slot e i).inUse = true → t.InUse e i ∧ Pending.Continues (t.server.slot e i) (srv.slot e i)) :
    Accessed { t with server := srv } := by
  intro e i hu
  obtain ⟨hold, hcont⟩ := hc e i hu
  obtain ⟨a, ha, hacc⟩ := h e i hold
  refine ⟨a, ha, fun hr => ?_⟩
  rw [MockServer.sequencerAccess_continues hcont]
  exact hacc hr

theorem accessed_invariant : Invariant (fun (t : Tracked σ) _ => t.Accessed) (fun _ => True) where
  keep srv clock h hk := h.continues fun e i hu => ⟨(hk e i hu).1, (hk e i hu).2.toContinues⟩
  call c h _ := h.call c none
  turn c out prevErrored h _ _ _ _ := by
    refine (h.call c _).continues fun e i hu => ?_
    obtain ⟨hin, hcont⟩ := MockServer.tagMember_slot (_ : MockServer σ) _ _ _ _ e i
    exact ⟨hin.symm.trans hu, hcont⟩
  skip _ _ h _ _ := h
  close h := h

/-- If the tick moves sequencer `s`, the request it executes is a compound one on `s`, and its admission is as
    `allowed` says. -/
def MovedBy (t : Tracked σ) (scope : Scope) (byteBusId : ByteBusId) (ctx : TickCtx) (s : Nat)
    (allowed : Admission σ → Prop) : Prop :=
  (t.server.tickScoped scope byteBusId ctx).2.sequencers.getState s ≠ t.server.sequencers.getState s →
    ∃ e i response a, t.server.lookup scope byteBusId = some e ∧
      (t.server.tickScoped scope byteBusId ctx).1 = some (i, response) ∧ t.InUse e i ∧
      ((t.server.slot e i).kind = .compound ∨ (t.server.slot e i).kind = .compoundWait) ∧
      (t.server.slot e i).compound.sequencerIndex.toNat = s ∧ t.origin e i = some a ∧ allowed a

/-- Only requests on `s` move sequencer `s`, and one that was answered PENDING only if its stream owned `s` when it
    was admitted, or if there was no sequencer table then. -/
theorem sequencer_moved_by_owner (world : σ) (ops : List (MockOp σ)) (scope : Scope) (byteBusId : ByteBusId)
    (ctx : TickCtx) (s : Nat) :
    ((new world).run ops).MovedBy scope byteBusId ctx s fun a =>
      a.result = .pending → a.server.sequencers.unsupported = true ∨ a.Owns s := by
  have hinit : (new world).Accessed := fun e i hu => absurd hu (new_free world e i)
  obtain ⟨hacc, -⟩ := accessed_invariant.run ops hinit fun _ _ => trivial
  generalize (new world).run ops = t at hacc ⊢
  intro hs
  obtain ⟨e, i, response, he, hr, hu, hk, hidx⟩ := MockServer.tickScoped_getState hs
  obtain ⟨a, ha, hok⟩ := hacc e i hu
  refine ⟨e, i, response, a, he, hr, hu, hk, hidx, ha, fun hp => ?_⟩
  have hchecked := hok hp
  unfold MockServer.sequencerAccess at hchecked
  split at hchecked
  · exact Or.inl ‹_›
  right
  have hnot : ¬((t.server.slot e i).kind ≠ .compound ∧ (t.server.slot e i).kind ≠ .compoundWait) := by
    rintro ⟨hc, hw⟩
    exact hk.elim hc hw
  rw [if_neg hnot, hidx] at hchecked
  exact SequencerTable.accessCheck_ok hchecked

/-- A compound request that moves sequencer 0 from state 1 to state 2. -/
def compoundMove : Octets := [0x1A, 0x04, 0x00, 0x01, 0x00, 0x07, 0x80, 0x00, 0x0F, 1, 2, 0, 0, 0, 0, 0]

/-- The request is stored while there is no sequencer table, which is installed afterwards. -/
def tableInstalledLater : List (MockOp Unit) :=
  MockServer.bringUp ++
    [.call (.dispatch (MockServer.bus1 Acf.msgTypeGbb) compoundMove), .setSequencerCount 1]

/-- Its stream owns nothing, and it moves sequencer 0. -/
theorem tableInstalledLater_moved :
    ¬∀ (ops : List (MockOp Unit)) (scope : Scope) (byteBusId : ByteBusId) (ctx : TickCtx) (s : Nat),
      ((new ()).run ops).MovedBy scope byteBusId ctx s fun a => a.Owns s := by
  intro h
  obtain ⟨e, i, response, a, he, hr, -, -, -, ha, owner, howner, -⟩ :=
    h tableInstalledLater none 1 { endpointIdle := true } 0 (by decide +kernel)
  have hlookup : ((new ()).run tableInstalledLater).server.lookup none 1 = some 0 := by decide +kernel
  have htick : (((new ()).run tableInstalledLater).server.tickScoped none 1 { endpointIdle := true }).1 =
      some (0, none) := by decide +kernel
  have horigin : (((new ()).run tableInstalledLater).origin 0 0).map (fun a => a.server.sequencers.getOwner 0) =
      some none := by decide +kernel
  obtain rfl := Option.some.inj (he.symm.trans hlookup)
  obtain ⟨rfl, -⟩ := Prod.mk.inj (Option.some.inj (hr.symm.trans htick))
  rw [ha, Option.map_some, howner] at horigin
  cases Option.some.inj horigin

end Tracked
end Rcp
