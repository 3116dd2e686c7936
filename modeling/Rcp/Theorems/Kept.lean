import Rcp.MockRun
import Rcp.Theorems.Dispatch

/-! What the calls of a run leave of a stored request: only a dispatch fills a slot, and what every other call
    leaves in a slot is the request that was there. -/

namespace Rcp

namespace Pending

/-- `b` is a later state of the request in `a`. A chained request keeps the timer origin 0. -/
structure Continues (a b : Pending) : Prop where
  kind : b.kind = a.kind
  sequencerIndex : b.compound.sequencerIndex = a.compound.sequencerIndex
  chainExecDelay : b.chainExecDelay = a.chainExecDelay
  armedAt : a.kind = .chained → a.armedAt = 0 → b.armedAt = 0

/-- ... with the same place in the same chain. -/
structure Kept (a b : Pending) : Prop extends Continues a b where
  chainGroup : b.chainGroup = a.chainGroup
  chainPosition : b.chainPosition = a.chainPosition

variable {a b c : Pending}

theorem Kept.refl (a : Pending) : Kept a a := ⟨⟨rfl, rfl, rfl, fun _ h => h⟩, rfl, rfl⟩

theorem Continues.trans (h : Continues a b) (h' : Continues b c) : Continues a c where
  kind := h'.kind.trans h.kind
  sequencerIndex := h'.sequencerIndex.trans h.sequencerIndex
  chainExecDelay := h'.chainExecDelay.trans h.chainExecDelay
  armedAt hk h0 := h'.armedAt (h.kind.trans hk) (h.armedAt hk h0)

theorem Kept.trans (h : Kept a b) (h' : Kept b c) : Kept a c :=
  ⟨h.toContinues.trans h'.toContinues, h'.chainGroup.trans h.chainGroup, h'.chainPosition.trans h.chainPosition⟩

theorem swept_kept (slot : Pending) (epEnable : Bool) (ctx : TickCtx) : Kept slot (slot.swept epEnable ctx) := by
  unfold swept
  split
  · rcases isDue_slot_cases slot epEnable ctx with h | ⟨-, -, -, h⟩
    · rw [h]
      exact .refl slot
    · rw [h]
      refine ⟨⟨rfl, rfl, rfl, fun hk h0 => ?_⟩, rfl, rfl⟩
      simp [arm, hk, h0]
  · exact .refl slot

theorem notified_kept (slot : Pending) (sourceEp signalNr : UInt8) : Kept slot (slot.notified sourceEp signalNr) := by
  unfold notified
  split
  · exact ⟨⟨rfl, rfl, rfl, fun _ h => h⟩, rfl, rfl⟩
  · exact .refl slot

theorem predecessorFinished_continues (slot : Pending) : Continues slot (slot.predecessorFinished 0) := by
  unfold predecessorFinished
  split
  · exact ⟨rfl, rfl, rfl, fun _ _ => rfl⟩
  · exact (Kept.refl slot).toContinues

theorem setRepeatCount_kept (slot : Pending) (n : UInt16) : Kept slot (slot.setRepeatCount n) := by
  unfold setRepeatCount
  split <;> exact ⟨⟨rfl, rfl, rfl, fun _ h => h⟩, rfl, rfl⟩

theorem rearm_kept {slot : Pending} (now : UInt32) (hk : slot.kind ≠ .chained) : Kept slot (slot.rearm now) :=
  ⟨⟨rfl, rfl, rfl, fun h => absurd h hk⟩, rfl, rfl⟩

/-- The slot `tagLastPending` leaves where it finds `slot` last. -/
def tagged (slot : Pending) (chainGroup : UInt32) (chainPosition : Nat) : Pending :=
  { slot.predecessorFinished 0 with chainGroup := chainGroup, chainPosition := UInt8.ofNat chainPosition }

theorem tagged_continues (slot : Pending) (chainGroup : UInt32) (chainPosition : Nat) :
    Continues slot (slot.tagged chainGroup chainPosition) := by
  have h := predecessorFinished_continues slot
  exact ⟨h.kind, h.sequencerIndex, h.chainExecDelay, h.armedAt⟩

theorem tagged_inUse (slot : Pending) (chainGroup : UInt32) (chainPosition : Nat) :
    (slot.tagged chainGroup chainPosition).inUse = slot.inUse :=
  (predecessorFinished_sameRequest slot 0).inUse

/-- A request that is completed and stays is not chained. -/
theorem completed_kept {slot : Pending} {now : UInt32} (h : (slot.completed now).inUse = true) :
    Kept slot (slot.completed now) := by
  unfold completed at *
  cases hn : slot.repeatCount? with
  | none =>
    rw [hn] at h
    cases h
  | some n =>
    have hk : slot.kind ≠ .chained := by
      intro hk
      simp [repeatCount?, hk] at hn
    rw [hn] at h
    dsimp only at h ⊢
    split
    · exact rearm_kept now hk
    split
    · simp_all
    · have hset := setRepeatCount_kept slot (n - 1)
      exact hset.trans (rearm_kept now (by rwa [hset.kind]))

end Pending

/-- Every request in the store of `ep'` was in the store of `ep`, in the same slot. -/
def Endpoint.Keeps (ep ep' : Endpoint) : Prop :=
  ∀ i, (ep'.pending i).inUse = true → (ep.pending i).inUse = true ∧ Pending.Kept (ep.pending i) (ep'.pending i)

namespace Endpoint.Keeps
variable {ep ep' ep'' : Endpoint}

theorem of_eq (h : ep'.pending = ep.pending) : Keeps ep ep' := by
  intro i hu
  rw [h] at hu ⊢
  exact ⟨hu, .refl _⟩

theorem refl (ep : Endpoint) : Keeps ep ep := of_eq rfl

theorem trans (h : Keeps ep ep') (h' : Keeps ep' ep'') : Keeps ep ep'' := by
  intro i hu
  obtain ⟨hu', hk'⟩ := h' i hu
  obtain ⟨hu'', hk⟩ := h i hu'
  exact ⟨hu'', hk.trans hk'⟩

theorem of_empty (h : ∀ i, (ep'.pending i).inUse = false) : Keeps ep ep' := by
  intro i hu
  rw [h i] at hu
  cases hu

theorem of_released (h : Endpoint.Released ep ep') : Keeps ep ep' := by
  intro i hu
  have heq := h.inUse hu
  rw [heq] at hu
  rw [heq]
  exact ⟨hu, .refl _⟩

theorem selectDue (ep : Endpoint) (ctx : TickCtx) : Keeps ep (ep.selectDue ctx).2 := by
  intro i hu
  rw [selectDue_endpoint, withPending_pending] at hu ⊢
  exact ⟨(Pending.swept_sameRequest _ _ _).inUse.symm.trans hu, Pending.swept_kept _ _ _⟩

theorem notifyTrigger (ep : Endpoint) (sourceEp signalNr : UInt8) : Keeps ep (ep.notifyTrigger sourceEp signalNr).2 := by
  intro i hu
  rw [notifyTrigger_endpoint, withPending_pending] at hu ⊢
  exact ⟨(Pending.notified_sameRequest _ _ _).inUse.symm.trans hu, Pending.notified_kept _ _ _⟩

theorem complete (ep : Endpoint) (i : SlotIx) (ctx : TickCtx) : Keeps ep (ep.complete i ctx).2.1 := by
  intro j hu
  by_cases hj : j = i
  · subst hj
    cases hused : (ep.pending j).inUse with
    | false =>
      rw [complete_of_free ctx (fun k hk => by rwa [Fin.ext hk])] at hu
      rw [hused] at hu
      cases hu
    | true =>
      rw [complete_endpoint ctx hused] at hu ⊢
      by_cases hstays : ((ep.pending j).completed ctx.now).inUse = true
      · rw [if_pos hstays] at hu ⊢
        rw [setSlot_pending, Function.update_self]
        exact ⟨rfl, Pending.completed_kept hstays⟩
      · rw [if_neg hstays, releaseSlot_pending, Function.update_self] at hu
        cases hu
  · have hval : j.val ≠ i.val := fun h => hj (Fin.ext h)
    rw [complete_other ctx hval] at hu ⊢
    exact ⟨hu, .refl _⟩

end Endpoint.Keeps

theorem Endpoint.init_free (epEnable : Bool) (i : SlotIx) : ((init epEnable).pending i).inUse = false := rfl

/-- The calls that can fill a slot. -/
def MockOp.dispatches {σ : Type} : MockOp σ → Bool
  | .call _ | .dispatchFrame .. => true
  | _ => false

namespace MockServer
variable {σ : Type} {srv srv' srv'' : MockServer σ}

/-- Every stored request of `srv'` was stored in `srv`, in the same slot of the same endpoint. -/
def Keeps (srv srv' : MockServer σ) : Prop := ∀ e, Endpoint.Keeps (srv.endpoints e).queue (srv'.endpoints e).queue

/-- Both ticks are one body after the lookup. -/
theorem tickScoped_eq (srv : MockServer σ) (scope : Scope) (byteBusId : ByteBusId) (ctx : TickCtx) :
    srv.tickScoped scope byteBusId ctx =
      match srv.lookup scope byteBusId with
      | none => (none, srv)
      | some e => srv.tickSlot e byteBusId ctx := by
  cases scope <;> rfl

namespace Keeps

theorem of_eq (h : srv'.endpoints = srv.endpoints) : Keeps srv srv' := by
  intro e
  rw [h]
  exact .refl _

theorem refl (srv : MockServer σ) : Keeps srv srv := of_eq rfl

theorem trans (h : Keeps srv srv') (h' : Keeps srv' srv'') : Keeps srv srv'' := fun e => (h e).trans (h' e)

theorem of_purges (h : Purges srv srv') : Keeps srv srv' := fun e => .of_released (h.released e)

theorem setEndpoint {e : EndpointIx} {slot : MockEndpoint σ} (h : Endpoint.Keeps (srv.endpoints e).queue slot.queue) :
    Keeps srv (srv.setEndpoint e slot) := by
  intro e'
  by_cases he : e' = e
  · subst he
    simpa [MockServer.setEndpoint] using h
  · simpa [MockServer.setEndpoint, he] using Endpoint.Keeps.refl _

theorem onSlot (found : Option EndpointIx) {f : MockEndpoint σ → MockEndpoint σ}
    (hf : ∀ slot, Endpoint.Keeps slot.queue (f slot).queue) : Keeps srv (srv.onSlot found f).2 := by
  cases found with
  | none => exact .refl srv
  | some e => exact setEndpoint (hf _)

theorem addSlot {slot : MockEndpoint σ} (hslot : ∀ i, (slot.queue.pending i).inUse = false) :
    Keeps srv (srv.orElse (srv.addSlot slot)) := by
  unfold MockServer.addSlot
  split
  · exact .refl srv
  split
  · exact .refl srv
  · exact setEndpoint (.of_empty hslot)

theorem tickSlot (srv : MockServer σ) (e : EndpointIx) (byteBusId : ByteBusId) (ctx : TickCtx) :
    Keeps srv (srv.tickSlot e byteBusId ctx).2 := by
  have hsel := Endpoint.Keeps.selectDue (srv.endpoints e).queue { ctx with sequencers := some srv.sequencers }
  unfold MockServer.tickSlot
  dsimp only
  split
  · rename_i queue hdue
    rw [hdue] at hsel
    exact setEndpoint hsel
  · rename_i index queue hdue
    rw [hdue] at hsel
    have hset : Keeps srv (srv.setQueue e queue) := setEndpoint hsel
    have hdone : ∀ srv' : MockServer σ,
        Keeps srv' (srv'.setQueue e ((srv'.endpoints e).queue.complete index
          { ctx with sequencers := some srv.sequencers }).2.1) :=
      fun srv' => setEndpoint (.complete _ _ _)
    split
    · have hcancel : Endpoint.Released ((srv.setQueue e queue).endpoints e).queue
          (applyCancellation queue (queue.pending index).requestType (queue.pending index).frame byteBusId).2 := by
        rw [setQueue_self]
        exact .applyCancellation _ _ _ _
      exact (hset.trans (of_purges (Purges.setQueue hcancel))).trans (hdone _)
    · exact (hset.trans (of_purges (Purges.runHandler _ e _))).trans (hdone _)

theorem tickScoped (srv : MockServer σ) (scope : Scope) (byteBusId : ByteBusId) (ctx : TickCtx) :
    Keeps srv (srv.tickScoped scope byteBusId ctx).2 := by
  rw [tickScoped_eq]
  cases srv.lookup scope byteBusId with
  | none => exact refl srv
  | some e => exact tickSlot srv e byteBusId ctx

theorem drainEndpoint (srv : MockServer σ) (found : Option EndpointIx) : Keeps srv (srv.drainEndpoint found).2 := by
  cases found with
  | none => exact refl srv
  | some e =>
    obtain ⟨queue, hqueue⟩ := Endpoint.drainOne_endpoint (srv.endpoints e).queue
    have hset : Keeps srv (srv.setQueue e (srv.endpoints e).queue.drainOne.2) := setEndpoint (.of_eq (by rw [hqueue]))
    simp only [MockServer.drainEndpoint]
    split
    · rename_i hdrain
      rw [hdrain] at hset
      exact hset
    · rename_i hdrain
      rw [hdrain] at hset
      exact hset.trans (of_purges (Purges.runHandler _ _ _))

theorem frameSeqGateAdmits (srv : MockServer σ) (streamId : UInt64) (sequenceNum : UInt8) :
    Keeps srv (srv.frameSeqGateAdmits streamId sequenceNum).2 := by
  unfold MockServer.frameSeqGateAdmits
  split
  · exact refl srv
  dsimp only
  split
  · refine trans ?_ (of_purges (.broadcastSafeState _ _))
    exact of_eq rfl
  · exact of_eq rfl

theorem addEndpoint (srv : MockServer σ) (byteBusId : ByteBusId) (epEnable : Bool) (handler : Option (Handler σ)) :
    Keeps srv (srv.orElse (srv.addEndpoint byteBusId epEnable handler)) := by
  unfold MockServer.addEndpoint
  split
  · exact .refl srv
  · exact addSlot (Endpoint.init_free epEnable)

theorem addEndpointMultiResponse (srv : MockServer σ) (byteBusId : ByteBusId) (epEnable : Bool)
    (handler : MultiHandler σ) : Keeps srv (srv.orElse (srv.addEndpointMultiResponse byteBusId epEnable handler)) := by
  have hadd := addEndpoint srv byteBusId epEnable none
  unfold MockServer.addEndpointMultiResponse
  cases hok : srv.addEndpoint byteBusId epEnable none with
  | error error => exact refl srv
  | ok srv' =>
    rw [hok] at hadd
    cases hfind : srv'.findSlot byteBusId with
    | none =>
      simp only [hfind]
      exact refl srv
    | some e =>
      simp only [hfind]
      exact hadd.trans (setEndpoint (.refl _))

theorem notifyTrigger (srv : MockServer σ) (sourceEp signalNr : UInt8) :
    Keeps srv (srv.notifyTrigger sourceEp signalNr).2 := by
  intro e
  simp only [MockServer.notifyTrigger]
  split
  · exact .notifyTrigger _ _ _
  · exact .refl _

end Keeps

/-- A call that is no dispatch fills no slot. -/
theorem step_keeps (srv : MockServer σ) {op : MockOp σ} (hop : op.dispatches = false) : Keeps srv (srv.step op) := by
  have hlift : ∀ {slot : MockEndpoint σ} {queue : Endpoint}, queue.pending = slot.queue.pending →
      Endpoint.Keeps slot.queue queue := fun h => .of_eq h
  cases op with
  | call | dispatchFrame => cases hop
  | dispatchMultiResponse env request outCap =>
    simp only [step, dispatchMultiResponse]
    split
    · exact .refl srv
    · exact .refl srv
    split
    · exact .refl srv
    split
    · exact .refl srv
    · exact .of_eq rfl
  | tick scope byteBusId ctx => exact .tickScoped srv scope byteBusId ctx
  | drainEndpoint scope byteBusId => exact .drainEndpoint srv (srv.lookup scope byteBusId)
  | notifyTrigger sourceEp signalNr => exact .notifyTrigger srv sourceEp signalNr
  | notifyGptpLockState locked sourceEp =>
    simp only [step, notifyGptpLockState]
    split
    · exact .of_eq rfl
    · exact Keeps.trans (.of_eq rfl) (.notifyTrigger _ _ _)
  | watchdogPurge scope byteBusId => exact .of_purges (.watchdogPurge _ _)
  | broadcastSafeState requestStreamIndex => exact .of_purges (.broadcastSafeState _ _)
  | checkWatchdog requestStreamIndex elapsed =>
    simp only [step, checkWatchdog]
    split
    · split
      · exact .refl srv
      dsimp only
      split
      · refine Keeps.trans ?_ (.of_purges (.broadcastSafeState _ _))
        exact .of_eq rfl
      · exact .of_eq rfl
    · exact .refl srv
  | addEndpoint byteBusId epEnable handler => exact .addEndpoint srv byteBusId epEnable handler
  | addEndpointOnStream streamId byteBusId epEnable handler =>
    simp only [step, addEndpointOnStream]
    split
    · exact .refl srv
    · exact .addSlot (Endpoint.init_free epEnable)
  | addEndpointMultiResponse byteBusId epEnable handler => exact .addEndpointMultiResponse srv byteBusId epEnable handler
  | removeEndpoint scope byteBusId =>
    simp only [step, removeEndpoint]
    split
    · exact .refl srv
    · exact .setEndpoint (.of_empty fun _ => rfl)
  | setEndpointEnable => exact .onSlot _ fun _ => hlift rfl
  | setEndpointReqCrcEnable => exact .onSlot _ fun _ => .refl _
  | setEndpointRxEnforceE2e => exact .onSlot _ fun _ => .refl _
  | stashDeferredResponse => exact .onSlot _ fun _ => .refl _
  | takeDeferredResponse scope byteBusId =>
    simp only [step, takeDeferredResponse]
    split
    · exact .refl srv
    · exact .setEndpoint (.refl _)
  | transition target snap writer allOtherEpsIdle =>
    simp only [step, transition]
    split
    · exact .refl srv
    · exact .of_eq rfl
  | pwrmodeResume =>
    intro e
    simp only [step, pwrmodeResume]
    split
    · exact hlift rfl
    · exact .refl _
  | setEpIdMap entries =>
    simp only [step, setEpIdMap]
    split
    · exact .refl srv
    · exact .of_eq rfl
  | setRequestStreamCfg | setSequencerCount | setSequencerOwner | setTscfUnsupportedTimeSyncPolicy
  | setStreamFaultTracker => exact .of_eq rfl

/-! ### Filling a slot -/

/-- Call `c`, answered with `result`, has filled slot `i` of endpoint `e`. A rejected request can only stay in it
    by mistake, where the un-admission has taken another one out. -/
structure Filled (srv : MockServer σ) (c : DispatchCall) (result : DispatchResult) (e : EndpointIx) (i : SlotIx)
    (slot : Pending) : Prop where
  found : srv.findSlotOnStream c.env.streamId c.env.byteBusId = some e
  free : (srv.endpoints e).queue.firstFree = some i
  fresh : ∃ request, (∀ r, srv.delivered c = some r → request = r) ∧ Fresh (srv.endpoints e).queue request 0 slot
  answer : result = .pending ∧ srv.sequencerAccess slot c.env.streamId = .ok ∨
    result = .rejected ∧ slot.kind ≠ .chained

theorem released_storeAt_cases {ep ep' : Endpoint} {i j : SlotIx} {slot : Pending}
    (h : Endpoint.Released (ep.storeAt i slot) ep') (hi : ep.firstFree = some i) (hu : (ep'.pending j).inUse = true) :
    (ep.pending j).inUse = true ∧ ep'.pending j = ep.pending j ∨
      (ep.pending j).inUse = false ∧ j = i ∧ ep'.pending j = slot := by
  have heq := h.inUse hu
  rw [Endpoint.storeAt_pending] at heq
  by_cases hj : j = i
  · subst hj
    rw [Function.update_self] at heq
    exact Or.inr ⟨Endpoint.firstFree_free hi, rfl, heq⟩
  · rw [Function.update_of_ne hj] at heq
    exact Or.inl ⟨by rw [← heq, hu], heq⟩

/-- A slot in use after a dispatch was in use before and is unchanged, or the dispatch has filled it. -/
theorem call_slot (srv : MockServer σ) (c : DispatchCall) (e : EndpointIx) (i : SlotIx)
    (hu : ((srv.call c).server.slot e i).inUse = true) :
    (srv.slot e i).inUse = true ∧ (srv.call c).server.slot e i = srv.slot e i ∨
      (srv.slot e i).inUse = false ∧
        Filled srv c (srv.call c).result e i ((srv.call c).server.slot e i) := by
  obtain ⟨request, hreq, heffect⟩ := call_effect srv c
  have hpurge : ∀ {srv' : MockServer σ}, Purges srv srv' → (srv'.slot e i).inUse = true →
      (srv.slot e i).inUse = true ∧ srv'.slot e i = srv.slot e i := by
    intro srv' hp hu
    have heq : srv'.slot e i = srv.slot e i := (hp.released e).inUse hu
    exact ⟨by rw [← heq, hu], heq⟩
  generalize (srv.call c).result = result at heffect ⊢
  generalize (srv.call c).server = srv' at heffect hu ⊢
  cases heffect with
  | other hr hp => exact Or.inl (hpurge hp hu)
  | @admitted e' env hfind henv h =>
    cases h with
    | other hr hp => exact Or.inl (hpurge hp hu)
    | cancelled hpeek hs => exact Or.inl (hpurge (hs.purges (.applyCancellation _ _ _ _)) hu)
    | @stored _ k slot hk hf hs hn =>
      by_cases he : e = e'
      · subst he
        rw [hs.slot_self] at hu ⊢
        rcases released_storeAt_cases (.refl _) hk hu with h | ⟨hfree, rfl, heq⟩
        · exact Or.inl h
        · rw [heq]
          have hacc : srv.sequencerAccess slot c.env.streamId = .ok := by
            rw [← henv.1]
            by_contra hacc
            exact hn (Or.inr hacc)
          exact Or.inr ⟨hfree, ⟨hfind, hk, ⟨request, hreq, hf⟩, Or.inl ⟨rfl, hacc⟩⟩⟩
      · rw [hs.slot_other he] at hu ⊢
        exact Or.inl ⟨hu, rfl⟩
    | @unadmitted _ k slot hk hf hkind hs hn =>
      by_cases he : e = e'
      · subst he
        rw [hs.slot_self] at hu ⊢
        rcases released_storeAt_cases (.cancelSingle _ _ _) hk hu with h | ⟨hfree, rfl, heq⟩
        · exact Or.inl h
        · rw [heq]
          have hchained : slot.kind ≠ .chained := by rcases hkind with h | h | h <;> simp [h]
          exact Or.inr ⟨hfree, ⟨hfind, hk, ⟨request, hreq, hf⟩, Or.inr ⟨rfl, hchained⟩⟩⟩
      · rw [hs.slot_other he] at hu ⊢
        exact Or.inl ⟨hu, rfl⟩

/-- A dispatch that answers PENDING has filled the first free slot of the endpoint it found. -/
theorem call_pending {c : DispatchCall} (h : (srv.call c).result = .pending) :
    ∃ e i slot request, srv.findSlotOnStream c.env.streamId c.env.byteBusId = some e ∧
      (srv.endpoints e).queue.firstFree = some i ∧ Fresh (srv.endpoints e).queue request 0 slot ∧
      QueueSet srv e ((srv.endpoints e).queue.storeAt i slot) (srv.call c).server := by
  obtain ⟨request, -, heffect⟩ := call_effect srv c
  generalize (srv.call c).server = srv' at heffect ⊢
  generalize (srv.call c).result = result at heffect h
  subst h
  cases heffect with
  | other hr hp => simp at hr
  | @admitted e env hfind henv h =>
    cases h with
    | stored hi hf hs hn => exact ⟨e, _, _, request, hfind, hi, hf, hs⟩
    | other hr hp => rcases hr with h | h | h <;> cases h

/-- A dispatch that answers CANCELLED has applied the cancellation to the endpoint it found. -/
theorem call_cancelled {c : DispatchCall} (h : (srv.call c).result = .cancelled) :
    ∃ e requestType request, srv.findSlotOnStream c.env.streamId c.env.byteBusId = some e ∧
      (∀ r, srv.delivered c = some r → request = r) ∧ compoundPeekRequestType request = .ok requestType ∧
      QueueSet srv e (applyCancellation (srv.endpoints e).queue requestType request c.env.byteBusId).2
        (srv.call c).server := by
  obtain ⟨request, hreq, heffect⟩ := call_effect srv c
  generalize (srv.call c).server = srv' at heffect ⊢
  generalize (srv.call c).result = result at heffect h
  subst h
  cases heffect with
  | other hr hp => simp at hr
  | @admitted e env hfind henv h =>
    cases h with
    | cancelled hpeek hs =>
      rw [henv.2] at hs
      exact ⟨e, _, request, hfind, hreq, hpeek, hs⟩
    | other hr hp => rcases hr with h | h | h <;> cases h

/-! ### Tagging the slot just filled -/

/-- The search keeps the slot with the highest sequence number once it has found it. -/
theorem foldl_lastPendingStep {queue : Endpoint} {i : SlotIx} (hu : (queue.pending i).inUse = true)
    (hmax : ∀ j ≠ i, (queue.pending j).inUse = true → (queue.pending j).sequence < (queue.pending i).sequence)
    (js : List SlotIx) : ∀ best : Option SlotIx, (∀ b, best = some b → (queue.pending b).inUse = true) →
      i ∈ js ∨ best = some i → js.foldl (lastPendingStep queue) best = some i := by
  induction js with
  | nil =>
    intro best _ hi
    simpa using hi
  | cons j js ih =>
    intro best hbest hi
    rw [List.foldl_cons]
    by_cases hj : j = i
    · subst hj
      -- Whatever has been found so far, slot `j` is not below it.
      have hstep : lastPendingStep queue best j = some j := by
        unfold lastPendingStep
        rw [if_neg (by simp [hu])]
        cases best with
        | none => rfl
        | some b =>
          have hge : (queue.pending j).sequence ≥ (queue.pending b).sequence := by
            by_cases hb : b = j
            · rw [hb]
              exact UInt64.le_refl _
            · exact UInt64.le_of_lt (hmax b hb (hbest b rfl))
          simp [hge]
      rw [hstep]
      exact ih (some j) (fun b hb => by rw [← Option.some.inj hb, hu]) (Or.inr rfl)
    · have hstep : ∀ b, lastPendingStep queue best j = some b → (queue.pending b).inUse = true := by
        intro b hb
        unfold lastPendingStep at hb
        split at hb
        · exact hbest b hb
        rename_i hused
        cases best with
        | none => simp_all
        | some b' =>
          dsimp only at hb
          split at hb
          · simp_all
          · exact hbest b hb
      refine ih _ hstep ?_
      rcases hi with hi | hi
      · exact Or.inl (by simpa [Ne.symm hj] using hi)
      · right
        unfold lastPendingStep
        split
        · exact hi
        · rename_i hused
          have hlt := hmax j hj (by simpa using hused)
          have hnot : ¬(queue.pending j).sequence ≥ (queue.pending i).sequence := by
            rw [ge_iff_le, UInt64.not_le]
            exact hlt
          simp [hi, hnot]

/-- While no sequence number has wrapped, `last_pending_index` is the slot just filled. -/
theorem lastPendingIndex_storeAt {ep : Endpoint} {i : SlotIx} {slot : Pending} (hu : slot.inUse = true)
    (hseq : slot.sequence = ep.nextSequence)
    (hlow : ∀ j, (ep.pending j).inUse = true → (ep.pending j).sequence < ep.nextSequence) :
    lastPendingIndex (ep.storeAt i slot) = some i := by
  refine foldl_lastPendingStep (by simpa using hu) ?_ _ none (by simp) (Or.inl (List.mem_finRange i))
  intro j hj hused
  simp only [Endpoint.storeAt_pending, Function.update_self, Function.update_of_ne hj] at hused ⊢
  rw [hseq]
  exact hlow j hused

theorem tagLastPending_pending (queue : Endpoint) (chainGroup : UInt32) (chainPosition : Nat) (i : SlotIx) :
    (tagLastPending queue chainGroup chainPosition).pending i =
      if lastPendingIndex queue = some i then (queue.pending i).tagged chainGroup chainPosition
      else queue.pending i := by
  unfold tagLastPending
  cases lastPendingIndex queue with
  | none => simp
  | some last =>
    simp only [Endpoint.chainPredecessorDone_endpoint, Option.some.injEq]
    by_cases hi : last = i
    · subst hi
      simp [Pending.tagged]
    · have hval : i.val ≠ last.val := fun h => hi (Fin.ext h).symm
      simp [hi, hval, Function.update_of_ne (Ne.symm hi)]

/-- Tagging never changes which slots are in use, nor the requests in them. -/
theorem tagMember_slot (srv : MockServer σ) (streamId : UInt64) (byteBusId : ByteBusId) (l : FrameLoop)
    (result : DispatchResult) (e : EndpointIx) (i : SlotIx) :
    ((srv.tagMember streamId byteBusId l result).slot e i).inUse = (srv.slot e i).inUse ∧
      Pending.Continues (srv.slot e i) ((srv.tagMember streamId byteBusId l result).slot e i) := by
  have hrefl : ∀ slot : Pending, slot.inUse = slot.inUse ∧ Pending.Continues slot slot :=
    fun slot => ⟨rfl, (Pending.Kept.refl slot).toContinues⟩
  unfold tagMember
  split
  · split
    · exact hrefl _
    · rename_i e' _
      by_cases he : e = e'
      · subst he
        rw [slot, setQueue_self, tagLastPending_pending, slot]
        split
        · exact ⟨Pending.tagged_inUse _ _ _, Pending.tagged_continues _ _ _⟩
        · exact hrefl _
      · rw [slot, setQueue_other _ he, slot]
        exact hrefl _
  · exact hrefl _

/-! ### What a tick executes -/

section Ticks
variable {e : EndpointIx} {byteBusId : ByteBusId} {ctx : TickCtx} {i : SlotIx} {response : Option Octets}

/-- The context a tick works with: the sequencers are the server's. -/
def tickCtx (srv : MockServer σ) (ctx : TickCtx) : TickCtx := { ctx with sequencers := some srv.sequencers }

/-- The store between the execution of slot `i` and its completion; only a cancellation changes it. -/
def executedQueue (queue : Endpoint) (i : SlotIx) (byteBusId : ByteBusId) : Endpoint :=
  if (queue.pending i).kind = .cancellation then
    (applyCancellation queue (queue.pending i).requestType (queue.pending i).frame byteBusId).2
  else queue

theorem setQueue_endpoints_congr (h : srv'.endpoints = srv.endpoints) (queue : Endpoint) :
    (srv'.setQueue e queue).endpoints = (srv.setQueue e queue).endpoints := by
  simp only [setQueue, setEndpoint, h]

theorem tickSlot_idle (h : (srv.tickSlot e byteBusId ctx).1 = none) :
    (srv.tickSlot e byteBusId ctx).2.sequencers = srv.sequencers := by
  unfold tickSlot at *
  dsimp only at *
  split at h
  · rfl
  · cases h

/-- A tick that executes a slot selects a due one, executes it and completes it. -/
theorem tickSlot_executed (h : (srv.tickSlot e byteBusId ctx).1 = some (i, response)) :
    ((srv.endpoints e).queue.selectDue (srv.tickCtx ctx)).1 = some i ∧
    (srv.tickSlot e byteBusId ctx).2.endpoints =
      (srv.setQueue e ((executedQueue ((srv.endpoints e).queue.selectDue (srv.tickCtx ctx)).2 i byteBusId).complete i
        (srv.tickCtx ctx)).2.1).endpoints ∧
    (srv.tickSlot e byteBusId ctx).2.sequencers =
      ((executedQueue ((srv.endpoints e).queue.selectDue (srv.tickCtx ctx)).2 i byteBusId).complete i
        (srv.tickCtx ctx)).2.2.getD srv.sequencers := by
  unfold tickSlot at *
  rw [← tickCtx] at *
  rcases hsel : (srv.endpoints e).queue.selectDue (srv.tickCtx ctx) with ⟨_ | index, queue⟩
  · simp only [hsel] at h
    cases h
  simp only [hsel, executedQueue] at h ⊢
  by_cases hk : (queue.pending index).kind = .cancellation
  · simp only [if_pos hk] at h ⊢
    obtain ⟨rfl, -⟩ := Prod.mk.inj (Option.some.inj h)
    simp [hk]
  · have hrun : ∀ request, ((srv.setQueue e queue).runHandler e request).2.endpoints = (srv.setQueue e queue).endpoints ∧
        ((srv.setQueue e queue).runHandler e request).2.sequencers = srv.sequencers := by
      intro request
      unfold runHandler
      split <;> exact ⟨rfl, rfl⟩
    simp only [if_neg hk] at h ⊢
    obtain ⟨rfl, -⟩ := Prod.mk.inj (Option.some.inj h)
    obtain ⟨hend, hseq⟩ := hrun (queue.pending index).frame
    have hqueue : (((srv.setQueue e queue).runHandler e (queue.pending index).frame).2.endpoints e).queue = queue := by
      rw [hend, setQueue_self]
    refine ⟨rfl, ?_, ?_⟩
    · rw [setQueue_endpoints_congr hend, setQueue_setQueue, hqueue, if_neg hk]
    · rw [hseq, hqueue, if_neg hk]

end Ticks

end MockServer
end Rcp
