import Rcp.Theorems.Kept

/-! The server uses its request stores only through the calls of `server.h`, and through the chain coordinates
    it writes into a slot itself: every store of a reachable server is a store some run of these leads to. -/

namespace Rcp

/-- A call of `server.h`, or the chain coordinates `mock.c` writes into a slot itself. -/
inductive StoreOp where
  | call (op : EndpointOp)
  | tag (i : SlotIx) (chainGroup : UInt32) (chainPosition : UInt8)

namespace Endpoint
variable {ep : Endpoint}

def storeStep (ep : Endpoint) : StoreOp → Endpoint
  | .call op => ep.step op
  | .tag i chainGroup chainPosition =>
    ep.setSlot i { ep.pending i with chainGroup := chainGroup, chainPosition := chainPosition }

def storeRun (ep : Endpoint) (ops : List StoreOp) : Endpoint := ops.foldl storeStep ep

theorem storeRun_concat (ep : Endpoint) (ops : List StoreOp) (op : StoreOp) :
    ep.storeRun (ops ++ [op]) = (ep.storeRun ops).storeStep op := List.foldl_append

/-- A store some run leads to. -/
def Reachable (ep : Endpoint) : Prop := ∃ epEnable ops, ep = (init epEnable).storeRun ops

namespace Reachable

theorem init (epEnable : Bool) : (init epEnable).Reachable := ⟨epEnable, [], rfl⟩

theorem storeStep (h : ep.Reachable) (op : StoreOp) : (ep.storeStep op).Reachable := by
  obtain ⟨epEnable, ops, rfl⟩ := h
  exact ⟨epEnable, ops ++ [op], (storeRun_concat _ ops op).symm⟩

theorem step (h : ep.Reachable) (op : EndpointOp) : (ep.step op).Reachable := h.storeStep (.call op)

theorem applyCancellation (h : ep.Reachable) (requestType : UInt8) (request : Octets) (byteBusId : ByteBusId) :
    (MockServer.applyCancellation ep requestType request byteBusId).2.Reachable := by
  unfold MockServer.applyCancellation
  split
  · exact h.step .cancelAll
  split
  · exact h.step .cancelNonSafestate
  split
  · split
    · exact h
    · rename_i targetTn tn _
      have hsingle := h.step (.cancelSingle targetTn .queued)
      unfold MockServer.applyClearSingle
      rcases hc : ep.cancelSingle targetTn .queued with ⟨result, ep'⟩
      simp only [Endpoint.step, hc] at hsingle
      cases result with
      | notFound => exact hsingle
      | canceled => exact hsingle.step (.cancelChainFrom _ _)
      | notCancellable => exact hsingle
  · exact h

theorem tagLastPending (h : ep.Reachable) (chainGroup : UInt32) (chainPosition : Nat) :
    (Rcp.tagLastPending ep chainGroup chainPosition).Reachable := by
  unfold Rcp.tagLastPending
  split
  · exact h
  · rename_i last _
    exact (h.step (.chainPredecessorDone last 0)).storeStep (.tag last chainGroup (UInt8.ofNat chainPosition))

end Reachable
end Endpoint

namespace MockServer
variable {σ : Type} {srv srv' srv'' : MockServer σ} {e : EndpointIx}

/-- Reachable stores lead to reachable stores. -/
def Leads (srv srv' : MockServer σ) : Prop :=
  (∀ e, (srv.endpoints e).queue.Reachable) → ∀ e, (srv'.endpoints e).queue.Reachable

namespace Leads

theorem refl (srv : MockServer σ) : Leads srv srv := fun h => h

theorem trans (h : Leads srv srv') (h' : Leads srv' srv'') : Leads srv srv'' := fun hr => h' (h hr)

theorem of_eq (h : srv'.endpoints = srv.endpoints) : Leads srv srv' := by
  intro hr e
  rw [h]
  exact hr e

theorem setEndpoint {slot : MockEndpoint σ} (h : (srv.endpoints e).queue.Reachable → slot.queue.Reachable) :
    Leads srv (srv.setEndpoint e slot) := by
  intro hr e'
  by_cases he : e' = e
  · subst he
    simpa [MockServer.setEndpoint] using h (hr e')
  · simpa [MockServer.setEndpoint, he] using hr e'

theorem setQueue {queue : Endpoint} (h : (srv.endpoints e).queue.Reachable → queue.Reachable) :
    Leads srv (srv.setQueue e queue) := setEndpoint h

theorem watchdogPurge (srv : MockServer σ) (found : Option EndpointIx) : Leads srv (srv.watchdogPurge found).2 := by
  cases found with
  | none => exact refl srv
  | some e =>
    rw [watchdogPurge_some]
    exact setQueue fun h => h.step .watchdogPurge

theorem broadcastSafeState (srv : MockServer σ) (requestStreamIndex : UInt8) :
    Leads srv (srv.broadcastSafeState requestStreamIndex).2 :=
  broadcastSafeState_induction refl trans watchdogPurge srv requestStreamIndex

theorem noteOverflow (srv : MockServer σ) (streamId : UInt64) : Leads srv (srv.noteOverflow streamId) := by
  unfold MockServer.noteOverflow
  split
  · exact refl srv
  dsimp only
  split
  · refine trans ?_ (broadcastSafeState _ _)
    exact of_eq rfl
  · exact of_eq rfl

theorem noteCrcError (srv : MockServer σ) (streamId : UInt64) (rxEnforceE2e : Bool) :
    Leads srv (srv.noteCrcError streamId rxEnforceE2e) := by
  unfold MockServer.noteCrcError
  dsimp only
  split
  · exact of_eq rfl
  split
  · refine trans ?_ (broadcastSafeState _ _)
    exact of_eq rfl
  · exact of_eq rfl

theorem runHandler (srv : MockServer σ) (e : EndpointIx) (request : Octets) :
    Leads srv (srv.runHandler e request).2 := by
  unfold MockServer.runHandler
  split <;> exact of_eq rfl

theorem onSlot (found : Option EndpointIx) {f : MockEndpoint σ → MockEndpoint σ}
    (hf : ∀ slot : MockEndpoint σ, slot.queue.Reachable → (f slot).queue.Reachable) : Leads srv (srv.onSlot found f).2 := by
  cases found with
  | none => exact refl srv
  | some e => exact setEndpoint (hf _)

theorem addSlot {slot : MockEndpoint σ} (h : slot.queue.Reachable) : Leads srv (srv.orElse (srv.addSlot slot)) := by
  unfold MockServer.addSlot
  split
  · exact refl srv
  split
  · exact refl srv
  · exact setEndpoint fun _ => h

theorem addEndpoint (srv : MockServer σ) (byteBusId : ByteBusId) (epEnable : Bool) (handler : Option (Handler σ)) :
    Leads srv (srv.orElse (srv.addEndpoint byteBusId epEnable handler)) := by
  unfold MockServer.addEndpoint
  split
  · exact refl srv
  · exact addSlot (.init epEnable)

theorem addEndpointMultiResponse (srv : MockServer σ) (byteBusId : ByteBusId) (epEnable : Bool)
    (handler : MultiHandler σ) : Leads srv (srv.orElse (srv.addEndpointMultiResponse byteBusId epEnable handler)) := by
  have hadd := addEndpoint srv byteBusId epEnable none
  unfold MockServer.addEndpointMultiResponse
  cases hok : srv.addEndpoint byteBusId epEnable none with
  | error error => exact refl srv
  | ok srv' =>
    rw [hok] at hadd
    dsimp only
    split
    · exact refl srv
    · exact hadd.trans (setEndpoint fun h => h)

/-! ### Dispatching -/

theorem dispatchAdmit (srv : MockServer σ) (e : EndpointIx) (env : Envelope) (timing : TscfTiming) (request : Octets) :
    Leads srv (srv.dispatchAdmit e env timing request).server := by
  unfold MockServer.dispatchAdmit
  rcases ha : (srv.endpoints e).queue.admitWithAck request 0 timing.tv timing.avtpTimestamp
    timing.gptpReferenceNow with ⟨r, queue⟩
  have hset : Leads srv (srv.setQueue e queue) := by
    refine setQueue fun h => ?_
    have hstep := h.step (.admitWithAck request 0 timing.tv timing.avtpTimestamp timing.gptpReferenceNow)
    rwa [Endpoint.step, ha] at hstep
  have hundo : ∀ (srv : MockServer σ) i byteBusId error, Leads srv (srv.unadmit e i byteBusId error).server :=
    fun _ _ _ _ => setQueue fun h => h.step (.cancelSingle _ .queued)
  have hfinish : ∀ srv : MockServer σ, Leads srv (srv.finishAdmission e r env.byteBusId request).server := by
    intro srv
    unfold finishAdmission
    split
    · exact runHandler _ _ _
    · exact refl srv
    · exact refl srv
    · exact setQueue fun h => h.applyCancellation _ _ _
    · exact refl srv
    · exact refl srv
  dsimp only
  split
  · exact hset.trans (hundo _ _ _ _)
  have hnote : Leads (srv.setQueue e queue) (if r.error = .requestStorageOverflow then
      (srv.setQueue e queue).noteOverflow env.streamId else srv.setQueue e queue) := by
    split
    · exact noteOverflow _ _
    · exact refl _
  have haccess : ∀ (srv : MockServer σ) (access : SequencerAccess), Leads srv
      (if access ≠ .ok then srv.unadmit e (r.index.getD 0) env.byteBusId access.wireError
        else srv.finishAdmission e r env.byteBusId request).server := by
    intro srv access
    split
    · exact hundo _ _ _ _
    · exact hfinish _
  exact (hset.trans hnote).trans (haccess _ _)

theorem dispatchPlain (srv : MockServer σ) (env : Envelope) (timing : TscfTiming) (request : Octets) :
    Leads srv (srv.dispatchPlain env timing request).server := by
  unfold MockServer.dispatchPlain dispatchPlainInner
  cases srv.accepts env with
  | drop => exact refl srv
  | reject => exact refl srv
  | accept =>
    dsimp only
    split
    · exact refl srv
    · exact dispatchAdmit srv _ env _ request

theorem dispatchE2eWith (srv : MockServer σ) (env : Envelope) (timing : TscfTiming) (avtpTimestamp : UInt32)
    (request : Octets) : Leads srv (srv.dispatchE2eWith env timing avtpTimestamp request).server := by
  unfold MockServer.dispatchE2eWith
  split
  · exact refl srv
  split
  · exact dispatchPlain srv env timing request
  split
  · exact dispatchPlain srv env timing request
  split
  · exact noteCrcError _ _ _
  · exact dispatchPlain srv env timing _

theorem dispatchReassembled (srv : MockServer σ) (row : StreamIx) (env : Envelope) (timing : TscfTiming)
    (avtpTimestamp : UInt32) (rxEnforceE2e : Bool) (final : FinalFragment) (got : UInt32) (reassembled : Octets) :
    Leads srv (srv.dispatchReassembled row env timing avtpTimestamp rxEnforceE2e final got reassembled).server := by
  unfold MockServer.dispatchReassembled
  dsimp only
  generalize e2eComputeFragmentedCrc _ _ _ = want
  have hreset : Leads srv (srv.setReasm row (srv.fragReasm row).reset) := of_eq rfl
  split
  · refine (noteCrcError srv env.streamId rxEnforceE2e).trans ?_
    exact of_eq rfl
  split
  · split
    · exact hreset
    · exact hreset.trans (dispatchPlain _ env timing _)
  · exact hreset.trans (dispatchPlain _ env timing _)

theorem dispatchFinalFragment (srv : MockServer σ) (row : StreamIx) (env : Envelope) (timing : TscfTiming)
    (avtpTimestamp : UInt32) (rxEnforceE2e : Bool) (fragment : Octets) :
    Leads srv (srv.dispatchFinalFragment row env timing avtpTimestamp rxEnforceE2e fragment).server := by
  have hreject : ∀ srv : MockServer σ, Leads srv (srv.rejectFragment row).server := fun _ => of_eq rfl
  have hreasm : ∀ reasm, Leads srv (srv.setReasm row reasm) := fun _ => of_eq rfl
  unfold MockServer.dispatchFinalFragment
  dsimp only
  split
  · exact hreject srv
  split
  · exact hreject srv
  split
  · exact hreject srv
  split
  · exact hreject srv
  split
  · exact (hreasm _).trans (dispatchReassembled _ row env timing avtpTimestamp rxEnforceE2e _ _ _)
  · exact (hreasm _).trans (hreject _)

theorem dispatchE2eFragmentWith (srv : MockServer σ) (env : Envelope) (timing : TscfTiming) (avtpTimestamp : UInt32)
    (fragment : Octets) : Leads srv (srv.dispatchE2eFragmentWith env timing avtpTimestamp fragment).server := by
  unfold MockServer.dispatchE2eFragmentWith
  split
  · exact refl srv
  split
  · exact dispatchPlain srv env timing fragment
  split
  · exact dispatchPlain srv env timing fragment
  split
  · exact refl srv
  split
  · exact dispatchE2eWith srv env timing avtpTimestamp fragment
  split
  · unfold dispatchIntermediateFragment
    split
    · exact refl srv
    dsimp only
    split <;> exact of_eq (by split <;> rfl)
  split
  · exact dispatchE2eWith srv env timing avtpTimestamp fragment
  · exact dispatchFinalFragment srv _ env timing avtpTimestamp _ fragment

theorem call (srv : MockServer σ) (c : DispatchCall) : Leads srv (srv.call c).server := by
  cases c with
  | dispatch env request => exact dispatchPlain srv env {} request
  | dispatchTscf env timing tscfReservedAllZero request =>
    simp only [MockServer.call, dispatchTscf]
    split
    · split
      · exact refl srv
      · exact dispatchPlain srv _ _ request
    · exact dispatchPlain srv env timing request
  | dispatchE2e env avtpTimestamp request => exact dispatchE2eWith srv env {} avtpTimestamp request
  | dispatchE2eTscf env timing request => exact dispatchE2eWith srv env timing timing.avtpTimestamp request
  | dispatchE2eFragment env avtpTimestamp fragment => exact dispatchE2eFragmentWith srv env {} avtpTimestamp fragment
  | dispatchE2eFragmentTscf env timing fragment =>
    exact dispatchE2eFragmentWith srv env timing timing.avtpTimestamp fragment

/-! ### Frames and ticks -/

theorem frameMember (kind : FrameKind) (env : FrameEnvelope) (s : MockServer σ × FrameLoop) (member : Octets) :
    Leads s.1 (frameMember kind env s member).1 := by
  have htag : ∀ (srv : MockServer σ) byteBusId l result, Leads srv (srv.tagMember env.streamId byteBusId l result) := by
    intro srv byteBusId l result
    unfold tagMember
    split
    · split
      · exact refl srv
      · exact setQueue fun h => h.tagLastPending _ _
    · exact refl srv
  unfold MockServer.frameMember
  dsimp only
  split
  · exact refl s.1
  · exact refl s.1
  · exact (call s.1 _).trans (htag _ _ _ _)

theorem frameSeqGateAdmits (srv : MockServer σ) (streamId : UInt64) (sequenceNum : UInt8) :
    Leads srv (srv.frameSeqGateAdmits streamId sequenceNum).2 := by
  unfold MockServer.frameSeqGateAdmits
  split
  · exact refl srv
  dsimp only
  split
  · refine trans ?_ (broadcastSafeState _ _)
    exact of_eq rfl
  · exact of_eq rfl

theorem dispatchFrameWith (kind : FrameKind) (srv : MockServer σ) (env : FrameEnvelope) (frame : Octets)
    (outCap : Nat) : Leads srv (dispatchFrameWith kind srv env frame outCap).2 := by
  have hgate := frameSeqGateAdmits srv env.streamId env.sequenceNum
  have hfold : ∀ (ms : List Octets) (s : MockServer σ × FrameLoop),
      Leads s.1 (ms.foldl (MockServer.frameMember kind env) s).1 := by
    intro ms
    induction ms with
    | nil => exact fun s => refl s.1
    | cons member ms ih => exact fun s => (frameMember kind env s member).trans (ih _)
  unfold MockServer.dispatchFrameWith
  split
  · exact refl srv
  · exact refl srv
  split
  · rename_i heq
    rw [heq] at hgate
    exact hgate
  · rename_i heq
    rw [heq] at hgate
    refine hgate.trans ?_
    exact hfold (frameMembers frame _ outCap) (_, {})

theorem tickSlot (srv : MockServer σ) (e : EndpointIx) (byteBusId : ByteBusId) (ctx : TickCtx) :
    Leads srv (srv.tickSlot e byteBusId ctx).2 := by
  have hsel : (srv.endpoints e).queue.Reachable →
      ((srv.endpoints e).queue.selectDue { ctx with sequencers := some srv.sequencers }).2.Reachable :=
    fun h => h.step (.selectDue { ctx with sequencers := some srv.sequencers })
  unfold MockServer.tickSlot
  dsimp only
  split
  · rename_i queue hdue
    rw [hdue] at hsel
    exact setQueue hsel
  · rename_i index queue hdue
    rw [hdue] at hsel
    have hset : Leads srv (srv.setQueue e queue) := setQueue hsel
    have hdone : ∀ (srv' : MockServer σ) sequencers, Leads srv'
        { srv'.setQueue e ((srv'.endpoints e).queue.complete index { ctx with sequencers := some srv.sequencers }).2.1
          with sequencers := sequencers } :=
      fun srv' _ => setQueue fun h => h.step (.complete index { ctx with sequencers := some srv.sequencers })
    split
    · have hcancel : Leads (srv.setQueue e queue) ((srv.setQueue e queue).setQueue e
          (applyCancellation queue (queue.pending index).requestType (queue.pending index).frame byteBusId).2) := by
        refine setQueue fun h => ?_
        rw [setQueue_self] at h
        exact h.applyCancellation _ _ _
      exact (hset.trans hcancel).trans (hdone _ _)
    · exact (hset.trans (runHandler _ e _)).trans (hdone _ _)

theorem drainEndpoint (srv : MockServer σ) (found : Option EndpointIx) : Leads srv (srv.drainEndpoint found).2 := by
  cases found with
  | none => exact refl srv
  | some e =>
    have hset : Leads srv (srv.setQueue e (srv.endpoints e).queue.drainOne.2) := setQueue fun h => h.step .drainOne
    simp only [MockServer.drainEndpoint]
    split
    · rename_i hdrain
      rw [hdrain] at hset
      exact hset
    · rename_i hdrain
      rw [hdrain] at hset
      exact hset.trans (runHandler _ _ _)

theorem notifyTrigger (srv : MockServer σ) (sourceEp signalNr : UInt8) :
    Leads srv (srv.notifyTrigger sourceEp signalNr).2 := by
  intro h e
  simp only [MockServer.notifyTrigger]
  split
  · exact (h e).step (.notifyTrigger sourceEp signalNr)
  · exact h e

end Leads

theorem step_leads (srv : MockServer σ) (op : MockOp σ) : Leads srv (srv.step op) := by
  cases op with
  | call c => exact .call srv c
  | dispatchFrame kind env frame outCap => exact .dispatchFrameWith kind srv env frame outCap
  | dispatchMultiResponse env request outCap =>
    simp only [step, dispatchMultiResponse]
    split
    · exact .refl srv
    · exact .refl srv
    split
    · exact .refl srv
    split
    · exact .refl srv
    · exact .of_eq rfl
  | tick scope byteBusId ctx =>
    simp only [step, tickScoped_eq]
    split
    · exact .refl srv
    · exact .tickSlot srv _ byteBusId ctx
  | drainEndpoint scope byteBusId => exact .drainEndpoint srv (srv.lookup scope byteBusId)
  | notifyTrigger sourceEp signalNr => exact .notifyTrigger srv sourceEp signalNr
  | notifyGptpLockState locked sourceEp =>
    simp only [step, notifyGptpLockState]
    split
    · exact .of_eq rfl
    · exact Leads.trans (.of_eq rfl) (.notifyTrigger _ _ _)
  | watchdogPurge scope byteBusId => exact .watchdogPurge srv (srv.lookup scope byteBusId)
  | broadcastSafeState requestStreamIndex => exact .broadcastSafeState srv requestStreamIndex
  | checkWatchdog requestStreamIndex elapsed =>
    simp only [step, checkWatchdog]
    split
    · split
      · exact .refl srv
      dsimp only
      split
      · refine Leads.trans ?_ (.broadcastSafeState _ _)
        exact .of_eq rfl
      · exact .of_eq rfl
    · exact .refl srv
  | addEndpoint byteBusId epEnable handler => exact .addEndpoint srv byteBusId epEnable handler
  | addEndpointOnStream streamId byteBusId epEnable handler =>
    simp only [step, addEndpointOnStream]
    split
    · exact .refl srv
    · exact .addSlot (.init epEnable)
  | addEndpointMultiResponse byteBusId epEnable handler => exact .addEndpointMultiResponse srv byteBusId epEnable handler
  | removeEndpoint scope byteBusId =>
    simp only [step, removeEndpoint]
    split
    · exact .refl srv
    · exact Leads.setEndpoint fun _ => .init false
  | setEndpointEnable scope byteBusId enable => exact .onSlot _ fun _ h => h.step (.setEnable enable)
  | setEndpointReqCrcEnable | setEndpointRxEnforceE2e | stashDeferredResponse => exact .onSlot _ fun _ h => h
  | takeDeferredResponse scope byteBusId =>
    simp only [step, takeDeferredResponse]
    split
    · exact .refl srv
    · exact .setEndpoint fun h => h
  | transition target snap writer allOtherEpsIdle =>
    simp only [step, transition]
    split <;> exact .of_eq rfl
  | pwrmodeResume =>
    intro h e
    simp only [step, pwrmodeResume]
    split
    · exact (h e).step (.setEnable true)
    · exact h e
  | setEpIdMap entries =>
    simp only [step, setEpIdMap]
    split <;> exact .of_eq rfl
  | setRequestStreamCfg | setSequencerCount | setSequencerOwner | setTscfUnsupportedTimeSyncPolicy
  | setStreamFaultTracker => exact .of_eq rfl

/-- Every store of a server run is a store run. -/
theorem run_reachable (world : σ) (ops : List (MockOp σ)) (e : EndpointIx) :
    (((new world).run ops).endpoints e).queue.Reachable := by
  have hrun : ∀ (ops : List (MockOp σ)) (srv : MockServer σ), Leads srv (srv.run ops) := by
    intro ops
    induction ops with
    | nil => exact fun srv => .refl srv
    | cons op ops ih => exact fun srv => (step_leads srv op).trans (ih _)
  exact hrun ops (new world) (fun _ => .init false) e

end MockServer
end Rcp
