import Rcp.MockFrame
import Rcp.Theorems.NoEarly

/-! What a dispatch does to the request stores: it fills at most one free slot of the addressed endpoint,
    releases others, and never alters a request it leaves in place. -/

namespace Rcp

/-! ### A slot that has just been filled -/

/-- What an admission at time `now` writes into a free slot. -/
structure Fresh (ep : Endpoint) (frame : Octets) (now : UInt32) (slot : Pending) : Prop where
  inUse : slot.inUse = true
  sequence : slot.sequence = ep.nextSequence
  stored : slot.frame = frame
  armedAt : slot.armedAt = now
  predecessorDone : slot.predecessorDone = false
  chainGroup : slot.chainGroup = 0
  transactionNum : slot.kind ≠ .standard → slot.kind ≠ .cancellation →
    slot.transactionNum = (Acf.unpackHeader frame).transactionNum
  chained : slot.kind = .chained →
    ∃ m, chainedDecodeMember frame = .ok m ∧ slot.chainExecDelay = m.chainExecDelay

theorem decodeCondition_chained {frame : Octets} {slot slot' : Pending} (h : decodeCondition frame slot = .ok slot')
    (hk : slot.kind = .chained) : ∃ m, chainedDecodeMember frame = .ok m ∧ slot'.chainExecDelay = m.chainExecDelay := by
  unfold decodeCondition at h
  rw [hk] at h
  dsimp only at h
  split at h
  · cases h
  · cases h
    exact ⟨_, ‹_›, rfl⟩

theorem gatedSlot_fresh (ep : Endpoint) (frame : Octets) (now : UInt32) (gate : UInt64) {kind : SchedKind}
    {requestType : UInt8} (hk : kind = .standard ∨ kind = .cancellation) :
    Fresh ep frame now (Endpoint.gatedSlot ep.nextSequence frame now gate kind requestType) := by
  refine ⟨rfl, rfl, rfl, rfl, rfl, rfl, ?_, ?_⟩
  · rcases hk with rfl | rfl <;> simp [Endpoint.gatedSlot]
  · rcases hk with rfl | rfl <;> simp [Endpoint.gatedSlot]

theorem conditionalSlot_fresh {ep : Endpoint} {frame : Octets} {kind : SchedKind} {requestType : UInt8} {slot : Pending}
    (hd : decodeCondition frame
      { Pending.claimed ep.nextSequence with kind := kind, requestType := requestType } = .ok slot)
    (now : UInt32) (tv : Bool) (gate : UInt64) :
    Fresh ep frame now (Endpoint.conditionalSlot slot frame now tv gate) := by
  have hdec := decodeCondition_decoded hd
  refine ⟨hdec.inUse, hdec.sequence, rfl, rfl, hdec.predecessorDone, hdec.chainGroup, fun _ _ => hdec.transactionNum, ?_⟩
  intro hk
  obtain ⟨m, hm, hdelay⟩ := decodeCondition_chained hd (hdec.kind.symm.trans hk)
  exact ⟨m, hm, hdelay⟩

namespace Endpoint
variable {ep ep' : Endpoint} {frame : Octets} {now : UInt32} {tv : Bool} {gate : UInt64} {r : AdmitResult} {i : SlotIx}

/-- An admission that answers PENDING has filled the first free slot and nothing else. -/
theorem admits_pending_store (h : Admits ep frame now tv gate r ep') (hr : r.outcome = .pending) :
    ∃ i slot, r.index = some i ∧ ep.firstFree = some i ∧ Fresh ep frame now slot ∧ ep' = ep.storeAt i slot ∧
      slot.requestType = r.requestType ∧
      (schedClassify true slot.requestType = slot.kind ∨ slot.kind = .standard ∧ slot.requestType = 0) := by
  cases h with
  | refused hout hindex => rcases hout with h | h | h <;> simp [h] at hr
  | submitted htv hr' =>
    rw [hr'] at hr
    cases hs : (ep.submit frame).1 <;> simp [hs] at hr
  | burned hi hr' hd => simp [hr'.1] at hr
  | @gated i kind requestType hi htv hk hr' =>
    refine ⟨i, _, hr'.2.1, hi, gatedSlot_fresh ep frame now gate (hk.imp And.left And.left), rfl, hr'.2.2.symm, ?_⟩
    rcases hk with ⟨rfl, rfl⟩ | ⟨rfl, hk⟩
    · exact Or.inr ⟨rfl, rfl⟩
    · exact Or.inl hk
  | @stored i kind requestType slot hi hk hd hr' =>
    have hdec := decodeCondition_decoded hd
    refine ⟨i, _, hr'.2.1, hi, conditionalSlot_fresh hd now tv gate, rfl, hdec.requestType.trans hr'.2.2.symm, Or.inl ?_⟩
    simp only [conditionalSlot, hdec.requestType, hdec.kind, hk]

/-- Any other answer leaves every slot alone, but that a free one may have been cleared. -/
theorem admits_not_pending (h : Admits ep frame now tv gate r ep') (hr : r.outcome ≠ .pending) (i : SlotIx) :
    ep'.pending i = ep.pending i ∨ ep'.pending i = .zero ∧ (ep.pending i).inUse = false := by
  cases h with
  | refused hout hindex => exact Or.inl rfl
  | submitted htv hr' =>
    obtain ⟨queue, hq⟩ := submit_endpoint ep frame
    rw [hq]
    exact Or.inl rfl
  | @burned k _ _ _ hi hr' hd =>
    rw [burnAt_pending]
    by_cases hik : i = k
    · subst hik
      exact Or.inr ⟨by simp, firstFree_free hi⟩
    · exact Or.inl (Function.update_of_ne hik _ _)
  | gated hi htv hk hr' => exact absurd hr'.1 hr
  | stored hi hk hd hr' => exact absurd hr'.1 hr

theorem admitUnderTscfGate_error (ep : Endpoint) (frame : Octets) (now : UInt32) (gate : UInt64) (kind : SchedKind)
    (requestType : UInt8) : (ep.admitUnderTscfGate frame now gate kind requestType).1.error = .none := by
  unfold admitUnderTscfGate
  split <;> rfl

theorem admitStandard_error (ep : Endpoint) (frame : Octets) (now : UInt32) (tv : Bool) (gate : UInt64) :
    (ep.admitStandard frame now tv gate).1.error = .none := by
  unfold admitStandard
  split
  · exact admitUnderTscfGate_error ep frame now gate .standard 0
  · split <;> rfl

theorem admitConditional_error {kind : SchedKind} {requestType : UInt8}
    (h : (ep.admitConditional frame now tv gate kind requestType).1.outcome = .pending) :
    (ep.admitConditional frame now tv gate kind requestType).1.error = .none := by
  unfold admitConditional at *
  cases hc : ep.claimSlot with
  | none => simp [hc] at h
  | some c =>
    simp only [hc] at h ⊢
    split at h
    · cases h
    · rfl

/-- A stored request has no error to report. -/
theorem admitWithAck_error (avtpTimestamp : UInt32) (gptpReferenceNow : UInt64)
    (h : (ep.admitWithAck frame now tv avtpTimestamp gptpReferenceNow).1.outcome = .pending) :
    (ep.admitWithAck frame now tv avtpTimestamp gptpReferenceNow).1.error = .none := by
  unfold admitWithAck at *
  generalize (if tv then avtpExtendTimestamp avtpTimestamp gptpReferenceNow else 0) = gate at *
  dsimp only at *
  split
  · rfl
  split
  · simp_all
  split
  · exact admitStandard_error ep frame now tv gate
  split
  · exact admitStandard_error ep frame now tv gate
  · split
    · exact admitUnderTscfGate_error ep frame now gate _ _
    · rfl
  · simp only [*] at h
    exact admitConditional_error h

/-- An immediate cancellation is handed back untouched, with its opcode. -/
theorem admitWithAck_cancellation (avtpTimestamp : UInt32) (gptpReferenceNow : UInt64)
    (h : (ep.admitWithAck frame now tv avtpTimestamp gptpReferenceNow).1.outcome = .cancellation) :
    ∃ requestType, compoundPeekRequestType frame = .ok requestType ∧
      ep.admitWithAck frame now tv avtpTimestamp gptpReferenceNow =
        ({ outcome := .cancellation, requestType := requestType }, ep) := by
  have hcond : ∀ {gate : UInt64} {kind : SchedKind} {requestType : UInt8},
      (ep.admitConditional frame now tv gate kind requestType).1.outcome ≠ .cancellation := by
    intro gate kind requestType
    unfold admitConditional
    split
    · simp
    · split <;> simp
  have hgate : ∀ {gate : UInt64} {kind : SchedKind} {requestType : UInt8},
      (ep.admitUnderTscfGate frame now gate kind requestType).1.outcome ≠ .cancellation := by
    intro gate kind requestType
    unfold admitUnderTscfGate
    split <;> simp
  have hstd : ∀ {gate : UInt64}, (ep.admitStandard frame now tv gate).1.outcome ≠ .cancellation := by
    intro gate
    unfold admitStandard
    split
    · exact hgate
    · split <;> simp
  unfold admitWithAck at *
  generalize (if tv then avtpExtendTimestamp avtpTimestamp gptpReferenceNow else 0) = gate at *
  dsimp only at *
  split at h
  · cases h
  rename_i hsus
  rw [if_neg hsus]
  split at h
  · cases h
  rename_i hreq
  rw [if_neg hreq]
  split at h
  · exact absurd h hstd
  rename_i requestType hpeek
  split at h
  · exact absurd h hstd
  · rename_i hk
    cases tv with
    | true => exact absurd h hgate
    | false => exact ⟨requestType, hpeek, by simp⟩
  · exact absurd h hcond

end Endpoint

/-! ### Releasing requests -/

/-- Every slot of `ep'` is as in `ep`, or cleared. -/
def Endpoint.Released (ep ep' : Endpoint) : Prop := ∀ i, ep'.pending i = ep.pending i ∨ ep'.pending i = .zero

namespace Endpoint.Released
variable {ep ep' ep'' : Endpoint}

theorem refl (ep : Endpoint) : Released ep ep := fun _ => Or.inl rfl

theorem trans (h : Released ep ep') (h' : Released ep' ep'') : Released ep ep'' := by
  intro i
  rcases h' i with h' | h'
  · rw [h']
    exact h i
  · exact Or.inr h'

theorem inUse (h : Released ep ep') {i : SlotIx} (hu : (ep'.pending i).inUse = true) :
    ep'.pending i = ep.pending i := by
  rcases h i with h | h
  · exact h
  · rw [h] at hu
    cases hu

theorem releaseWhere (drop : Pending → Bool) (ep : Endpoint) : Released ep (ep.releaseWhere drop).2 := by
  intro i
  rw [releaseWhere_pending]
  exact (Pending.purged_cases drop (ep.pending i)).symm

theorem releaseSlot (ep : Endpoint) (i : SlotIx) : Released ep (ep.releaseSlot i) := by
  intro j
  by_cases hji : j = i
  · subst hji
    exact Or.inr (by simp)
  · exact Or.inl (by simp [hji])

theorem cancelSingle (ep : Endpoint) (tn : UInt8) (state : CancelLifecycle) :
    Released ep (ep.cancelSingle tn state).2 := by
  rw [cancelSingle_endpoint]
  split
  · split
    · exact releaseSlot _ _
    · exact refl _
  · exact refl _

theorem cancelChainFrom (ep : Endpoint) (chainGroup : UInt32) (minPosition : UInt8) :
    Released ep (ep.cancelChainFrom chainGroup minPosition).2 := by
  unfold Endpoint.cancelChainFrom
  split
  · exact refl _
  · exact releaseWhere _ _

theorem applyClearSingle (ep : Endpoint) (byteBusId : ByteBusId) (targetTn tn : UInt8) :
    Released ep (MockServer.applyClearSingle ep byteBusId targetTn tn).2 := by
  have h := cancelSingle ep targetTn .queued
  unfold MockServer.applyClearSingle
  split
  · rename_i hc
    rw [hc] at h
    exact h
  · rename_i hc
    rw [hc] at h
    exact h.trans (cancelChainFrom _ _ _)
  · rename_i hc
    rw [hc] at h
    exact h

theorem applyCancellation (ep : Endpoint) (requestType : UInt8) (request : Octets) (byteBusId : ByteBusId) :
    Released ep (MockServer.applyCancellation ep requestType request byteBusId).2 := by
  unfold MockServer.applyCancellation
  split
  · exact releaseWhere _ _
  split
  · exact releaseWhere _ _
  split
  · split
    · exact refl _
    · exact applyClearSingle _ _ _ _
  · exact refl _

end Endpoint.Released

namespace MockServer
variable {σ : Type} {srv srv' srv'' : MockServer σ} {e : EndpointIx}

/-- One slot of one endpoint's request store. -/
def slot (srv : MockServer σ) (e : EndpointIx) (i : SlotIx) : Pending := (srv.endpoints e).queue.pending i

@[simp] theorem setQueue_self (queue : Endpoint) : ((srv.setQueue e queue).endpoints e).queue = queue := by
  simp [setQueue, setEndpoint]

theorem setQueue_other (queue : Endpoint) {e' : EndpointIx} (h : e' ≠ e) :
    (srv.setQueue e queue).endpoints e' = srv.endpoints e' := by
  simp [setQueue, setEndpoint, h]

@[simp] theorem setQueue_setQueue (queue queue' : Endpoint) :
    (srv.setQueue e queue).setQueue e queue' = srv.setQueue e queue' := by
  simp [setQueue, setEndpoint]

@[simp] theorem setQueue_sequencers (queue : Endpoint) : (srv.setQueue e queue).sequencers = srv.sequencers := rfl
@[simp] theorem setQueue_requestStreamCfg (queue : Endpoint) :
    (srv.setQueue e queue).requestStreamCfg = srv.requestStreamCfg := rfl

theorem setQueue_endpoints (srv : MockServer σ) (e : EndpointIx) (queue : Endpoint) (e' : EndpointIx) :
    ∃ queue', (srv.setQueue e queue).endpoints e' = { srv.endpoints e' with queue := queue' } ∧
      queue' = if e' = e then queue else (srv.endpoints e').queue := by
  by_cases h : e' = e
  · subst h
    exact ⟨queue, by simp [setQueue, setEndpoint], by simp⟩
  · exact ⟨_, by rw [setQueue_other queue h], by simp [h]⟩

/-- The same endpoints at the same places, up to their queues; no lookup can tell the two apart. -/
def SameTable (srv srv' : MockServer σ) : Prop :=
  ∀ e, ∃ queue, srv'.endpoints e = { srv.endpoints e with queue := queue }

theorem SameTable.setQueue (srv : MockServer σ) (e : EndpointIx) (queue : Endpoint) :
    SameTable srv (srv.setQueue e queue) := by
  intro e'
  obtain ⟨queue', h, -⟩ := setQueue_endpoints srv e queue e'
  exact ⟨queue', h⟩

theorem SameTable.findSlotOnStream (h : SameTable srv srv') (streamId : UInt64) (byteBusId : ByteBusId) :
    srv'.findSlotOnStream streamId byteBusId = srv.findSlotOnStream streamId byteBusId := by
  unfold MockServer.findSlotOnStream
  congr 1
  funext e
  obtain ⟨queue, he⟩ := h e
  rw [he]

/-- A purge changes one store, that of the endpoint found. -/
theorem watchdogPurge_some (srv : MockServer σ) (e : EndpointIx) :
    (srv.watchdogPurge (some e)).2 = srv.setQueue e (srv.endpoints e).queue.watchdogPurge.2 := by
  -- Not by `rfl`: it would look into the queue and run through all its slots.
  unfold MockServer.watchdogPurge
  dsimp only

/-- A broadcast is one purge after the other: what a purge does to the server and is closed under repetition, the
    broadcast does. -/
theorem broadcastSafeState_induction {R : MockServer σ → MockServer σ → Prop} (hrefl : ∀ srv, R srv srv)
    (htrans : ∀ {srv srv' srv''}, R srv srv' → R srv' srv'' → R srv srv'')
    (hpurge : ∀ srv found, R srv (srv.watchdogPurge found).2) (srv : MockServer σ) (requestStreamIndex : UInt8) :
    R srv (srv.broadcastSafeState requestStreamIndex).2 := by
  unfold MockServer.broadcastSafeState
  split
  · exact hrefl srv
  -- Induction over the bound buses: each turn purges one endpoint.
  generalize (epIdMapByteBusIdsForStream srv.epIdMap requestStreamIndex).take mockMaxEndpoints = buses
  generalize 0 = purged
  induction buses generalizing srv purged with
  | nil => exact hrefl srv
  | cons byteBusId buses ih =>
    rw [List.foldl_cons]
    exact htrans (hpurge srv _) (ih _ _)

/-- Some requests have been released; nothing else a lookup or an access check reads has changed. -/
structure Purges (srv srv' : MockServer σ) : Prop where
  table : SameTable srv srv'
  released : ∀ e, Endpoint.Released (srv.endpoints e).queue (srv'.endpoints e).queue
  sequencers : srv'.sequencers = srv.sequencers
  streams : srv'.requestStreamCfg = srv.requestStreamCfg

namespace Purges

theorem of_eq (he : srv'.endpoints = srv.endpoints) (hs : srv'.sequencers = srv.sequencers)
    (hc : srv'.requestStreamCfg = srv.requestStreamCfg) : Purges srv srv' where
  table e := ⟨_, by rw [he]⟩
  released e := by rw [he]; exact .refl _
  sequencers := hs
  streams := hc

theorem refl (srv : MockServer σ) : Purges srv srv := of_eq rfl rfl rfl

theorem trans (h : Purges srv srv') (h' : Purges srv' srv'') : Purges srv srv'' where
  table e := by
    obtain ⟨queue, he⟩ := h.table e
    obtain ⟨queue', he'⟩ := h'.table e
    exact ⟨queue', by rw [he', he]⟩
  released e := (h.released e).trans (h'.released e)
  sequencers := h'.sequencers.trans h.sequencers
  streams := h'.streams.trans h.streams

theorem setQueue {queue : Endpoint} (h : Endpoint.Released (srv.endpoints e).queue queue) :
    Purges srv (srv.setQueue e queue) where
  table := SameTable.setQueue srv e queue
  released e' := by
    by_cases he : e' = e
    · subst he
      rw [setQueue_self]
      exact h
    · rw [setQueue_other queue he]
      exact .refl _
  sequencers := rfl
  streams := rfl

theorem watchdogPurge (srv : MockServer σ) (found : Option EndpointIx) : Purges srv (srv.watchdogPurge found).2 := by
  cases found with
  | none => exact refl srv
  | some e =>
    have h : Endpoint.Released (srv.endpoints e).queue (srv.endpoints e).queue.watchdogPurge.2 := .releaseWhere _ _
    rw [watchdogPurge_some]
    exact setQueue h

theorem broadcastSafeState (srv : MockServer σ) (requestStreamIndex : UInt8) :
    Purges srv (srv.broadcastSafeState requestStreamIndex).2 :=
  broadcastSafeState_induction refl trans watchdogPurge srv requestStreamIndex

theorem noteOverflow (srv : MockServer σ) (streamId : UInt64) : Purges srv (srv.noteOverflow streamId) := by
  unfold MockServer.noteOverflow
  split
  · exact refl srv
  dsimp only
  split
  · refine trans ?_ (broadcastSafeState _ _)
    exact of_eq rfl rfl rfl
  · exact of_eq rfl rfl rfl

theorem noteCrcError (srv : MockServer σ) (streamId : UInt64) (rxEnforceE2e : Bool) :
    Purges srv (srv.noteCrcError streamId rxEnforceE2e) := by
  unfold MockServer.noteCrcError
  dsimp only
  split
  · exact of_eq rfl rfl rfl
  split
  · refine trans ?_ (broadcastSafeState _ _)
    exact of_eq rfl rfl rfl
  · exact of_eq rfl rfl rfl

theorem runHandler (srv : MockServer σ) (e : EndpointIx) (request : Octets) :
    Purges srv (srv.runHandler e request).2 := by
  unfold MockServer.runHandler
  split
  · exact refl srv
  · exact of_eq rfl rfl rfl

end Purges

/-! ### Dispatching one request -/

/-- Endpoint `e` has got the given queue; nothing else a lookup or an access check reads has changed. -/
structure QueueSet (srv : MockServer σ) (e : EndpointIx) (queue : Endpoint) (srv' : MockServer σ) : Prop where
  endpoints : srv'.endpoints = (srv.setQueue e queue).endpoints
  sequencers : srv'.sequencers = srv.sequencers
  streams : srv'.requestStreamCfg = srv.requestStreamCfg

theorem QueueSet.intro (srv : MockServer σ) (e : EndpointIx) (queue : Endpoint) :
    QueueSet srv e queue (srv.setQueue e queue) := ⟨rfl, rfl, rfl⟩

section QueueSet
variable {queue : Endpoint}

theorem QueueSet.slot_self (h : QueueSet srv e queue srv') (i : SlotIx) : srv'.slot e i = queue.pending i := by
  rw [slot, h.endpoints, setQueue_self]

theorem QueueSet.slot_other (h : QueueSet srv e queue srv') {e' : EndpointIx} (he : e' ≠ e) (i : SlotIx) :
    srv'.slot e' i = srv.slot e' i := by
  rw [slot, h.endpoints, setQueue_other queue he, slot]

theorem QueueSet.table (h : QueueSet srv e queue srv') : SameTable srv srv' := by
  intro e'
  rw [h.endpoints]
  exact SameTable.setQueue srv e queue e'

theorem QueueSet.purges (h : QueueSet srv e queue srv') (hr : Endpoint.Released (srv.endpoints e).queue queue) :
    Purges srv srv' where
  table := h.table
  released e' := by
    rw [h.endpoints]
    exact (Purges.setQueue hr).released e'
  sequencers := h.sequencers
  streams := h.streams

end QueueSet

/-- The reasons for which a request that has just been stored is taken out again. -/
def Unadmittable (srv : MockServer σ) (env : Envelope) (slot : Pending) : Prop :=
  slot.requestType = RequestType.timed ∧ env.timeSyncSupported = false ∨ srv.sequencerAccess slot env.streamId ≠ .ok

/-- Everything a dispatch that has found its endpoint can do. -/
inductive AdmitEffect (srv : MockServer σ) (e : EndpointIx) (env : Envelope) (request : Octets) :
    DispatchResult → MockServer σ → Prop
  | stored {srv' : MockServer σ} {i : SlotIx} {slot : Pending} (hi : (srv.endpoints e).queue.firstFree = some i)
      (hf : Fresh (srv.endpoints e).queue request 0 slot)
      (hs : QueueSet srv e ((srv.endpoints e).queue.storeAt i slot) srv') (hn : ¬Unadmittable srv env slot) :
      AdmitEffect srv e env request .pending srv'
  | unadmitted {srv' : MockServer σ} {i : SlotIx} {slot : Pending} (hi : (srv.endpoints e).queue.firstFree = some i)
      (hf : Fresh (srv.endpoints e).queue request 0 slot)
      (hk : slot.kind = .timed ∨ slot.kind = .compound ∨ slot.kind = .compoundWait)
      (hs : QueueSet srv e
        (((srv.endpoints e).queue.storeAt i slot).cancelSingle slot.transactionNum .queued).2 srv')
      (hn : Unadmittable srv env slot) : AdmitEffect srv e env request .rejected srv'
  | cancelled {srv' : MockServer σ} {requestType : UInt8} (hpeek : compoundPeekRequestType request = .ok requestType)
      (hs : QueueSet srv e (applyCancellation (srv.endpoints e).queue requestType request env.byteBusId).2 srv') :
      AdmitEffect srv e env request .cancelled srv'
  | other {result : DispatchResult} {srv' : MockServer σ} (hr : result = .ok ∨ result = .queued ∨ result = .rejected)
      (hp : Purges srv srv') : AdmitEffect srv e env request result srv'

/-- Only the compound kinds are subject to the access check. -/
theorem sequencerAccess_kind {slot : Pending} {streamId : UInt64} (h : srv.sequencerAccess slot streamId ≠ .ok) :
    slot.kind = .compound ∨ slot.kind = .compoundWait := by
  unfold sequencerAccess at h
  split at h
  · exact absurd rfl h
  split at h
  · exact absurd rfl h
  · rename_i hk
    by_contra hno
    exact hk (not_or.mp hno)

theorem unadmit_server {queue : Endpoint} {i : SlotIx} {slot : Pending} (h : queue.pending i = slot)
    (byteBusId : ByteBusId) (error : WireError) :
    QueueSet srv e (queue.cancelSingle slot.transactionNum .queued).2
      (MockServer.unadmit (srv.setQueue e queue) e i byteBusId error).server := by
  simp only [ unadmit, setQueue_self, setQueue_setQueue, h]
  exact .intro _ _ _

section Admit
variable {env : Envelope} {timing : TscfTiming} {request : Octets} {r : AdmitResult} {i : SlotIx} {slot : Pending}

/-- A request that has been stored at `i` stays there, or is taken out again. -/
theorem dispatchAdmit_pending
    (ha : (srv.endpoints e).queue.admitWithAck request 0 timing.tv timing.avtpTimestamp timing.gptpReferenceNow =
      (r, (srv.endpoints e).queue.storeAt i slot))
    (hp : r.outcome = .pending) (hindex : r.index = some i) (hrt : slot.requestType = r.requestType) :
    (¬Unadmittable srv env slot ∧ (srv.dispatchAdmit e env timing request).result = .pending ∧
      QueueSet srv e ((srv.endpoints e).queue.storeAt i slot) (srv.dispatchAdmit e env timing request).server) ∨
    (Unadmittable srv env slot ∧ (srv.dispatchAdmit e env timing request).result = .rejected ∧
      QueueSet srv e (((srv.endpoints e).queue.storeAt i slot).cancelSingle slot.transactionNum .queued).2
        (srv.dispatchAdmit e env timing request).server) := by
  have herr : r.error = .none := by
    have h := @Endpoint.admitWithAck_error (srv.endpoints e).queue request 0 timing.tv timing.avtpTimestamp
      timing.gptpReferenceNow
    rw [ha] at h
    exact h hp
  have hslot : (((srv.setQueue e ((srv.endpoints e).queue.storeAt i slot)).endpoints e).queue.pending i) = slot := by
    simp
  have hacc : (srv.setQueue e ((srv.endpoints e).queue.storeAt i slot)).sequencerAccess slot env.streamId =
      srv.sequencerAccess slot env.streamId := rfl
  unfold dispatchAdmit
  simp only [ha, hp, herr, hindex, Option.getD_some, true_and, if_true, reduceCtorEq, if_false, hslot, hacc]
  by_cases ht : r.requestType = RequestType.timed ∧ (!env.timeSyncSupported) = true
  · rw [if_pos ht]
    exact Or.inr ⟨Or.inl ⟨hrt.trans ht.1, by simpa using ht.2⟩, rfl, unadmit_server (by simp) _ _⟩
  rw [if_neg ht]
  by_cases hok : srv.sequencerAccess slot env.streamId = .ok
  · rw [if_neg (not_not.mpr hok)]
    simp only [finishAdmission, hp]
    refine Or.inl ⟨?_, trivial, .intro _ _ _⟩
    rintro (⟨h, hs⟩ | h)
    · exact ht ⟨hrt ▸ h, by simp [hs]⟩
    · exact h hok
  · rw [if_pos hok]
    exact Or.inr ⟨Or.inr hok, rfl, unadmit_server (by simp) _ _⟩

theorem unadmittable_kind (h : Unadmittable srv env slot)
    (hk : schedClassify true slot.requestType = slot.kind ∨ slot.kind = .standard ∧ slot.requestType = 0) :
    slot.kind = .timed ∨ slot.kind = .compound ∨ slot.kind = .compoundWait := by
  rcases h with ⟨hty, -⟩ | h
  · left
    rcases hk with hk | ⟨-, hk⟩
    · rw [← hk, hty]
      decide
    · rw [hty] at hk
      exact absurd hk (by decide)
  · exact Or.inr (sequencerAccess_kind h)

theorem dispatchAdmit_effect (srv : MockServer σ) (e : EndpointIx) (env : Envelope) (timing : TscfTiming)
    (request : Octets) :
    AdmitEffect srv e env request (srv.dispatchAdmit e env timing request).result
      (srv.dispatchAdmit e env timing request).server := by
  have hadm := Endpoint.admitWithAck_admits (srv.endpoints e).queue request 0 timing.tv timing.avtpTimestamp
    timing.gptpReferenceNow
  have hcan := @Endpoint.admitWithAck_cancellation (srv.endpoints e).queue request 0 timing.tv timing.avtpTimestamp
    timing.gptpReferenceNow
  rcases ha : (srv.endpoints e).queue.admitWithAck request 0 timing.tv timing.avtpTimestamp
    timing.gptpReferenceNow with ⟨r, queue⟩
  rw [ha] at hadm hcan
  dsimp only at hadm hcan
  by_cases hp : r.outcome = .pending
  · obtain ⟨i, slot, hindex, hi, hf, rfl, hrt, hk⟩ := Endpoint.admits_pending_store hadm hp
    rcases dispatchAdmit_pending ha hp hindex hrt with ⟨hn, hr, hs⟩ | ⟨hn, hr, hs⟩
    · rw [hr]
      exact .stored hi hf hs hn
    · rw [hr]
      exact .unadmitted hi hf (unadmittable_kind hn hk) hs hn
  unfold dispatchAdmit
  simp only [ha, hp, false_and, if_false, ne_eq, not_true_eq_false]
  have hrel : Endpoint.Released (srv.endpoints e).queue queue := by
    intro i
    exact (Endpoint.admits_not_pending hadm hp i).imp_right And.left
  have hpur : Purges srv
      (if r.error = .requestStorageOverflow then (srv.setQueue e queue).noteOverflow env.streamId
        else srv.setQueue e queue) := by
    split
    · exact (Purges.setQueue hrel).trans (Purges.noteOverflow _ _)
    · exact Purges.setQueue hrel
  unfold finishAdmission
  cases ho : r.outcome with
  | executeNow => exact .other (Or.inl rfl) (hpur.trans (Purges.runHandler _ _ _))
  | queued => exact .other (Or.inr (Or.inl rfl)) hpur
  | pending => exact absurd ho hp
  | cancellation =>
    obtain ⟨requestType, hpeek, heq⟩ := hcan ho
    cases heq
    simp only [reduceCtorEq, if_false, setQueue_self, setQueue_setQueue]
    exact .cancelled hpeek (.intro _ _ _)
  | rejected => exact .other (Or.inr (Or.inr rfl)) hpur
  | suspended => exact .other (Or.inr (Or.inr rfl)) hpur

end Admit

/-! ### Every entry point -/

/-- The parts of a server an admission reads are the same. -/
structure SameStores (srv srv' : MockServer σ) : Prop where
  endpoints : srv'.endpoints = srv.endpoints
  sequencers : srv'.sequencers = srv.sequencers
  streams : srv'.requestStreamCfg = srv.requestStreamCfg

theorem SameStores.refl (srv : MockServer σ) : SameStores srv srv := ⟨rfl, rfl, rfl⟩

theorem SameStores.setReasm (srv : MockServer σ) (row : StreamIx) (reasm : Reassembler) :
    SameStores srv (srv.setReasm row reasm) := ⟨rfl, rfl, rfl⟩

theorem SameStores.purges (h : SameStores srv srv') : Purges srv srv' := .of_eq h.endpoints h.sequencers h.streams

theorem SameStores.queueSet {queue : Endpoint} (h : SameStores srv srv') (hs : QueueSet srv' e queue srv'') :
    QueueSet srv e queue srv'' where
  endpoints := by
    rw [hs.endpoints]
    simp only [setQueue, setEndpoint, h.endpoints]
  sequencers := hs.sequencers.trans h.sequencers
  streams := hs.streams.trans h.streams

theorem SameStores.sequencerAccess (h : SameStores srv srv') (slot : Pending) (streamId : UInt64) :
    srv'.sequencerAccess slot streamId = srv.sequencerAccess slot streamId := by
  simp only [MockServer.sequencerAccess, h.sequencers, h.streams]

theorem SameStores.admitEffect {env : Envelope} {request : Octets} {result : DispatchResult} (h : SameStores srv srv')
    (hd : AdmitEffect srv' e env request result srv'') : AdmitEffect srv e env request result srv'' := by
  have hun : ∀ slot, Unadmittable srv' env slot ↔ Unadmittable srv env slot := by
    intro slot
    rw [Unadmittable, Unadmittable, h.sequencerAccess]
  cases hd with
  | stored hi hf hs hn =>
    rw [h.endpoints] at hi hf hs
    exact .stored hi hf (h.queueSet hs) (by rwa [hun] at hn)
  | unadmitted hi hf hk hs hn =>
    rw [h.endpoints] at hi hf hs
    exact .unadmitted hi hf hk (h.queueSet hs) (by rwa [hun] at hn)
  | cancelled hpeek hs =>
    rw [h.endpoints] at hs
    exact .cancelled hpeek (h.queueSet hs)
  | other hr hp => exact .other hr (h.purges.trans hp)

/-- Everything a call of an entry point can do, once it hands `request` to `dispatch_plain`. -/
inductive CallEffect (srv : MockServer σ) (streamId : UInt64) (byteBusId : ByteBusId) (request : Octets) :
    DispatchResult → MockServer σ → Prop
  | admitted {result : DispatchResult} {srv' : MockServer σ} {e : EndpointIx} {env : Envelope}
      (hfind : srv.findSlotOnStream streamId byteBusId = some e)
      (henv : env.streamId = streamId ∧ env.byteBusId = byteBusId)
      (h : AdmitEffect srv e env request result srv') : CallEffect srv streamId byteBusId request result srv'
  | other {result : DispatchResult} {srv' : MockServer σ}
      (hr : result ∈ [DispatchResult.dropped, .rejected, .errUnknownBus, .crcError, .streamFaulted, .fragmentPending])
      (hp : Purges srv srv') : CallEffect srv streamId byteBusId request result srv'

/-- The request an E2E entry point hands on: without its CRC trailer where the endpoint checks it. -/
def unwrapped (srv : MockServer σ) (env : Envelope) (avtpTimestamp : UInt32) (request : Octets) : Octets :=
  match srv.findSlotOnStream env.streamId env.byteBusId with
  | none => request
  | some e =>
    if !(srv.endpoints e).reqCrcEnable then request else
    (e2eUnwrapFramed env.streamId (env.avtpSubtype == avtpSubtypeNtscf) 0 false avtpTimestamp request).2

/-- The request a call hands to `dispatch_plain`; `none` for a fragment, where it depends on the fragments
    before. -/
def delivered (srv : MockServer σ) : DispatchCall → Option Octets
  | .dispatch _ request => some request
  | .dispatchTscf _ _ _ request => some request
  | .dispatchE2e env avtpTimestamp request => some (srv.unwrapped env avtpTimestamp request)
  | .dispatchE2eTscf env timing request => some (srv.unwrapped env timing.avtpTimestamp request)
  | .dispatchE2eFragment .. | .dispatchE2eFragmentTscf .. => none

section CallEffect
variable {env : Envelope} {timing : TscfTiming} {request : Octets}

theorem SameStores.findSlotOnStream (h : SameStores srv srv') (streamId : UInt64) (byteBusId : ByteBusId) :
    srv'.findSlotOnStream streamId byteBusId = srv.findSlotOnStream streamId byteBusId := by
  simp only [MockServer.findSlotOnStream, h.endpoints]

theorem dispatchPlain_effect (h : SameStores srv srv') :
    CallEffect srv env.streamId env.byteBusId request (srv'.dispatchPlain env timing request).result
      (srv'.dispatchPlain env timing request).server := by
  unfold dispatchPlain dispatchPlainInner
  cases srv'.accepts env with
  | drop => exact .other (by simp) h.purges
  | reject => exact .other (by simp) h.purges
  | accept =>
    rw [h.findSlotOnStream]
    cases hfind : srv.findSlotOnStream env.streamId env.byteBusId with
    | none => exact .other (by simp) h.purges
    | some e => exact .admitted hfind ⟨rfl, rfl⟩ (h.admitEffect (dispatchAdmit_effect srv' e env _ request))

theorem dispatchE2eWith_effect {avtpTimestamp : UInt32} :
    CallEffect srv env.streamId env.byteBusId (srv.unwrapped env avtpTimestamp request)
      (srv.dispatchE2eWith env timing avtpTimestamp request).result
      (srv.dispatchE2eWith env timing avtpTimestamp request).server := by
  unfold dispatchE2eWith unwrapped
  by_cases hfault : srv.streamFaulted env.streamId = true
  · rw [if_pos hfault]
    exact .other (by simp) (.refl srv)
  rw [if_neg hfault]
  cases srv.findSlotOnStream env.streamId env.byteBusId with
  | none => exact dispatchPlain_effect (.refl srv)
  | some e =>
    dsimp only
    by_cases hcrc : (!(srv.endpoints e).reqCrcEnable) = true
    · rw [if_pos hcrc, if_pos hcrc]
      exact dispatchPlain_effect (.refl srv)
    rw [if_neg hcrc, if_neg hcrc]
    rcases e2eUnwrapFramed env.streamId (env.avtpSubtype == avtpSubtypeNtscf) 0 false avtpTimestamp request with
      ⟨error | _, unwrapped⟩
    · exact .other (by simp) (Purges.noteCrcError _ _ _)
    · exact dispatchPlain_effect (.refl srv)

theorem dispatchIntermediateFragment_effect {row : StreamIx} {acfMsgType : UInt8} {fragment : Octets} :
    CallEffect srv env.streamId env.byteBusId request (srv.dispatchIntermediateFragment row acfMsgType fragment).result
      (srv.dispatchIntermediateFragment row acfMsgType fragment).server := by
  unfold dispatchIntermediateFragment
  split
  · exact .other (by simp) (.refl srv)
  dsimp only
  split
  · exact .other (by simp) (by split <;> exact .of_eq rfl rfl rfl)
  · exact .other (by simp) (by split <;> exact .of_eq rfl rfl rfl)

theorem dispatchReassembled_effect (h : SameStores srv srv') {row : StreamIx} {avtpTimestamp : UInt32}
    {rxEnforceE2e : Bool} {final : FinalFragment} {got : UInt32} {reassembled : Octets} :
    ∃ request, CallEffect srv env.streamId env.byteBusId request
      (srv'.dispatchReassembled row env timing avtpTimestamp rxEnforceE2e final got reassembled).result
      (srv'.dispatchReassembled row env timing avtpTimestamp rxEnforceE2e final got reassembled).server := by
  have hreset : SameStores srv (srv'.setReasm row (srv'.fragReasm row).reset) := ⟨h.endpoints, h.sequencers, h.streams⟩
  unfold dispatchReassembled
  dsimp only
  generalize e2eComputeFragmentedCrc _ _ _ = want
  split
  · refine ⟨[], .other (by simp) ((h.purges.trans (Purges.noteCrcError srv' env.streamId rxEnforceE2e)).trans ?_)⟩
    exact .of_eq rfl rfl rfl
  split
  · split
    · exact ⟨[], .other (by simp) hreset.purges⟩
    · exact ⟨_, dispatchPlain_effect hreset⟩
  · exact ⟨_, dispatchPlain_effect hreset⟩

theorem dispatchFinalFragment_effect {row : StreamIx} {avtpTimestamp : UInt32} {rxEnforceE2e : Bool}
    {fragment : Octets} :
    ∃ request, CallEffect srv env.streamId env.byteBusId request
      (srv.dispatchFinalFragment row env timing avtpTimestamp rxEnforceE2e fragment).result
      (srv.dispatchFinalFragment row env timing avtpTimestamp rxEnforceE2e fragment).server := by
  have hreject : ∀ {srv' : MockServer σ}, SameStores srv srv' → ∃ request,
      CallEffect srv env.streamId env.byteBusId request (srv'.rejectFragment row).result
        (srv'.rejectFragment row).server :=
    fun h => ⟨[], .other (by simp [rejectFragment]) (.of_eq h.endpoints h.sequencers h.streams)⟩
  unfold dispatchFinalFragment
  dsimp only
  split
  · exact hreject (.refl srv)
  split
  · exact hreject (.refl srv)
  split
  · exact hreject (.refl srv)
  split
  · exact hreject (.refl srv)
  split
  · exact dispatchReassembled_effect (.setReasm srv _ _)
  · exact hreject (.setReasm srv _ _)

theorem dispatchE2eFragmentWith_effect {avtpTimestamp : UInt32} {fragment : Octets} :
    ∃ request, CallEffect srv env.streamId env.byteBusId request
      (srv.dispatchE2eFragmentWith env timing avtpTimestamp fragment).result
      (srv.dispatchE2eFragmentWith env timing avtpTimestamp fragment).server := by
  unfold dispatchE2eFragmentWith
  split
  · exact ⟨[], .other (by simp) (.refl srv)⟩
  split
  · exact ⟨_, dispatchPlain_effect (.refl srv)⟩
  split
  · exact ⟨_, dispatchPlain_effect (.refl srv)⟩
  split
  · exact ⟨[], .other (by simp) (.refl srv)⟩
  split
  · exact ⟨_, dispatchE2eWith_effect⟩
  split
  · exact ⟨[], dispatchIntermediateFragment_effect⟩
  split
  · exact ⟨_, dispatchE2eWith_effect⟩
  · exact dispatchFinalFragment_effect

/-- No entry point does anything else. -/
theorem call_effect (srv : MockServer σ) (c : DispatchCall) :
    ∃ request, (∀ r, srv.delivered c = some r → request = r) ∧
      CallEffect srv c.env.streamId c.env.byteBusId request (srv.call c).result (srv.call c).server := by
  cases c with
  | dispatch env request => exact ⟨request, fun r hr => Option.some.inj hr, dispatchPlain_effect (.refl srv)⟩
  | dispatchTscf env timing tscfReservedAllZero request =>
    refine ⟨request, fun r hr => Option.some.inj hr, ?_⟩
    simp only [call, dispatchTscf, DispatchCall.env]
    split
    · split
      · exact .other (by simp) (.refl srv)
      · have h := @dispatchPlain_effect σ srv srv { env with avtpSubtype := avtpSubtypeNtscf } { timing with tv := false }
          request (.refl srv)
        exact h
    · exact dispatchPlain_effect (.refl srv)
  | dispatchE2e env avtpTimestamp request => exact ⟨_, fun r hr => Option.some.inj hr, dispatchE2eWith_effect⟩
  | dispatchE2eTscf env timing request => exact ⟨_, fun r hr => Option.some.inj hr, dispatchE2eWith_effect⟩
  | dispatchE2eFragment env avtpTimestamp fragment =>
    obtain ⟨request, h⟩ := @dispatchE2eFragmentWith_effect σ srv env {} avtpTimestamp fragment
    exact ⟨request, by simp [delivered], h⟩
  | dispatchE2eFragmentTscf env timing fragment =>
    obtain ⟨request, h⟩ := @dispatchE2eFragmentWith_effect σ srv env timing timing.avtpTimestamp fragment
    exact ⟨request, by simp [delivered], h⟩

end CallEffect
end MockServer
end Rcp
