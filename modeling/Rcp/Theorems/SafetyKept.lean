import Rcp.Theorems.HandedOn
import Rcp.Theorems.Kept
import Rcp.Theorems.Select
import Rcp.Theorems.Unadmission

/-! Safety-tagged requests: which of the reactions that sweep or edit a request store can take one out. -/

namespace Rcp

namespace Pending

/-- A stored request with the safety MSB. -/
def safety (slot : Pending) : Bool := slot.inUse && RequestType.isSafety slot.requestType

/-- The request in `a` is still there. -/
structure Persists (a b : Pending) : Prop where
  inUse : b.inUse = a.inUse
  kind : b.kind = a.kind
  requestType : b.requestType = a.requestType
  transactionNum : b.transactionNum = a.transactionNum
  sequence : b.sequence = a.sequence
  frame : b.frame = a.frame

/-- A stored request is no clear-all and no clear-single. -/
def Harmless (slot : Pending) : Prop :=
  slot.inUse = true → slot.requestType ≠ RequestType.clearAll ∧ slot.requestType ≠ RequestType.clearSingle

/-- The request in `a` is still there; or it was not safety-tagged, unless `may`, and it has left the slot to nothing
    or to a harmless request. -/
def Spared (may : Prop) (a b : Pending) : Prop := Persists a b ∨ (a.safety = true → may) ∧ b.Harmless

variable {a b c : Pending} {may : Prop}

theorem Persists.refl (a : Pending) : Persists a a := ⟨rfl, rfl, rfl, rfl, rfl, rfl⟩

theorem Persists.trans (h : Persists a b) (h' : Persists b c) : Persists a c where
  inUse := h'.inUse.trans h.inUse
  kind := h'.kind.trans h.kind
  requestType := h'.requestType.trans h.requestType
  transactionNum := h'.transactionNum.trans h.transactionNum
  sequence := h'.sequence.trans h.sequence
  frame := h'.frame.trans h.frame

theorem Persists.of_sameRequest (h : SameRequest a b) : Persists a b := by
  rw [h]
  exact ⟨rfl, rfl, rfl, rfl, rfl, rfl⟩

theorem Persists.safety (h : Persists a b) : b.safety = a.safety := by
  rw [Pending.safety, Pending.safety, h.inUse, h.requestType]

theorem Persists.harmless (h : Persists a b) (ha : a.Harmless) : b.Harmless := by
  intro hu
  rw [h.requestType]
  exact ha (h.inUse.symm.trans hu)

theorem harmless_of_free (h : a.inUse = false) : a.Harmless := by
  intro hu
  rw [h] at hu
  cases hu

theorem safety_of_free (h : a.inUse = false) : a.safety = false := by
  rw [safety, h, Bool.false_and]

theorem Spared.trans (h : Spared may a b) (h' : Spared may b c) : Spared may a c := by
  rcases h' with hbc | ⟨hmay', hc⟩
  · rcases h with hab | ⟨hmay, hb⟩
    · exact Or.inl (hab.trans hbc)
    · exact Or.inr ⟨hmay, hbc.harmless hb⟩
  · rcases h with hab | ⟨hmay, -⟩
    · exact Or.inr ⟨fun hs => hmay' (hab.safety.trans hs), hc⟩
    · exact Or.inr ⟨hmay, hc⟩

theorem Spared.harmless (h : Spared may a b) (ha : a.Harmless) : b.Harmless := by
  rcases h with h | ⟨-, h⟩
  · exact h.harmless ha
  · exact h

theorem Spared.persists (h : Spared may a b) (hs : a.safety = true) (hmay : ¬may) : Persists a b := by
  rcases h with h | ⟨h, -⟩
  · exact h
  · exact absurd (h hs) hmay

theorem tagged_persists (slot : Pending) (chainGroup : UInt32) (chainPosition : Nat) :
    Persists slot (slot.tagged chainGroup chainPosition) := by
  obtain ⟨hu, hk, ht, hn, hs, hf⟩ := Persists.of_sameRequest (predecessorFinished_sameRequest slot 0)
  exact ⟨hu, hk, ht, hn, hs, hf⟩

theorem setRepeatCount_persists (slot : Pending) (n : UInt16) : Persists slot (slot.setRepeatCount n) := by
  unfold setRepeatCount
  split <;> exact ⟨rfl, rfl, rfl, rfl, rfl, rfl⟩

theorem rearm_persists (slot : Pending) (now : UInt32) : Persists slot (slot.rearm now) := ⟨rfl, rfl, rfl, rfl, rfl, rfl⟩

/-- A completion leaves a request for its next repetition, or none. -/
theorem completed_persists {slot : Pending} {now : UInt32} (h : (slot.completed now).inUse = true) :
    Persists slot (slot.completed now) := by
  unfold completed at *
  cases hn : slot.repeatCount? with
  | none =>
    rw [hn] at h
    cases h
  | some n =>
    rw [hn] at h
    dsimp only at h ⊢
    by_cases hinf : n = repeatInfinite
    · rw [if_pos hinf]
      exact rearm_persists slot now
    rw [if_neg hinf] at h ⊢
    by_cases hzero : n = 0
    · rw [if_pos hzero] at h
      cases h
    · rw [if_neg hzero]
      exact (setRepeatCount_persists slot (n - 1)).trans (rearm_persists _ now)

end Pending

namespace Endpoint

/-- No safety-tagged request leaves the store, but from the slots `may` names, and what is new in it is harmless. -/
def Spares (may : SlotIx → Prop) (ep ep' : Endpoint) : Prop := ∀ i, Pending.Spared (may i) (ep.pending i) (ep'.pending i)

namespace Spares
variable {ep ep' ep'' : Endpoint} {may : SlotIx → Prop} {i : SlotIx}

theorem of_eq (h : ep'.pending = ep.pending) : Spares may ep ep' := by
  intro i
  rw [h]
  exact Or.inl (.refl _)

theorem trans (h : Spares may ep ep') (h' : Spares may ep' ep'') : Spares may ep ep'' := fun i => (h i).trans (h' i)

theorem of_sameRequest (h : ∀ i, Pending.SameRequest (ep.pending i) (ep'.pending i)) : Spares may ep ep' :=
  fun i => Or.inl (.of_sameRequest (h i))

theorem releaseSlot (h : (ep.pending i).safety = true → may i) : Spares may ep (ep.releaseSlot i) := by
  intro j
  rw [releaseSlot_pending]
  by_cases hj : j = i
  · subst hj
    rw [Function.update_self]
    exact Or.inr ⟨h, Pending.harmless_of_free rfl⟩
  · rw [Function.update_of_ne hj]
    exact Or.inl (.refl _)

theorem setSlot {slot : Pending} (h : Pending.Spared (may i) (ep.pending i) slot) : Spares may ep (ep.setSlot i slot) := by
  intro j
  rw [setSlot_pending]
  by_cases hj : j = i
  · subst hj
    rw [Function.update_self]
    exact h
  · rw [Function.update_of_ne hj]
    exact Or.inl (.refl _)

theorem storeAt {slot : Pending} (hi : ep.firstFree = some i) (hslot : slot.Harmless) :
    Spares may ep (ep.storeAt i slot) := by
  intro j
  rw [storeAt_pending]
  by_cases hj : j = i
  · subst hj
    rw [Function.update_self]
    refine Or.inr ⟨fun hs => ?_, hslot⟩
    rw [Pending.safety_of_free (firstFree_free hi)] at hs
    cases hs
  · rw [Function.update_of_ne hj]
    exact Or.inl (.refl _)

/-- The purges of the safe state and the clear-non-safestate keep every safety-tagged request. -/
theorem purgeNonSafety (ep : Endpoint) : Spares may ep ep.purgeNonSafety.2 := by
  intro i
  simp only [Endpoint.purgeNonSafety, releaseWhere_pending, purged]
  split
  · rename_i hdrop
    refine Or.inr ⟨fun hs => ?_, Pending.harmless_of_free rfl⟩
    simp_all [Pending.safety, e2eWatchdogPurgeShouldKeep]
  · exact Or.inl (.refl _)

theorem selectDue (ep : Endpoint) (ctx : TickCtx) : Spares may ep (ep.selectDue ctx).2 := by
  refine of_sameRequest fun i => ?_
  rw [selectDue_endpoint, withPending_pending]
  exact Pending.swept_sameRequest _ _ _

theorem notifyTrigger (ep : Endpoint) (sourceEp signalNr : UInt8) : Spares may ep (ep.notifyTrigger sourceEp signalNr).2 := by
  refine of_sameRequest fun i => ?_
  rw [notifyTrigger_endpoint, withPending_pending]
  exact Pending.notified_sameRequest _ _ _

theorem applyCancellation {requestType : UInt8} (hall : requestType ≠ RequestType.clearAll)
    (hsingle : requestType ≠ RequestType.clearSingle) (ep : Endpoint) (request : Octets) (byteBusId : ByteBusId) :
    Spares may ep (MockServer.applyCancellation ep requestType request byteBusId).2 := by
  unfold MockServer.applyCancellation
  rw [if_neg hall, if_neg hsingle]
  split
  · exact purgeNonSafety ep
  · exact of_eq rfl

/-- A completion takes out no request but its own. -/
theorem complete (ctx : TickCtx) (h : (ep.pending i).safety = true → may i) : Spares may ep (ep.complete i ctx).2.1 := by
  cases hused : (ep.pending i).inUse with
  | false =>
    rw [complete_of_free ctx (fun k hk => by rwa [Fin.ext hk])]
    exact of_eq rfl
  | true =>
    rw [complete_endpoint ctx hused]
    by_cases hstays : ((ep.pending i).completed ctx.now).inUse = true
    · rw [if_pos hstays]
      exact setSlot (Or.inl (Pending.completed_persists hstays))
    · rw [if_neg hstays]
      exact releaseSlot h

theorem tagLastPending (ep : Endpoint) (chainGroup : UInt32) (chainPosition : Nat) :
    Spares may ep (Rcp.tagLastPending ep chainGroup chainPosition) := by
  intro i
  rw [MockServer.tagLastPending_pending]
  split
  · exact Or.inl (Pending.tagged_persists _ _ _)
  · exact Or.inl (.refl _)

end Spares

/-! ### Admission -/

variable {ep : Endpoint} {may : SlotIx → Prop} {i j : SlotIx} {slot : Pending} {frame : Octets} {now : UInt32} {tv : Bool}

/-- The opcode an admission reports is the one the request carries. -/
theorem admitWithAck_requestType (ep : Endpoint) (frame : Octets) (now : UInt32) (tv : Bool) (avtpTimestamp : UInt32)
    (gptpReferenceNow : UInt64) :
    (ep.admitWithAck frame now tv avtpTimestamp gptpReferenceNow).1.requestType = 0 ∨
      compoundPeekRequestType frame = .ok (ep.admitWithAck frame now tv avtpTimestamp gptpReferenceNow).1.requestType := by
  have hgate : ∀ {gate : UInt64} {kind : SchedKind} {requestType : UInt8},
      (ep.admitUnderTscfGate frame now gate kind requestType).1.requestType = 0 := by
    intro gate kind requestType
    unfold admitUnderTscfGate
    split <;> rfl
  have hstd : ∀ {gate : UInt64}, (ep.admitStandard frame now tv gate).1.requestType = 0 := by
    intro gate
    unfold admitStandard
    split
    · exact hgate
    · split <;> rfl
  have hcond : ∀ {gate : UInt64} {kind : SchedKind} {requestType : UInt8},
      (ep.admitConditional frame now tv gate kind requestType).1.requestType = requestType := by
    intro gate kind requestType
    unfold admitConditional
    split
    · rfl
    · split <;> rfl
  unfold admitWithAck
  generalize (if tv then avtpExtendTimestamp avtpTimestamp gptpReferenceNow else 0) = gate
  dsimp only
  split
  · exact Or.inl rfl
  split
  · exact Or.inl rfl
  cases hpeek : compoundPeekRequestType frame with
  | error err => exact Or.inl hstd
  | ok requestType =>
    dsimp only
    split
    · exact Or.inl hstd
    · split <;> exact Or.inr rfl
    · rw [hcond]
      exact Or.inr rfl

/-- The search for the number of a request that has just been stored stops at it, or where it stops without it. -/
theorem findTransaction_storeAt (hu : slot.inUse = true)
    (hj : (ep.storeAt i slot).findTransaction slot.transactionNum = some j) :
    j = i ∨ j < i ∧ ep.findTransaction slot.transactionNum = some j := by
  rw [findTransaction_eq_some, storeAt_pending] at hj
  obtain ⟨⟨hused, htn⟩, hlow⟩ := hj
  rcases lt_trichotomy j i with hji | hji | hji
  · rw [Function.update_of_ne hji.ne] at hused htn
    refine Or.inr ⟨hji, findTransaction_eq_some.mpr ⟨⟨hused, htn⟩, fun k hk hku => ?_⟩⟩
    have hki : k ≠ i := (hk.trans hji).ne
    have hk' := hlow k hk
    rw [Function.update_of_ne hki] at hk'
    exact hk' hku
  · exact Or.inl hji
  · have hself := hlow i hji
    rw [Function.update_self] at hself
    exact absurd rfl (hself hu)

/-- Un-admission takes out what the search for the transaction number finds first. -/
theorem Spares.unadmitted (hi : ep.firstFree = some i) (hu : slot.inUse = true)
    (hown : ∀ j < i, ep.findTransaction slot.transactionNum = some j → (ep.pending j).safety = false)
    (hslot : slot.Harmless) :
    Spares may ep ((ep.storeAt i slot).cancelSingle slot.transactionNum .queued).2 := by
  rw [cancelSingle_endpoint]
  cases hfind : (ep.storeAt i slot).findTransaction slot.transactionNum with
  | none => exact .storeAt hi hslot
  | some k =>
    dsimp only
    rw [if_pos rfl]
    rcases findTransaction_storeAt hu hfind with rfl | ⟨hki, hfind'⟩
    · intro j
      rw [releaseSlot_pending, storeAt_pending, Function.update_idem]
      by_cases hj : j = k
      · subst hj
        rw [Function.update_self]
        refine Or.inr ⟨fun hs => ?_, Pending.harmless_of_free rfl⟩
        rw [Pending.safety_of_free (firstFree_free hi)] at hs
        cases hs
      · rw [Function.update_of_ne hj]
        exact Or.inl (.refl _)
    · refine (Spares.storeAt hi hslot).trans (.releaseSlot fun hs => ?_)
      rw [storeAt_pending, Function.update_of_ne hki.ne, hown k hki hfind'] at hs
      cases hs

end Endpoint

namespace MockServer
variable {σ : Type} {srv srv' srv'' : MockServer σ} {e k : EndpointIx} {may : SlotIx → Prop}

/-- Endpoint `e` stays registered, or unregistered, and its store is spared. -/
structure Spares (e : EndpointIx) (may : SlotIx → Prop) (srv srv' : MockServer σ) : Prop where
  registered : (srv'.endpoints e).inUse = (srv.endpoints e).inUse
  store : Endpoint.Spares may (srv.endpoints e).queue (srv'.endpoints e).queue

namespace Spares

theorem of_eq (h : srv'.endpoints e = srv.endpoints e) : Spares e may srv srv' := ⟨by rw [h], .of_eq (by rw [h])⟩

theorem refl (srv : MockServer σ) : Spares e may srv srv := of_eq rfl

theorem trans (h : Spares e may srv srv') (h' : Spares e may srv' srv'') : Spares e may srv srv'' :=
  ⟨h'.registered.trans h.registered, h.store.trans h'.store⟩

theorem mono {may' : SlotIx → Prop} (h : Spares e may srv srv') (hmay : ∀ i, may i → may' i) : Spares e may' srv srv' :=
  ⟨h.registered, fun i => (h.store i).imp id fun hgone => ⟨fun hs => hmay i (hgone.1 hs), hgone.2⟩⟩

theorem setEndpoint {slot : MockEndpoint σ} (hu : k = e → slot.inUse = (srv.endpoints e).inUse)
    (hstore : k = e → Endpoint.Spares may (srv.endpoints e).queue slot.queue) : Spares e may srv (srv.setEndpoint k slot) := by
  by_cases hk : e = k
  · subst hk
    have hself : (srv.setEndpoint e slot).endpoints e = slot := Function.update_self ..
    exact ⟨by rw [hself, hu rfl], by rw [hself]; exact hstore rfl⟩
  · exact of_eq (Function.update_of_ne hk ..)

theorem setQueue {queue : Endpoint} (hstore : k = e → Endpoint.Spares may (srv.endpoints e).queue queue) :
    Spares e may srv (srv.setQueue k queue) := by
  refine setEndpoint (fun hk => ?_) hstore
  rw [hk]

theorem onSlot (found : Option EndpointIx) {f : MockEndpoint σ → MockEndpoint σ}
    (hf : ∀ slot, (f slot).inUse = slot.inUse ∧ (f slot).queue.pending = slot.queue.pending) :
    Spares e may srv (srv.onSlot found f).2 := by
  cases found with
  | none => exact refl srv
  | some k =>
    refine setEndpoint (fun hk => ?_) (fun hk => ?_)
    · rw [hk]
      exact (hf _).1
    · rw [hk]
      exact .of_eq (hf _).2

theorem safeStatePurge (h : SafeStatePurge srv srv') : Spares e may srv srv' := by
  rcases h.endpoints e with he | he
  · exact of_eq he
  · exact ⟨by rw [he], by rw [he]; exact .purgeNonSafety _⟩

theorem runHandler (srv : MockServer σ) (k : EndpointIx) (request : Octets) :
    Spares e may srv (srv.runHandler k request).2 := by
  unfold MockServer.runHandler
  split <;> exact of_eq rfl

theorem sameStores (h : SameStores srv srv') : Spares e may srv srv' := of_eq (by rw [h.endpoints])

theorem notifyTrigger (srv : MockServer σ) (sourceEp signalNr : UInt8) :
    Spares e may srv (srv.notifyTrigger sourceEp signalNr).2 := by
  constructor
  · simp only [MockServer.notifyTrigger]
    split <;> rfl
  · simp only [MockServer.notifyTrigger]
    split
    · exact .notifyTrigger _ _ _
    · exact .of_eq rfl

end Spares

/-! ### Dispatches -/

/-- The admission stores the request and takes out, in its place, a safety-tagged one with its transaction number. -/
def unadmitsSafety (srv : MockServer σ) (e : EndpointIx) (env : Envelope) (timing : TscfTiming) (request : Octets) : Bool :=
  let queue := (srv.endpoints e).queue
  let (r, queue') := queue.admitWithAck request 0 timing.tv timing.avtpTimestamp timing.gptpReferenceNow
  match r.index with
  | none => false
  | some i =>
    let slot := queue'.pending i
    (r.requestType == RequestType.timed && !env.timeSyncSupported || srv.sequencerAccess slot env.streamId != .ok) &&
      match queue.findTransaction slot.transactionNum with
      | none => false
      | some j => decide (j < i) && (queue.pending j).safety

/-- The request is a clear-all or a clear-single. -/
def isClear (request : Octets) : Bool :=
  match compoundPeekRequestType request with
  | .error _ => false
  | .ok requestType => requestType == RequestType.clearAll || requestType == RequestType.clearSingle

theorem isClear_false {request : Octets} {requestType : UInt8} (h : isClear request = false)
    (hpeek : compoundPeekRequestType request = .ok requestType) :
    requestType ≠ RequestType.clearAll ∧ requestType ≠ RequestType.clearSingle := by
  unfold isClear at h
  rw [hpeek] at h
  simpa using h

section Admit
variable {env : Envelope} {timing : TscfTiming} {request : Octets} {r : AdmitResult} {i : SlotIx} {slot : Pending}

theorem unadmitsSafety_false (h : srv.unadmitsSafety k env timing request = false)
    (ha : (srv.endpoints k).queue.admitWithAck request 0 timing.tv timing.avtpTimestamp timing.gptpReferenceNow =
      (r, (srv.endpoints k).queue.storeAt i slot))
    (hindex : r.index = some i) (hrt : slot.requestType = r.requestType) (hun : Unadmittable srv env slot) :
    ∀ j < i, (srv.endpoints k).queue.findTransaction slot.transactionNum = some j →
      ((srv.endpoints k).queue.pending j).safety = false := by
  intro j hj hfind
  have hreason : (r.requestType == RequestType.timed && !env.timeSyncSupported ||
      srv.sequencerAccess slot env.streamId != .ok) = true := by
    rcases hun with ⟨ht, hsync⟩ | hacc
    · simp [← hrt, ht, hsync]
    · simp [hacc]
  simpa [unadmitsSafety, ha, hindex, hreason, hfind, hj] using h

/-- An admission that stores nothing. -/
theorem finishAdmission_spares (hp : r.outcome ≠ .pending) (srv : MockServer σ) (k : EndpointIx) (byteBusId : ByteBusId)
    (hcan : r.outcome = .cancellation → k = e →
      r.requestType ≠ RequestType.clearAll ∧ r.requestType ≠ RequestType.clearSingle) :
    Spares e may srv (srv.finishAdmission k r byteBusId request).server := by
  unfold finishAdmission
  cases ho : r.outcome with
  | executeNow => exact .runHandler srv k request
  | queued => exact .refl srv
  | pending => exact absurd ho hp
  | cancellation =>
    refine .setQueue fun hk => ?_
    obtain ⟨hall, hsingle⟩ := hcan ho hk
    subst hk
    exact .applyCancellation hall hsingle _ _ _
  | rejected => exact .refl srv
  | suspended => exact .refl srv

theorem dispatchAdmit_spares (hclear : k = e → isClear request = false)
    (hown : k = e → srv.unadmitsSafety k env timing request = false) :
    Spares e may srv (srv.dispatchAdmit k env timing request).server := by
  have hadm := Endpoint.admitWithAck_admits (srv.endpoints k).queue request 0 timing.tv timing.avtpTimestamp
    timing.gptpReferenceNow
  have htype := Endpoint.admitWithAck_requestType (srv.endpoints k).queue request 0 timing.tv timing.avtpTimestamp
    timing.gptpReferenceNow
  rcases ha : (srv.endpoints k).queue.admitWithAck request 0 timing.tv timing.avtpTimestamp
    timing.gptpReferenceNow with ⟨r, queue⟩
  rw [ha] at hadm htype
  dsimp only at hadm htype
  have hopcode : k = e → r.requestType ≠ RequestType.clearAll ∧ r.requestType ≠ RequestType.clearSingle := by
    intro hk
    rcases htype with h0 | hpeek
    · rw [h0]
      exact ⟨by decide, by decide⟩
    · exact isClear_false (hclear hk) hpeek
  by_cases hp : r.outcome = .pending
  · obtain ⟨i, slot, hindex, hi, hf, rfl, hrt, -⟩ := Endpoint.admits_pending_store hadm hp
    have hharmless : k = e → slot.Harmless := fun hk _ => hrt ▸ hopcode hk
    obtain ⟨-, -, hs⟩ | ⟨hun, -, hs⟩ := dispatchAdmit_pending ha hp hindex hrt
    · refine Spares.trans (.setQueue fun hk => ?_) (.of_eq (by rw [hs.endpoints]))
      subst hk
      exact .storeAt hi (hharmless rfl)
    · refine Spares.trans (.setQueue fun hk => ?_) (.of_eq (by rw [hs.endpoints]))
      subst hk
      exact .unadmitted hi hf.inUse (unadmitsSafety_false (hown rfl) ha hindex hrt hun) (hharmless rfl)
  · have hset : Spares e may srv (srv.setQueue k queue) := by
      refine .setQueue fun hk => ?_
      subst hk
      intro i
      rcases Endpoint.admits_not_pending hadm hp i with h | ⟨h, hfree⟩
      · rw [h]
        exact Or.inl (.refl _)
      · refine Or.inr ⟨fun hs => ?_, Pending.harmless_of_free (by rw [h]; rfl)⟩
        rw [Pending.safety_of_free hfree] at hs
        cases hs
    unfold dispatchAdmit
    simp only [ha, hp, false_and, if_false, ne_eq, not_true_eq_false]
    refine Spares.trans (hset.trans ?_) (finishAdmission_spares hp _ k env.byteBusId fun _ => hopcode)
    split
    · exact .safeStatePurge (.noteOverflow _ _)
    · exact .refl _

end Admit

/-- `dispatch_plain` gets as far as an admission that takes out a safety-tagged request of endpoint `e` in the place of
    the request it rejects. -/
def plainUnadmitsSafety (srv : MockServer σ) (e : EndpointIx) : PlainArgs → Bool
  | (env, timing, request) =>
    srv.accepts env == .accept && srv.findSlotOnStream env.streamId env.byteBusId == some e &&
      srv.unadmitsSafety e env (srv.effectiveTiming env timing) request

/-- A clear-all or clear-single for endpoint `e`. -/
def plainClears (srv : MockServer σ) (e : EndpointIx) : PlainArgs → Bool
  | (env, _, request) => srv.findSlotOnStream env.streamId env.byteBusId == some e && isClear request

theorem dispatchPlain_spares {env : Envelope} {timing : TscfTiming} {request : Octets} (h : SameAdmission srv srv')
    (hclear : srv.plainClears e (env, timing, request) = false)
    (hown : srv.plainUnadmitsSafety e (env, timing, request) = false) :
    Spares e may srv (srv'.dispatchPlain env timing request).server := by
  have hacc : srv'.accepts env = srv.accepts env := by simp only [accepts, h.state, h.policy]
  have htiming : srv'.effectiveTiming env timing = srv.effectiveTiming env timing := by
    simp only [effectiveTiming, h.policy]
  have hun : ∀ k, srv'.unadmitsSafety k env (srv.effectiveTiming env timing) request =
      srv.unadmitsSafety k env (srv.effectiveTiming env timing) request := by
    intro k
    simp only [unadmitsSafety, h.endpoints, h.toSameStores.sequencerAccess]
  refine (Spares.sameStores h.toSameStores).trans ?_
  unfold dispatchPlain dispatchPlainInner
  rw [hacc, htiming, h.toSameStores.findSlotOnStream]
  simp only [plainClears, plainUnadmitsSafety] at hclear hown
  cases ha : srv.accepts env with
  | drop | reject => exact .refl srv'
  | accept =>
    cases hfind : srv.findSlotOnStream env.streamId env.byteBusId with
    | none => exact .refl srv'
    | some k =>
      refine dispatchAdmit_spares (fun hk => ?_) (fun hk => ?_)
      · subst hk
        simpa [hfind] using hclear
      · subst hk
        rw [hun]
        simpa [ha, hfind] using hown

/-! ### Ticks -/

/-- A safety-tagged request is selected in the safe state only. -/
theorem selectDue_safety {ep : Endpoint} {ctx : TickCtx} {i : SlotIx} (h : (ep.selectDue ctx).1 = some i)
    (hs : (ep.pending i).safety = true) : ctx.inSafeState = true := by
  obtain ⟨hdue, -⟩ := Endpoint.selectDue_minimal h
  have hmay := (Endpoint.due_gatesOpen hdue).mayExecute
  unfold e2eRequestMayExecute at hmay
  unfold Pending.safety at hs
  rwa [if_pos (Bool.and_eq_true_iff.mp hs).2] at hmay

/-- A tick with `ctx` selects slot `i` of endpoint `e` in the safe state. -/
def SelectsInSafeState (srv : MockServer σ) (e : EndpointIx) (ctx : TickCtx) (i : SlotIx) : Prop :=
  ctx.inSafeState = true ∧ ((srv.endpoints e).queue.selectDue (srv.tickCtx ctx)).1 = some i

theorem tickSlot_spares (hharmless : ∀ i, (srv.slot e i).Harmless) (k : EndpointIx) (byteBusId : ByteBusId) (ctx : TickCtx) :
    Spares e (fun i => k = e ∧ srv.SelectsInSafeState k ctx i) srv (srv.tickSlot k byteBusId ctx).2 := by
  rcases hanswer : (srv.tickSlot k byteBusId ctx).1 with _ | ⟨i, response⟩
  · unfold tickSlot at hanswer ⊢
    dsimp only at hanswer ⊢
    split at hanswer
    · rename_i queue hsel
      refine .setQueue fun hk => ?_
      subst hk
      have hswept := @Endpoint.Spares.selectDue (fun i => k = k ∧ srv.SelectsInSafeState k ctx i)
        (srv.endpoints k).queue { ctx with sequencers := some srv.sequencers }
      rwa [hsel] at hswept
    · cases hanswer
  · obtain ⟨hsel, hendpoints, -⟩ := tickSlot_executed hanswer
    refine Spares.trans (.setQueue fun hk => ?_) (.of_eq (by rw [hendpoints]))
    subst hk
    generalize hq : ((srv.endpoints k).queue.selectDue (srv.tickCtx ctx)).2 = queue
    have hsame : ∀ j, Pending.SameRequest (srv.slot k j) (queue.pending j) := by
      intro j
      rw [← hq, Endpoint.selectDue_endpoint, Endpoint.withPending_pending]
      exact Pending.swept_sameRequest _ _ _
    have hreleased : Endpoint.Released queue (executedQueue queue i byteBusId) := by
      unfold executedQueue
      split
      · exact .applyCancellation _ _ _ _
      · exact .refl queue
    have hexecuted : Endpoint.Spares (fun i => k = k ∧ srv.SelectsInSafeState k ctx i) queue
        (executedQueue queue i byteBusId) := by
      unfold executedQueue
      split
      · have hused : (queue.pending i).inUse = true := by
          rw [(hsame i).inUse]
          exact Endpoint.due_inUse (Endpoint.selectDue_minimal hsel).1
        obtain ⟨hall, hsingle⟩ := (Pending.Persists.of_sameRequest (hsame i)).harmless (hharmless i) hused
        exact .applyCancellation hall hsingle _ _ _
      · exact .of_eq rfl
    refine (Endpoint.Spares.of_sameRequest hsame).trans (hexecuted.trans (.complete _ fun hs => ?_))
    have hkept := hreleased.inUse (Bool.and_eq_true_iff.mp hs).1
    rw [hkept, (Pending.Persists.of_sameRequest (hsame i)).safety] at hs
    have hsafe : (srv.tickCtx ctx).inSafeState = true := selectDue_safety hsel hs
    exact ⟨rfl, hsafe, hsel⟩

end MockServer

/-! ### Runs -/

/-- The removal of endpoint `e`. -/
def MockOp.removes {σ : Type} (srv : MockServer σ) (e : EndpointIx) : MockOp σ → Bool
  | .removeEndpoint scope byteBusId => srv.lookup scope byteBusId == some e
  | _ => false

namespace Event
variable {σ : Type}

def removes (e : EndpointIx) : Event σ → Bool
  | .other srv op _ => op.removes srv e
  | _ => false

def clears (e : EndpointIx) : Event σ → Bool
  | .call srv c => (srv.handsOn c).any (srv.plainClears e)
  | _ => false

def unadmitsSafety (e : EndpointIx) : Event σ → Bool
  | .call srv c => (srv.handsOn c).any (srv.plainUnadmitsSafety e)
  | _ => false

/-- A tick that completes slot `i` of endpoint `e`, which it has selected in the safe state. -/
def CompletesInSafeState (e : EndpointIx) (i : SlotIx) : Event σ → Prop
  | .other srv (.tick scope byteBusId ctx) _ => srv.lookup scope byteBusId = some e ∧ srv.SelectsInSafeState e ctx i
  | _ => False

end Event

namespace MockServer
variable {σ : Type} {srv srv' srv'' : MockServer σ} {e k : EndpointIx} {may : SlotIx → Prop}

/-- Endpoint `e` is new, with an empty store. -/
def Added (e : EndpointIx) (srv srv' : MockServer σ) : Prop :=
  (srv.endpoints e).inUse = false ∧ ∀ i, (srv'.slot e i).inUse = false

theorem addSlot_spares {slot : MockEndpoint σ} (hslot : ∀ i, (slot.queue.pending i).inUse = false) :
    Spares e may srv (srv.orElse (srv.addSlot slot)) ∨ Added e srv (srv.orElse (srv.addSlot slot)) := by
  unfold MockServer.addSlot
  split
  · exact Or.inl (.refl srv)
  cases hfind : Fin.find? fun k => !(srv.endpoints k).inUse with
  | none => exact Or.inl (.refl srv)
  | some k =>
    by_cases hk : k = e
    · subst hk
      have hfree := (Fin.find?_eq_some_iff.mp hfind).1
      refine Or.inr ⟨by simpa using hfree, fun i => ?_⟩
      simpa [orElse, MockServer.slot, MockServer.setEndpoint] using hslot i
    · left
      exact .of_eq (by simp [orElse, MockServer.setEndpoint, Ne.symm hk])

theorem addEndpoint_spares (srv : MockServer σ) (byteBusId : ByteBusId) (epEnable : Bool) (handler : Option (Handler σ)) :
    Spares e may srv (srv.orElse (srv.addEndpoint byteBusId epEnable handler)) ∨
      Added e srv (srv.orElse (srv.addEndpoint byteBusId epEnable handler)) := by
  unfold MockServer.addEndpoint
  split
  · exact Or.inl (.refl srv)
  · exact addSlot_spares (Endpoint.init_free epEnable)

theorem addEndpointMultiResponse_spares (srv : MockServer σ) (byteBusId : ByteBusId) (epEnable : Bool)
    (handler : MultiHandler σ) :
    Spares e may srv (srv.orElse (srv.addEndpointMultiResponse byteBusId epEnable handler)) ∨
      Added e srv (srv.orElse (srv.addEndpointMultiResponse byteBusId epEnable handler)) := by
  have hadd := @addEndpoint_spares σ e may srv byteBusId epEnable none
  unfold MockServer.addEndpointMultiResponse
  cases hok : srv.addEndpoint byteBusId epEnable none with
  | error error => exact Or.inl (.refl srv)
  | ok srv' =>
    rw [hok] at hadd
    cases hfind : srv'.findSlot byteBusId with
    | none =>
      simp only [hfind]
      exact Or.inl (.refl srv)
    | some k =>
      simp only [hfind]
      have hset : Spares e may srv' (srv'.setEndpoint k { srv'.endpoints k with multiHandler := some handler }) := by
        refine .setEndpoint (fun hk => ?_) (fun hk => ?_)
        · rw [hk]
        · rw [hk]
          exact .of_eq rfl
      rcases hadd with hadd | ⟨hfree, hempty⟩
      · exact Or.inl (hadd.trans hset)
      · refine Or.inr ⟨hfree, fun i => ?_⟩
        have hq : ((srv'.setEndpoint k { srv'.endpoints k with multiHandler := some handler }).endpoints e).queue =
            (srv'.endpoints e).queue := by
          by_cases hk : e = k
          · subst hk
            simp [MockServer.setEndpoint]
          · simp [MockServer.setEndpoint, hk]
        simp only [orElse, MockServer.slot, hq]
        exact hempty i

/-- A call that is no dispatch takes a safety-tagged request out only by completing it in the safe state. -/
theorem step_spares (hharmless : ∀ i, (srv.slot e i).Harmless) {op : MockOp σ} (hop : op.dispatches = false)
    (hremove : op.removes srv e = false) :
    Spares e ((Event.other srv op hop).CompletesInSafeState e) srv (srv.step op) ∨ Added e srv (srv.step op) := by
  have hkept : ∀ {srv' : MockServer σ} {may : SlotIx → Prop}, srv'.endpoints = srv.endpoints → Spares e may srv srv' :=
    fun h => .of_eq (by rw [h])
  cases op with
  | call | dispatchFrame => cases hop
  | dispatchMultiResponse env request outCap =>
    left
    simp only [step, dispatchMultiResponse]
    split
    · exact .refl srv
    · exact .refl srv
    split
    · exact .refl srv
    split
    · exact .refl srv
    · exact hkept rfl
  | tick scope byteBusId ctx =>
    left
    simp only [step, tickScoped_eq]
    cases hlookup : srv.lookup scope byteBusId with
    | none => exact .refl srv
    | some k =>
      dsimp only
      refine (tickSlot_spares hharmless k byteBusId ctx).mono fun i hmay => ?_
      obtain ⟨hk, hsel⟩ := hmay
      subst hk
      exact ⟨hlookup, hsel⟩
  | drainEndpoint scope byteBusId =>
    left
    simp only [step]
    cases srv.lookup scope byteBusId with
    | none => exact .refl srv
    | some k =>
      obtain ⟨queue, hqueue⟩ := Endpoint.drainOne_endpoint (srv.endpoints k).queue
      have hset : ∀ {may : SlotIx → Prop}, Spares e may srv (srv.setQueue k (srv.endpoints k).queue.drainOne.2) := by
        refine .setQueue fun hk => ?_
        subst hk
        exact .of_eq (by rw [hqueue])
      simp only [MockServer.drainEndpoint]
      split
      · rename_i hdrain
        rw [hdrain] at hset
        exact hset
      · rename_i hdrain
        rw [hdrain] at hset
        exact hset.trans (.runHandler _ _ _)
  | notifyTrigger sourceEp signalNr => exact Or.inl (.notifyTrigger srv sourceEp signalNr)
  | notifyGptpLockState locked sourceEp =>
    left
    simp only [step, notifyGptpLockState]
    split
    · exact hkept rfl
    · refine Spares.trans ?_ (.notifyTrigger _ _ _)
      exact hkept rfl
  | watchdogPurge scope byteBusId => exact Or.inl (.safeStatePurge (.watchdogPurge _ _))
  | broadcastSafeState requestStreamIndex => exact Or.inl (.safeStatePurge (.broadcastSafeState _ _))
  | checkWatchdog requestStreamIndex elapsed =>
    left
    simp only [step, checkWatchdog]
    split
    · split
      · exact .refl srv
      · refine Spares.trans ?_ (.safeStatePurge (.enter _ _ _))
        exact hkept rfl
    · exact .refl srv
  | addEndpoint byteBusId epEnable handler => exact addEndpoint_spares srv byteBusId epEnable handler
  | addEndpointOnStream streamId byteBusId epEnable handler =>
    simp only [step, addEndpointOnStream]
    split
    · exact Or.inl (.refl srv)
    · exact addSlot_spares (Endpoint.init_free epEnable)
  | addEndpointMultiResponse byteBusId epEnable handler =>
    exact addEndpointMultiResponse_spares srv byteBusId epEnable handler
  | removeEndpoint scope byteBusId =>
    left
    simp only [step, removeEndpoint, MockOp.removes] at hremove ⊢
    split
    · exact .refl srv
    · rename_i k hlookup
      have hk : k ≠ e := by
        rintro rfl
        simp [hlookup] at hremove
      exact .of_eq (Function.update_of_ne (Ne.symm hk) ..)
  | setEndpointEnable => exact Or.inl (.onSlot _ fun _ => ⟨rfl, rfl⟩)
  | setEndpointReqCrcEnable => exact Or.inl (.onSlot _ fun _ => ⟨rfl, rfl⟩)
  | setEndpointRxEnforceE2e => exact Or.inl (.onSlot _ fun _ => ⟨rfl, rfl⟩)
  | stashDeferredResponse => exact Or.inl (.onSlot _ fun _ => ⟨rfl, rfl⟩)
  | takeDeferredResponse scope byteBusId =>
    left
    simp only [step, takeDeferredResponse]
    split
    · exact .refl srv
    · refine .setEndpoint (fun hk => ?_) (fun hk => ?_)
      · rw [hk]
      · rw [hk]
        exact .of_eq rfl
  | transition target snap writer allOtherEpsIdle =>
    left
    simp only [step, transition]
    split
    · exact .refl srv
    · exact hkept rfl
  | pwrmodeResume =>
    left
    simp only [step, pwrmodeResume]
    constructor
    · dsimp only
      split
      · rfl
      · rfl
    · dsimp only
      split
      · exact .of_eq rfl
      · exact .of_eq rfl
  | setEpIdMap entries =>
    left
    simp only [step, setEpIdMap]
    split
    · exact .refl srv
    · exact hkept rfl
  | setRequestStreamCfg | setSequencerCount | setSequencerOwner | setTscfUnsupportedTimeSyncPolicy
  | setStreamFaultTracker => exact Or.inl (hkept rfl)

theorem call_spares (c : DispatchCall) (hclear : (Event.call srv c).clears e = false)
    (hown : (Event.call srv c).unadmitsSafety e = false) : Spares e may srv (srv.call c).server := by
  have h := call_handedOn srv c
  simp only [Event.clears, Event.unadmitsSafety] at hclear hown
  generalize srv.handsOn c = handed at h hclear hown
  generalize (srv.call c).server = srv' at h ⊢
  cases h with
  | none h => exact .safeStatePurge h
  | plain h => exact dispatchPlain_spares h (by simpa using hclear) (by simpa using hown)

/-! ### Every run -/

/-- Endpoint `e` is registered and holds a safety-tagged request in slot `i`. -/
def HoldsSafety (srv : MockServer σ) (e : EndpointIx) (i : SlotIx) : Prop :=
  (srv.endpoints e).inUse = true ∧ (srv.slot e i).safety = true

/-- Endpoint `e` is registered and still holds the request that was in slot `i` of `srv`. -/
def StillHolds (e : EndpointIx) (i : SlotIx) (srv srv' : MockServer σ) : Prop :=
  (srv'.endpoints e).inUse = true ∧ Pending.Persists (srv.slot e i) (srv'.slot e i)

/-- Endpoint `e` still holds all its safety-tagged requests. -/
def KeepsSafety (e : EndpointIx) (srv srv' : MockServer σ) : Prop := ∀ i, srv.HoldsSafety e i → StillHolds e i srv srv'

theorem Spares.stillHolds (h : Spares e may srv srv') {i : SlotIx} (hs : srv.HoldsSafety e i) (hmay : ¬may i) :
    StillHolds e i srv srv' :=
  ⟨h.registered.trans hs.1, (h.store i).persists hs.2 hmay⟩

theorem tagMember_spares (srv : MockServer σ) (streamId : UInt64) (byteBusId : ByteBusId) (l : FrameLoop)
    (result : DispatchResult) : Spares e may srv (srv.tagMember streamId byteBusId l result) := by
  unfold tagMember
  split
  · split
    · exact .refl srv
    · refine .setQueue fun hk => ?_
      subst hk
      exact .tagLastPending _ _ _
  · exact .refl srv

theorem spares_gap : Gap (@Spares σ e fun _ => False) where
  refl := .refl
  trans _ _ _ := Spares.trans
  tagMember := tagMember_spares

theorem keepsSafety_gap : Gap (@KeepsSafety σ e) where
  refl _ _ hs := ⟨hs.1, .refl _⟩
  trans _ _ _ h h' i hs := by
    obtain ⟨hu, hp⟩ := h i hs
    obtain ⟨hu', hp'⟩ := h' i ⟨hu, hp.safety.trans hs.2⟩
    exact ⟨hu', hp.trans hp'⟩
  tagMember srv streamId byteBusId l result i hs := by
    have hspares : Spares e (fun _ => False) srv (srv.tagMember streamId byteBusId l result) :=
      tagMember_spares srv streamId byteBusId l result
    exact hspares.stillHolds hs not_false

/-- What an entry of the log can do to endpoint `e`. -/
theorem Event.spares {ev : Event σ} (hremove : ev.removes e = false) (hclear : ev.clears e = false)
    (hown : ev.unadmitsSafety e = false) (hharmless : ∀ i, (ev.before.slot e i).Harmless) :
    Spares e (ev.CompletesInSafeState e) ev.before ev.after ∨ Added e ev.before ev.after := by
  cases ev with
  | call srv c => exact Or.inl (call_spares c hclear hown)
  | gate srv streamId sequenceNum => exact Or.inl (.safeStatePurge (frameSeqGateAdmits_purge _ _ _))
  | other srv op hop => exact step_spares hharmless hop hremove

/-- In a run in which endpoint `e` is not removed, no clear-all and no clear-single is addressed to it, and no request
    is un-admitted from it while a safety-tagged one in a lower slot is the first with its transaction number, every
    safety-tagged request of `e` stays in its slot until a tick selects it in the safe state and completes it. -/
theorem safety_requests_survive (world : σ) (ops : List (MockOp σ)) (e : EndpointIx)
    (hremove : ∀ ev ∈ (new world).log ops, ev.removes e = false)
    (hclear : ∀ ev ∈ (new world).log ops, ev.clears e = false)
    (hown : ∀ ev ∈ (new world).log ops, ev.unadmitsSafety e = false) :
    Lib.Trace Event.before Event.after (KeepsSafety e) (new world) ((new world).log ops) ((new world).run ops) ∧
    ∀ ev ∈ (new world).log ops, ∀ i, ev.before.HoldsSafety e i →
      ev.CompletesInSafeState e i ∨ StillHolds e i ev.before ev.after := by
  refine ⟨keepsSafety_gap.log ops (new world), fun ev hev i hs => ?_⟩
  -- Up to this entry nothing has stored a clear-all or a clear-single.
  have hharmless : ∀ i, (ev.before.slot e i).Harmless := by
    obtain ⟨es, es', hes⟩ := List.append_of_mem hev
    have htrace := spares_gap (e := e).log ops (new world)
    rw [hes] at htrace
    refine htrace.split.1.invariant (I := fun srv => ∀ i, (srv.slot e i).Harmless) ?_ ?_ ?_
    · exact fun _ _ h hs i => (h.store i).harmless (hs i)
    · intro ev' hev' hs i
      have hmem : ev' ∈ (new world).log ops := by
        rw [hes]
        exact List.mem_append_left _ hev'
      rcases Event.spares (hremove ev' hmem) (hclear ev' hmem) (hown ev' hmem) hs with h | h
      · exact (h.store i).harmless (hs i)
      · exact Pending.harmless_of_free (h.2 i)
    · exact fun i => Pending.harmless_of_free rfl
  by_cases hdone : ev.CompletesInSafeState e i
  · exact Or.inl hdone
  · right
    rcases Event.spares (hremove ev hev) (hclear ev hev) (hown ev hev) hharmless with h | h
    · exact h.stillHolds hs hdone
    · exact absurd (h.1.symm.trans hs.1) (by simp)

/-! ### A run that keeps a safety-tagged request and one that loses it -/

/-- A safety-tagged triggered request with transaction number 7. -/
def safety7 : Octets := [0x1A, 0x04, 0x00, 0x01, 0x00, 0x07, 0x80, 0x00, 0x8E, 2, 3, 0, 0, 0, 0, 0]

def storeSafety7 : List (MockOp Unit) := bringUp ++ [.call (.dispatch (bus1 Acf.msgTypeGbb) safety7)]

/-- The request is purged around, its trigger occurs, and a tick in the safe state completes it. -/
def safetyRun : List (MockOp Unit) :=
  storeSafety7 ++
    [.watchdogPurge none 1, .call (.dispatch (bus1 Acf.msgTypeGbb) timed8), .notifyTrigger 2 3,
     .tick none 1 { endpointIdle := true, inSafeState := true }]

theorem safety_requests_survive_purge :
    ((new ()).run storeSafety7).HoldsSafety 0 0 ∧
    ∀ ev ∈ (new ()).log safetyRun, ∀ i, ev.before.HoldsSafety 0 i →
      ev.CompletesInSafeState 0 i ∨ StillHolds 0 i ev.before ev.after :=
  ⟨⟨by decide +kernel, by decide +kernel⟩,
    (safety_requests_survive () safetyRun 0 (by decide +kernel) (by decide +kernel) (by decide +kernel)).2⟩

/-- The rejection of the Timed request takes the pending safety-tagged request out. -/
theorem rejection_removes_safety_request :
    ¬∀ (ops : List (MockOp Unit)) (e : EndpointIx), (∀ ev ∈ (new ()).log ops, ev.removes e = false) →
      (∀ ev ∈ (new ()).log ops, ev.clears e = false) → ∀ ev ∈ (new ()).log ops, ∀ i, ev.before.HoldsSafety e i →
        ev.CompletesInSafeState e i ∨ StillHolds e i ev.before ev.after := by
  intro h
  have hkept := h (storeSafety7 ++ [.call (.dispatch (bus1 Acf.msgTypeGbb) timed7)]) 0 (by decide +kernel)
    (by decide +kernel) (.call ((new ()).run storeSafety7) (.dispatch (bus1 Acf.msgTypeGbb) timed7))
    (List.mem_of_getElem? (i := 4) rfl) 0 ⟨by decide +kernel, by decide +kernel⟩
  rcases hkept with hdone | ⟨-, hpersists⟩
  · exact hdone
  · exact absurd hpersists.inUse (by decide +kernel)

end MockServer
end Rcp
