import Rcp.Theorems.Deferred

/-! Cancellations their decoder rejects. Only a clear-single is decoded before it is applied. -/

namespace Rcp

/-- The opcodes of the three cancellations. -/
def isCancelOpcode (requestType : UInt8) : Prop :=
  requestType = RequestType.clearAll ∨ requestType = RequestType.clearNonSafestate ∨ requestType = RequestType.clearSingle

theorem schedClassify_cancellation {requestType : UInt8} :
    schedClassify true requestType = .cancellation ↔ isCancelOpcode requestType := by
  unfold schedClassify isCancelOpcode
  simp only [Bool.not_true, Bool.false_eq_true, if_false]
  constructor
  · intro h
    split at h
    · assumption
    · repeat' split at h
      all_goals cases h
  · intro h
    rw [if_pos h]

namespace Endpoint
variable {ep : Endpoint} {i j : SlotIx}

/-- What a clear-all or a clear-non-safestate takes out, decoded or not. -/
def sweeps (ep : Endpoint) (requestType : UInt8) (j : SlotIx) : Bool :=
  requestType == RequestType.clearAll ||
    (requestType == RequestType.clearNonSafestate && !e2eWatchdogPurgeShouldKeep (ep.pending j).requestType)

/-- A rejected clear-single takes nothing out; for the other two it makes no difference that they are rejected. -/
theorem cancelSet_rejected {requestType : UInt8} {request : Octets} (h : cancelAccepts requestType request = false)
    (j : SlotIx) : ep.cancelSet requestType request j = ep.sweeps requestType j := by
  unfold cancelSet sweeps
  by_cases hall : requestType = RequestType.clearAll
  · simp [hall]
  by_cases hnon : requestType = RequestType.clearNonSafestate
  · rw [if_neg hall, if_pos hnon, beq_eq_false_iff_ne.mpr hall, Bool.false_or, beq_iff_eq.mpr hnon, Bool.true_and]
  by_cases hsingle : requestType = RequestType.clearSingle
  · simp only [cancelAccepts, if_neg hall, if_neg hnon, if_pos hsingle] at h
    simp only [if_neg hall, if_neg hnon, if_pos hsingle, beq_eq_false_iff_ne.mpr hall, beq_eq_false_iff_ne.mpr hnon]
    cases hdec : cancelDecodeClearSingle request with
    | error err => rfl
    | ok r =>
      rw [hdec] at h
      cases h
  · simp [hall, hnon, hsingle]

end Endpoint

namespace MockServer
variable {σ : Type} {srv srv' : MockServer σ} {e : EndpointIx} {i : SlotIx}

/-- No entry has left a store. -/
def RemovesNothing (srv srv' : MockServer σ) : Prop :=
  ∀ e i, (srv.slot e i).inUse = true → (srv'.slot e i).inUse = true

/-- A cancellation is applied at once: it gets to an endpoint, and without a presentation time. -/
structure AppliesAtOnce (srv : MockServer σ) (env : Envelope) (timing : TscfTiming) (request : Octets)
    (e : EndpointIx) : Prop extends Delivers srv env e where
  untimed : (srv.effectiveTiming env timing).tv = false
  request : ¬(request.length ≥ 8 ∧ (!Acf.headerIsRequest (Acf.unpackHeader request)) = true)

/-- ... to a store with an entry that it sweeps away. -/
def AppliesHarmfully (srv : MockServer σ) (env : Envelope) (timing : TscfTiming) (request : Octets)
    (requestType : UInt8) : Prop :=
  ∃ e, srv.AppliesAtOnce env timing request e ∧
    ∃ j, (srv.slot e j).inUse = true ∧ (srv.endpoints e).queue.sweeps requestType j = true

theorem RemovesNothing.refl (srv : MockServer σ) : RemovesNothing srv srv := fun _ _ h => h

theorem RemovesNothing.queueSet {queue : Endpoint}
    (h : ∀ j, (srv.slot e j).inUse = true → (queue.pending j).inUse = true) (hs : QueueSet srv e queue srv') :
    RemovesNothing srv srv' := by
  intro e' j hu
  by_cases he : e' = e
  · subst he
    rw [hs.slot_self]
    exact h j hu
  · rw [hs.slot_other he]
    exact hu

/-! ### The immediate path -/

section Dispatch
variable {env : Envelope} {timing : TscfTiming} {request : Octets} {requestType : UInt8}

/-- An admission that refuses the request, and leaves the store alone, removes nothing. -/
theorem dispatchAdmit_refused {r : AdmitResult} (hr : r.outcome = .suspended ∨ r.outcome = .rejected)
    (herr : r.error ≠ .requestStorageOverflow)
    (ha : (srv.endpoints e).queue.admitWithAck request 0 timing.tv timing.avtpTimestamp timing.gptpReferenceNow =
      (r, (srv.endpoints e).queue)) : RemovesNothing srv (srv.dispatchAdmit e env timing request).server := by
  have hsame : RemovesNothing srv (srv.setQueue e (srv.endpoints e).queue) := .queueSet (fun _ h => h) (.intro srv e _)
  unfold dispatchAdmit
  rcases hr with hr | hr
  · simp only [ha, hr, herr, reduceCtorEq, false_and, if_false, ne_eq, not_true_eq_false, finishAdmission]
    exact hsame
  · simp only [ha, hr, herr, reduceCtorEq, false_and, if_false, ne_eq, not_true_eq_false, finishAdmission]
    exact hsame

/-- A cancellation that is not applied at once is refused, or stored for its presentation time. -/
theorem dispatchAdmit_deferred (hpeek : compoundPeekRequestType request = .ok requestType)
    (hop : isCancelOpcode requestType)
    (hnot : ¬((srv.endpoints e).queue.admissionSuspended = false ∧ timing.tv = false ∧
      ¬(request.length ≥ 8 ∧ (!Acf.headerIsRequest (Acf.unpackHeader request)) = true))) :
    RemovesNothing srv (srv.dispatchAdmit e env timing request).server := by
  have hclass := schedClassify_cancellation.mpr hop
  by_cases hsus : (srv.endpoints e).queue.admissionSuspended = true
  · refine @dispatchAdmit_refused σ srv e env timing request { outcome := .suspended } (Or.inl rfl) (by simp) ?_
    simp only [Endpoint.admitWithAck, if_pos hsus]
  by_cases hreq : request.length ≥ 8 ∧ (!Acf.headerIsRequest (Acf.unpackHeader request)) = true
  · refine @dispatchAdmit_refused σ srv e env timing request { outcome := .rejected, error := .invalidParameter }
      (Or.inr rfl) (by simp) ?_
    simp only [Endpoint.admitWithAck, if_neg hsus, if_pos hreq]
  have htv : timing.tv = true := by
    by_contra h
    exact hnot ⟨by simpa using hsus, by simpa using h, hreq⟩
  have ha : ∀ r queue, (srv.endpoints e).queue.admitUnderTscfGate request 0
        (avtpExtendTimestamp timing.avtpTimestamp timing.gptpReferenceNow) .cancellation requestType = (r, queue) →
      (srv.endpoints e).queue.admitWithAck request 0 timing.tv timing.avtpTimestamp timing.gptpReferenceNow =
        ({ r with requestType := requestType }, queue) := by
    intro r queue hgate
    simp only [Endpoint.admitWithAck, if_neg hsus, if_neg hreq, hpeek, hclass, htv, if_true, hgate]
  cases hfree : (srv.endpoints e).queue.firstFree with
  | none =>
    exact dispatchAdmit_refused (Or.inr rfl) (by simp) (ha _ _ (Endpoint.admitUnderTscfGate_full hfree _ _ _ _ _))
  | some k =>
    have hstored := ha _ _ (Endpoint.admitUnderTscfGate_free hfree _ _ _ _ _)
    rcases @dispatchAdmit_pending σ srv e env timing request _ k _ hstored rfl rfl rfl with
      ⟨-, -, hs⟩ | ⟨hun, -, -⟩
    · refine .queueSet (fun j hu => ?_) hs
      rw [Endpoint.storeAt_pending]
      by_cases hjk : j = k
      · rw [hjk, Function.update_self]
        rfl
      · rw [Function.update_of_ne hjk]
        exact hu
    · rcases unadmittable_kind hun (Or.inl hclass) with h | h | h <;> cases h

/-- A rejected cancellation removes nothing if and only if it is not applied at once to a store it sweeps. -/
theorem dispatchPlain_rejected_iff (hpeek : compoundPeekRequestType request = .ok requestType)
    (hop : isCancelOpcode requestType) (hrej : cancelAccepts requestType request = false) :
    RemovesNothing srv (srv.dispatchPlain env timing request).server ↔
      ¬srv.AppliesHarmfully env timing request requestType := by
  unfold dispatchPlain dispatchPlainInner
  cases hacc : srv.accepts env with
  | drop | reject =>
    refine iff_of_true (.refl srv) ?_
    rintro ⟨e, hat, -⟩
    exact absurd (hacc.symm.trans hat.accepted) (by simp)
  | accept =>
    cases hfind : srv.findSlotOnStream env.streamId env.byteBusId with
    | none =>
      refine iff_of_true (.refl srv) ?_
      rintro ⟨e, hat, -⟩
      exact absurd (hfind.symm.trans hat.found) (by simp)
    | some e =>
      dsimp only
      by_cases hat : (srv.endpoints e).queue.admissionSuspended = false ∧ (srv.effectiveTiming env timing).tv = false ∧
          ¬(request.length ≥ 8 ∧ (!Acf.headerIsRequest (Acf.unpackHeader request)) = true)
      · have hholds : Endpoint.HoldsCancellation { frame := request, requestType := requestType } :=
          ⟨hpeek, schedClassify_cancellation.mpr hop, hat.2.2⟩
        have heq := @dispatchAdmit_immediate σ srv e env _ (srv.effectiveTiming env timing) hholds hat.1 hat.2.1
        dsimp only at heq
        rw [heq, Endpoint.applyCancellation_eq]
        have hset := QueueSet.intro srv e ((srv.endpoints e).queue.cleared
          ((srv.endpoints e).queue.cancelSet requestType request))
        constructor
        · rintro hkeep ⟨e', hat', j, hu, hsweep⟩
          obtain rfl : e = e' := Option.some.inj (hfind.symm.trans hat'.found)
          have hu' := hkeep e j hu
          rw [hset.slot_self, Endpoint.cleared_inUse, Endpoint.cancelSet_rejected hrej, hsweep] at hu'
          simp at hu'
        · intro hnot
          refine .queueSet (fun j hu => ?_) hset
          rw [Endpoint.cleared_inUse, Endpoint.cancelSet_rejected hrej]
          have hsweep : (srv.endpoints e).queue.sweeps requestType j = false := by
            by_contra hsweep
            exact hnot ⟨e, ⟨⟨hacc, hfind, hat.1⟩, hat.2.1, hat.2.2⟩, j, hu, by simpa using hsweep⟩
          rw [hsweep]
          exact (Bool.and_true _).trans hu
      · refine iff_of_true (dispatchAdmit_deferred hpeek hop hat) ?_
        rintro ⟨e', hat', -⟩
        obtain rfl : e = e' := Option.some.inj (hfind.symm.trans hat'.found)
        exact hat ⟨hat'.admits, hat'.untimed, hat'.request⟩

end Dispatch

/-- What an E2E entry point hands to `dispatch_plain`: nothing on a faulted stream or after a CRC error. -/
def plainE2e (srv : MockServer σ) (env : Envelope) (timing : TscfTiming) (avtpTimestamp : UInt32) (request : Octets) :
    Option (Envelope × TscfTiming × Octets) :=
  if srv.streamFaulted env.streamId then none else
  match srv.findSlotOnStream env.streamId env.byteBusId with
  | none => some (env, timing, request)
  | some e =>
    if !(srv.endpoints e).reqCrcEnable then some (env, timing, request) else
    match e2eUnwrapFramed env.streamId (env.avtpSubtype == avtpSubtypeNtscf) 0 false avtpTimestamp request with
    | (.error _, _) => none
    | (.ok _, unwrapped) => some (env, timing, unwrapped)

/-- What an entry point hands to `dispatch_plain`; a fragment is left out. -/
def plainRequest (srv : MockServer σ) : DispatchCall → Option (Envelope × TscfTiming × Octets)
  | .dispatch env request => some (env, {}, request)
  | .dispatchTscf env timing tscfReservedAllZero request =>
    if env.avtpSubtype = avtpSubtypeTscf ∧ tscfReservedAllZero then
      if srv.tscfUnsupportedTimeSyncPolicy = .drop then none
      else some ({ env with avtpSubtype := avtpSubtypeNtscf }, { timing with tv := false }, request)
    else some (env, timing, request)
  | .dispatchE2e env avtpTimestamp request => srv.plainE2e env {} avtpTimestamp request
  | .dispatchE2eTscf env timing request => srv.plainE2e env timing timing.avtpTimestamp request
  | .dispatchE2eFragment .. | .dispatchE2eFragmentTscf .. => none

theorem dispatchE2eWith_plain {env env' : Envelope} {timing timing' : TscfTiming} {avtpTimestamp : UInt32}
    {request request' : Octets} (h : srv.plainE2e env timing avtpTimestamp request = some (env', timing', request')) :
    srv.dispatchE2eWith env timing avtpTimestamp request = srv.dispatchPlain env' timing' request' := by
  unfold plainE2e at h
  unfold dispatchE2eWith
  by_cases hfault : srv.streamFaulted env.streamId = true
  · rw [if_pos hfault] at h
    cases h
  rw [if_neg hfault] at h ⊢
  cases hfind : srv.findSlotOnStream env.streamId env.byteBusId with
  | none =>
    rw [hfind] at h
    cases h
    rfl
  | some e =>
    rw [hfind] at h
    dsimp only at h ⊢
    by_cases hcrc : (!(srv.endpoints e).reqCrcEnable) = true
    · rw [if_pos hcrc] at h ⊢
      cases h
      rfl
    rw [if_neg hcrc] at h ⊢
    rcases hunwrap : e2eUnwrapFramed env.streamId (env.avtpSubtype == avtpSubtypeNtscf) 0 false avtpTimestamp request with
      ⟨error | _, unwrapped⟩
    · rw [hunwrap] at h
      cases h
    · rw [hunwrap] at h
      cases h
      rfl

theorem call_plain {c : DispatchCall} {env : Envelope} {timing : TscfTiming} {request : Octets}
    (h : srv.plainRequest c = some (env, timing, request)) : srv.call c = srv.dispatchPlain env timing request := by
  cases c with
  | dispatch env' request' =>
    cases h
    rfl
  | dispatchTscf env' timing' tscfReservedAllZero request' =>
    simp only [plainRequest] at h
    simp only [call, dispatchTscf]
    split at h
    · rename_i hzero
      rw [if_pos hzero]
      split at h
      · cases h
      · rename_i hpolicy
        rw [if_neg hpolicy]
        cases h
        rfl
    · rename_i hzero
      rw [if_neg hzero]
      cases h
      rfl
  | dispatchE2e env' avtpTimestamp request' => exact dispatchE2eWith_plain h
  | dispatchE2eTscf env' timing' request' => exact dispatchE2eWith_plain h
  | dispatchE2eFragment | dispatchE2eFragmentTscf => cases h

/-! ### The deferred path -/

/-- A tick that executes slot `i` of endpoint `e` takes no other entry out of a store. -/
def RemovesOnly (srv srv' : MockServer σ) (e : EndpointIx) (i : SlotIx) : Prop :=
  ∀ e' j, (srv.slot e' j).inUse = true → (e', j) ≠ (e, i) → (srv'.slot e' j).inUse = true

theorem tick_rejected_iff {scope : Scope} {byteBusId : ByteBusId} {ctx : TickCtx} {response : Option Octets}
    (hlookup : srv.lookup scope byteBusId = some e)
    (htick : (srv.tickScoped scope byteBusId ctx).1 = some (i, response)) (hkind : (srv.slot e i).kind = .cancellation)
    (hrej : cancelAccepts (srv.slot e i).requestType (srv.slot e i).frame = false) :
    srv.RemovesOnly (srv.tickScoped scope byteBusId ctx).2 e i ↔
      ¬∃ j, j ≠ i ∧ (srv.slot e j).inUse = true ∧
        (srv.endpoints e).queue.sweeps (srv.slot e i).requestType j = true := by
  rw [tickScoped_eq, hlookup] at htick ⊢
  dsimp only at htick ⊢
  have hend := tickSlot_cancellation_store htick hkind
  have hsame := Endpoint.selectDue_sameRequest (srv.endpoints e).queue (srv.tickCtx ctx)
  generalize ((srv.endpoints e).queue.selectDue (srv.tickCtx ctx)).2 = queue at *
  have hsweeps : ∀ j, queue.sweeps (srv.slot e i).requestType j =
      (srv.endpoints e).queue.sweeps (srv.slot e i).requestType j := by
    intro j
    unfold Endpoint.sweeps
    rw [hsame j]
  have hself : ∀ j, ((srv.tickSlot e byteBusId ctx).2.slot e j).inUse =
      ((srv.slot e j).inUse && !((srv.endpoints e).queue.sweeps (srv.slot e i).requestType j || j == i)) := by
    intro j
    rw [slot, hend, setQueue_self, Endpoint.cleared_inUse, Endpoint.cancelSet_rejected hrej, hsweeps, (hsame j).inUse]
    rfl
  constructor
  · rintro hkeep ⟨j, hji, hu, hsweep⟩
    have hu' := hkeep e j hu fun h => hji (Prod.mk.inj h).2
    rw [hself, hsweep] at hu'
    simp at hu'
  · intro hnot e' j hu hne
    by_cases he : e' = e
    · subst he
      have hji : j ≠ i := fun h => hne (by rw [h])
      have hsweep : (srv.endpoints e').queue.sweeps (srv.slot e' i).requestType j = false := by
        by_contra hsweep
        exact hnot ⟨j, hji, hu, by simpa using hsweep⟩
      rw [hself, hsweep, beq_eq_false_iff_ne.mpr hji, hu]
      rfl
    · rw [slot, hend, setQueue_other _ he]
      exact hu

/-- A request with a cancellation opcode that its decoder rejects removes nothing when it is dispatched if and only
    if it is not applied at once to a store with entries that its opcode sweeps; and deferred to a tick it removes
    nothing but itself if and only if there is no such entry. -/
theorem rejected_cancellation_iff (srv : MockServer σ) (request : Octets) (requestType : UInt8)
    (hpeek : compoundPeekRequestType request = .ok requestType) (hop : isCancelOpcode requestType)
    (hrej : cancelAccepts requestType request = false) :
    (∀ c env timing, srv.plainRequest c = some (env, timing, request) →
      (srv.RemovesNothing (srv.call c).server ↔ ¬srv.AppliesHarmfully env timing request requestType)) ∧
    ∀ scope byteBusId ctx e i response, srv.lookup scope byteBusId = some e →
      (srv.tickScoped scope byteBusId ctx).1 = some (i, response) → (srv.slot e i).kind = .cancellation →
      (srv.slot e i).frame = request → (srv.slot e i).requestType = requestType →
      (srv.RemovesOnly (srv.tickScoped scope byteBusId ctx).2 e i ↔
        ¬∃ j, j ≠ i ∧ (srv.slot e j).inUse = true ∧ (srv.endpoints e).queue.sweeps requestType j = true) := by
  refine ⟨fun c env timing hc => ?_, fun scope byteBusId ctx e i response hlookup htick hkind hframe htype => ?_⟩
  · rw [call_plain hc]
    exact dispatchPlain_rejected_iff hpeek hop hrej
  · subst hframe htype
    exact tick_rejected_iff hlookup htick hkind hrej

/-- A clear-all with a reserved octet set, which its decoder rejects. -/
def clearAllReserved : Octets := [0x1A, 0x04, 0x00, 0x01, 0x00, 0x05, 0x80, 0x00, 0x05, 0, 0, 0, 0, 0, 0, 1]

/-- It is stored for its presentation time and removes nothing. -/
theorem rejected_cancellation_iff_deferred :
    triggeredPending.RemovesNothing
      (triggeredPending.call (.dispatchTscf bus1Tscf { tv := true } false clearAllReserved)).server := by
  refine ((rejected_cancellation_iff triggeredPending clearAllReserved RequestType.clearAll (by decide +kernel)
    (Or.inl rfl) (by decide +kernel)).1 (.dispatchTscf bus1Tscf { tv := true } false clearAllReserved) bus1Tscf
      { tv := true } (by decide +kernel)).mpr ?_
  rintro ⟨e, hat, -⟩
  exact absurd hat.untimed (by decide +kernel)

/-- Dispatched without a presentation time it empties the store. -/
theorem rejected_clear_all_removes :
    ¬∀ (srv : MockServer Unit) (env : Envelope) (request : Octets) (requestType : UInt8),
      compoundPeekRequestType request = .ok requestType → isCancelOpcode requestType →
      cancelAccepts requestType request = false → srv.RemovesNothing (srv.call (.dispatch env request)).server := by
  intro h
  have hkeep := h triggeredPending (bus1 Acf.msgTypeGbb) clearAllReserved RequestType.clearAll (by decide +kernel)
    (Or.inl rfl) (by decide +kernel) 0 0 (by decide +kernel)
  exact absurd hkeep (by decide +kernel)

end MockServer
end Rcp
