import Rcp.MockRun
import Rcp.Theorems.Dispatch

/-! Un-admission: a Timed request without time synchronisation, and a compound request without access to its
    sequencer, are stored first and then taken out again by their transaction number. -/

namespace Rcp

/-- The two stores hold the same requests in the same slots. -/
def Endpoint.SameEntries (ep ep' : Endpoint) : Prop :=
  ∀ j, (ep.pending j).inUse = true ∨ (ep'.pending j).inUse = true → ep'.pending j = ep.pending j

/-- The search for the transaction number of a request stored at the first free slot stops there, unless a
    request below carries the number too. -/
theorem Endpoint.cancelSingle_storeAt_iff {ep : Endpoint} {i : SlotIx} {slot : Pending}
    (hi : ep.firstFree = some i) (hu : slot.inUse = true) :
    SameEntries ep ((ep.storeAt i slot).cancelSingle slot.transactionNum .queued).2 ↔
      ∀ j < i, (ep.pending j).transactionNum ≠ slot.transactionNum := by
  obtain ⟨hfree, hbelow⟩ := firstFree_eq_some.mp hi
  rw [cancelSingle_endpoint]
  constructor
  · intro hsame j hj htn
    -- The lowest such `j` is where the search stops, and its request is gone.
    cases hfind : (ep.storeAt i slot).findTransaction slot.transactionNum with
    | none =>
      unfold findTransaction at hfind
      rw [Fin.find?_eq_none_iff] at hfind
      have := hfind i
      simp [hu] at this
    | some k =>
      obtain ⟨-, hlow⟩ := findTransaction_eq_some.mp hfind
      have hkj : k ≤ j := by
        by_contra hkj
        have hjk : j < k := lt_of_not_ge hkj
        have := hlow j hjk
        rw [storeAt_pending, Function.update_of_ne hj.ne] at this
        exact this (hbelow j hj) htn
      have hki : k < i := lt_of_le_of_lt hkj hj
      have hk := hsame k (Or.inl (hbelow k hki))
      simp only [hfind, if_true, releaseSlot_pending, Function.update_self] at hk
      have hused := hbelow k hki
      rw [← hk] at hused
      cases hused
  · intro hclear
    have hfind : (ep.storeAt i slot).findTransaction slot.transactionNum = some i := by
      refine findTransaction_eq_some.mpr ⟨by simp [hu], ?_⟩
      intro j hj _
      rw [storeAt_pending, Function.update_of_ne hj.ne]
      exact hclear j hj
    simp only [hfind, if_true]
    intro j hj
    by_cases hji : j = i
    · subst hji
      simp [hfree] at hj
    · simp [hji]

namespace MockServer
variable {σ : Type} {srv : MockServer σ}

/-- The arguments `dispatch` and `dispatch_tscf` hand to `dispatch_plain`. -/
def plainArgs (srv : MockServer σ) : DispatchCall → Option (Envelope × TscfTiming × Octets)
  | .dispatch env request => some (env, {}, request)
  | .dispatchTscf env timing tscfReservedAllZero request =>
    if env.avtpSubtype = avtpSubtypeTscf ∧ tscfReservedAllZero then
      if srv.tscfUnsupportedTimeSyncPolicy = .drop then none
      else some ({ env with avtpSubtype := avtpSubtypeNtscf }, { timing with tv := false }, request)
    else some (env, timing, request)
  | _ => none

theorem call_eq_dispatchPlain {c : DispatchCall} {env : Envelope} {timing : TscfTiming} {request : Octets}
    (h : srv.plainArgs c = some (env, timing, request)) : srv.call c = srv.dispatchPlain env timing request := by
  cases c with
  | dispatch env' request' =>
    cases h
    rfl
  | dispatchTscf env' timing' z request' =>
    simp only [plainArgs] at h
    simp only [call, dispatchTscf]
    split at h
    · rename_i hz
      rw [if_pos hz]
      split at h
      · cases h
      · rename_i hd
        cases h
        rw [if_neg hd]
    · rename_i hz
      cases h
      rw [if_neg hz]
  | dispatchE2e | dispatchE2eTscf | dispatchE2eFragment | dispatchE2eFragmentTscf => cases h

/-- The call gets as far as the store of endpoint `e`: `rcp_server_endpoint_admit_with_ack` answers `r` and
    leaves `queue`. -/
structure Reaches (srv : MockServer σ) (env : Envelope) (timing : TscfTiming) (request : Octets) (e : EndpointIx)
    (r : AdmitResult) (queue : Endpoint) : Prop where
  accepted : srv.accepts env = .accept
  found : srv.findSlotOnStream env.streamId env.byteBusId = some e
  admitted : (srv.endpoints e).queue.admitWithAck request 0 (srv.effectiveTiming env timing).tv
    (srv.effectiveTiming env timing).avtpTimestamp (srv.effectiveTiming env timing).gptpReferenceNow = (r, queue)

theorem Reaches.dispatchPlain {env : Envelope} {timing : TscfTiming} {request : Octets} {e : EndpointIx}
    {r : AdmitResult} {queue : Endpoint} (h : Reaches srv env timing request e r queue) :
    (srv.dispatchPlain env timing request).result =
        (srv.dispatchAdmit e env (srv.effectiveTiming env timing) request).result ∧
      (srv.dispatchPlain env timing request).server =
        (srv.dispatchAdmit e env (srv.effectiveTiming env timing) request).server := by
  simp only [MockServer.dispatchPlain, dispatchPlainInner, h.accepted, h.found, and_self]

/-- A request that is rejected after it has been stored leaves the store as it was exactly if no request in a
    slot below the first free one carries its transaction number. -/
theorem unadmission_same_entries_iff {c : DispatchCall} {env : Envelope} {timing : TscfTiming} {request : Octets}
    {e : EndpointIx} {r : AdmitResult} {queue : Endpoint} {i : SlotIx}
    (hc : srv.plainArgs c = some (env, timing, request)) (hreach : Reaches srv env timing request e r queue)
    (hstored : r.outcome = .pending ∧ r.index = some i)
    (hreason : r.requestType = RequestType.timed ∧ env.timeSyncSupported = false ∨
      srv.sequencerAccess (queue.pending i) env.streamId ≠ .ok) :
    (srv.call c).result = .rejected ∧ (srv.endpoints e).queue.firstFree = some i ∧
    ((srv.endpoints e).queue.SameEntries ((srv.call c).server.endpoints e).queue ↔
      ∀ j < i, ((srv.endpoints e).queue.pending j).transactionNum ≠ (Acf.unpackHeader request).transactionNum) := by
  obtain ⟨hp, hindex⟩ := hstored
  have hadm := Endpoint.admitWithAck_admits (srv.endpoints e).queue request 0 (srv.effectiveTiming env timing).tv
    (srv.effectiveTiming env timing).avtpTimestamp (srv.effectiveTiming env timing).gptpReferenceNow
  rw [hreach.admitted] at hadm
  obtain ⟨k, slot, hindex', hi, hf, rfl, hrt, hk⟩ := Endpoint.admits_pending_store hadm hp
  obtain rfl : k = i := Option.some.inj (hindex'.symm.trans hindex)
  have hslot : ((srv.endpoints e).queue.storeAt k slot).pending k = slot := by simp
  rw [hslot, ← hrt] at hreason
  rw [call_eq_dispatchPlain hc, hreach.dispatchPlain.1, hreach.dispatchPlain.2]
  rcases dispatchAdmit_pending hreach.admitted hp hindex hrt with ⟨hn, -, -⟩ | ⟨hn, hr, hs⟩
  · exact absurd hreason hn
  refine ⟨hr, hi, ?_⟩
  have hkind := unadmittable_kind hn hk
  have hstd : slot.kind ≠ .standard := by rcases hkind with h | h | h <;> simp [h]
  have hcan : slot.kind ≠ .cancellation := by rcases hkind with h | h | h <;> simp [h]
  rw [hs.endpoints, setQueue_self, Endpoint.cancelSingle_storeAt_iff hi hf.inUse, hf.transactionNum hstd hcan]

/-! ### Runs that reach the defect and one that does not -/

/-- The calls that bring a server with one enabled endpoint, on bus 1, into service. -/
def bringUp : List (MockOp Unit) :=
  [.transition .hwConfigured (some {}) {} true,
   .transition .rcpConfigured (some {}) { viaDiscoveryStream := true } true,
   .addEndpoint 1 true none]

/-- An NTSCF frame for bus 1 on stream 9, at a server without time synchronisation. -/
def bus1 (acfMsgType : UInt8) : Envelope :=
  { byteBusId := 1, avtpSubtype := avtpSubtypeNtscf, acfMsgType := acfMsgType, timeSyncSupported := false, streamId := 9 }

/-- A triggered request with transaction number 7. -/
def triggered7 : Octets := [0x1A, 0x04, 0x00, 0x01, 0x00, 0x07, 0x80, 0x00, 0x0E, 2, 3, 0, 0, 0, 0, 0]
/-- Timed requests with transaction numbers 7 and 8. -/
def timed7 : Octets := [0x1A, 0x04, 0x00, 0x01, 0x00, 0x07, 0x80, 0x00, 0x0A, 0, 0, 0, 0, 0, 0, 6]
def timed8 : Octets := [0x1A, 0x04, 0x00, 0x01, 0x00, 0x08, 0x80, 0x00, 0x0A, 0, 0, 0, 0, 0, 0, 6]

/-- The server with the triggered request pending in slot 0. -/
def triggeredPending : MockServer Unit :=
  (MockServer.new ()).run (bringUp ++ [.call (.dispatch (bus1 Acf.msgTypeGbb) triggered7)])

theorem unadmission_same_entries_iff_timed8 :
    (triggeredPending.call (.dispatch (bus1 Acf.msgTypeGbb) timed8)).result = .rejected ∧
    (triggeredPending.endpoints 0).queue.firstFree = some 1 ∧
    ((triggeredPending.endpoints 0).queue.SameEntries
        ((triggeredPending.call (.dispatch (bus1 Acf.msgTypeGbb) timed8)).server.endpoints 0).queue ↔
      ∀ j < (1 : SlotIx), ((triggeredPending.endpoints 0).queue.pending j).transactionNum ≠
        (Acf.unpackHeader timed8).transactionNum) :=
  unadmission_same_entries_iff rfl ⟨by decide +kernel, by decide +kernel, rfl⟩
    ⟨by decide +kernel, by decide +kernel⟩ (Or.inl ⟨by decide +kernel, rfl⟩)

/-- The Timed request is rejected, and it is the pending triggered request that has gone. -/
theorem unadmission_removes_other_request :
    ¬∀ (ops : List (MockOp Unit)) (env : Envelope) (request : Octets) (e : EndpointIx) (r : AdmitResult)
        (queue : Endpoint),
      Reaches ((MockServer.new ()).run ops) env {} request e r queue → r.outcome = .pending →
      r.requestType = RequestType.timed → env.timeSyncSupported = false →
      (((MockServer.new ()).run ops).endpoints e).queue.SameEntries
        ((((MockServer.new ()).run ops).call (.dispatch env request)).server.endpoints e).queue := by
  intro h
  have hsame := h (bringUp ++ [.call (.dispatch (bus1 Acf.msgTypeGbb) triggered7)]) (bus1 Acf.msgTypeGbb) timed7 0 _ _
    ⟨by decide +kernel, by decide +kernel, rfl⟩ (by decide +kernel) (by decide +kernel) rfl
  have hslot := hsame 0 (Or.inl (by decide +kernel))
  exact absurd hslot (by decide +kernel)

end MockServer
end Rcp
