import Rcp.Theorems.Fragmentation
import Rcp.Theorems.SeqGate

/-! The latch of a stream: a CRC error on an endpoint that enforces end-to-end protection stops the whole stream,
    until the caller resets it. -/

namespace Rcp

/-! ### The table of latches -/

/-- The slot names this stream. -/
def StreamFaultSlot.tracks (slot : StreamFaultSlot) (streamId : UInt64) : Bool :=
  slot.used && slot.streamId == streamId

namespace StreamFaultTracker
variable {t : StreamFaultTracker} {streamId streamId' : UInt64} {i : Fin streamFaultTrackerMaxStreams}

theorem find_tracks (h : t.find streamId = some i) : (t.slots i).tracks streamId = true :=
  (Fin.find?_eq_some_iff.mp h).1

theorem find_none (h : t.find streamId = none) (i : Fin streamFaultTrackerMaxStreams) :
    (t.slots i).tracks streamId = false :=
  Fin.find?_eq_none_iff.mp h i

theorem find_update {slot : StreamFaultSlot} (h : slot.tracks streamId = (t.slots i).tracks streamId) :
    (mk (Function.update t.slots i slot)).find streamId = t.find streamId := by
  unfold find
  congr 1
  funext j
  dsimp only
  by_cases hji : j = i
  · subst hji
    rw [Function.update_self]
    exact h
  · rw [Function.update_of_ne hji]

/-- Writing a slot that names another stream, before and after, leaves the latch alone. -/
theorem isFaulted_update {slot : StreamFaultSlot} (hold : (t.slots i).tracks streamId = false)
    (hnew : slot.tracks streamId = false) :
    (mk (Function.update t.slots i slot)).isFaulted streamId = t.isFaulted streamId := by
  unfold isFaulted
  rw [find_update (hnew.trans hold.symm)]
  cases hf : t.find streamId with
  | none => rfl
  | some j =>
    have hji : j ≠ i := by
      rintro rfl
      rw [find_tracks hf] at hold
      cases hold
    dsimp only
    rw [Function.update_of_ne hji]

theorem tracks_ne {slot : StreamFaultSlot} (h : slot.tracks streamId' = true) (hne : streamId' ≠ streamId) :
    slot.tracks streamId = false := by
  obtain ⟨-, hid⟩ := Bool.and_eq_true_iff.mp h
  obtain rfl := beq_iff_eq.mp hid
  exact Bool.and_eq_false_iff.mpr (Or.inr (beq_eq_false_iff_ne.mpr hne))

theorem isFaulted_reset_of_ne (t : StreamFaultTracker) (hne : streamId' ≠ streamId) :
    (t.reset streamId').isFaulted streamId = t.isFaulted streamId := by
  unfold reset
  cases hf : t.find streamId' with
  | none => rfl
  | some i =>
    have hother := tracks_ne (find_tracks hf) hne
    exact isFaulted_update hother hother

theorem isFaulted_onCrcError_of_ne (t : StreamFaultTracker) (rxEnforceE2e : Bool) (hne : streamId' ≠ streamId) :
    (t.onCrcError streamId' rxEnforceE2e).2.isFaulted streamId = t.isFaulted streamId := by
  unfold onCrcError
  cases hf : t.find streamId' with
  | some i =>
    have hother := tracks_ne (find_tracks hf) hne
    exact isFaulted_update hother hother
  | none =>
    cases hfree : t.findFree with
    | none => rfl
    | some i =>
      have hunused : (t.slots i).used = false := by simpa using (Fin.find?_eq_some_iff.mp hfree).1
      refine isFaulted_update (by simp [StreamFaultSlot.tracks, hunused]) ?_
      exact Bool.and_eq_false_iff.mpr (Or.inr (beq_eq_false_iff_ne.mpr hne))

/-- There is a slot for the stream, its own or a free one. -/
def hasRoom (t : StreamFaultTracker) (streamId : UInt64) : Bool := (t.find streamId).isSome || t.findFree.isSome

/-- What a CRC error on the stream itself does to its latch. -/
theorem isFaulted_onCrcError (t : StreamFaultTracker) (streamId : UInt64) (rxEnforceE2e : Bool)
    (hroom : t.hasRoom streamId = true) :
    (t.onCrcError streamId rxEnforceE2e).2.isFaulted streamId =
      streamFaultOnCrcError (t.isFaulted streamId) rxEnforceE2e := by
  unfold onCrcError isFaulted
  cases hf : t.find streamId with
  | some i =>
    have hfind := @find_update t streamId i
      { t.slots i with faulted := streamFaultOnCrcError (t.slots i).faulted rxEnforceE2e } rfl
    dsimp only
    rw [hfind, hf]
    dsimp only
    rw [Function.update_self]
  | none =>
    cases hfree : t.findFree with
    | none =>
      rw [hasRoom, hf, hfree] at hroom
      cases hroom
    | some i =>
      dsimp only
      -- The slot just claimed is the only one that names the stream.
      cases hnew : (mk (Function.update t.slots i
          { used := true, streamId := streamId, faulted := streamFaultOnCrcError false rxEnforceE2e })).find streamId with
      | none =>
        have hi := find_none hnew i
        simp [StreamFaultSlot.tracks] at hi
      | some j =>
        have hj := find_tracks hnew
        by_cases hji : j = i
        · subst hji
          simp
        · dsimp only at hj
          rw [Function.update_of_ne hji, find_none hf j] at hj
          cases hj

/-- No CRC error releases a latch. -/
theorem isFaulted_onCrcError_mono (t : StreamFaultTracker) (streamId' : UInt64) (rxEnforceE2e : Bool)
    (h : t.isFaulted streamId = true) : (t.onCrcError streamId' rxEnforceE2e).2.isFaulted streamId = true := by
  by_cases hid : streamId' = streamId
  · subst hid
    have hroom : t.hasRoom streamId' = true := by
      unfold isFaulted at h
      cases hf : t.find streamId' with
      | none =>
        rw [hf] at h
        cases h
      | some i => simp [hasRoom, hf]
    rw [isFaulted_onCrcError t streamId' rxEnforceE2e hroom, h, streamFaultOnCrcError, ite_self]
  · rw [isFaulted_onCrcError_of_ne t rxEnforceE2e hid]
    exact h

end StreamFaultTracker

/-! ### A CRC error on an enforcing endpoint -/

/-- The entry points that check the latch. -/
def DispatchCall.isE2e : DispatchCall → Bool
  | .dispatch .. | .dispatchTscf .. => false
  | .dispatchE2e .. | .dispatchE2eTscf .. | .dispatchE2eFragment .. | .dispatchE2eFragmentTscf .. => true

namespace MockServer
variable {σ : Type} {srv srv' : MockServer σ} {streamId : UInt64}

theorem dispatchPlain_result (srv : MockServer σ) (env : Envelope) (timing : TscfTiming) (request : Octets) :
    (srv.dispatchPlain env timing request).result ≠ .crcError := by
  have hfinish : ∀ (srv' : MockServer σ) (e : EndpointIx) (r : AdmitResult),
      (srv'.finishAdmission e r env.byteBusId request).result ≠ .crcError := by
    intro srv' e r
    unfold finishAdmission
    split <;> simp
  have hadmit : ∀ (e : EndpointIx) (timing : TscfTiming), (srv.dispatchAdmit e env timing request).result ≠ .crcError := by
    intro e timing
    unfold dispatchAdmit
    dsimp only
    split
    · simp [ unadmit]
    have hrest : ∀ (srv' : MockServer σ) (r : AdmitResult) (access : SequencerAccess),
        (if access ≠ .ok then srv'.unadmit e (r.index.getD 0) env.byteBusId access.wireError
          else srv'.finishAdmission e r env.byteBusId request).result ≠ .crcError := by
      intro srv' r access
      split
      · simp [ unadmit]
      · exact hfinish srv' e r
    exact hrest _ _ _
  unfold dispatchPlain dispatchPlainInner
  dsimp only
  split
  · simp
  · simp
  · split
    · simp
    · exact hadmit _ _

/-- The notes of a dispatch that ends in a CRC error begin with it. -/
def ReportsCrcError (srv : MockServer σ) (env : Envelope) (ns : List StreamNote) : Prop :=
  ∃ e ns', srv.findSlotOnStream env.streamId env.byteBusId = some e ∧
    ns = .crcError (srv.endpoints e).rxEnforceE2e :: ns'

theorem dispatchE2eWith_crcError {env : Envelope} {timing : TscfTiming} {avtpTimestamp : UInt32} {request : Octets}
    (h : (srv.dispatchE2eWith env timing avtpTimestamp request).result = .crcError) :
    srv.ReportsCrcError env (srv.e2eNotes env timing avtpTimestamp request) := by
  unfold dispatchE2eWith at h
  unfold e2eNotes
  cases hfault : srv.streamFaulted env.streamId with
  | true =>
    rw [hfault] at h
    cases h
  | false =>
  rw [hfault] at h
  cases hfind : srv.findSlotOnStream env.streamId env.byteBusId with
  | none =>
    rw [hfind] at h
    exact absurd h (dispatchPlain_result srv env timing request)
  | some e =>
  rw [hfind] at h
  dsimp only at h ⊢
  cases hcrc : (srv.endpoints e).reqCrcEnable with
  | false =>
    rw [hcrc] at h
    exact absurd h (dispatchPlain_result srv env timing request)
  | true =>
  rw [hcrc] at h
  rcases hunwrap : e2eUnwrapFramed env.streamId (env.avtpSubtype == avtpSubtypeNtscf) 0 false avtpTimestamp request with
    ⟨error | ok, unwrapped⟩
  · exact ⟨e, [], hfind, rfl⟩
  · rw [hunwrap] at h
    exact absurd h (dispatchPlain_result srv env timing unwrapped)

theorem dispatchReassembled_crcError {row : StreamIx} {env : Envelope} {timing : TscfTiming} {avtpTimestamp : UInt32}
    {rxEnforceE2e : Bool} {final : FinalFragment} {got : UInt32} {reasm : Reassembler} {reassembled : Octets}
    (h : ((srv.setReasm row reasm).dispatchReassembled row env timing avtpTimestamp rxEnforceE2e final got
      reassembled).result = .crcError) :
    srv.reassembledNotes row env timing avtpTimestamp rxEnforceE2e final got reassembled =
      [.crcError rxEnforceE2e, .lastFragment] := by
  unfold dispatchReassembled at h
  unfold reassembledNotes
  have hheader : (srv.setReasm row reasm).fragFirstHeader = srv.fragFirstHeader := rfl
  dsimp only at h ⊢
  rw [hheader] at h
  generalize e2eComputeFragmentedCrc _ _ _ = want at h ⊢
  by_cases hgot : got = want
  · rw [if_neg (not_not.mpr hgot)] at h
    cases hencode : final.reencode reassembled with
    | none =>
      rw [hencode] at h
      dsimp only at h
      split at h
      · cases h
      · exact absurd h (dispatchPlain_result _ env timing [])
    | some encoded =>
      rw [hencode] at h
      exact absurd h (dispatchPlain_result _ env timing encoded)
  · rw [if_pos hgot]

theorem dispatchFinalFragment_crcError {row : StreamIx} {env : Envelope} {timing : TscfTiming} {avtpTimestamp : UInt32}
    {rxEnforceE2e : Bool} {fragment : Octets}
    (h : (srv.dispatchFinalFragment row env timing avtpTimestamp rxEnforceE2e fragment).result = .crcError) :
    srv.finalNotes row env timing avtpTimestamp rxEnforceE2e fragment = [.crcError rxEnforceE2e, .lastFragment] := by
  unfold finalNotes
  obtain ⟨-, reasm, -, heq⟩ | ⟨final, got, reasm, hmsg, -, heq⟩ :=
    dispatchFinalFragment_cases srv row env timing avtpTimestamp rxEnforceE2e fragment <;> rw [heq] at h
  · cases h
  · rw [hmsg]
    exact dispatchReassembled_crcError h

theorem dispatchE2eFragmentWith_crcError {env : Envelope} {timing : TscfTiming} {avtpTimestamp : UInt32}
    {fragment : Octets} (h : (srv.dispatchE2eFragmentWith env timing avtpTimestamp fragment).result = .crcError) :
    srv.ReportsCrcError env (srv.fragmentNotes env timing avtpTimestamp fragment) := by
  unfold dispatchE2eFragmentWith at h
  unfold fragmentNotes
  cases hfault : srv.streamFaulted env.streamId with
  | true =>
    rw [hfault] at h
    cases h
  | false =>
  rw [hfault] at h
  cases hfind : srv.findSlotOnStream env.streamId env.byteBusId with
  | none =>
    rw [hfind] at h
    exact absurd h (dispatchPlain_result srv env timing fragment)
  | some e =>
  rw [hfind] at h
  dsimp only at h ⊢
  cases hcrc : (srv.endpoints e).reqCrcEnable with
  | false =>
    rw [hcrc] at h
    exact absurd h (dispatchPlain_result srv env timing fragment)
  | true =>
  rw [hcrc] at h
  simp only [Bool.not_true, Bool.false_eq_true, if_false] at h ⊢
  by_cases hlen : fragment.length < 8
  · rw [if_pos hlen] at h
    cases h
  rw [if_neg hlen] at h ⊢
  cases hrow : srv.requestStreamCfg.resolveRow env.streamId with
  | none =>
    rw [hrow] at h
    exact dispatchE2eWith_crcError h
  | some row =>
    rw [hrow] at h
    dsimp only at h ⊢
    by_cases hms : (Acf.unpackHeader fragment).ms = 0
    · rw [if_neg (not_not.mpr hms)] at h ⊢
      cases hcol : (srv.fragReasm row).collecting with
      | false =>
        rw [hcol] at h
        exact dispatchE2eWith_crcError h
      | true =>
        rw [hcol] at h
        exact ⟨e, [.lastFragment], hfind, dispatchFinalFragment_crcError h⟩
    · rw [if_pos hms] at h
      unfold dispatchIntermediateFragment at h
      dsimp only at h
      split at h
      · cases h
      · split at h <;> cases h

theorem call_crcError {c : DispatchCall} (h : (srv.call c).result = .crcError) :
    srv.ReportsCrcError c.env (srv.callNotes c) := by
  cases c with
  | dispatch env request => exact absurd h (dispatchPlain_result srv env {} request)
  | dispatchTscf env timing tscfReservedAllZero request =>
    unfold call dispatchTscf at h
    dsimp only at h
    split at h
    · split at h
      · cases h
      · exact absurd h (dispatchPlain_result srv _ _ request)
    · exact absurd h (dispatchPlain_result srv env timing request)
  | dispatchE2e | dispatchE2eTscf => exact dispatchE2eWith_crcError h
  | dispatchE2eFragment | dispatchE2eFragmentTscf => exact dispatchE2eFragmentWith_crcError h

/-! ### The latch over a run -/

theorem streamFaulted_notes {t : StreamSide} {tracker : StreamFaultTracker} (streamId' : UInt64) (ns : List StreamNote)
    (ht : t.faults = some tracker) (h : tracker.isFaulted streamId = true) :
    ∃ tracker', (t.notes streamId' ns).faults = some tracker' ∧ tracker'.isFaulted streamId = true := by
  induction ns generalizing t tracker with
  | nil => exact ⟨tracker, ht, h⟩
  | cons n ns ih =>
    have hfaults : (t.note streamId' n).faults = (t.noteFault streamId' n).faults := by
      unfold StreamSide.note
      split <;> rfl
    cases n with
    | crcError rxEnforceE2e =>
      refine ih (hfaults.trans ?_) (tracker.isFaulted_onCrcError_mono streamId' rxEnforceE2e h)
      rw [StreamSide.noteFault, ht]
      rfl
    | _ => exact ih (hfaults.trans ht) h

theorem streamFaulted_iff : srv.streamFaulted streamId = true ↔
    ∃ tracker, srv.streamSide.faults = some tracker ∧ tracker.isFaulted streamId = true := by
  unfold streamFaulted streamSide
  cases srv.streamFaultTracker with
  | none => simp
  | some tracker => simp

/-- The stream of the call has a CRC error, on an endpoint that enforces end-to-end protection. -/
structure EnforcedMismatch (srv : MockServer σ) (c : DispatchCall) : Prop where
  result : (srv.call c).result = .crcError
  enforced : ∃ e, srv.findSlotOnStream c.env.streamId c.env.byteBusId = some e ∧ (srv.endpoints e).rxEnforceE2e = true

/-- The installed tracker has a slot for the stream. -/
def canLatch (srv : MockServer σ) (streamId : UInt64) : Bool := srv.streamFaultTracker.any (·.hasRoom streamId)

theorem EnforcedMismatch.latches {c : DispatchCall} (h : srv.EnforcedMismatch c)
    (hroom : srv.canLatch c.env.streamId = true) : (srv.call c).server.streamFaulted c.env.streamId = true := by
  obtain ⟨e, hfind, henf⟩ := h.enforced
  obtain ⟨e', ns, hfind', hns⟩ := call_crcError h.result
  obtain rfl : e = e' := Option.some.inj (hfind.symm.trans hfind')
  obtain ⟨tracker, htracker, hroom⟩ : ∃ tracker, srv.streamFaultTracker = some tracker ∧
      tracker.hasRoom c.env.streamId = true := by
    unfold canLatch at hroom
    cases ht : srv.streamFaultTracker with
    | none =>
      rw [ht] at hroom
      cases hroom
    | some tracker =>
      rw [ht] at hroom
      exact ⟨tracker, rfl, hroom⟩
  rw [streamFaulted_iff, call_streamSide, hns, henf, StreamSide.notes, List.foldl_cons]
  refine @streamFaulted_notes _ (srv.streamSide.note c.env.streamId (.crcError true))
    (tracker.onCrcError c.env.streamId true).2 c.env.streamId ns ?_ ?_
  · unfold StreamSide.note StreamSide.noteFault
    split <;> exact congrArg (Option.map _) htracker
  · rw [StreamFaultTracker.isFaulted_onCrcError tracker _ true hroom]
    rfl

end MockServer

/-- The caller, who owns the tracker, may report CRC errors to it and reset other streams, but neither resets this
    stream nor puts another tracker in its place. -/
def Event.sparesLatch {σ : Type} (streamId : UInt64) : Event σ → Prop
  | .other srv (.setStreamFaultTracker tracker) _ =>
    (∃ streamId', streamId' ≠ streamId ∧ tracker = srv.streamFaultTracker.map (·.reset streamId')) ∨
    ∃ streamId' rxEnforceE2e,
      tracker = srv.streamFaultTracker.map fun tracker => (tracker.onCrcError streamId' rxEnforceE2e).2
  | _ => True

namespace MockServer
variable {σ : Type} {srv srv' : MockServer σ} {streamId : UInt64}

theorem step_faults (srv : MockServer σ) {op : MockOp σ} (hop : op.dispatches = false)
    (hset : ∀ tracker, op ≠ .setStreamFaultTracker tracker) : (srv.step op).streamFaultTracker = srv.streamFaultTracker := by
  obtain h | ⟨requestStreamIndex, elapsed, rfl⟩ | ⟨entries, rfl⟩ | ⟨tracker, rfl⟩ := step_streamSide srv hop
  · exact congrArg StreamSide.faults h
  · refine (congrArg StreamSide.faults (checkWatchdog_streamSide srv requestStreamIndex elapsed)).trans ?_
    split <;> rfl
  · rfl
  · exact absurd rfl (hset tracker)

/-- No event but a reset of the stream releases its latch. -/
theorem after_streamFaulted {e : Event σ} (he : e.sparesLatch streamId) (h : e.before.streamFaulted streamId = true) :
    e.after.streamFaulted streamId = true := by
  obtain ⟨tracker, ht, hf⟩ := streamFaulted_iff.mp h
  cases e with
  | call srv c =>
    rw [streamFaulted_iff, Event.after, call_streamSide]
    exact streamFaulted_notes c.env.streamId _ ht hf
  | gate srv streamId' sequenceNum =>
    rw [streamFaulted_iff, Event.after, frameSeqGateAdmits_streamSide]
    exact streamFaulted_notes streamId' [.frame sequenceNum] ht hf
  | other srv op hop =>
    by_cases hset : ∃ tracker', op = .setStreamFaultTracker tracker'
    · obtain ⟨tracker', rfl⟩ := hset
      have hbefore : srv.streamFaultTracker = some tracker := ht
      rw [streamFaulted_iff]
      rcases he with ⟨streamId', hne, rfl⟩ | ⟨streamId', rxEnforceE2e, rfl⟩
      · refine ⟨tracker.reset streamId', congrArg (Option.map _) hbefore, ?_⟩
        rw [tracker.isFaulted_reset_of_ne hne, hf]
      · exact ⟨_, congrArg (Option.map _) hbefore, tracker.isFaulted_onCrcError_mono streamId' rxEnforceE2e hf⟩
    · push Not at hset
      have hkept := step_faults srv hop hset
      exact streamFaulted_iff.mpr ⟨tracker, hkept.trans ht, hf⟩

theorem streamFaulted_congr (h : SameSides srv srv') (hf : srv.streamFaulted streamId = true) :
    srv'.streamFaulted streamId = true := by
  rw [streamFaulted_iff] at hf ⊢
  rw [h.streams]
  exact hf

/-! ### What a latched stream still does -/

/-- An entry point that checks the latch turns the request away and leaves the server as it is. -/
theorem call_streamFaulted {c : DispatchCall} (hc : c.isE2e = true) (h : srv.streamFaulted c.env.streamId = true) :
    (srv.call c).result = .streamFaulted ∧ (srv.call c).server = srv := by
  have he2e : ∀ (env : Envelope) (timing : TscfTiming) (ts : UInt32) (request : Octets),
      srv.streamFaulted env.streamId = true → (srv.dispatchE2eWith env timing ts request).result = .streamFaulted ∧
        (srv.dispatchE2eWith env timing ts request).server = srv := by
    intro env timing ts request h
    unfold dispatchE2eWith
    rw [if_pos h]
    exact ⟨rfl, rfl⟩
  have hfragment : ∀ (env : Envelope) (timing : TscfTiming) (ts : UInt32) (fragment : Octets),
      srv.streamFaulted env.streamId = true → (srv.dispatchE2eFragmentWith env timing ts fragment).result = .streamFaulted ∧
        (srv.dispatchE2eFragmentWith env timing ts fragment).server = srv := by
    intro env timing ts fragment h
    unfold dispatchE2eFragmentWith
    rw [if_pos h]
    exact ⟨rfl, rfl⟩
  cases c with
  | dispatch | dispatchTscf => cases hc
  | dispatchE2e | dispatchE2eTscf => exact he2e _ _ _ _ h
  | dispatchE2eFragment | dispatchE2eFragmentTscf => exact hfragment _ _ _ _ h

/-- The members of a frame are turned away one by one. -/
theorem foldl_frameMember_streamFaulted {kind : FrameKind} {env : FrameEnvelope} (hkind : kind ≠ .plain)
    (h : srv.streamFaulted env.streamId = true) (members : List Octets) :
    ∀ l : FrameLoop, (members.foldl (frameMember kind env) (srv, l)).1 = srv := by
  have hturn : ∀ (l : FrameLoop) (member : Octets), (frameMember kind env (srv, l) member).1 = srv := by
    intro l member
    unfold frameMember
    dsimp only
    rcases hverdict : memberVerdict env l member with ⟨_ | out | menv, l'⟩
    · rfl
    · rfl
    · have hstream := memberVerdict_streamId hverdict
      have hcall : (srv.call (kind.memberCall menv member)).result = .streamFaulted ∧
          (srv.call (kind.memberCall menv member)).server = srv := by
        cases kind with
        | plain => exact absurd rfl hkind
        | e2e | e2eTscf => exact call_streamFaulted rfl (by rw [← hstream] at h; exact h)
      dsimp only
      rw [hcall.1, hcall.2]
      rfl
  induction members with
  | nil => exact fun _ => rfl
  | cons member members ih =>
    intro l
    rw [List.foldl_cons, ← Prod.eta (frameMember kind env (srv, l) member), hturn l member]
    exact ih _

/-- A frame on a latched stream gets no further than the sequence gate. -/
theorem dispatchFrameWith_streamFaulted {kind : FrameKind} {env : FrameEnvelope} (hkind : kind ≠ .plain)
    (h : srv.streamFaulted env.streamId = true) (frame : Octets) (outCap : Nat) :
    (dispatchFrameWith kind srv env frame outCap).2 = srv ∨
      (dispatchFrameWith kind srv env frame outCap).2 = (srv.frameSeqGateAdmits env.streamId env.sequenceNum).2 := by
  have hgate : (srv.frameSeqGateAdmits env.streamId env.sequenceNum).2.streamFaulted env.streamId = true :=
    after_streamFaulted (e := .gate srv env.streamId env.sequenceNum) trivial h
  unfold dispatchFrameWith
  rcases schedSplitFrameMembers frame with _ | _ | ⟨offset, offsets⟩
  · exact Or.inl rfl
  · exact Or.inl rfl
  right
  dsimp only
  generalize srv.frameSeqGateAdmits env.streamId env.sequenceNum = gate at hgate ⊢
  obtain ⟨_ | _, srv'⟩ := gate
  · rfl
  · exact foldl_frameMember_streamFaulted hkind hgate _ {}

/-- Once a CRC error on an enforcing endpoint of the stream has found room in the tracker, every later request on the
    stream that comes through an end-to-end entry point is turned away and changes nothing, until the stream is
    reset; a frame of them gets no further than the sequence gate, which can only purge. And no other stream's
    errors or resets change the latch. -/
theorem stream_latch (srv : MockServer σ) (ops : List (MockOp σ)) (es es' : List (Event σ)) (hit : MockServer σ)
    (c : DispatchCall) (hlog : srv.log ops = es ++ .call hit c :: es') (hhit : hit.EnforcedMismatch c)
    (hroom : hit.canLatch c.env.streamId = true) (hspare : ∀ e ∈ es', e.sparesLatch c.env.streamId) :
    (∀ later c', .call later c' ∈ es' → c'.isE2e = true → c'.env.streamId = c.env.streamId →
      (later.call c').result = .streamFaulted ∧ (later.call c').server = later) ∧
    (∀ kind env frame outCap, kind ≠ .plain → env.streamId = c.env.streamId →
      SafeStatePurge (srv.run ops) (dispatchFrameWith kind (srv.run ops) env frame outCap).2 ∧
      ((srv.run ops).gateEntersSafeState env.streamId env.sequenceNum = false →
        (dispatchFrameWith kind (srv.run ops) env frame outCap).2.endpoints = (srv.run ops).endpoints)) ∧
    ∀ (tracker : StreamFaultTracker) (streamId' : UInt64), streamId' ≠ c.env.streamId →
      (tracker.reset streamId').isFaulted c.env.streamId = tracker.isFaulted c.env.streamId ∧
      ∀ rxEnforceE2e, (tracker.onCrcError streamId' rxEnforceE2e).2.isFaulted c.env.streamId =
        tracker.isFaulted c.env.streamId := by
  have hlogs := log_logs ops srv
  rw [hlog] at hlogs
  have hrest := hlogs.split.2
  have hlatched := hhit.latches hroom
  have hkeep : ∀ {later : MockServer σ} {es'' : List (Event σ)}, Logs (hit.call c).server es'' later →
      (∀ e ∈ es'', e ∈ es') → later.streamFaulted c.env.streamId = true := by
    intro later es'' h hsub
    exact h.invariant (fun _ _ => streamFaulted_congr) (fun e he => after_streamFaulted (hspare e (hsub e he))) hlatched
  refine ⟨fun later c' hmem he2e hstream => ?_, fun kind env frame outCap hkind hstream => ?_, ?_⟩
  · obtain ⟨es₁, es₂, rfl⟩ := List.append_of_mem hmem
    have hfaulted := hkeep hrest.split.1 fun e he => List.mem_append_left _ he
    exact call_streamFaulted he2e (by rw [hstream]; exact hfaulted)
  · have hfaulted : (srv.run ops).streamFaulted env.streamId = true := by
      rw [hstream]
      exact hkeep hrest fun e he => he
    rcases dispatchFrameWith_streamFaulted hkind hfaulted frame outCap with h | h <;> rw [h]
    · exact ⟨.refl _, fun _ => rfl⟩
    · exact ⟨frameSeqGateAdmits_purge _ _ _, frameSeqGateAdmits_endpoints⟩
  · intro tracker streamId' hne
    exact ⟨tracker.isFaulted_reset_of_ne hne, fun rxEnforceE2e => tracker.isFaulted_onCrcError_of_ne rxEnforceE2e hne⟩

/-- An ACF_ABB message for bus 1, on the given stream and without a CRC. -/
def unprotected (streamId : UInt64) : DispatchCall :=
  .dispatchE2e { bus1On9 Acf.msgTypeAbb with streamId := streamId } 0 [0x1C, 2, 0, 1, 0, 1, 0x80, 0]

/-- The same message with its CRC, on stream 16. -/
def protected16 : DispatchCall :=
  .dispatchE2e { bus1On9 Acf.msgTypeAbb with streamId := 16 } 0
    ((e2eWrapFramed 16 true 0 false 0 [0x1C, 2, 0, 1, 0, 1, 0x80, 0]).getD [])

theorem stream_latch_nine :
    (latchedServer.call (unprotected 9)).result = .streamFaulted ∧
      (latchedServer.call (unprotected 9)).server = latchedServer :=
  (stream_latch protectedServer [.call (unprotected 9), .call (unprotected 9)] [] [.call latchedServer (unprotected 9)]
    protectedServer (unprotected 9) rfl ⟨by decide +kernel, 0, by decide +kernel, by decide +kernel⟩ (by decide +kernel)
    (by rintro e he; obtain rfl := List.mem_singleton.mp he; trivial)).1 latchedServer (unprotected 9)
    (List.mem_singleton_self _) rfl rfl

/-- A server whose sixteen latches are taken by other streams. -/
def crowdedServer : MockServer (List Octets) :=
  protectedServer.run ((List.range 16).map fun i => .call (unprotected (UInt64.ofNat i)))

/-- The seventeenth stream with a CRC error goes on as if nothing had happened. -/
theorem crowded_stream_runs :
    ¬∀ (srv : MockServer (List Octets)) (ops : List (MockOp (List Octets))) (es es' : List (Event (List Octets)))
        (hit : MockServer (List Octets)) (c : DispatchCall),
      srv.log ops = es ++ .call hit c :: es' → hit.streamFaultTracker.isSome = true → hit.EnforcedMismatch c →
      (∀ e ∈ es', e.sparesLatch c.env.streamId) →
      ∀ later c', .call later c' ∈ es' → c'.isE2e = true → c'.env.streamId = c.env.streamId →
        (later.call c').server.world = later.world := by
  intro h
  have hworld := h crowdedServer [.call (unprotected 16), .call protected16] []
    [.call (crowdedServer.call (unprotected 16)).server protected16] crowdedServer (unprotected 16) rfl
    (by decide +kernel) ⟨by decide +kernel, 0, by decide +kernel, by decide +kernel⟩
    (by rintro e he; obtain rfl := List.mem_singleton.mp he; trivial) _ _ (List.mem_singleton_self _) rfl rfl
  exact absurd hworld (by decide +kernel)

end MockServer
end Rcp
