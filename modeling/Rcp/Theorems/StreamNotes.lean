import Rcp.Theorems.Quiet

/-! What the server notes about a request stream, and what becomes of the stream's state with each note.

    The tables of a server change by these notes and by no other means, so a property of a stream over a whole
    run is a property of the notes the run makes about it. -/

namespace Rcp

/-- What the server keeps in one row of the arrays beside the request-stream table. -/
structure StreamState where
  tracker : SeqTracker := {}
  status : StreamStatus := {}
  reasm : Reassembler := .init 65536
  firstHeader : Octets := []
deriving DecidableEq, Repr

/-- A thing that happens to a stream. -/
inductive StreamNote where
  | frame (sequenceNum : UInt8)
  | crcError (rxEnforceE2e : Bool)
  | overflow
  | watchdog (elapsedSinceLastKickMs : UInt64)
  | fragment (segmentNum : UInt16) (header payload : Octets)
  | lastFragment
deriving DecidableEq, Repr

def StreamState.note (cfg : RequestStreamCfg) (st : StreamState) : StreamNote → StreamState
  | .frame sequenceNum =>
    let (result, tracker) := e2eSeqEvaluate st.tracker cfg.rxEnforceSeq cfg.rxSeqSafestateEnable sequenceNum
    { st with tracker := tracker, status := st.status.noteSeq result }
  | .crcError rxEnforceE2e => { st with status := st.status.noteCrcError rxEnforceE2e }
  | .overflow => { st with status := st.status.noteOverflow cfg.rxOvrflwSafestateEnable }
  | .watchdog elapsed =>
    let result := e2eWdEvaluate cfg.rxWdEnable cfg.rxWdTimeoutMs cfg.rxWdSafestateEnable cfg.rxWdInfoEnable elapsed
    { st with status := st.status.noteWd result }
  | .fragment segmentNum header payload =>
    let (result, reasm) := st.reasm.feed true segmentNum payload
    { st with
      firstHeader := if st.reasm.collecting then st.firstHeader else header
      reasm := if result = .continue then reasm else reasm.reset }
  | .lastFragment => { st with reasm := st.reasm.reset }

namespace StreamSide

def state (t : StreamSide) (row : StreamIx) : StreamState where
  tracker := t.seqTracker row
  status := t.status row
  reasm := t.reasm row
  firstHeader := t.firstHeader row

def setState (t : StreamSide) (row : StreamIx) (st : StreamState) : StreamSide :=
  { t with
    seqTracker := Function.update t.seqTracker row st.tracker
    status := Function.update t.status row st.status
    reasm := Function.update t.reasm row st.reasm
    firstHeader := Function.update t.firstHeader row st.firstHeader }

def noteRow (t : StreamSide) (row : StreamIx) (n : StreamNote) : StreamSide :=
  t.setState row ((t.state row).note (t.cfg.rows row) n)

/-- The fault tracker is keyed by stream id and hears of a CRC error whether the stream has a row or not. -/
def noteFault (t : StreamSide) (streamId : UInt64) : StreamNote → StreamSide
  | .crcError rxEnforceE2e =>
    { t with faults := t.faults.map fun tracker => (tracker.onCrcError streamId rxEnforceE2e).2 }
  | _ => t

def note (streamId : UInt64) (t : StreamSide) (n : StreamNote) : StreamSide :=
  match t.cfg.resolveRow streamId with
  | none => t.noteFault streamId n
  | some row => (t.noteFault streamId n).noteRow row n

def notes (streamId : UInt64) (t : StreamSide) (ns : List StreamNote) : StreamSide := ns.foldl (note streamId) t

theorem setState_state (t : StreamSide) (row : StreamIx) (st : StreamState) : (t.setState row st).state row = st := by
  simp [setState, state]

theorem setState_state_of_ne (t : StreamSide) {row row' : StreamIx} (st : StreamState) (h : row' ≠ row) :
    (t.setState row st).state row' = t.state row' := by
  simp [setState, state, h]

end StreamSide

namespace MockServer
variable {σ : Type}

/-! ### The notes of a dispatch -/

/-- The admission finds the request store full. -/
def overflows (srv : MockServer σ) (env : Envelope) (timing : TscfTiming) (request : Octets) : Bool :=
  match srv.accepts env, srv.findSlotOnStream env.streamId env.byteBusId with
  | .accept, some e =>
    let timing := srv.effectiveTiming env timing
    let r := ((srv.endpoints e).queue.admitWithAck request 0 timing.tv timing.avtpTimestamp timing.gptpReferenceNow).1
    decide (¬(r.outcome = .pending ∧ r.requestType = RequestType.timed ∧ !env.timeSyncSupported) ∧
      r.error = .requestStorageOverflow)
  | _, _ => false

def plainNotes (srv : MockServer σ) (env : Envelope) (timing : TscfTiming) (request : Octets) : List StreamNote :=
  if srv.overflows env timing request then [.overflow] else []

def e2eNotes (srv : MockServer σ) (env : Envelope) (timing : TscfTiming) (avtpTimestamp : UInt32) (request : Octets) :
    List StreamNote :=
  if srv.streamFaulted env.streamId then [] else
  match srv.findSlotOnStream env.streamId env.byteBusId with
  | none => srv.plainNotes env timing request
  | some e =>
    if !(srv.endpoints e).reqCrcEnable then srv.plainNotes env timing request else
    match e2eUnwrapFramed env.streamId (env.avtpSubtype == avtpSubtypeNtscf) 0 false avtpTimestamp request with
    | (.error _, _) => [.crcError (srv.endpoints e).rxEnforceE2e]
    | (.ok _, unwrapped) => srv.plainNotes env timing unwrapped

def intermediateNotes (acfMsgType : UInt8) (fragment : Octets) : List StreamNote :=
  match fragmentPayload acfMsgType fragment with
  | none => []
  | some payload =>
    [.fragment (Acf.unpackHeader fragment).readSizeOrSegmentNum
      (fragment.take (if acfMsgType = Acf.msgTypeGbb then Acf.gbbHeaderLen else Acf.abbHeaderLen)) payload]

/-- After a whole reassembly the notes are those of the message it makes. -/
def reassembledNotes (srv : MockServer σ) (row : StreamIx) (env : Envelope) (timing : TscfTiming)
    (avtpTimestamp : UInt32) (rxEnforceE2e : Bool) (final : FinalFragment) (got : UInt32) (reassembled : Octets) :
    List StreamNote :=
  let effectiveTs := if env.avtpSubtype = avtpSubtypeNtscf then 0 else avtpTimestamp
  let want := e2eComputeFragmentedCrc
    { avtpSubtype := env.avtpSubtype, streamId := env.streamId, avtpTimestamp := effectiveTs }
    (srv.fragFirstHeader row) reassembled
  if got ≠ want then [.crcError rxEnforceE2e, .lastFragment] else
  .lastFragment ::
    match final.reencode reassembled with
    | none => if reassembled.length ≠ 0 then [] else srv.plainNotes env timing []
    | some encoded => srv.plainNotes env timing encoded

/-- The message a final fragment completes: its last part, the CRC it came with, and all its octets. -/
def finalMessage (srv : MockServer σ) (row : StreamIx) (env : Envelope) (avtpTimestamp : UInt32) (fragment : Octets) :
    Option (FinalFragment × UInt32 × Reassembler) :=
  let peekHdr := Acf.unpackHeader fragment
  if fragment.length < e2eCrcLen then none else
  if peekHdr.pad.toNat > fragment.length - e2eCrcLen then none else
  let got := getU32 fragment (fragment.length - e2eCrcLen - peekHdr.pad.toNat)
  match e2eUnwrapFramed env.streamId (env.avtpSubtype == avtpSubtypeNtscf) 0 false avtpTimestamp fragment with
  | (.error .shortFrame, _) => none
  | (_, unwrapped) =>
    match finalFragment env.acfMsgType unwrapped with
    | none => none
    | some final =>
      match (srv.fragReasm row).feed false 0 final.payload with
      | (.complete, reasm) => some (final, got, reasm)
      | _ => none

def finalNotes (srv : MockServer σ) (row : StreamIx) (env : Envelope) (timing : TscfTiming)
    (avtpTimestamp : UInt32) (rxEnforceE2e : Bool) (fragment : Octets) : List StreamNote :=
  match srv.finalMessage row env avtpTimestamp fragment with
  | none => [.lastFragment]
  | some (final, got, reasm) => srv.reassembledNotes row env timing avtpTimestamp rxEnforceE2e final got reasm.buf

def fragmentNotes (srv : MockServer σ) (env : Envelope) (timing : TscfTiming) (avtpTimestamp : UInt32)
    (fragment : Octets) : List StreamNote :=
  if srv.streamFaulted env.streamId then [] else
  match srv.findSlotOnStream env.streamId env.byteBusId with
  | none => srv.plainNotes env timing fragment
  | some e =>
    if !(srv.endpoints e).reqCrcEnable then srv.plainNotes env timing fragment else
    if fragment.length < 8 then [] else
    match srv.requestStreamCfg.resolveRow env.streamId with
    | none => srv.e2eNotes env timing avtpTimestamp fragment
    | some row =>
      if (Acf.unpackHeader fragment).ms ≠ 0 then intermediateNotes env.acfMsgType fragment else
      if !(srv.fragReasm row).collecting then srv.e2eNotes env timing avtpTimestamp fragment else
      srv.finalNotes row env timing avtpTimestamp (srv.endpoints e).rxEnforceE2e fragment

def callNotes (srv : MockServer σ) : DispatchCall → List StreamNote
  | .dispatch env request => srv.plainNotes env {} request
  | .dispatchTscf env timing tscfReservedAllZero request =>
    if env.avtpSubtype = avtpSubtypeTscf ∧ tscfReservedAllZero then
      if srv.tscfUnsupportedTimeSyncPolicy = .drop then [] else
      srv.plainNotes { env with avtpSubtype := avtpSubtypeNtscf } { timing with tv := false } request
    else srv.plainNotes env timing request
  | .dispatchE2e env avtpTimestamp request => srv.e2eNotes env {} avtpTimestamp request
  | .dispatchE2eTscf env timing request => srv.e2eNotes env timing timing.avtpTimestamp request
  | .dispatchE2eFragment env avtpTimestamp fragment => srv.fragmentNotes env {} avtpTimestamp fragment
  | .dispatchE2eFragmentTscf env timing fragment => srv.fragmentNotes env timing timing.avtpTimestamp fragment

/-! ### Every change is a note -/

variable {srv srv' : MockServer σ} {env : Envelope} {timing : TscfTiming} {request : Octets} {row : StreamIx}
  {streamId : UInt64}

theorem enterSafeState_streamSide (srv : MockServer σ) (enterSafeState : Bool) (requestStreamIndex : UInt8) :
    (if enterSafeState then (srv.broadcastSafeState requestStreamIndex).2 else srv).streamSide = srv.streamSide := by
  split
  · exact (SameSides.broadcastSafeState srv requestStreamIndex).streams
  · rfl

theorem noteOverflow_streamSide (srv : MockServer σ) (streamId : UInt64) :
    (srv.noteOverflow streamId).streamSide = srv.streamSide.note streamId .overflow := by
  unfold noteOverflow StreamSide.note
  dsimp only [streamSide]
  cases srv.requestStreamCfg.resolveRow streamId with
  | none => rfl
  | some row =>
    dsimp only
    refine (enterSafeState_streamSide _ _ _).trans ?_
    simp [streamSide, StreamSide.noteRow, StreamSide.noteFault, StreamSide.setState, StreamSide.state, StreamState.note]

theorem noteCrcError_streamSide (srv : MockServer σ) (streamId : UInt64) (rxEnforceE2e : Bool) :
    (srv.noteCrcError streamId rxEnforceE2e).streamSide = srv.streamSide.note streamId (.crcError rxEnforceE2e) := by
  unfold noteCrcError StreamSide.note
  dsimp only [streamSide]
  cases srv.requestStreamCfg.resolveRow streamId with
  | none => rfl
  | some row =>
    dsimp only
    refine (enterSafeState_streamSide _ _ _).trans ?_
    simp [streamSide, StreamSide.noteRow, StreamSide.noteFault, StreamSide.setState, StreamSide.state, StreamState.note]

theorem finishAdmission_streamSide (srv : MockServer σ) (e : EndpointIx) (r : AdmitResult) (byteBusId : ByteBusId)
    (request : Octets) : (srv.finishAdmission e r byteBusId request).server.streamSide = srv.streamSide := by
  unfold finishAdmission
  split
  · exact (SameSides.runHandler srv e request).streams
  all_goals rfl

theorem dispatchAdmit_streamSide (srv : MockServer σ) (e : EndpointIx) (env : Envelope) (timing : TscfTiming)
    (request : Octets) :
    (srv.dispatchAdmit e env timing request).server.streamSide =
      let r := ((srv.endpoints e).queue.admitWithAck request 0 timing.tv timing.avtpTimestamp timing.gptpReferenceNow).1
      if ¬(r.outcome = .pending ∧ r.requestType = RequestType.timed ∧ !env.timeSyncSupported) ∧
          r.error = .requestStorageOverflow then srv.streamSide.note env.streamId .overflow
      else srv.streamSide := by
  unfold dispatchAdmit
  generalize (srv.endpoints e).queue.admitWithAck request 0 timing.tv timing.avtpTimestamp timing.gptpReferenceNow =
    admitted
  obtain ⟨r, queue⟩ := admitted
  dsimp only
  by_cases htimed : r.outcome = .pending ∧ r.requestType = RequestType.timed ∧ !env.timeSyncSupported
  · rw [if_pos htimed, if_neg fun h => h.1 htimed]
    rfl
  rw [if_neg htimed]
  have hrest : ∀ (srv' : MockServer σ) (access : SequencerAccess),
      (if access ≠ .ok then srv'.unadmit e (r.index.getD 0) env.byteBusId access.wireError
        else srv'.finishAdmission e r env.byteBusId request).server.streamSide = srv'.streamSide := by
    intro srv' access
    split
    · rfl
    · exact finishAdmission_streamSide srv' e r env.byteBusId request
  refine (hrest _ _).trans ?_
  by_cases herr : r.error = .requestStorageOverflow
  · rw [if_pos herr, if_pos ⟨htimed, herr⟩]
    exact noteOverflow_streamSide (srv.setQueue e queue) env.streamId
  · rw [if_neg herr, if_neg fun h => herr h.2]
    rfl

theorem dispatchPlain_streamSide (srv : MockServer σ) (env : Envelope) (timing : TscfTiming) (request : Octets) :
    (srv.dispatchPlain env timing request).server.streamSide =
      srv.streamSide.notes env.streamId (srv.plainNotes env timing request) := by
  unfold dispatchPlain dispatchPlainInner plainNotes overflows
  dsimp only
  cases srv.accepts env with
  | drop => rfl
  | reject => rfl
  | accept =>
    cases srv.findSlotOnStream env.streamId env.byteBusId with
    | none => rfl
    | some e =>
      refine (dispatchAdmit_streamSide srv e env (srv.effectiveTiming env timing) request).trans ?_
      dsimp only
      split
      · rename_i h
        rw [if_pos (decide_eq_true h)]
        rfl
      · rename_i h
        rw [if_neg fun h' => h (of_decide_eq_true h')]
        rfl

theorem dispatchE2eWith_streamSide (srv : MockServer σ) (env : Envelope) (timing : TscfTiming) (avtpTimestamp : UInt32)
    (request : Octets) :
    (srv.dispatchE2eWith env timing avtpTimestamp request).server.streamSide =
      srv.streamSide.notes env.streamId (srv.e2eNotes env timing avtpTimestamp request) := by
  unfold dispatchE2eWith e2eNotes
  cases srv.streamFaulted env.streamId with
  | true => rfl
  | false =>
  cases srv.findSlotOnStream env.streamId env.byteBusId with
  | none => exact dispatchPlain_streamSide srv env timing request
  | some e =>
  dsimp only
  cases (srv.endpoints e).reqCrcEnable with
  | false => exact dispatchPlain_streamSide srv env timing request
  | true =>
  rcases e2eUnwrapFramed env.streamId (env.avtpSubtype == avtpSubtypeNtscf) 0 false avtpTimestamp request with
    ⟨error | ok, unwrapped⟩
  · exact noteCrcError_streamSide srv env.streamId _
  · exact dispatchPlain_streamSide srv env timing unwrapped

/-! ### Fragments -/

theorem note_of_row {t : StreamSide} (hrow : t.cfg.resolveRow streamId = some row) (n : StreamNote) :
    t.note streamId n = (t.noteFault streamId n).noteRow row n := by
  unfold StreamSide.note
  rw [hrow]

theorem setReasm_streamSide (srv : MockServer σ) (row : StreamIx) (reasm : Reassembler) :
    (srv.setReasm row reasm).streamSide =
      srv.streamSide.setState row { srv.streamSide.state row with reasm := reasm } := by
  simp [setReasm, streamSide, StreamSide.setState, StreamSide.state]

theorem feed_maxTotalLen (r : Reassembler) (ms : Bool) (segmentNum : UInt16) (payload : Octets) :
    (r.feed ms segmentNum payload).2.maxTotalLen = r.maxTotalLen := by
  unfold Reassembler.feed
  repeat' split
  all_goals rfl

/-- Where a reassembly ends, however it ends, the row is ready for the next one. -/
theorem reset_streamSide (hrow : srv.requestStreamCfg.resolveRow streamId = some row) {reasm : Reassembler}
    (hmax : reasm.maxTotalLen = (srv.fragReasm row).maxTotalLen) :
    (srv.setReasm row reasm.reset).streamSide = srv.streamSide.note streamId .lastFragment := by
  rw [setReasm_streamSide, note_of_row (t := srv.streamSide) hrow .lastFragment, StreamSide.noteRow, Reassembler.reset, hmax]
  rfl

theorem dispatchIntermediateFragment_streamSide (hrow : srv.requestStreamCfg.resolveRow streamId = some row)
    (acfMsgType : UInt8) (fragment : Octets) :
    (srv.dispatchIntermediateFragment row acfMsgType fragment).server.streamSide =
      srv.streamSide.notes streamId (intermediateNotes acfMsgType fragment) := by
  unfold dispatchIntermediateFragment intermediateNotes
  cases fragmentPayload acfMsgType fragment with
  | none => rfl
  | some payload =>
    dsimp only [StreamSide.notes, List.foldl_cons, List.foldl_nil]
    rw [note_of_row (t := srv.streamSide) hrow (.fragment _ _ _)]
    generalize fragment.take (if acfMsgType = Acf.msgTypeGbb then Acf.gbbHeaderLen else Acf.abbHeaderLen) = header
    generalize (Acf.unpackHeader fragment).readSizeOrSegmentNum = segmentNum
    have hstate : (srv.streamSide.state row).reasm = srv.fragReasm row := rfl
    simp only [StreamSide.noteFault, StreamSide.noteRow, StreamState.note, hstate]
    by_cases hcol : (srv.fragReasm row).collecting = true
    · simp only [if_pos hcol]
      rcases (srv.fragReasm row).feed true segmentNum payload with ⟨_ | _ | _ | _, reasm⟩ <;>
        exact setReasm_streamSide srv row _
    · simp only [if_neg hcol]
      rcases (srv.fragReasm row).feed true segmentNum payload with ⟨_ | _ | _ | _, reasm⟩ <;>
        simp [streamSide, setReasm, StreamSide.setState, StreamSide.state]

theorem note_cfg (t : StreamSide) (streamId : UInt64) (n : StreamNote) : (t.note streamId n).cfg = t.cfg := by
  unfold StreamSide.note
  split <;> cases n <;> rfl

theorem notes_cfg (streamId : UInt64) (ns : List StreamNote) :
    ∀ t : StreamSide, (t.notes streamId ns).cfg = t.cfg := by
  induction ns with
  | nil => exact fun _ => rfl
  | cons n ns ih => exact fun t => (ih _).trans (note_cfg t streamId n)

/-- What a reassembler holds is lost when its reassembly ends, so a note in between cannot depend on it. -/
theorem note_crcError_lastFragment {t : StreamSide} (hrow : t.cfg.resolveRow streamId = some row) (rxEnforceE2e : Bool)
    {reasm : Reassembler} (hmax : reasm.maxTotalLen = (t.reasm row).maxTotalLen) :
    ((t.setState row { t.state row with reasm := reasm }).note streamId (.crcError rxEnforceE2e)).note streamId
        .lastFragment =
      (t.note streamId (.crcError rxEnforceE2e)).note streamId .lastFragment := by
  have hrow' : (t.setState row { t.state row with reasm := reasm }).cfg.resolveRow streamId = some row := hrow
  have hcfg : ∀ {t' : StreamSide}, t'.cfg.resolveRow streamId = some row →
      (t'.note streamId (.crcError rxEnforceE2e)).cfg.resolveRow streamId = some row := by
    intro t' h
    rw [note_cfg]
    exact h
  rw [note_of_row (hcfg hrow'), note_of_row (hcfg hrow), note_of_row hrow', note_of_row hrow]
  simp [StreamSide.noteFault, StreamSide.noteRow, StreamSide.setState, StreamSide.state, StreamState.note,
    Reassembler.reset, hmax]

theorem dispatchReassembled_streamSide (hrow : srv.requestStreamCfg.resolveRow env.streamId = some row)
    {avtpTimestamp : UInt32} {rxEnforceE2e : Bool} {final : FinalFragment} {got : UInt32} {reasm : Reassembler}
    (hmax : reasm.maxTotalLen = (srv.fragReasm row).maxTotalLen) (reassembled : Octets) :
    ((srv.setReasm row reasm).dispatchReassembled row env timing avtpTimestamp rxEnforceE2e final got
        reassembled).server.streamSide =
      srv.streamSide.notes env.streamId
        (srv.reassembledNotes row env timing avtpTimestamp rxEnforceE2e final got reassembled) := by
  unfold dispatchReassembled reassembledNotes
  have hheader : (srv.setReasm row reasm).fragFirstHeader = srv.fragFirstHeader := rfl
  dsimp only
  rw [hheader]
  generalize e2eComputeFragmentedCrc _ _ _ = want
  by_cases hgot : got = want
  · -- The message is whole: the row is reset and the message dispatched.
    rw [if_neg (not_not.mpr hgot), if_neg (not_not.mpr hgot)]
    have hreset : ((srv.setReasm row reasm).setReasm row ((srv.setReasm row reasm).fragReasm row).reset) =
        srv.setReasm row reasm.reset := by
      simp [setReasm]
    rw [hreset]
    have hside := @reset_streamSide σ srv row env.streamId hrow reasm hmax
    cases final.reencode reassembled with
    | none =>
      dsimp only
      split
      · exact hside
      · refine (dispatchPlain_streamSide _ env timing []).trans ?_
        rw [hside]
        rfl
    | some encoded =>
      refine (dispatchPlain_streamSide _ env timing encoded).trans ?_
      rw [hside]
      rfl
  · rw [if_pos hgot, if_pos hgot]
    have hcrc := noteCrcError_streamSide (srv.setReasm row reasm) env.streamId rxEnforceE2e
    have hrow' : ((srv.setReasm row reasm).noteCrcError env.streamId rxEnforceE2e).requestStreamCfg.resolveRow
        env.streamId = some row := by
      have hcfg := congrArg StreamSide.cfg hcrc
      rw [note_cfg] at hcfg
      exact (congrArg (fun cfg => cfg.resolveRow env.streamId) hcfg).trans hrow
    refine (reset_streamSide hrow' rfl).trans ?_
    rw [hcrc, setReasm_streamSide, StreamSide.notes, List.foldl_cons, List.foldl_cons, List.foldl_nil]
    exact note_crcError_lastFragment (t := srv.streamSide) hrow rxEnforceE2e hmax

/-- A final fragment completes a message, or the reassembly ends with nothing. -/
theorem dispatchFinalFragment_cases (srv : MockServer σ) (row : StreamIx) (env : Envelope) (timing : TscfTiming)
    (avtpTimestamp : UInt32) (rxEnforceE2e : Bool) (fragment : Octets) :
    (srv.finalMessage row env avtpTimestamp fragment = none ∧
      ∃ reasm : Reassembler, reasm.maxTotalLen = (srv.fragReasm row).maxTotalLen ∧
        srv.dispatchFinalFragment row env timing avtpTimestamp rxEnforceE2e fragment =
          (srv.setReasm row reasm).rejectFragment row) ∨
    ∃ final got reasm, srv.finalMessage row env avtpTimestamp fragment = some (final, got, reasm) ∧
      reasm.maxTotalLen = (srv.fragReasm row).maxTotalLen ∧
      srv.dispatchFinalFragment row env timing avtpTimestamp rxEnforceE2e fragment =
        (srv.setReasm row reasm).dispatchReassembled row env timing avtpTimestamp rxEnforceE2e final got reasm.buf := by
  have hsame : srv.rejectFragment row = (srv.setReasm row (srv.fragReasm row)).rejectFragment row := by
    simp [setReasm]
  unfold dispatchFinalFragment finalMessage
  dsimp only
  by_cases hshort : fragment.length < e2eCrcLen
  · rw [if_pos hshort, if_pos hshort]
    exact Or.inl ⟨rfl, _, rfl, hsame⟩
  rw [if_neg hshort, if_neg hshort]
  by_cases hpad : (Acf.unpackHeader fragment).pad.toNat > fragment.length - e2eCrcLen
  · rw [if_pos hpad, if_pos hpad]
    exact Or.inl ⟨rfl, _, rfl, hsame⟩
  rw [if_neg hpad, if_neg hpad]
  rcases e2eUnwrapFramed env.streamId (env.avtpSubtype == avtpSubtypeNtscf) 0 false avtpTimestamp fragment with
    ⟨(_ | _) | ok, unwrapped⟩
  · exact Or.inl ⟨rfl, _, rfl, hsame⟩
  all_goals
    dsimp only
    cases finalFragment env.acfMsgType unwrapped with
    | none => exact Or.inl ⟨rfl, _, rfl, hsame⟩
    | some final =>
      dsimp only
      have hmax := feed_maxTotalLen (srv.fragReasm row) false 0 final.payload
      rcases hfeed : (srv.fragReasm row).feed false 0 final.payload with ⟨_ | _ | _ | _, reasm⟩ <;> rw [hfeed] at hmax
      · exact Or.inl ⟨rfl, reasm, hmax, rfl⟩
      · exact Or.inr ⟨final, _, reasm, rfl, hmax, rfl⟩
      · exact Or.inl ⟨rfl, reasm, hmax, rfl⟩
      · exact Or.inl ⟨rfl, reasm, hmax, rfl⟩

theorem dispatchFinalFragment_streamSide (hrow : srv.requestStreamCfg.resolveRow env.streamId = some row)
    (avtpTimestamp : UInt32) (rxEnforceE2e : Bool) (fragment : Octets) :
    (srv.dispatchFinalFragment row env timing avtpTimestamp rxEnforceE2e fragment).server.streamSide =
      srv.streamSide.notes env.streamId (srv.finalNotes row env timing avtpTimestamp rxEnforceE2e fragment) := by
  unfold finalNotes
  obtain ⟨hmsg, reasm, hmax, heq⟩ | ⟨final, got, reasm, hmsg, hmax, heq⟩ :=
    dispatchFinalFragment_cases srv row env timing avtpTimestamp rxEnforceE2e fragment <;> rw [hmsg, heq]
  · have hreset : ((srv.setReasm row reasm).rejectFragment row).server = srv.setReasm row reasm.reset := by
      simp [rejectFragment, setReasm]
    rw [hreset]
    exact reset_streamSide hrow hmax
  · exact dispatchReassembled_streamSide hrow hmax reasm.buf

theorem dispatchE2eFragmentWith_streamSide (srv : MockServer σ) (env : Envelope) (timing : TscfTiming)
    (avtpTimestamp : UInt32) (fragment : Octets) :
    (srv.dispatchE2eFragmentWith env timing avtpTimestamp fragment).server.streamSide =
      srv.streamSide.notes env.streamId (srv.fragmentNotes env timing avtpTimestamp fragment) := by
  unfold dispatchE2eFragmentWith fragmentNotes
  cases srv.streamFaulted env.streamId with
  | true => rfl
  | false =>
  cases srv.findSlotOnStream env.streamId env.byteBusId with
  | none => exact dispatchPlain_streamSide srv env timing fragment
  | some e =>
  dsimp only
  cases (srv.endpoints e).reqCrcEnable with
  | false => exact dispatchPlain_streamSide srv env timing fragment
  | true =>
  simp only [Bool.not_true, Bool.false_eq_true, if_false]
  by_cases hlen : fragment.length < 8
  · rw [if_pos hlen, if_pos hlen]
    rfl
  rw [if_neg hlen, if_neg hlen]
  cases hrow : srv.requestStreamCfg.resolveRow env.streamId with
  | none => exact dispatchE2eWith_streamSide srv env timing avtpTimestamp fragment
  | some row =>
    dsimp only
    by_cases hms : (Acf.unpackHeader fragment).ms = 0
    · rw [if_neg (not_not.mpr hms), if_neg (not_not.mpr hms)]
      cases (srv.fragReasm row).collecting with
      | false => exact dispatchE2eWith_streamSide srv env timing avtpTimestamp fragment
      | true => exact dispatchFinalFragment_streamSide hrow avtpTimestamp _ fragment
    · rw [if_pos hms, if_pos hms]
      exact dispatchIntermediateFragment_streamSide hrow env.acfMsgType fragment

/-! ### Every entry point -/

theorem call_streamSide (srv : MockServer σ) (c : DispatchCall) :
    (srv.call c).server.streamSide = srv.streamSide.notes c.env.streamId (srv.callNotes c) := by
  cases c with
  | dispatch env request => exact dispatchPlain_streamSide srv env {} request
  | dispatchTscf env timing tscfReservedAllZero request =>
    unfold call dispatchTscf callNotes
    dsimp only
    by_cases hall : env.avtpSubtype = avtpSubtypeTscf ∧ tscfReservedAllZero = true
    · rw [if_pos hall, if_pos hall]
      cases srv.tscfUnsupportedTimeSyncPolicy with
      | drop => rfl
      | ignore => exact dispatchPlain_streamSide srv { env with avtpSubtype := avtpSubtypeNtscf } _ request
    · rw [if_neg hall, if_neg hall]
      exact dispatchPlain_streamSide srv env timing request
  | dispatchE2e env avtpTimestamp request => exact dispatchE2eWith_streamSide srv env {} avtpTimestamp request
  | dispatchE2eTscf env timing request => exact dispatchE2eWith_streamSide srv env timing _ request
  | dispatchE2eFragment env avtpTimestamp fragment =>
    exact dispatchE2eFragmentWith_streamSide srv env {} avtpTimestamp fragment
  | dispatchE2eFragmentTscf env timing fragment => exact dispatchE2eFragmentWith_streamSide srv env timing _ fragment

theorem call_requestStreamCfg (srv : MockServer σ) (c : DispatchCall) :
    (srv.call c).server.requestStreamCfg = srv.requestStreamCfg :=
  (congrArg StreamSide.cfg (call_streamSide srv c)).trans (notes_cfg _ _ _)

theorem frameSeqGateAdmits_streamSide (srv : MockServer σ) (streamId : UInt64) (sequenceNum : UInt8) :
    (srv.frameSeqGateAdmits streamId sequenceNum).2.streamSide = srv.streamSide.note streamId (.frame sequenceNum) := by
  unfold frameSeqGateAdmits StreamSide.note
  dsimp only [streamSide]
  cases srv.requestStreamCfg.resolveRow streamId with
  | none => rfl
  | some row =>
    dsimp only
    refine (enterSafeState_streamSide _ _ _).trans ?_
    simp [streamSide, StreamSide.noteRow, StreamSide.noteFault, StreamSide.setState, StreamSide.state, StreamState.note]

/-- The row a request-stream index names. -/
def watchdogRow (srv : MockServer σ) (requestStreamIndex : UInt8) : Option StreamIx :=
  if h : requestStreamIndex.toNat - 1 < requestStreamCfgMaxEntries then
    if requestStreamIndex = 0 ∨ requestStreamIndex.toNat > srv.requestStreamCfg.count.val then none
    else some ⟨requestStreamIndex.toNat - 1, h⟩
  else none

theorem checkWatchdog_streamSide (srv : MockServer σ) (requestStreamIndex : UInt8) (elapsed : UInt64) :
    (srv.checkWatchdog requestStreamIndex elapsed).2.streamSide =
      match srv.watchdogRow requestStreamIndex with
      | none => srv.streamSide
      | some row => srv.streamSide.noteRow row (.watchdog elapsed) := by
  unfold checkWatchdog watchdogRow
  split
  · split
    · rfl
    · refine (enterSafeState_streamSide _ _ _).trans ?_
      simp [streamSide, StreamSide.noteRow, StreamSide.setState, StreamSide.state, StreamState.note]
  · rfl

/-- The calls that dispatch nothing and yet reach the streams. -/
theorem step_streamSide (srv : MockServer σ) {op : MockOp σ} (hop : op.dispatches = false) :
    (srv.step op).streamSide = srv.streamSide ∨
      (∃ requestStreamIndex elapsed, op = .checkWatchdog requestStreamIndex elapsed) ∨
      (∃ entries, op = .setRequestStreamCfg entries) ∨ ∃ tracker, op = .setStreamFaultTracker tracker := by
  by_cases hq : op.quiet = true
  · exact Or.inl (step_quiet srv hq).streams
  cases op with
  | call | dispatchFrame => cases hop
  | tick scope byteBusId ctx => exact Or.inl (tickScoped_streamSide srv scope byteBusId ctx)
  | checkWatchdog requestStreamIndex elapsed => exact Or.inr (Or.inl ⟨requestStreamIndex, elapsed, rfl⟩)
  | setRequestStreamCfg entries => exact Or.inr (Or.inr (Or.inl ⟨entries, rfl⟩))
  | setStreamFaultTracker tracker => exact Or.inr (Or.inr (Or.inr ⟨tracker, rfl⟩))
  | setSequencerCount | setSequencerOwner => exact Or.inl rfl
  | _ => exact absurd rfl hq

end MockServer

/-! ### What a dispatch cannot note -/

theorem StreamSide.notes_seqTracker {streamId : UInt64} {ns : List StreamNote} (hns : ∀ seq, .frame seq ∉ ns) :
    ∀ t : StreamSide, (t.notes streamId ns).seqTracker = t.seqTracker := by
  induction ns with
  | nil => exact fun _ => rfl
  | cons n ns ih =>
    intro t
    refine (ih (fun seq h => hns seq (List.mem_cons_of_mem n h)) _).trans ?_
    have hn : ∀ seq, n ≠ .frame seq := fun seq h => hns seq (h ▸ List.mem_cons_self ..)
    unfold note
    split
    · cases n <;> rfl
    · cases n with
      | frame seq => exact absurd rfl (hn seq)
      | _ => exact Function.update_eq_self _ t.seqTracker

namespace MockServer
variable {σ : Type} {srv : MockServer σ} {seq : UInt8}

theorem plainNotes_noFrame {env : Envelope} {timing : TscfTiming} {request : Octets} :
    .frame seq ∉ srv.plainNotes env timing request := by
  unfold plainNotes
  split <;> simp

theorem e2eNotes_noFrame {env : Envelope} {timing : TscfTiming} {avtpTimestamp : UInt32} {request : Octets} :
    .frame seq ∉ srv.e2eNotes env timing avtpTimestamp request := by
  unfold e2eNotes
  split
  · simp
  split
  · exact plainNotes_noFrame
  split
  · exact plainNotes_noFrame
  split
  · simp
  · exact plainNotes_noFrame

theorem reassembledNotes_noFrame {row : StreamIx} {env : Envelope} {timing : TscfTiming} {avtpTimestamp : UInt32}
    {rxEnforceE2e : Bool} {final : FinalFragment} {got : UInt32} {reassembled : Octets} :
    .frame seq ∉ srv.reassembledNotes row env timing avtpTimestamp rxEnforceE2e final got reassembled := by
  unfold reassembledNotes
  dsimp only
  generalize e2eComputeFragmentedCrc _ _ _ = want
  split
  · simp
  rw [List.mem_cons, not_or]
  refine ⟨by simp, ?_⟩
  split
  · split
    · simp
    · exact plainNotes_noFrame
  · exact plainNotes_noFrame

theorem finalNotes_noFrame {row : StreamIx} {env : Envelope} {timing : TscfTiming} {avtpTimestamp : UInt32}
    {rxEnforceE2e : Bool} {fragment : Octets} :
    .frame seq ∉ srv.finalNotes row env timing avtpTimestamp rxEnforceE2e fragment := by
  unfold finalNotes
  split
  · simp
  · exact reassembledNotes_noFrame

theorem fragmentNotes_noFrame {env : Envelope} {timing : TscfTiming} {avtpTimestamp : UInt32} {fragment : Octets} :
    .frame seq ∉ srv.fragmentNotes env timing avtpTimestamp fragment := by
  unfold fragmentNotes
  split
  · simp
  split
  · exact plainNotes_noFrame
  split
  · exact plainNotes_noFrame
  split
  · simp
  split
  · exact e2eNotes_noFrame
  split
  · unfold intermediateNotes
    split <;> simp
  split
  · exact e2eNotes_noFrame
  · exact finalNotes_noFrame

/-- A dispatch of one request is not a frame. -/
theorem callNotes_noFrame (srv : MockServer σ) (c : DispatchCall) (seq : UInt8) : .frame seq ∉ srv.callNotes c := by
  cases c with
  | dispatch => exact plainNotes_noFrame
  | dispatchTscf =>
    unfold callNotes
    dsimp only
    split
    · split
      · simp
      · exact plainNotes_noFrame
    · exact plainNotes_noFrame
  | dispatchE2e | dispatchE2eTscf => exact e2eNotes_noFrame
  | dispatchE2eFragment | dispatchE2eFragmentTscf => exact fragmentNotes_noFrame

end MockServer

end Rcp
