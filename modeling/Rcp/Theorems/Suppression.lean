import Rcp.Theorems.Chains
import Rcp.Theorems.Log
import Rcp.Theorems.Responses
import Rcp.Theorems.StreamNotes

/-! Which responses the configuration of a stream suppresses. Only `dispatch_plain` filters what it returns; the
    error responses built around it are returned as they are. -/

namespace Rcp

theorem Acf.Responds.unique {kind kind' : ResponseKind} {out : Option Octets} (h : Responds kind out)
    (h' : Responds kind' out) : kind = kind' := by
  obtain ⟨response, rfl, -, hkind⟩ := h
  obtain ⟨response', heq, -, hkind'⟩ := h'
  obtain rfl := Option.some.inj heq
  exact hkind.symm.trans hkind'

theorem Acf.not_responds_none (kind : ResponseKind) : ¬Responds kind none := by
  rintro ⟨response, heq, -⟩
  cases heq

namespace MockServer
variable {σ : Type} {srv srv' : MockServer σ} {streamId : UInt64} {out : Option Octets}

/-- Nothing comes back that the configuration of the stream suppresses. -/
structure Filtered (srv : MockServer σ) (streamId : UInt64) (out : Option Octets) : Prop where
  resp : srv.respSuppressed streamId = true → ∀ kind, kind ≠ .acknowledge → ¬Acf.Responds kind out
  ack : srv.ackSuppressed streamId = true → ¬Acf.Responds .acknowledge out

theorem Filtered.none (srv : MockServer σ) (streamId : UInt64) : srv.Filtered streamId none :=
  ⟨fun _ kind _ => Acf.not_responds_none kind, fun _ => Acf.not_responds_none _⟩

theorem Filtered.congr (h : srv.Filtered streamId out) (hcfg : srv'.requestStreamCfg = srv.requestStreamCfg) :
    srv'.Filtered streamId out := by
  obtain ⟨hresp, hack⟩ := h
  unfold respSuppressed at hresp
  unfold ackSuppressed at hack
  rw [← hcfg] at hresp hack
  exact ⟨hresp, hack⟩

theorem suppress_eq (srv : MockServer σ) (streamId : UInt64) (out : Option Octets) :
    srv.suppressResponsePerStreamCfg streamId out = none ∨ srv.suppressResponsePerStreamCfg streamId out = out := by
  unfold suppressResponsePerStreamCfg
  split
  · split
    · exact Or.inr rfl
    · dsimp only
      split <;> split <;> simp
  · exact Or.inr rfl

theorem suppress_filtered (srv : MockServer σ) (streamId : UInt64) (out : Option Octets) :
    srv.Filtered streamId (srv.suppressResponsePerStreamCfg streamId out) := by
  rcases suppress_eq srv streamId out with hnone | hout
  · rw [hnone]
    exact .none srv streamId
  rw [hout]
  constructor
  · intro hresp kind hk hkind
    rw [suppress_response hkind hk, if_pos hresp] at hout
    exact Acf.not_responds_none kind (hout ▸ hkind)
  · intro hack hkind
    rw [suppress_acknowledge hkind, if_pos hack] at hout
    exact Acf.not_responds_none _ (hout ▸ hkind)

/-! ### Answers that are not filtered -/

/-- What is returned: an error response as it was built, or a filtered response. -/
def Answer (srv : MockServer σ) (streamId : UInt64) (bypass : Bool) (out : Option Octets) : Prop :=
  match bypass with
  | true => Acf.Responds .error out
  | false => srv.Filtered streamId out

theorem Answer.buildErrorResponse (srv : MockServer σ) (streamId : UInt64) (byteBusId : ByteBusId)
    (transactionNum : UInt8) (error : WireError) :
    srv.Answer streamId true (Acf.buildErrorResponse byteBusId transactionNum error) :=
  Acf.buildErrorResponse_responds byteBusId transactionNum error

theorem Answer.congr {bypass : Bool} (h : srv.Answer streamId bypass out)
    (hcfg : srv'.requestStreamCfg = srv.requestStreamCfg) : srv'.Answer streamId bypass out := by
  cases bypass with
  | true => exact h
  | false => exact Filtered.congr h hcfg

theorem Answer.filtered_iff {bypass : Bool} (h : srv.Answer streamId bypass out) :
    srv.Filtered streamId out ↔ (srv.respSuppressed streamId = true → bypass = false) := by
  cases bypass with
  | false => exact ⟨fun _ _ => rfl, fun _ => h⟩
  | true =>
    constructor
    · intro hf hresp
      exact absurd h (hf.resp hresp .error (by decide))
    · intro hresp
      refine ⟨fun h' => absurd (hresp h') (by decide), fun _ hack => ?_⟩
      exact absurd (Acf.Responds.unique h hack) (by decide)

/-- `dispatch_e2e` answers for itself: the stream is latched, or the CRC does not match. -/
def e2eBypass (srv : MockServer σ) (env : Envelope) (avtpTimestamp : UInt32) (request : Octets) : Bool :=
  if srv.streamFaulted env.streamId then decide (8 ≤ request.length) else
  match srv.findSlotOnStream env.streamId env.byteBusId with
  | none => false
  | some e =>
    if !(srv.endpoints e).reqCrcEnable then false else
    match e2eUnwrapFramed env.streamId (env.avtpSubtype == avtpSubtypeNtscf) 0 false avtpTimestamp request with
    | (.error error, _) => decide (error.wireError ≠ .none ∧ 8 ≤ request.length)
    | (.ok _, _) => false

/-- So does `dispatch_e2e_fragment` with a message whose CRC does not match or that is too long to encode. -/
def reassembledBypass (srv : MockServer σ) (row : StreamIx) (env : Envelope) (avtpTimestamp : UInt32)
    (final : FinalFragment) (got : UInt32) (reassembled : Octets) : Bool :=
  let effectiveTs := if env.avtpSubtype = avtpSubtypeNtscf then 0 else avtpTimestamp
  let want := e2eComputeFragmentedCrc
    { avtpSubtype := env.avtpSubtype, streamId := env.streamId, avtpTimestamp := effectiveTs }
    (srv.fragFirstHeader row) reassembled
  decide (got ≠ want) || (final.reencode reassembled).isNone && decide (reassembled.length ≠ 0)

def finalBypass (srv : MockServer σ) (row : StreamIx) (env : Envelope) (avtpTimestamp : UInt32) (fragment : Octets) :
    Bool :=
  match srv.finalMessage row env avtpTimestamp fragment with
  | none => false
  | some (final, got, reasm) => srv.reassembledBypass row env avtpTimestamp final got reasm.buf

def fragmentBypass (srv : MockServer σ) (env : Envelope) (avtpTimestamp : UInt32) (fragment : Octets) : Bool :=
  if srv.streamFaulted env.streamId then decide (8 ≤ fragment.length) else
  match srv.findSlotOnStream env.streamId env.byteBusId with
  | none => false
  | some e =>
    if !(srv.endpoints e).reqCrcEnable then false else
    if fragment.length < 8 then false else
    match srv.requestStreamCfg.resolveRow env.streamId with
    | none => srv.e2eBypass env avtpTimestamp fragment
    | some row =>
      if (Acf.unpackHeader fragment).ms ≠ 0 then false else
      if !(srv.fragReasm row).collecting then srv.e2eBypass env avtpTimestamp fragment else
      srv.finalBypass row env avtpTimestamp fragment

/-- The call is answered around the filter. -/
def callBypass (srv : MockServer σ) : DispatchCall → Bool
  | .dispatch .. | .dispatchTscf .. => false
  | .dispatchE2e env avtpTimestamp request => srv.e2eBypass env avtpTimestamp request
  | .dispatchE2eTscf env timing request => srv.e2eBypass env timing.avtpTimestamp request
  | .dispatchE2eFragment env avtpTimestamp fragment => srv.fragmentBypass env avtpTimestamp fragment
  | .dispatchE2eFragmentTscf env timing fragment => srv.fragmentBypass env timing.avtpTimestamp fragment

/-! ### One request -/

theorem dispatchPlain_filtered (srv : MockServer σ) (env : Envelope) (timing : TscfTiming) (request : Octets) :
    srv.Filtered env.streamId (srv.dispatchPlain env timing request).response := by
  have hcfg : (srv.dispatchPlain env timing request).server.requestStreamCfg = srv.requestStreamCfg :=
    (congrArg StreamSide.cfg (dispatchPlain_streamSide srv env timing request)).trans (notes_cfg _ _ _)
  exact (suppress_filtered _ env.streamId _).congr hcfg.symm

theorem errorResponseTo_answer (srv : MockServer σ) (streamId : UInt64) (request : Octets) (byteBusId : ByteBusId)
    (error : WireError) :
    srv.Answer streamId (decide (8 ≤ request.length)) (errorResponseTo request byteBusId error) := by
  unfold errorResponseTo
  by_cases hlen : request.length < 8
  · rw [if_pos hlen, decide_eq_false (Nat.not_le.mpr hlen)]
    exact .none srv streamId
  · rw [if_neg hlen, decide_eq_true (Nat.not_lt.mp hlen)]
    exact .buildErrorResponse srv streamId byteBusId _ error

theorem dispatchE2eWith_answer (srv : MockServer σ) (env : Envelope) (timing : TscfTiming) (avtpTimestamp : UInt32)
    (request : Octets) :
    srv.Answer env.streamId (srv.e2eBypass env avtpTimestamp request)
      (srv.dispatchE2eWith env timing avtpTimestamp request).response := by
  unfold dispatchE2eWith e2eBypass
  cases srv.streamFaulted env.streamId with
  | true => exact errorResponseTo_answer srv env.streamId request env.byteBusId .pociFailure
  | false =>
  cases srv.findSlotOnStream env.streamId env.byteBusId with
  | none => exact dispatchPlain_filtered srv env timing request
  | some e =>
  dsimp only
  cases (srv.endpoints e).reqCrcEnable with
  | false => exact dispatchPlain_filtered srv env timing request
  | true =>
  rcases e2eUnwrapFramed env.streamId (env.avtpSubtype == avtpSubtypeNtscf) 0 false avtpTimestamp request with
    ⟨error | ok, unwrapped⟩
  · have hanswer := errorResponseTo_answer srv env.streamId request env.byteBusId error.wireError
    by_cases hwire : error.wireError = .none
    · simp only [hwire]
      exact .none srv env.streamId
    · simp only [hwire, ne_eq, not_false_eq_true, true_and, if_false]
      exact hanswer
  · exact dispatchPlain_filtered srv env timing unwrapped

theorem dispatchReassembled_answer (srv : MockServer σ) (row : StreamIx) (env : Envelope) (timing : TscfTiming)
    (avtpTimestamp : UInt32) (rxEnforceE2e : Bool) (final : FinalFragment) (got : UInt32) (reasm : Reassembler)
    (reassembled : Octets) :
    srv.Answer env.streamId (srv.reassembledBypass row env avtpTimestamp final got reassembled)
      ((srv.setReasm row reasm).dispatchReassembled row env timing avtpTimestamp rxEnforceE2e final got
        reassembled).response := by
  unfold dispatchReassembled reassembledBypass
  have hheader : (srv.setReasm row reasm).fragFirstHeader = srv.fragFirstHeader := rfl
  dsimp only
  rw [hheader]
  generalize e2eComputeFragmentedCrc _ _ _ = want
  by_cases hgot : got = want
  · rw [if_neg (not_not.mpr hgot), decide_eq_false (not_not.mpr hgot), Bool.false_or]
    cases final.reencode reassembled with
    | none =>
      dsimp only
      by_cases hlen : reassembled.length = 0
      · rw [if_neg (not_not.mpr hlen), decide_eq_false (not_not.mpr hlen)]
        exact (dispatchPlain_filtered _ env timing []).congr rfl
      · rw [if_pos hlen, decide_eq_true hlen]
        dsimp only [Option.isNone_none, Bool.and_true]
        exact .buildErrorResponse srv env.streamId env.byteBusId _ _
    | some encoded => exact (dispatchPlain_filtered _ env timing encoded).congr rfl
  · rw [if_pos hgot, decide_eq_true hgot, Bool.true_or]
    dsimp only
    exact .buildErrorResponse srv env.streamId env.byteBusId _ _

theorem dispatchFinalFragment_answer (srv : MockServer σ) (row : StreamIx) (env : Envelope) (timing : TscfTiming)
    (avtpTimestamp : UInt32) (rxEnforceE2e : Bool) (fragment : Octets) :
    srv.Answer env.streamId (srv.finalBypass row env avtpTimestamp fragment)
      (srv.dispatchFinalFragment row env timing avtpTimestamp rxEnforceE2e fragment).response := by
  unfold finalBypass
  obtain ⟨hmsg, reasm, -, heq⟩ | ⟨final, got, reasm, hmsg, -, heq⟩ :=
    dispatchFinalFragment_cases srv row env timing avtpTimestamp rxEnforceE2e fragment <;> rw [hmsg, heq]
  · exact .none srv env.streamId
  · exact dispatchReassembled_answer srv row env timing avtpTimestamp rxEnforceE2e final got reasm reasm.buf

theorem dispatchE2eFragmentWith_answer (srv : MockServer σ) (env : Envelope) (timing : TscfTiming)
    (avtpTimestamp : UInt32) (fragment : Octets) :
    srv.Answer env.streamId (srv.fragmentBypass env avtpTimestamp fragment)
      (srv.dispatchE2eFragmentWith env timing avtpTimestamp fragment).response := by
  unfold dispatchE2eFragmentWith fragmentBypass
  cases srv.streamFaulted env.streamId with
  | true => exact errorResponseTo_answer srv env.streamId fragment env.byteBusId .pociFailure
  | false =>
  cases srv.findSlotOnStream env.streamId env.byteBusId with
  | none => exact dispatchPlain_filtered srv env timing fragment
  | some e =>
  dsimp only
  cases (srv.endpoints e).reqCrcEnable with
  | false => exact dispatchPlain_filtered srv env timing fragment
  | true =>
  simp only [Bool.not_true, Bool.false_eq_true, if_false]
  by_cases hlen : fragment.length < 8
  · rw [if_pos hlen, if_pos hlen]
    exact .none srv env.streamId
  rw [if_neg hlen, if_neg hlen]
  cases srv.requestStreamCfg.resolveRow env.streamId with
  | none => exact dispatchE2eWith_answer srv env timing avtpTimestamp fragment
  | some row =>
    dsimp only
    by_cases hms : (Acf.unpackHeader fragment).ms = 0
    · rw [if_neg (not_not.mpr hms), if_neg (not_not.mpr hms)]
      cases (srv.fragReasm row).collecting with
      | false => exact dispatchE2eWith_answer srv env timing avtpTimestamp fragment
      | true => exact dispatchFinalFragment_answer srv row env timing avtpTimestamp _ fragment
    · rw [if_pos hms, if_pos hms]
      have hnone : (srv.dispatchIntermediateFragment row env.acfMsgType fragment).response = none := by
        unfold dispatchIntermediateFragment
        split
        · rfl
        · dsimp only
          split <;> rfl
      rw [hnone]
      exact .none srv env.streamId

theorem call_answer (srv : MockServer σ) (c : DispatchCall) :
    srv.Answer c.env.streamId (srv.callBypass c) (srv.call c).response := by
  cases c with
  | dispatch env request => exact dispatchPlain_filtered srv env {} request
  | dispatchTscf env timing tscfReservedAllZero request =>
    unfold call dispatchTscf
    dsimp only
    by_cases hall : env.avtpSubtype = avtpSubtypeTscf ∧ tscfReservedAllZero = true
    · rw [if_pos hall]
      split
      · exact .none srv env.streamId
      · exact dispatchPlain_filtered srv { env with avtpSubtype := avtpSubtypeNtscf } _ request
    · rw [if_neg hall]
      exact dispatchPlain_filtered srv env timing request
  | dispatchE2e env avtpTimestamp request => exact dispatchE2eWith_answer srv env {} avtpTimestamp request
  | dispatchE2eTscf env timing request => exact dispatchE2eWith_answer srv env timing _ request
  | dispatchE2eFragment env avtpTimestamp fragment =>
    exact dispatchE2eFragmentWith_answer srv env {} avtpTimestamp fragment
  | dispatchE2eFragmentTscf env timing fragment => exact dispatchE2eFragmentWith_answer srv env timing _ fragment

theorem call_filtered_iff (srv : MockServer σ) (c : DispatchCall) :
    srv.Filtered c.env.streamId (srv.call c).response ↔
      (srv.respSuppressed c.env.streamId = true → srv.callBypass c = false) :=
  (call_answer srv c).filtered_iff

/-! ### A frame of requests -/

/-- The turns of the loop over the members: the state each starts from, and its member. -/
def loopTurns (kind : FrameKind) (env : FrameEnvelope) :
    MockServer σ × FrameLoop → List Octets → List ((MockServer σ × FrameLoop) × Octets)
  | _, [] => []
  | s, member :: members => (s, member) :: loopTurns kind env (frameMember kind env s member) members

def frameTurns (kind : FrameKind) (srv : MockServer σ) (env : FrameEnvelope) (frame : Octets) (outCap : Nat) :
    List ((MockServer σ × FrameLoop) × Octets) :=
  match schedSplitFrameMembers frame with
  | none | some [] => []
  | some offsets =>
    match srv.frameSeqGateAdmits env.streamId env.sequenceNum with
    | (false, _) => []
    | (true, srv) => loopTurns kind env (srv, {}) (frameMembers frame offsets outCap)

/-- The member is answered around the filter: by the chain check, or by its own dispatch. -/
def turnBypass (kind : FrameKind) (env : FrameEnvelope) (t : (MockServer σ × FrameLoop) × Octets) : Bool :=
  match memberVerdict env t.1.2 t.2 with
  | (.malformed, _) => false
  | (.refused _, _) => true
  | (.dispatch menv, _) => t.1.1.callBypass (kind.memberCall menv t.2)

theorem memberVerdict_refused {env : FrameEnvelope} {l l' : FrameLoop} {member : Octets} {out : FrameMemberResult}
    (h : memberVerdict env l member = (.refused out, l')) : Acf.Responds .error out.response := by
  unfold memberVerdict at h
  dsimp only at h
  split at h
  · cases h
  · split at h <;> cases h <;> dsimp only
    · exact Acf.buildErrorResponse_responds _ _ _
    · exact Acf.buildErrorResponse_responds _ _ _

theorem frameMember_answer (kind : FrameKind) (env : FrameEnvelope) (srv : MockServer σ) (l : FrameLoop)
    (member : Octets) :
    ∃ out : FrameMemberResult, (frameMember kind env (srv, l) member).2.results = l.results ++ [out] ∧
      srv.Answer env.streamId (turnBypass kind env ((srv, l), member)) out.response := by
  have hresults := (memberVerdict_keeps env l member).1
  unfold frameMember turnBypass
  dsimp only
  rcases hverdict : memberVerdict env l member with ⟨_ | out | menv, l'⟩ <;> rw [hverdict] at hresults <;>
    dsimp only [FrameLoop.finish] at hresults ⊢ <;> rw [hresults]
  · exact ⟨_, rfl, .none srv env.streamId⟩
  · exact ⟨_, rfl, memberVerdict_refused hverdict⟩
  · refine ⟨_, rfl, ?_⟩
    have hanswer := call_answer srv (kind.memberCall menv member)
    have hstream : (kind.memberCall menv member).env.streamId = env.streamId := by
      rw [← memberVerdict_streamId hverdict]
      cases kind <;> rfl
    rw [hstream] at hanswer
    exact hanswer

theorem frameMember_requestStreamCfg (kind : FrameKind) (env : FrameEnvelope) (srv : MockServer σ) (l : FrameLoop)
    (member : Octets) : (frameMember kind env (srv, l) member).1.requestStreamCfg = srv.requestStreamCfg := by
  unfold frameMember
  dsimp only
  rcases memberVerdict env l member with ⟨_ | out | menv, l'⟩
  · rfl
  · rfl
  · refine Eq.trans ?_ (call_requestStreamCfg srv (kind.memberCall menv member))
    exact congrArg StreamSide.cfg (SameSides.tagMember _ _ _ _ _).streams

/-- The loop answers its members one for one. -/
theorem loop_answers (kind : FrameKind) (env : FrameEnvelope) (members : List Octets) :
    ∀ (srv : MockServer σ) (l : FrameLoop), ∃ outs : List FrameMemberResult,
      (members.foldl (frameMember kind env) (srv, l)).2.results = l.results ++ outs ∧
      List.Forall₂ (fun t out => srv.Answer env.streamId (turnBypass kind env t) out.response)
        (loopTurns kind env (srv, l) members) outs := by
  induction members with
  | nil => exact fun srv l => ⟨[], (List.append_nil _).symm, .nil⟩
  | cons member members ih =>
    intro srv l
    obtain ⟨out, hout, hanswer⟩ := frameMember_answer kind env srv l member
    have hcfg := frameMember_requestStreamCfg kind env srv l member
    rcases hnext : frameMember kind env (srv, l) member with ⟨srv', l'⟩
    rw [hnext] at hout hcfg
    obtain ⟨outs, houts, hanswers⟩ := ih srv' l'
    refine ⟨out :: outs, ?_, ?_⟩
    · rw [List.foldl_cons, hnext, houts, hout, List.append_assoc]
      rfl
    · rw [loopTurns, hnext]
      exact .cons hanswer (hanswers.imp fun _ _ h => h.congr hcfg.symm)

theorem answers_filtered_iff {τ : Type} {bypass : τ → Bool} {ts : List τ} {outs : List FrameMemberResult}
    (h : List.Forall₂ (fun t out => srv.Answer streamId (bypass t) out.response) ts outs) :
    (∀ out ∈ outs, srv.Filtered streamId out.response) ↔
      (srv.respSuppressed streamId = true → ∀ t ∈ ts, bypass t = false) := by
  induction h with
  | nil => simp
  | cons hanswer _ ih =>
    rw [List.forall_mem_cons, ih, hanswer.filtered_iff]
    simp only [List.forall_mem_cons]
    exact ⟨fun ⟨h, hs⟩ hresp => ⟨h hresp, hs hresp⟩, fun h => ⟨fun hresp => (h hresp).1, fun hresp => (h hresp).2⟩⟩

theorem dispatchFrameWith_filtered_iff (kind : FrameKind) (srv : MockServer σ) (env : FrameEnvelope) (frame : Octets)
    (outCap : Nat) :
    (∀ out ∈ (dispatchFrameWith kind srv env frame outCap).1, srv.Filtered env.streamId out.response) ↔
      (srv.respSuppressed env.streamId = true →
        ∀ t ∈ frameTurns kind srv env frame outCap, turnBypass kind env t = false) := by
  have hcfg : (srv.frameSeqGateAdmits env.streamId env.sequenceNum).2.requestStreamCfg = srv.requestStreamCfg :=
    (congrArg StreamSide.cfg (frameSeqGateAdmits_streamSide srv env.streamId env.sequenceNum)).trans (note_cfg _ _ _)
  unfold dispatchFrameWith frameTurns
  rcases schedSplitFrameMembers frame with _ | _ | ⟨offset, offsets⟩
  · simp
  · simp
  dsimp only
  generalize srv.frameSeqGateAdmits env.streamId env.sequenceNum = gate at hcfg ⊢
  obtain ⟨_ | _, srv'⟩ := gate
  · refine ⟨fun _ _ => List.forall_mem_nil _, fun _ out hout => ?_⟩
    rw [(List.mem_replicate.mp hout).2]
    exact .none srv env.streamId
  · obtain ⟨outs, houts, hanswers⟩ := loop_answers kind env (frameMembers frame (offset :: offsets) outCap) srv' {}
    dsimp only
    rw [houts]
    exact answers_filtered_iff (hanswers.imp fun _ _ h => h.congr hcfg.symm)

/-! ### Every entry point -/

/-- A stream configured without a response stream is spared responses exactly as long as the answer does not come
    from outside `dispatch_plain`: from the latch of the stream, from a CRC or a reassembly that fails, or from the
    chain check of a frame. Acknowledges are suppressed wherever they are built. -/
theorem suppression_iff (srv : MockServer σ) :
    (∀ c : DispatchCall, srv.Filtered c.env.streamId (srv.call c).response ↔
      (srv.respSuppressed c.env.streamId = true → srv.callBypass c = false)) ∧
    ∀ (kind : FrameKind) (env : FrameEnvelope) (frame : Octets) (outCap : Nat),
      (∀ out ∈ (dispatchFrameWith kind srv env frame outCap).1, srv.Filtered env.streamId out.response) ↔
        (srv.respSuppressed env.streamId = true →
          ∀ t ∈ frameTurns kind srv env frame outCap, turnBypass kind env t = false) :=
  ⟨call_filtered_iff srv, fun kind env frame outCap => dispatchFrameWith_filtered_iff kind srv env frame outCap⟩

/-- A stream with no response stream, and an endpoint that checks the CRC of its requests. -/
def silentServer : MockServer Unit :=
  (new ()).run [.setRequestStreamCfg [{ rxStreamId := 7, rxRespStreamIndex := 0 }],
    .addEndpoint 1 true none, .setEndpointReqCrcEnable none 1 true]

/-- A request of 16 octets whose last four are no CRC. -/
def silentRequest : DispatchCall :=
  .dispatchE2e
    { byteBusId := 1, avtpSubtype := avtpSubtypeNtscf, acfMsgType := Acf.msgTypeAbb, timeSyncSupported := true,
      streamId := 7 }
    0 [0x1A, 0x04, 0x00, 0x01, 0x00, 0x05, 0x00, 0x00, 0, 0, 0, 0, 0, 0, 0, 0]

/-- It is answered with an error response, though the stream is set to none. -/
theorem crc_error_unsuppressed :
    silentServer.respSuppressed silentRequest.env.streamId = true ∧
      (silentServer.call silentRequest).response.map (fun r => classifyResponse (Acf.unpackHeader r)) = some .error ∧
      ¬∀ (srv : MockServer Unit) (c : DispatchCall), srv.Filtered c.env.streamId (srv.call c).response := by
  have hsilent : silentServer.respSuppressed silentRequest.env.streamId = true := by decide +kernel
  refine ⟨hsilent, by decide +kernel, fun h => ?_⟩
  have hbypass : silentServer.callBypass silentRequest = true := by decide +kernel
  have hfilter := (call_filtered_iff silentServer silentRequest).mp (h silentServer silentRequest) hsilent
  rw [hbypass] at hfilter
  cases hfilter

end MockServer
end Rcp
