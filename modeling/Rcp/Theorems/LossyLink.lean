import Rcp.Link
import Rcp.Theorems.Drain
import Rcp.Theorems.ProtectedFrames

/-! An adapter and a server over a transport that loses frames: every request that arrives is executed, once and in
    order, as long as the numbers that got lost in between do not reach half way round. -/

namespace Rcp

/-! ### What an adapter sends -/

/-- A request of standard form: an ACF_ABB message to bus `byteBusId` that is no response. -/
def IsPlainRequest (byteBusId : ByteBusId) (b : Octets) : Prop :=
  ∃ hdr payload, Acf.encodeAbb hdr payload = some b ∧ hdr.byteBusId = byteBusId ∧ hdr.rsp = 0

/-- Every operation but a discovery makes such a request of a message. -/
theorem requestOf_plain {op : AdaptOp} {byteBusId : ByteBusId} {streamId : StreamId} {msg : RelayMessage}
    {transactionNum : UInt8} {b : Octets} (hop : op ≠ .discovery)
    (h : requestOf op byteBusId streamId msg transactionNum = some b) : IsPlainRequest byteBusId b := by
  cases op <;> unfold requestOf at h <;> dsimp only at h
  case discovery => exact absurd rfl hop
  case gpioRead | uartWrite | adcRead | pwmOutRead | pwmInRead | linCommand | wakeupSleepcmd | wakeupWakeup =>
    exact ⟨_, _, h, rfl, rfl⟩
  case gpioWrite | pwmOutWrite =>
    obtain ⟨-, h⟩ := Option.ite_none_left_eq_some.mp h
    exact ⟨_, _, h, rfl, rfl⟩
  case spiTransfer =>
    exact ⟨_, _, h, rfl, rfl⟩
  case i2cTransfer =>
    obtain ⟨-, h⟩ := Option.ite_none_left_eq_some.mp h
    obtain ⟨-, h⟩ := Option.ite_none_left_eq_some.mp h
    obtain ⟨-, h⟩ := Option.ite_none_left_eq_some.mp h
    exact ⟨_, _, h, rfl, rfl⟩
  case uartRead =>
    obtain ⟨readSize, -, h⟩ := Option.bind_eq_some_iff.mp h
    exact ⟨_, _, h, rfl, rfl⟩
  case canFrame =>
    obtain ⟨frameFormat, -, h⟩ := Option.bind_eq_some_iff.mp h
    obtain ⟨arbitrationId, -, h⟩ := Option.bind_eq_some_iff.mp h
    obtain ⟨-, h⟩ := Option.ite_none_left_eq_some.mp h
    exact ⟨_, _, h, rfl, rfl⟩
  case iseledCommand =>
    obtain ⟨-, h⟩ := Option.ite_none_left_eq_some.mp h
    split at h
    · obtain ⟨-, h⟩ := Option.ite_none_left_eq_some.mp h
      exact ⟨_, _, h, rfl, rfl⟩
    · exact ⟨_, _, h, rfl, rfl⟩
  case mdioRead =>
    obtain ⟨addr, -, h⟩ := Option.bind_eq_some_iff.mp h
    obtain ⟨wordCount, -, h⟩ := Option.bind_eq_some_iff.mp h
    obtain ⟨-, h⟩ := Option.ite_none_left_eq_some.mp h
    obtain ⟨-, h⟩ := Option.ite_none_left_eq_some.mp h
    exact ⟨_, _, h, rfl, rfl⟩
  case mdioWrite =>
    obtain ⟨addr, -, h⟩ := Option.bind_eq_some_iff.mp h
    obtain ⟨-, h⟩ := Option.ite_none_left_eq_some.mp h
    obtain ⟨-, h⟩ := Option.ite_none_left_eq_some.mp h
    obtain ⟨-, h⟩ := Option.ite_none_left_eq_some.mp h
    obtain ⟨-, h⟩ := Option.ite_none_left_eq_some.mp h
    exact ⟨_, _, h, rfl, rfl⟩

/-- No request is too long for a frame. -/
theorem IsPlainRequest.fits {byteBusId : ByteBusId} {b : Octets} (h : IsPlainRequest byteBusId b) :
    b.length ≤ avtpNtscfMaxPayload := by
  obtain ⟨hdr, payload, henc, -, -⟩ := h
  obtain ⟨hq, rfl⟩ := Acf.encodeAbb_eq_some.mp henc
  have hmax : 0x1FF * 4 ≤ avtpNtscfMaxPayload := Nat.le_of_ble_eq_true rfl
  rw [Acf.framed_length]
  exact Nat.le_trans (Nat.mul_le_mul_right 4 hq) hmax

namespace RcpAdapter
variable {a : RcpAdapter} {msg : RelayMessage}

/-- The request of a message that has one, under the next transaction number. -/
def nextRequest (a : RcpAdapter) (msg : RelayMessage) : Option Octets := do
  let op ← a.resolveOp msg
  requestOf op a.byteBusId a.localStreamId msg (a.nextTransaction + 1).toUInt8

/-- The adapter has the same endpoint, and it has sent as many frames as `number` says. -/
structure At (a : RcpAdapter) (streamId : StreamId) (byteBusId : ByteBusId) (number : UInt32) : Prop where
  stream : a.localStreamId = streamId
  bus : a.byteBusId = byteBusId
  kind : a.kind ≠ .discovery
  number : a.nextSequence = number

theorem resolveOp_ne {op : AdaptOp} (hkind : a.kind ≠ .discovery) (h : a.resolveOp msg = some op) : op ≠ .discovery := by
  obtain ⟨name, -, h⟩ := Option.bind_eq_some_iff.mp h
  obtain ⟨op', -, h⟩ := Option.bind_eq_some_iff.mp h
  obtain ⟨hne, h⟩ := Option.ite_none_left_eq_some.mp h
  obtain rfl := Option.some.inj h
  rintro rfl
  exact hkind (not_not.mp hne).symm

section
variable {streamId : StreamId} {byteBusId : ByteBusId} {number : UInt32}

/-- A message without a request costs no sequence number. -/
theorem prepare_none (ha : a.At streamId byteBusId number) (h : a.nextRequest msg = none) :
    ∃ e a', a.prepare msg = (.error e, a') ∧ a'.At streamId byteBusId number := by
  unfold prepare
  cases hop : a.resolveOp msg with
  | none => exact ⟨_, _, rfl, ha⟩
  | some op =>
    rw [nextRequest, hop] at h
    have hnone : requestOf op a.byteBusId a.localStreamId msg (a.nextTransaction + 1).toUInt8 = none := h
    unfold buildFrame messageToRequest
    dsimp only
    rw [hnone]
    exact ⟨_, _, rfl, ha.stream, ha.bus, ha.kind, ha.number⟩

/-- A message with a request becomes a frame with the next number. -/
theorem prepare_some {body : Octets} (ha : a.At streamId byteBusId number) (h : a.nextRequest msg = some body) :
    ∃ op transactionNum frame hdr a', a.prepare msg = (.ok (op, transactionNum, frame), a') ∧
      a'.At streamId byteBusId (number + 1) ∧ avtpDecodeNtscf frame = .ok (hdr, body) ∧
      hdr.streamId = streamId ∧ hdr.sequenceNum = (number + 1).toUInt8 ∧ IsPlainRequest byteBusId body := by
  obtain ⟨op, hop, hreq⟩ := Option.bind_eq_some_iff.mp h
  have hne := resolveOp_ne ha.kind hop
  have hplain := requestOf_plain hne hreq
  obtain ⟨frame, hframe, -, -, -⟩ := avtpDecodeNtscf_encode
    { sv := 1, version := 0, ntscfDataLength := 0, sequenceNum := (a.nextSequence + 1).toUInt8
      streamId := a.localStreamId } hplain.fits
  unfold prepare buildFrame messageToRequest
  simp only [hop, hreq, if_neg hne, hframe]
  refine ⟨_, _, _, _, _, rfl, ⟨ha.stream, ha.bus, ha.kind, congrArg (· + 1) ha.number⟩,
    avtpDecodeNtscf_of_encode hframe, ha.stream, ?_, ha.bus ▸ hplain⟩
  rw [← ha.number]
  rfl

end

end RcpAdapter

/-! ### What a server does with it -/

theorem IsPlainRequest.decodes {byteBusId : ByteBusId} {b : Octets} (h : IsPlainRequest byteBusId b) :
    ∃ hdr payload, Acf.decodeAbb b = .ok (hdr, payload) ∧ hdr.byteBusId = byteBusId &&& 0x7FF ∧
      Acf.headerIsRequest (Acf.unpackHeader b) = true := by
  obtain ⟨hdr, payload, henc, rfl, hrsp⟩ := h
  have hdec := decodeAbb_of_encodeAbb henc
  refine ⟨_, _, hdec, rfl, ?_⟩
  obtain ⟨-, -, -, hhdr, -⟩ := Acf.decodeAbb_eq_ok hdec
  have hsent : (sentAbb hdr payload).rsp = hdr.rsp &&& 0x1 := rfl
  rw [Acf.headerIsRequest, show (Acf.unpackHeader b).rsp = (sentAbb hdr payload).rsp by rw [hhdr], hsent, hrsp]
  rfl

theorem IsPlainRequest.isMember {byteBusId : ByteBusId} {b : Octets} (h : IsPlainRequest byteBusId b) : IsMember b := by
  obtain ⟨hdr, payload, henc, -, -⟩ := h
  exact (Encoded.abb henc).isMember.1

theorem IsPlainRequest.noOpcode {byteBusId : ByteBusId} {b : Octets} (h : IsPlainRequest byteBusId b) :
    ∃ e, compoundPeekRequestType b = .error e := by
  obtain ⟨hdr, payload, hdec, -⟩ := h.decodes
  have htype : b.at 0 >>> 1 ≠ Acf.msgTypeGbb := by
    rw [(Acf.decodeAbb_eq_ok hdec).1]
    decide
  unfold compoundPeekRequestType
  rw [if_pos htype]
  split <;> exact ⟨_, rfl⟩

theorem admitWithAck_plain {ep : Endpoint} {byteBusId : ByteBusId} {b : Octets} (h : IsPlainRequest byteBusId b)
    (hen : ep.epEnable = true) (hopen : ep.admissionSuspended = false) (now avtpTimestamp : UInt32)
    (gptpReferenceNow : UInt64) :
    ep.admitWithAck b now false avtpTimestamp gptpReferenceNow = ({ outcome := .executeNow }, ep) := by
  obtain ⟨e, hpeek⟩ := h.noOpcode
  obtain ⟨-, -, -, -, hreq⟩ := h.decodes
  simp [Endpoint.admitWithAck, hopen, hreq, hpeek, Endpoint.admitStandard, Endpoint.submit, hen]

namespace MockServer
variable {σ : Type} {srv : MockServer σ} {streamId : UInt64} {byteBusId : ByteBusId} {e : EndpointIx}
  {handler : Option (Handler σ)}

/-- The requests of the stream to `byteBusId` get to endpoint `e`, which has its handler execute them at once. -/
structure Serves (srv : MockServer σ) (streamId : UInt64) (byteBusId : ByteBusId) (e : EndpointIx)
    (handler : Option (Handler σ)) : Prop where
  state : srv.state = .rcpConfigured
  found : srv.findSlotOnStream streamId byteBusId = some e
  enabled : (srv.endpoints e).queue.epEnable = true
  admits : (srv.endpoints e).queue.admissionSuspended = false
  handler : (srv.endpoints e).handler = handler

theorem setQueue_same (srv : MockServer σ) (e : EndpointIx) : srv.setQueue e (srv.endpoints e).queue = srv := by
  unfold setQueue setEndpoint
  rw [Function.update_eq_self]

theorem Serves.setWorld (h : Serves srv streamId byteBusId e handler) (world : σ) :
    Serves { srv with world } streamId byteBusId e handler := ⟨h.state, h.found, h.enabled, h.admits, h.handler⟩

/-- The request is executed, and nothing else happens. -/
theorem Serves.dispatchPlain (h : Serves srv streamId (byteBusId &&& 0x7FF) e handler) {b : Octets}
    (hb : IsPlainRequest byteBusId b) {env : Envelope} (hstream : env.streamId = streamId)
    (hbus : env.byteBusId = byteBusId &&& 0x7FF) (hsubtype : env.avtpSubtype = avtpSubtypeNtscf) :
    srv.dispatchPlain env {} b =
      { result := .ok
        response := srv.suppressResponsePerStreamCfg streamId (handle handler b srv.world).1
        server := { srv with world := (handle handler b srv.world).2 } } := by
  have haccept : srv.accepts env = .accept := by
    unfold accepts lifecycleShouldAccept avtpShouldDropTscf
    have hne : avtpSubtypeNtscf ≠ avtpSubtypeTscf := by decide
    rw [h.state, hsubtype, if_pos hne]
    rfl
  have htiming : srv.effectiveTiming env {} = {} := by
    unfold effectiveTiming
    split <;> rfl
  have hstored := admitWithAck_plain hb h.enabled h.admits 0 0 0
  have hrun : srv.runHandler e b = ((handle handler b srv.world).1, { srv with world := (handle handler b srv.world).2 }) := by
    unfold runHandler handle
    rw [h.handler]
    cases handler <;> rfl
  unfold MockServer.dispatchPlain dispatchPlainInner
  rw [haccept, hstream, hbus, h.found, htiming]
  unfold dispatchAdmit
  simp only [hstored, setQueue_same, reduceCtorEq, false_and, if_false, ne_eq, not_true_eq_false, finishAdmission, hrun]
  rfl

/-- ... as the only member of its frame too, if the gate lets that through. -/
theorem Serves.dispatchFrame (h : Serves srv streamId (byteBusId &&& 0x7FF) e handler) {b : Octets}
    (hb : IsPlainRequest byteBusId b) {env : FrameEnvelope} (hstream : env.streamId = streamId)
    (hsubtype : env.avtpSubtype = avtpSubtypeNtscf) {outCap : Nat} (hcap : 0 < outCap) {srv₀ : MockServer σ}
    (hgate : srv₀.frameSeqGateAdmits env.streamId env.sequenceNum = (true, srv)) :
    srv₀.dispatchFrame env b outCap =
      ([{ result := .ok, byteBusId := byteBusId &&& 0x7FF
          response := srv.suppressResponsePerStreamCfg streamId (handle handler b srv.world).1 }],
        { srv with world := (handle handler b srv.world).2 }) := by
  have hmembers : ∀ m ∈ [b], IsMember m := fun m hm => List.mem_singleton.mp hm ▸ hb.isMember
  have hframe := dispatchFrameWith_members .plain srv₀ env outCap hmembers (List.cons_ne_nil b [])
  have hcount : processedMembers [b].length outCap = 1 := by
    unfold processedMembers
    rw [List.length_singleton, if_pos (by decide)]
    omega
  obtain ⟨hdr, payload, hdec, hbus, -⟩ := hb.decodes
  have hpeek := peekMemberByteBusId_of_decodeAbb hdec
  have hchained : isChainedMember b = none := by
    obtain ⟨error, hno⟩ := hb.noOpcode
    rw [isChainedMember, hno]
  have hcall := h.dispatchPlain hb (show (⟨byteBusId &&& 0x7FF, env.avtpSubtype, Acf.msgTypeAbb, env.timeSyncSupported,
    env.streamId⟩ : Envelope).streamId = _ from hstream) rfl hsubtype
  rw [List.flatten_cons, List.flatten_nil, List.append_nil] at hframe
  rw [MockServer.dispatchFrame, hframe, hgate, hcount]
  dsimp only
  rw [List.take_succ_cons, List.take_zero, List.foldl_cons, List.foldl_nil]
  unfold frameMember memberVerdict
  rw [hpeek, hchained, hbus]
  simp only [FrameLoop.advance, FrameKind.memberCall, call, dispatch, hcall]
  rfl

/-! ### The sequence gate -/

/-- `last` is the number sent last. Of those before it that the stream's gate has not let through, at most `lost` are
    newer than the one it let through last. -/
def InStep (srv : MockServer σ) (streamId : UInt64) (last : UInt8) (lost : Nat) : Prop :=
  ∀ row, srv.requestStreamCfg.resolveRow streamId = some row →
    (srv.seqTracker row).hasPrev = true → ∃ k ≤ lost, (srv.seqTracker row).prevSeq + UInt8.ofNat k = last

theorem InStep.lose {last : UInt8} {lost : Nat} (h : srv.InStep streamId last lost) :
    srv.InStep streamId (last + 1) (lost + 1) := by
  intro row hrow hprev
  obtain ⟨k, hk, rfl⟩ := h row hrow hprev
  refine ⟨k + 1, Nat.succ_le_succ hk, ?_⟩
  rw [UInt8.ofNat_add, UInt8.add_assoc]
  rfl

/-- A number that is less than half way round ahead is let through. -/
theorem e2eSeqEvaluate_ahead {t : SeqTracker} {k : Nat} (hk : k < 127) (rxEnforceSeq rxSeqSafestateEnable : Bool) :
    e2eSeqEvaluate { t with hasPrev := true } rxEnforceSeq rxSeqSafestateEnable (t.prevSeq + UInt8.ofNat k + 1) =
      ({ accept := true
         discontinuity := UInt8.ofNat (k + 1) != 1
         enterSafeState := UInt8.ofNat (k + 1) != 1 && rxSeqSafestateEnable },
        { hasPrev := true, prevSeq := t.prevSeq + UInt8.ofNat k + 1 }) := by
  have hdist : t.prevSeq + UInt8.ofNat k + 1 - t.prevSeq = UInt8.ofNat (k + 1) := by
    rw [UInt8.add_assoc, UInt8.add_comm, UInt8.add_sub_cancel, UInt8.ofNat_add]
    rfl
  have hlow : UInt8.ofNat (k + 1) ≥ 1 := by
    rw [ge_iff_le, UInt8.le_iff_toNat_le, UInt8.toNat_ofNat']
    have : (1 : UInt8).toNat = 1 := rfl
    omega
  have hhigh : UInt8.ofNat (k + 1) ≤ 127 := by
    rw [UInt8.le_iff_toNat_le, UInt8.toNat_ofNat']
    have : (127 : UInt8).toNat = 127 := rfl
    omega
  unfold e2eSeqEvaluate
  dsimp only
  rw [hdist, decide_eq_true hlow, decide_eq_true hhigh]
  simp

theorem frameSeqGateAdmits_state (srv : MockServer σ) (streamId : UInt64) (sequenceNum : UInt8) :
    (srv.frameSeqGateAdmits streamId sequenceNum).2.state = srv.state ∧
      (srv.frameSeqGateAdmits streamId sequenceNum).2.requestStreamCfg = srv.requestStreamCfg := by
  have hbroadcast : ∀ (srv : MockServer σ) (index : UInt8), (srv.broadcastSafeState index).2.state = srv.state ∧
      (srv.broadcastSafeState index).2.requestStreamCfg = srv.requestStreamCfg := by
    refine broadcastSafeState_induction (R := fun srv srv' => srv'.state = srv.state ∧
      srv'.requestStreamCfg = srv.requestStreamCfg) (fun _ => ⟨rfl, rfl⟩) (fun h h' => ⟨h'.1.trans h.1, h'.2.trans h.2⟩) ?_
    intro srv found
    cases found with
    | none => exact ⟨rfl, rfl⟩
    | some e => rw [watchdogPurge_some]; exact ⟨rfl, rfl⟩
  unfold frameSeqGateAdmits
  split
  · exact ⟨rfl, rfl⟩
  · dsimp only
    split
    · exact hbroadcast _ _
    · exact ⟨rfl, rfl⟩

/-- The gate leaves an endpoint that serves a bus serving it: a safe state takes stored requests only. -/
theorem Serves.gate (h : Serves srv streamId byteBusId e handler) (streamId' : UInt64) (sequenceNum : UInt8) :
    Serves (srv.frameSeqGateAdmits streamId' sequenceNum).2 streamId byteBusId e handler := by
  have hpurge : (srv.endpoints e).queue.watchdogPurge.2.epEnable = (srv.endpoints e).queue.epEnable ∧
      (srv.endpoints e).queue.watchdogPurge.2.admissionSuspended = (srv.endpoints e).queue.admissionSuspended := by
    rw [Endpoint.watchdogPurge_eq_cleared]
    exact ⟨rfl, rfl⟩
  have htable := (frameSeqGateAdmits_protection srv streamId' sequenceNum).table
  have hfound := (htable.findSlotOnStream streamId byteBusId).trans h.found
  refine ⟨(frameSeqGateAdmits_state srv streamId' sequenceNum).1.trans h.state, hfound, ?_, ?_, ?_⟩
  all_goals
    rcases (frameSeqGateAdmits_purge srv streamId' sequenceNum).endpoints e with he | he <;> rw [he]
  · exact h.enabled
  · exact hpurge.1.trans h.enabled
  · exact h.admits
  · exact hpurge.2.trans h.admits
  · exact h.handler
  · exact h.handler

/-- After fewer than 127 losses the next number is let through, and the losses are forgotten. -/
theorem InStep.gate {last : UInt8} {lost : Nat} (h : srv.InStep streamId last lost) (hlost : lost < 127) :
    (srv.frameSeqGateAdmits streamId (last + 1)).1 = true ∧
      (srv.frameSeqGateAdmits streamId (last + 1)).2.InStep streamId (last + 1) 0 := by
  have hcfg := (frameSeqGateAdmits_state srv streamId (last + 1)).2
  cases hrow : srv.requestStreamCfg.resolveRow streamId with
  | none =>
    refine ⟨?_, fun row hrow' => ?_⟩
    · rw [frameSeqGateAdmits_accept, gateResult, hrow]
      rfl
    · rw [hcfg, hrow] at hrow'
      cases hrow'
  | some row =>
    have hresult : (e2eSeqEvaluate (srv.seqTracker row) (srv.requestStreamCfg.rows row).rxEnforceSeq
        (srv.requestStreamCfg.rows row).rxSeqSafestateEnable (last + 1)).1.accept = true ∧
        (e2eSeqEvaluate (srv.seqTracker row) (srv.requestStreamCfg.rows row).rxEnforceSeq
          (srv.requestStreamCfg.rows row).rxSeqSafestateEnable (last + 1)).2.prevSeq = last + 1 := by
      rcases ht : srv.seqTracker row with ⟨_ | _, prevSeq⟩
      · exact ⟨rfl, rfl⟩
      · obtain ⟨k, hk, hlast⟩ := h row hrow (by rw [ht])
        rw [ht] at hlast
        have heval := e2eSeqEvaluate_ahead (t := ⟨true, prevSeq⟩) (Nat.lt_of_le_of_lt hk hlost)
          (srv.requestStreamCfg.rows row).rxEnforceSeq (srv.requestStreamCfg.rows row).rxSeqSafestateEnable
        dsimp only at heval hlast
        rw [hlast] at heval
        rw [heval]
        exact ⟨rfl, rfl⟩
    refine ⟨?_, fun row' hrow' _ => ⟨0, Nat.le_refl 0, ?_⟩⟩
    · rw [frameSeqGateAdmits_accept, gateResult, hrow]
      exact hresult.1
    · rw [hcfg, hrow] at hrow'
      obtain rfl := Option.some.inj hrow'
      rw [frameSeqGateAdmits_seqTracker hrow, Function.update_self, hresult.2]
      exact UInt8.add_zero _

end MockServer

/-! ### Runs -/

/-- The requests of a run of messages, each with whether its frame arrives. -/
def RcpAdapter.requests (a : RcpAdapter) : List LinkSend → List (Octets × Bool)
  | [] => []
  | s :: rest =>
    ((a.nextRequest s.message).toList.map fun b => (b, s.arrives)) ++ RcpAdapter.requests (a.prepare s.message).2 rest

/-- The requests that arrive. -/
def arrivals (requests : List (Octets × Bool)) : List Octets := (requests.filter (·.2)).map Prod.fst

/-- Before each frame that arrives, fewer than `n` in a row get lost. -/
def LossesBelow (n : Nat) : Nat → List Bool → Prop
  | _, [] => True
  | lost, true :: rest => lost < n ∧ LossesBelow n 0 rest
  | lost, false :: rest => LossesBelow n (lost + 1) rest

instance decidableLossesBelow (n : Nat) : (lost : Nat) → (arrives : List Bool) → Decidable (LossesBelow n lost arrives)
  | _, [] => .isTrue trivial
  | lost, true :: rest =>
    have := decidableLossesBelow n 0 rest
    inferInstanceAs (Decidable (lost < n ∧ LossesBelow n 0 rest))
  | lost, false :: rest => decidableLossesBelow n (lost + 1) rest

namespace Link
variable {σ : Type} {l : Link σ} {streamId : StreamId} {byteBusId : ByteBusId} {e : EndpointIx}
  {handler : Option (Handler σ)}

/-- The state of a link between two messages: `number` has been sent last, after `lost` losses. The configuration of the
    streams is still that of `origin`. -/
structure Ready (l : Link σ) (origin : MockServer σ) (streamId : StreamId) (byteBusId : ByteBusId) (e : EndpointIx)
    (handler : Option (Handler σ)) (number : UInt32) (lost : Nat) : Prop where
  adapter : l.adapter.At streamId byteBusId number
  serves : l.server.Serves streamId.toU64 (byteBusId &&& 0x7FF) e handler
  inStep : l.server.InStep streamId.toU64 number.toUInt8 lost
  cfg : l.server.requestStreamCfg = origin.requestStreamCfg

/-- The answer to a request that is executed. -/
def executed (srv : MockServer σ) (streamId : StreamId) (byteBusId : ByteBusId) (response : Option Octets) :
    List FrameMemberResult :=
  [{ result := .ok, byteBusId := byteBusId &&& 0x7FF
     response := srv.suppressResponsePerStreamCfg streamId.toU64 response }]

theorem executed_congr {srv srv' : MockServer σ} (h : srv'.requestStreamCfg = srv.requestStreamCfg) :
    executed srv' streamId byteBusId = executed srv streamId byteBusId := by
  funext response
  unfold executed MockServer.suppressResponsePerStreamCfg
  rw [h]

section
variable {origin : MockServer σ} {number : UInt32} {lost : Nat} {s : LinkSend} (timeSyncSupported : Bool)

theorem Ready.skip (outCap : Nat) (h : l.Ready origin streamId byteBusId e handler number lost)
    (hnone : l.adapter.nextRequest s.message = none) :
    step timeSyncSupported outCap l s = { l with adapter := (l.adapter.prepare s.message).2 } ∧
      (step timeSyncSupported outCap l s).Ready origin streamId byteBusId e handler number lost := by
  obtain ⟨error, a', hprep, ha'⟩ := RcpAdapter.prepare_none h.adapter hnone
  unfold step
  rw [hprep]
  exact ⟨rfl, ha', h.serves, h.inStep, h.cfg⟩

theorem Ready.lose {body : Octets} (outCap : Nat) (h : l.Ready origin streamId byteBusId e handler number lost)
    (hreq : l.adapter.nextRequest s.message = some body) (harrives : s.arrives = false) :
    step timeSyncSupported outCap l s = { l with adapter := (l.adapter.prepare s.message).2 } ∧
      (step timeSyncSupported outCap l s).Ready origin streamId byteBusId e handler (number + 1) (lost + 1) := by
  obtain ⟨op, transactionNum, frame, hdr, a', hprep, ha', -, -, -, -⟩ := RcpAdapter.prepare_some h.adapter hreq
  unfold step
  rw [hprep, harrives]
  refine ⟨rfl, ha', h.serves, ?_, h.cfg⟩
  rw [UInt32.toUInt8_add]
  exact h.inStep.lose

theorem Ready.arrive {body : Octets} {outCap : Nat} (h : l.Ready origin streamId byteBusId e handler number lost)
    (hreq : l.adapter.nextRequest s.message = some body) (harrives : s.arrives = true) (hlost : lost < 127)
    (hcap : 0 < outCap) :
    ∃ srv, step timeSyncSupported outCap l s =
        { adapter := (l.adapter.prepare s.message).2, server := srv
          answers := l.answers ++
            [executed origin streamId byteBusId (MockServer.handle handler body l.server.world).1] } ∧
      srv.world = (MockServer.handle handler body l.server.world).2 ∧
      (step timeSyncSupported outCap l s).Ready origin streamId byteBusId e handler (number + 1) 0 := by
  obtain ⟨op, transactionNum, frame, hdr, a', hprep, ha', hdec, hstream, hnumber, hplain⟩ :=
    RcpAdapter.prepare_some h.adapter hreq
  have hone : (number + 1).toUInt8 = number.toUInt8 + 1 := UInt32.toUInt8_add number 1
  obtain ⟨haccept, hsync⟩ := h.inStep.gate hlost
  have hserves := h.serves.gate streamId.toU64 (number.toUInt8 + 1)
  have hcfg := (MockServer.frameSeqGateAdmits_state l.server streamId.toU64 (number.toUInt8 + 1)).2
  have hworld := (MockServer.frameSeqGateAdmits_purge l.server streamId.toU64 (number.toUInt8 + 1)).world
  rcases hgate : l.server.frameSeqGateAdmits streamId.toU64 (number.toUInt8 + 1) with ⟨accepted, srv⟩
  rw [hgate] at haccept hsync hserves hcfg hworld
  obtain rfl : accepted = true := haccept
  have hserve : l.server.serve timeSyncSupported outCap frame =
      (executed srv streamId byteBusId (MockServer.handle handler body srv.world).1,
        { srv with world := (MockServer.handle handler body srv.world).2 }) := by
    unfold MockServer.serve
    rw [hdec]
    dsimp only
    rw [hstream, hnumber, hone]
    exact hserves.dispatchFrame hplain rfl rfl hcap hgate
  dsimp only at hworld hcfg
  rw [executed_congr (hcfg.trans h.cfg), hworld] at hserve
  have hstep : step timeSyncSupported outCap l s =
      { adapter := a', server := { srv with world := (MockServer.handle handler body l.server.world).2 }
        answers := l.answers ++
          [executed origin streamId byteBusId (MockServer.handle handler body l.server.world).1] } := by
    unfold step
    rw [hprep, harrives]
    dsimp only
    rw [if_pos rfl, hserve]
  rw [hstep, hprep]
  refine ⟨_, rfl, rfl, ha', hserves.setWorld _, ?_, hcfg.trans h.cfg⟩
  rw [hone]
  exact hsync

/-- Any run keeps a link ready; what arrives is executed. -/
theorem Ready.run {outCap : Nat} (h : l.Ready origin streamId byteBusId e handler number lost) (hcap : 0 < outCap)
    {sends : List LinkSend} (hloss : LossesBelow 127 lost ((l.adapter.requests sends).map Prod.snd)) :
    let done := Lib.actAll (MockServer.handle handler) id (arrivals (l.adapter.requests sends)) l.server.world
    (l.run timeSyncSupported outCap sends).server.world = done.2 ∧
      (l.run timeSyncSupported outCap sends).answers =
        l.answers ++ done.1.map fun answer => executed origin streamId byteBusId answer.2 := by
  induction sends generalizing l number lost with
  | nil => exact ⟨rfl, (List.append_nil _).symm⟩
  | cons s rest ih =>
    have hrun : l.run timeSyncSupported outCap (s :: rest) =
        (step timeSyncSupported outCap l s).run timeSyncSupported outCap rest := rfl
    rw [RcpAdapter.requests] at hloss ⊢
    rw [hrun]
    cases hreq : l.adapter.nextRequest s.message with
    | none =>
      rw [hreq] at hloss
      obtain ⟨hstep, hready⟩ := h.skip timeSyncSupported outCap hreq
      rw [hstep] at hready ⊢
      exact ih hready hloss
    | some body =>
      rw [hreq] at hloss
      cases harrives : s.arrives with
      | false =>
        rw [harrives] at hloss
        obtain ⟨hstep, hready⟩ := h.lose timeSyncSupported outCap hreq harrives
        rw [hstep] at hready ⊢
        exact ih hready hloss
      | true =>
        rw [harrives] at hloss
        obtain ⟨hlost, hloss⟩ := hloss
        obtain ⟨srv, hstep, hworld, hready⟩ := h.arrive timeSyncSupported hreq harrives hlost hcap
        rw [hstep] at hready ⊢
        obtain ⟨hend, hanswers⟩ := ih hready hloss
        rw [hend, hanswers]
        dsimp only
        rw [hworld]
        exact ⟨rfl, List.append_assoc _ _ _⟩

end

/-- A link whose transport loses fewer than 127 frames in a row: every request that arrives is executed by the handler
    of its endpoint, once and in the order of sending, on exactly the octets the adapter made of the message, and
    nothing else is executed. Neither the loss nor the wrap of the sequence number makes the server turn one away. -/
theorem arrivals_executed (l : Link σ) (sends : List LinkSend) (timeSyncSupported : Bool) (outCap : Nat)
    (streamId : StreamId) (byteBusId : ByteBusId) (e : EndpointIx) (handler : Option (Handler σ)) (number : UInt32)
    (hready : l.Ready l.server streamId byteBusId e handler number 0) (hcap : 0 < outCap)
    (hloss : LossesBelow 127 0 ((l.adapter.requests sends).map Prod.snd)) :
    let done := Lib.actAll (MockServer.handle handler) id (arrivals (l.adapter.requests sends)) l.server.world
    (l.run timeSyncSupported outCap sends).server.world = done.2 ∧
      (l.run timeSyncSupported outCap sends).answers =
        l.answers ++ done.1.map fun answer => executed l.server streamId byteBusId answer.2 :=
  hready.run timeSyncSupported hcap hloss

/-- A UART on bus 5 that writes down what it executes, on a stream whose sequence numbers are enforced. -/
def uartLink : Link (List Octets) where
  adapter := { localStreamId := .fromU64 1, byteBusId := 5, kind := .uart }
  server :=
    { ((MockServer.new []).setRequestStreamCfg [{ rxStreamId := 1, rxEnforceSeq := true }]).2 with
      state := .rcpConfigured
      endpoints := fun e =>
        if e.val = 0 then
          { inUse := true, byteBusId := 5, queue := .init true, handler := some fun b log => (none, log ++ [b]) }
        else {}
      endpointCount := 1 }

/-- Three reads of a UART, of which the second is lost. -/
def threeReads : List LinkSend :=
  let message : RelayMessage := { entries := [("rcp.adapt.op", "uart_read"), ("rcp.uart.read_size", "1")] }
  [{ message, arrives := true }, { message, arrives := false }, { message, arrives := true }]

theorem arrivals_executed_reads :
    (uartLink.run true 1 threeReads).server.world =
      (Lib.actAll (MockServer.handle (some fun b log => (none, log ++ [b]))) id
        (arrivals (uartLink.adapter.requests threeReads)) []).2 := by
  have hserves : uartLink.server.Serves (StreamId.fromU64 1).toU64 (5 &&& 0x7FF) 0
      (some fun b log => (none, log ++ [b])) := ⟨rfl, by decide, rfl, rfl, rfl⟩
  have hinStep : uartLink.server.InStep (StreamId.fromU64 1).toU64 0 0 := by
    intro row _ hprev
    cases hprev
  have hready : uartLink.Ready uartLink.server (.fromU64 1) 5 0 (some fun b log => (none, log ++ [b])) 0 0 :=
    ⟨⟨rfl, rfl, by decide, rfl⟩, hserves, hinStep, rfl⟩
  exact (arrivals_executed uartLink threeReads true 1 (.fromU64 1) 5 0 _ 0 hready (by decide) (by decide)).1

end Link
end Rcp
