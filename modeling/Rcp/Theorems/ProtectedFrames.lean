import Rcp.Theorems.Chains
import Rcp.Theorems.EpCodecs
import Rcp.Theorems.Latch
import Rcp.Theorems.Routing
import Rcp.Theorems.Splitting

/-! Frames of protected requests: a server that is sent each request with the trailer its endpoint checks does what
    it does with the same requests sent plain. -/

namespace Rcp

/-! ### What the loop reads of a member -/

open Acf in
theorem peekMemberByteBusId_of_decodeAbb {b payload : Octets} {hdr : ByteMessageInfo}
    (h : decodeAbb b = .ok (hdr, payload)) : peekMemberByteBusId b = some (msgTypeAbb, hdr.byteBusId) := by
  rw [peekMemberByteBusId, peekMsgType_of_decodeAbb h]
  simp only [h, if_true]

open Acf in
theorem peekMemberByteBusId_of_decodeGbb {b payload : Octets} {hdr : GbbHeader}
    (h : decodeGbb b = .ok (hdr, payload)) : peekMemberByteBusId b = some (msgTypeGbb, hdr.info.byteBusId) := by
  have htype : msgTypeGbb ≠ msgTypeAbb := by decide
  rw [peekMemberByteBusId, peekMsgType_of_decodeGbb h]
  simp only [h, htype, if_false, if_true]

/-- A chained member is one `rcp_chained_decode_member` takes; the peek before it turns none of these away. -/
theorem isChainedMember_eq (b : Octets) :
    isChainedMember b = ((chainedDecodeMember b).toOption.map fun r => (r.cs, r.transactionNum)) := by
  rcases hdec : chainedDecodeMember b with error | r
  · unfold isChainedMember
    rw [hdec]
    split
    · rfl
    split <;> rfl
  · obtain ⟨hdr, payload, hrep, hop⟩ : ∃ hdr payload, decodeRepurposed b = .ok (hdr, payload) ∧
        opcodeOf hdr.messageTimestamp = RequestType.chained := by
      unfold chainedDecodeMember at hdec
      split at hdec
      · cases hdec
      rename_i hdr payload hrep
      split at hdec
      · cases hdec
      · exact ⟨hdr, payload, hrep, not_not.mp ‹_›⟩
    rw [isChainedMember, compoundPeekRequestType_of_decode hrep, hop]
    simp only [ne_eq, not_true, if_false, hdec]
    rfl

/-- The trailer changes neither the bus of a member nor its place in a chain. -/
theorem DecodesLonger.member {m w : Octets} (h : DecodesLonger m w) :
    peekMemberByteBusId w = peekMemberByteBusId m ∧ isChainedMember w = isChainedMember m := by
  rcases h with ⟨hdr, payload, trailer, -, hm, hw⟩ | ⟨hdr, payload, trailer, -, hm, hw⟩
  · have hnone : ∀ {b payload : Octets} {hdr : Acf.ByteMessageInfo}, Acf.decodeAbb b = .ok (hdr, payload) →
        isChainedMember b = none := by
      intro b payload hdr hb
      rcases hchained : isChainedMember b with _ | x
      · rfl
      · obtain ⟨byteBusId, hpeek⟩ := isChainedMember_peek hchained
        rw [peekMemberByteBusId_of_decodeAbb hb, Option.some.injEq, Prod.mk.injEq] at hpeek
        exact absurd hpeek.1 (by decide)
    rw [peekMemberByteBusId_of_decodeAbb hm, peekMemberByteBusId_of_decodeAbb hw, hnone hm, hnone hw]
    exact ⟨rfl, rfl⟩
  · rw [peekMemberByteBusId_of_decodeGbb hm, peekMemberByteBusId_of_decodeGbb hw, isChainedMember_eq, isChainedMember_eq]
    refine ⟨rfl, ?_⟩
    unfold chainedDecodeMember decodeRepurposed
    rw [hm, hw]
    dsimp only
    by_cases hmtv : hdr.info.mtv = Acf.mtvUntimed
    · rw [if_neg (not_not.mpr hmtv), if_neg (not_not.mpr hmtv)]
      dsimp only
      split
      · rfl
      split <;> rfl
    · rw [if_pos hmtv, if_pos hmtv]

/-! ### The members a frame entry point gets to -/

/-- How many of `n` members that is. Of more members than offsets are stored, the last stored one is left out. -/
def processedMembers (n outCap : Nat) : Nat :=
  if n ≤ mockMaxFrameMembers then min n outCap else min (mockMaxFrameMembers - 1) outCap

theorem memberOctets_isSome (frame : Octets) (offsets : List Nat) (i : Nat) :
    (MockServer.memberOctets frame offsets i).isSome = true ↔
      i + 1 < min offsets.length mockMaxFrameMembers ∨ i + 1 = offsets.length := by
  unfold MockServer.memberOctets
  dsimp only
  split
  · simp only [Option.isSome_some, true_iff]
    exact .inl ‹_›
  split
  · simp only [Option.isSome_some, true_iff]
    exact .inr ‹_›
  · simp only [Option.isSome_none, Bool.false_eq_true, false_iff, not_or]
    exact ⟨‹_›, ‹_›⟩

/-- A scan that stops at the first failure returns what it found before. -/
theorem takeWhile_isSome_map {α : Type} {f : Nat → Option α} {xs : List α} {n k : Nat} (hk : k ≤ n)
    (hf : ∀ i < k, f i = xs[i]?) (hlen : k ≤ xs.length) (hstop : k < n → f k = none) :
    (((List.range n).map f).takeWhile (·.isSome)).filterMap id = xs.take k := by
  have hfront : (List.range k).map f = (xs.take k).map some := by
    refine List.ext_getElem? fun i => ?_
    rw [List.getElem?_map, List.getElem?_map]
    by_cases hi : i < k
    · have hget : xs[i]? = some xs[i] := List.getElem?_eq_getElem (by omega)
      rw [List.getElem?_range hi, List.getElem?_take_of_lt hi, Option.map_some, hf i hi, hget, Option.map_some]
    · rw [List.getElem?_eq_none (by rw [List.length_range]; omega), List.getElem?_take_eq_none (by omega)]
      rfl
  have hall : ∀ x ∈ (xs.take k).map some, x.isSome = true := by
    intro x hx
    obtain ⟨y, -, rfl⟩ := List.mem_map.mp hx
    rfl
  obtain ⟨d, rfl⟩ := Nat.exists_eq_add_of_le hk
  rw [List.range_add, List.map_append, hfront, List.takeWhile_append_of_pos hall]
  have hrest : (((List.range d).map (k + ·)).map f).takeWhile (·.isSome) = [] := by
    cases d with
    | zero => rfl
    | succ d =>
      rw [List.range_succ_eq_map, List.map_cons, List.map_cons, Nat.add_zero, hstop (by omega)]
      rfl
  rw [hrest, List.append_nil, List.filterMap_map]
  exact List.filterMap_some

theorem frameMembers_members (members : List Octets) (outCap : Nat) :
    MockServer.frameMembers members.flatten (offsetsFrom 0 members) outCap =
      members.take (processedMembers members.length outCap) := by
  have hlength := length_offsetsFrom 0 members
  have hmax : mockMaxFrameMembers = 32 := rfl
  have hget : ∀ i < members.length, (i + 1 < mockMaxFrameMembers ∨ members.length ≤ mockMaxFrameMembers) →
      MockServer.memberOctets members.flatten (offsetsFrom 0 members) i = members[i]? := by
    intro i hi hstored
    obtain ⟨m, hm⟩ := Option.isSome_iff_exists.mp
      ((memberOctets_isSome members.flatten (offsetsFrom 0 members) i).mpr (by
        rw [hlength]
        omega))
    rw [hm, memberOctets_members hi hm]
  unfold MockServer.frameMembers MockServer.processCount processedMembers
  rw [hlength]
  by_cases hfits : members.length ≤ mockMaxFrameMembers
  · rw [if_pos hfits, Nat.min_eq_left hfits]
    refine takeWhile_isSome_map (Nat.le_refl _) (fun i hi => hget i (by omega) (.inr hfits)) (by omega) ?_
    exact fun h => absurd h (Nat.lt_irrefl _)
  · rw [if_neg hfits, Nat.min_eq_right (Nat.le_of_not_le hfits)]
    refine takeWhile_isSome_map (by omega) (fun i hi => hget i (by omega) (.inl (by omega))) (by omega) fun hk => ?_
    rw [← Option.not_isSome_iff_eq_none, memberOctets_isSome, hlength]
    omega

namespace MockServer
variable {σ : Type} {srv srv' : MockServer σ}

/-! ### What the members leave as it is -/

/-- The two servers agree on what the end-to-end check reads: the endpoints up to their queues, and the latches. -/
structure SameProtection (srv srv' : MockServer σ) : Prop where
  table : SameTable srv srv'
  faults : srv'.streamFaultTracker = srv.streamFaultTracker

theorem AdmitEffect.table {e : EndpointIx} {env : Envelope} {request : Octets} {result : DispatchResult}
    (h : AdmitEffect srv e env request result srv') : SameTable srv srv' := by
  cases h with
  | stored hi hf hs hn => exact hs.table
  | unadmitted hi hf hk hs hn => exact hs.table
  | cancelled hpeek hs => exact hs.table
  | other hr hp => exact hp.table

theorem CallEffect.table {streamId : UInt64} {byteBusId : ByteBusId} {request : Octets} {result : DispatchResult}
    (h : CallEffect srv streamId byteBusId request result srv') : SameTable srv srv' := by
  cases h with
  | admitted hfind henv h => exact h.table
  | other hr hp => exact hp.table

theorem notes_overflow_faults (t : StreamSide) (streamId : UInt64) : (t.note streamId .overflow).faults = t.faults := by
  unfold StreamSide.note
  split <;> rfl

theorem dispatchPlain_protection (srv : MockServer σ) (env : Envelope) (timing : TscfTiming) (request : Octets) :
    SameProtection srv (srv.dispatchPlain env timing request).server where
  table := (dispatchPlain_effect (.refl srv)).table
  faults := by
    have hside := congrArg StreamSide.faults (dispatchPlain_streamSide srv env timing request)
    unfold plainNotes at hside
    split at hside
    · exact hside.trans (notes_overflow_faults _ _)
    · exact hside

theorem tagMember_protection (srv : MockServer σ) (streamId : UInt64) (byteBusId : ByteBusId) (l : FrameLoop)
    (result : DispatchResult) : SameProtection srv (srv.tagMember streamId byteBusId l result) := by
  unfold tagMember
  have hrefl : SameProtection srv srv := ⟨fun e => ⟨_, rfl⟩, rfl⟩
  split
  · split
    · exact hrefl
    · exact ⟨SameTable.setQueue srv _ _, rfl⟩
  · exact hrefl

theorem SameProtection.trans {srv'' : MockServer σ} (h : SameProtection srv srv') (h' : SameProtection srv' srv'') :
    SameProtection srv srv'' where
  table e := by
    obtain ⟨queue, he⟩ := h.table e
    obtain ⟨queue', he'⟩ := h'.table e
    exact ⟨queue', by rw [he', he]⟩
  faults := h'.faults.trans h.faults

theorem frameSeqGateAdmits_protection (srv : MockServer σ) (streamId : UInt64) (sequenceNum : UInt8) :
    SameProtection srv (srv.frameSeqGateAdmits streamId sequenceNum).2 where
  table e := by
    rcases (frameSeqGateAdmits_purge srv streamId sequenceNum).endpoints e with he | he
    · exact ⟨_, he⟩
    · exact ⟨_, he⟩
  faults := by
    refine (congrArg StreamSide.faults (frameSeqGateAdmits_streamSide srv streamId sequenceNum)).trans ?_
    unfold StreamSide.note
    split <;> rfl

/-! ### A protected frame -/

/-- The endpoint a member addresses checks the trailer of its requests. -/
def checksCrc (srv : MockServer σ) (streamId : UInt64) (member : Octets) : Bool :=
  match peekMemberByteBusId member with
  | none => false
  | some (_, byteBusId) =>
    match srv.findSlotOnStream streamId byteBusId with
    | none => false
    | some e => (srv.endpoints e).reqCrcEnable

/-- How message `m` travels in a protected frame: with the trailer where its endpoint checks one, and otherwise as
    it is. -/
inductive Travels (srv : MockServer σ) (env : FrameEnvelope) (avtpTimestamp : UInt32) : Octets → Octets → Prop
  | plain {m : Octets} (hm : IsMember m) (h : srv.checksCrc env.streamId m = false) : Travels srv env avtpTimestamp m m
  | wrapped {m w : Octets} (hm : Encoded m) (h : srv.checksCrc env.streamId m = true)
      (hw : e2eWrapFramed env.streamId (env.avtpSubtype == avtpSubtypeNtscf) 0 false avtpTimestamp m = some w) :
      Travels srv env avtpTimestamp m w

section
variable {env : FrameEnvelope} {avtpTimestamp : UInt32} {m w : Octets}

theorem SameProtection.checksCrc (h : SameProtection srv srv') (streamId : UInt64) (member : Octets) :
    srv'.checksCrc streamId member = srv.checksCrc streamId member := by
  unfold MockServer.checksCrc
  rcases peekMemberByteBusId member with _ | ⟨msgType, byteBusId⟩
  · rfl
  dsimp only
  rw [h.table.findSlotOnStream]
  cases srv.findSlotOnStream streamId byteBusId with
  | none => rfl
  | some e =>
    obtain ⟨queue, he⟩ := h.table e
    dsimp only
    rw [he]

theorem SameProtection.streamFaulted (h : SameProtection srv srv') (streamId : UInt64) :
    srv'.streamFaulted streamId = srv.streamFaulted streamId := by
  rw [MockServer.streamFaulted, MockServer.streamFaulted, h.faults]

theorem Travels.keep (ht : Travels srv env avtpTimestamp m w) (h : SameProtection srv srv') :
    Travels srv' env avtpTimestamp m w := by
  cases ht with
  | plain hm hno => exact .plain hm (by rw [h.checksCrc, hno])
  | wrapped hm hcheck hw => exact .wrapped hm (by rw [h.checksCrc, hcheck]) hw

theorem Travels.isMember (ht : Travels srv env avtpTimestamp m w) : IsMember m ∧ IsMember w := by
  cases ht with
  | plain hm hno => exact ⟨hm, hm⟩
  | wrapped hm hcheck hw => exact ⟨hm.isMember.1, hm.isMember.2 _ _ hw⟩

theorem Travels.verdict (ht : Travels srv env avtpTimestamp m w) (l : FrameLoop) :
    memberVerdict env l w = memberVerdict env l m := by
  cases ht with
  | plain hm hno => rfl
  | wrapped hm hcheck hw =>
    obtain ⟨hpeek, hchained⟩ := (hm.decodesLonger hw).member
    unfold memberVerdict
    rw [hpeek, hchained]

/-- A member that goes on to its endpoint does so with the bus it was peeked at. -/
theorem memberVerdict_dispatch {l l' : FrameLoop} {member : Octets} {menv : Envelope}
    (h : memberVerdict env l member = (.dispatch menv, l')) :
    ∃ msgType, peekMemberByteBusId member = some (msgType, menv.byteBusId) ∧ menv.streamId = env.streamId ∧
      menv.avtpSubtype = env.avtpSubtype := by
  unfold memberVerdict at h
  dsimp only at h
  split at h
  · cases h
  · rename_i msgType byteBusId hpeek
    split at h <;> cases h
    exact ⟨msgType, hpeek, rfl, rfl⟩

/-- The end-to-end entry point hands on the message that was sent. -/
theorem Travels.dispatchE2e (ht : Travels srv env avtpTimestamp m w) (hfault : srv.streamFaulted env.streamId = false)
    {menv : Envelope} {msgType : UInt8} (hpeek : peekMemberByteBusId m = some (msgType, menv.byteBusId))
    (hstream : menv.streamId = env.streamId) (hsubtype : menv.avtpSubtype = env.avtpSubtype) :
    srv.dispatchE2e menv avtpTimestamp w = srv.dispatch menv m := by
  have hcheck : srv.checksCrc env.streamId m =
      match srv.findSlotOnStream menv.streamId menv.byteBusId with
      | none => false
      | some e => (srv.endpoints e).reqCrcEnable := by
    rw [MockServer.checksCrc, hpeek, hstream]
  unfold MockServer.dispatchE2e dispatchE2eWith MockServer.dispatch
  rw [hstream, if_neg (by rw [hfault]; exact Bool.false_ne_true), ← hstream]
  cases ht with
  | plain hm hno =>
    rw [hno] at hcheck
    cases hfind : srv.findSlotOnStream menv.streamId menv.byteBusId with
    | none => rfl
    | some e =>
      rw [hfind] at hcheck
      dsimp only at hcheck ⊢
      rw [← hcheck]
      rfl
  | wrapped hm hyes hw =>
    rw [hyes] at hcheck
    cases hfind : srv.findSlotOnStream menv.streamId menv.byteBusId with
    | none =>
      rw [hfind] at hcheck
      cases hcheck
    | some e =>
      rw [hfind] at hcheck
      dsimp only at hcheck ⊢
      have hunwrap := e2eUnwrap_insertCrc
        (e2eFramedHeader env.streamId (env.avtpSubtype == avtpSubtypeNtscf) 0 false avtpTimestamp) hw
        (realLen_of_long hm.isMember.1.eight_le)
      rw [if_neg (not_not.mpr rfl)] at hunwrap
      rw [← hcheck, hsubtype, hstream, e2eUnwrapFramed, hunwrap]
      rfl

/-- One turn of the loop on the member as it travels and on the message itself. -/
theorem Travels.turn (ht : Travels srv env avtpTimestamp m w) (hfault : srv.streamFaulted env.streamId = false)
    (l : FrameLoop) :
    frameMember (.e2e avtpTimestamp) env (srv, l) w = frameMember .plain env (srv, l) m ∧
      SameProtection srv (frameMember .plain env (srv, l) m).1 := by
  unfold frameMember
  dsimp only
  rw [ht.verdict]
  rcases hverdict : memberVerdict env l m with ⟨_ | out | menv, l'⟩
  · exact ⟨rfl, fun e => ⟨_, rfl⟩, rfl⟩
  · exact ⟨rfl, fun e => ⟨_, rfl⟩, rfl⟩
  · obtain ⟨msgType, hpeek, hstream, hsubtype⟩ := memberVerdict_dispatch hverdict
    have hcall : srv.call (FrameKind.memberCall (.e2e avtpTimestamp) menv w) =
        srv.call (FrameKind.memberCall .plain menv m) := ht.dispatchE2e hfault hpeek hstream hsubtype
    have hresult : (srv.call (FrameKind.memberCall .plain menv m)).result ≠ .crcError := dispatchPlain_result srv _ _ _
    have herror : FrameKind.isError (.e2e avtpTimestamp) (srv.call (FrameKind.memberCall .plain menv m)).result =
        FrameKind.isError .plain (srv.call (FrameKind.memberCall .plain menv m)).result := by
      unfold FrameKind.isError
      rw [beq_false_of_ne hresult, Bool.and_false, Bool.and_false]
    dsimp only
    rw [hcall, herror]
    refine ⟨rfl, ?_⟩
    exact (dispatchPlain_protection srv menv {} m).trans (tagMember_protection _ _ _ _ _)

end

/-- A frame of messages goes through the gate, and the members the entry point gets to go through the loop. -/
theorem dispatchFrameWith_members (kind : FrameKind) (srv : MockServer σ) (env : FrameEnvelope) {members : List Octets}
    (outCap : Nat) (hmembers : ∀ m ∈ members, IsMember m) (hne : members ≠ []) :
    dispatchFrameWith kind srv env members.flatten outCap =
      match srv.frameSeqGateAdmits env.streamId env.sequenceNum with
      | (false, srv) =>
        (List.replicate (min (min members.length mockMaxFrameMembers) outCap) { result := .seqError }, srv)
      | (true, srv) =>
        let s := (members.take (processedMembers members.length outCap)).foldl (frameMember kind env) (srv, {})
        (s.2.results, s.1) := by
  obtain ⟨m, ms, rfl⟩ := List.exists_cons_of_ne_nil hne
  have hframe := frameMembers_members (m :: ms) outCap
  have hcount : processCount (offsetsFrom 0 (m :: ms)) outCap =
      min (min (m :: ms).length mockMaxFrameMembers) outCap := by
    rw [processCount, length_offsetsFrom]
  unfold dispatchFrameWith
  rw [schedSplitFrameMembers_members hmembers]
  rw [offsetsFrom_cons] at hframe hcount ⊢
  dsimp only
  rewrite [hframe, hcount]
  rcases srv.frameSeqGateAdmits env.streamId env.sequenceNum with ⟨_ | _, srv'⟩ <;> rfl

end MockServer
end Rcp
