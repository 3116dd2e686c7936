import Rcp.Tsn
import Rcp.Theorems.Framing
import Rcp.Theorems.Routing
import Rcp.Theorems.Select
import Rcp.Theorems.Splitting
import Rcp.Theorems.Unadmission

/-! The priority of a frame on the network against the order of the server: what the sender tags a frame with is the
    rank under which the server stores the request in it, so that both ends order requests alike. -/

namespace Rcp

/-! ### The kind of a request -/

/-- The kind of a request, told by its octets. -/
def requestKind (b : Octets) : SchedKind :=
  match compoundPeekRequestType b with
  | .error _ => .standard
  | .ok requestType => schedClassify true requestType

theorem requestKind_of_type_ne {b : Octets} (h : b.at 0 >>> 1 ≠ Acf.msgTypeGbb) : requestKind b = .standard := by
  unfold requestKind compoundPeekRequestType
  by_cases hshort : b.length < Acf.gbbHeaderLen
  · rw [if_pos hshort]
  · rw [if_neg hshort, if_pos h]

/-- Three octets tell it. -/
theorem requestKind_congr {a b : Octets} (ha : Acf.gbbHeaderLen ≤ a.length) (hb : Acf.gbbHeaderLen ≤ b.length)
    (htype : a.at 0 >>> 1 = b.at 0 >>> 1) (hmtv : a.at 2 = b.at 2) (hopcode : a.at 8 = b.at 8) :
    requestKind a = requestKind b := by
  unfold requestKind compoundPeekRequestType
  rw [if_neg (Nat.not_lt.mpr ha), if_neg (Nat.not_lt.mpr hb), htype, hmtv, show Acf.abbHeaderLen = 8 from rfl, hopcode]

theorem tsnClassifyFrame_eq (frame : Octets) :
    tsnClassifyFrame frame = (tsnPayload frame).elim .standard requestKind := by
  unfold tsnClassifyFrame
  cases tsnPayload frame with
  | none => rfl
  | some payload =>
    dsimp only [Option.elim]
    unfold Acf.peekMsgType
    by_cases hnil : payload.length = 0
    · have hshort : payload.length < Acf.gbbHeaderLen := by rw [hnil]; exact Nat.succ_pos _
      rw [if_pos hnil, requestKind, compoundPeekRequestType, if_pos hshort]
    · rw [if_neg hnil, if_neg (Nat.not_lt.mpr (Nat.one_le_iff_ne_zero.mpr hnil))]
      dsimp only
      by_cases htype : payload.at 0 >>> 1 ≠ Acf.msgTypeGbb
      · rw [if_pos htype, requestKind_of_type_ne htype]
      · rw [if_neg htype]
        rfl

/-! ### A request in a frame -/

/-- A request as a member of a frame: as it is, or with an E2E trailer. -/
inductive OnWire (request : Octets) : Octets → Prop where
  | plain : OnWire request request
  | wrapped {h : E2eHeader} {w : Octets} (hw : e2eWrap h request = some w) : OnWire request w

theorem octet0_putLenField (b : Octets) (v : UInt16) : Octets.at (putLenField b v) 0 >>> 1 = b.at 0 >>> 1 := by
  apply UInt8.toBitVec_inj.mp
  simp only [putLenField, Octets.at, List.getD_cons_zero, UInt8.toBitVec_or, UInt8.toBitVec_and,
    UInt8.toBitVec_shiftRight, UInt16.toBitVec_toUInt8, UInt16.toBitVec_and, UInt16.toBitVec_shiftRight]
  ext i hi
  interval_cases i <;> simp

/-- What the trailer leaves of the header. -/
theorem e2eWrap_octets {h : E2eHeader} {request w : Octets} (hw : e2eWrap h request = some w) :
    request.length ≤ w.length ∧ Octets.at w 0 >>> 1 = request.at 0 >>> 1 ∧
      ∀ i, 2 ≤ i → i < realLen request → Octets.at w i = request.at i := by
  rw [e2eWrap_eq_insertCrc] at hw
  obtain ⟨-, hpad, hreal, -, rfl⟩ := insertCrc_eq_some.mp hw
  have hcovered := covered_length hreal
  have hat : ∀ rest : Octets, ∀ i, i < realLen request →
      Octets.at (covered request ++ rest) i = Octets.at (covered request) i := fun rest i hi =>
    Octets.at_append_left (by rw [hcovered]; exact hi)
  rw [List.append_assoc]
  refine ⟨?_, ?_, fun i htwo hi => ?_⟩
  · have hsplit : realLen request = request.length - acfPadOctets request := rfl
    rw [List.length_append, hcovered, List.length_append, List.length_drop]
    omega
  · rw [hat _ 0 (by omega), covered, octet0_putLenField, Octets.at_take (by omega)]
  · rw [hat _ i hi, covered, putLenField_at _ htwo, Octets.at_take hi]

/-- The front of a frame tells the kind of its first member. -/
theorem requestKind_onWire {request member : Octets} (hm : IsMember request) (hw : OnWire request member)
    (rest : Octets) : requestKind (member ++ rest) = requestKind request := by
  have height := hm.eight_le
  obtain ⟨hlen, htype, hat⟩ : request.length ≤ member.length ∧ Octets.at member 0 >>> 1 = request.at 0 >>> 1 ∧
      ∀ i, 2 ≤ i → i < realLen request → Octets.at member i = request.at i := by
    cases hw with
    | plain => exact ⟨Nat.le_refl _, rfl, fun _ _ _ => rfl⟩
    | wrapped hw => exact e2eWrap_octets hw
  have hfront : ∀ i, i < 9 → i < member.length → Octets.at (member ++ rest) i = Octets.at member i :=
    fun i _ hi => Octets.at_append_left hi
  have htype' : Octets.at (member ++ rest) 0 >>> 1 = request.at 0 >>> 1 := by
    rw [hfront 0 (by omega) (by omega), htype]
  rcases hm.type with habb | hgbb
  · rw [requestKind_of_type_ne (b := request) (by rw [habb]; decide),
      requestKind_of_type_ne (by rw [htype', habb]; decide)]
  · have hheader := hm.header
    rw [hgbb, ← hm.length] at hheader
    have hlong : Acf.gbbHeaderLen ≤ request.length := hheader
    have hreal : realLen request = request.length - acfPadOctets request := rfl
    have hpad := acfPadOctets_le request
    have hgbbLen : Acf.gbbHeaderLen = 16 := rfl
    refine requestKind_congr (by rw [List.length_append]; omega) hlong htype' ?_ ?_
    · rw [hfront 2 (by omega) (by omega), hat 2 (by omega) (by omega)]
    · rw [hfront 8 (by omega) (by omega), hat 8 (by omega) (by omega)]

/-- The frame begins with the request. -/
structure Carries (request frame : Octets) : Prop where
  isMember : IsMember request
  encoded : ∃ member rest, OnWire request member ∧
    ((∃ hdr, avtpEncodeNtscf hdr (member ++ rest) = some frame) ∨
      ∃ hdr, avtpEncodeTscf hdr (member ++ rest) = some frame)

theorem tsnPayload_of_ntscf {b payload : Octets} {hdr : NtscfHeader} (h : avtpDecodeNtscf b = .ok (hdr, payload)) :
    tsnPayload b = some payload := by
  obtain ⟨hsubtype, hin, -, -⟩ := avtpDecodeNtscf_eq_ok h
  have hheader : avtpNtscfHeaderLen = 12 := rfl
  unfold tsnPayload avtpPeekSubtype
  rw [if_neg (by omega), Option.bind_eq_bind, Option.bind_some, if_pos hsubtype, h]
  rfl

theorem tsnPayload_of_tscf {b payload : Octets} {hdr : TscfHeader} (h : avtpDecodeTscf b = .ok (hdr, payload)) :
    tsnPayload b = some payload := by
  obtain ⟨hsubtype, hin, -, -⟩ := avtpDecodeTscf_eq_ok h
  have hheader : avtpTscfHeaderLen = 24 := rfl
  have hother : ¬b.at 0 = avtpSubtypeNtscf := by rw [hsubtype]; decide
  unfold tsnPayload avtpPeekSubtype
  rw [if_neg (by omega), Option.bind_eq_bind, Option.bind_some, if_neg hother, if_pos hsubtype, h]
  rfl

/-- A frame is tagged by its first request. -/
theorem Carries.classify {request frame : Octets} (h : Carries request frame) :
    tsnClassifyFrame frame = requestKind request := by
  obtain ⟨member, rest, hwire, hencoded⟩ := h.encoded
  have hpayload : tsnPayload frame = some (member ++ rest) := by
    rcases hencoded with ⟨hdr, hf⟩ | ⟨hdr, hf⟩
    · have hlen : (member ++ rest).length ≤ avtpNtscfMaxPayload := by
        by_contra hlong
        rw [avtpEncodeNtscf, if_pos (Nat.lt_of_not_le hlong)] at hf
        cases hf
      obtain ⟨f, hf', -, hdec, -⟩ := avtpDecodeNtscf_encode hdr hlen
      obtain rfl := Option.some.inj (hf.symm.trans hf')
      exact tsnPayload_of_ntscf (List.append_nil frame ▸ hdec [])
    · have hlen : (member ++ rest).length ≤ avtpTscfMaxPayload := by
        by_contra hlong
        rw [avtpEncodeTscf, if_pos (Nat.lt_of_not_le hlong)] at hf
        cases hf
      obtain ⟨f, hf', -, hdec, -⟩ := avtpDecodeTscf_encode hdr hlen
      obtain rfl := Option.some.inj (hf.symm.trans hf')
      exact tsnPayload_of_tscf (List.append_nil frame ▸ hdec [])
  rw [tsnClassifyFrame_eq, hpayload]
  exact requestKind_onWire h.isMember hwire rest

/-! ### What the server stores -/

namespace Endpoint
variable {ep : Endpoint} {i : SlotIx}

/-- Every stored request is of the kind that its octets tell. -/
def Labelled (ep : Endpoint) : Prop :=
  ∀ i, (ep.pending i).inUse = true → (ep.pending i).kind = requestKind (ep.pending i).frame

theorem Labelled.storeAt (h : ep.Labelled) {slot : Pending} (hslot : slot.kind = requestKind slot.frame) :
    (ep.storeAt i slot).Labelled := by
  intro j hu
  rw [storeAt_pending] at hu ⊢
  by_cases hj : j = i
  · subst hj
    rwa [Function.update_self]
  · rw [Function.update_of_ne hj] at hu ⊢
    exact h j hu

theorem Labelled.admitUnderTscfGate (h : ep.Labelled) {frame : Octets} {kind : SchedKind}
    (hkind : kind = requestKind frame) (now : UInt32) (gate : UInt64) (requestType : UInt8) :
    (ep.admitUnderTscfGate frame now gate kind requestType).2.Labelled := by
  cases hi : ep.firstFree with
  | none =>
    rw [admitUnderTscfGate_full hi]
    exact h
  | some i =>
    rw [admitUnderTscfGate_free hi]
    exact h.storeAt hkind

theorem Labelled.admitStandard (h : ep.Labelled) {frame : Octets} (hkind : requestKind frame = .standard) (now : UInt32)
    (tv : Bool) (gate : UInt64) : (ep.admitStandard frame now tv gate).2.Labelled := by
  unfold Endpoint.admitStandard
  cases tv with
  | true =>
    rw [if_pos rfl]
    exact h.admitUnderTscfGate hkind.symm now gate 0
  | false =>
    obtain ⟨queue, hq⟩ := submit_endpoint ep frame
    rw [if_neg Bool.false_ne_true]
    rcases hs : ep.submit frame with ⟨_ | _, ack, ep'⟩ <;>
    · rw [hs] at hq
      dsimp only at hq ⊢
      rw [hq]
      exact h

theorem Labelled.admitConditional (h : ep.Labelled) {frame : Octets} {kind : SchedKind}
    (hkind : kind = requestKind frame) (now : UInt32) (tv : Bool) (gate : UInt64) (requestType : UInt8) :
    (ep.admitConditional frame now tv gate kind requestType).2.Labelled := by
  cases hi : ep.firstFree with
  | none =>
    unfold Endpoint.admitConditional claimSlot
    rw [hi]
    exact h
  | some i =>
    cases hd : decodeCondition frame
        { Pending.claimed ep.nextSequence with kind := kind, requestType := requestType } with
    | error error =>
      rw [admitConditional_refused hi hd]
      intro j hu
      rw [burnAt_pending] at hu ⊢
      by_cases hj : j = i
      · subst hj
        rw [Function.update_self] at hu
        cases hu
      · rw [Function.update_of_ne hj] at hu ⊢
        exact h j hu
    | ok slot =>
      rw [admitConditional_stored hi hd]
      exact h.storeAt ((decodeCondition_decoded hd).kind.trans hkind)

theorem Labelled.admitWithAck (h : ep.Labelled) (frame : Octets) (now : UInt32) (tv : Bool) (avtpTimestamp : UInt32)
    (gptpReferenceNow : UInt64) : (ep.admitWithAck frame now tv avtpTimestamp gptpReferenceNow).2.Labelled := by
  unfold Endpoint.admitWithAck
  generalize (if tv then avtpExtendTimestamp avtpTimestamp gptpReferenceNow else 0) = gate
  dsimp only
  split
  · exact h
  split
  · exact h
  cases hpeek : compoundPeekRequestType frame with
  | error e => exact h.admitStandard (by rw [requestKind, hpeek]) now tv gate
  | ok requestType =>
    have hkind : schedClassify true requestType = requestKind frame := by rw [requestKind, hpeek]
    dsimp only
    split
    · rename_i hstandard
      exact h.admitStandard (hkind.symm.trans hstandard) now tv gate
    · rename_i hcancellation
      split
      · exact h.admitUnderTscfGate (hcancellation.symm.trans hkind) now gate requestType
      · exact h
    · exact h.admitConditional hkind now tv gate requestType

theorem Labelled.storeStep (h : ep.Labelled) (op : StoreOp) : (ep.storeStep op).Labelled := by
  intro i hu
  cases op with
  | tag k chainGroup chainPosition =>
    simp only [Endpoint.storeStep, setSlot_pending] at hu ⊢
    by_cases hik : i = k
    · subst hik
      rw [Function.update_self] at hu ⊢
      exact h i hu
    · rw [Function.update_of_ne hik] at hu ⊢
      exact h i hu
  | call op =>
    by_cases hadmit : op.isAdmit = false
    · rcases step_inUse_cases hadmit hu with hsame | ⟨hold, now, hslot⟩
      · have hbefore : (ep.pending i).inUse = true := hsame.inUse.symm.trans hu
        change ((ep.step op).pending i).kind = requestKind ((ep.step op).pending i).frame
        rw [hsame.sameNumber.frame, ← h i hbefore, hsame]
      · change ((ep.step op).pending i).kind = requestKind ((ep.step op).pending i).frame
        change ((ep.step op).pending i).inUse = true at hu
        rw [hslot] at hu ⊢
        rw [(Pending.completed_sameNumber hu).frame, ← h i hold, (Pending.completed_same hold hu).kind]
    cases op with
    | admitWithAck frame now tv avtpTimestamp gptpReferenceNow =>
      exact h.admitWithAck frame now tv avtpTimestamp gptpReferenceNow i hu
    | _ => exact absurd rfl hadmit

theorem Reachable.labelled (h : ep.Reachable) : ep.Labelled := by
  obtain ⟨epEnable, ops, rfl⟩ := h
  have hrun : ∀ (ops : List StoreOp) (ep : Endpoint), ep.Labelled → (ep.storeRun ops).Labelled := by
    intro ops
    induction ops with
    | nil => exact fun ep h => h
    | cons op ops ih => exact fun ep h => ih _ (h.storeStep op)
  exact hrun ops _ nofun

end Endpoint

/-! ### What the sender tags -/

namespace TsnTransport
variable {τ : Type} {innerStep : τ → TransportCall → TransportResult × τ}

theorem step_eq (innerStep : τ → TransportCall → TransportResult × τ) (t : TsnTransport τ) (call : TransportCall) :
    (t.step innerStep call).1 = (innerStep t.inner call).1 ∧
      (t.step innerStep call).2.inner = (innerStep t.inner call).2 ∧
      (t.step innerStep call).2.fd = t.fd ∧ (t.step innerStep call).2.pcpMap = t.pcpMap := by
  unfold step tag
  cases call with
  | send frame => by_cases hfd : t.fd ≥ 0 <;> simp only [hfd, if_true, if_false, and_self]
  | recv done bufCap => exact ⟨rfl, rfl, rfl, rfl⟩
  | close => exact ⟨rfl, rfl, rfl, rfl⟩

/-- The tags change nothing that a caller sees. -/
theorem answers_eq (calls : List TransportCall) : ∀ t : TsnTransport τ,
    transportAnswers (fun t => t.step innerStep) t calls = transportAnswers innerStep t.inner calls := by
  induction calls with
  | nil => exact fun _ => rfl
  | cons call calls ih =>
    intro t
    obtain ⟨hresult, hinner, -, -⟩ := step_eq innerStep t call
    rw [transportAnswers, transportAnswers, ih, hresult, hinner]

/-- Every frame is sent with the priority of its kind. -/
theorem sent_tagged (calls : List TransportCall) : ∀ {t : TsnTransport τ}, t.fd ≥ 0 →
    ∀ s ∈ t.sent innerStep calls, s.1 = tsnPcpFor t.pcpMap (tsnClassifyFrame s.2) := by
  induction calls with
  | nil => exact nofun
  | cons call calls ih =>
    intro t hfd s hs
    obtain ⟨-, -, hsame, hmap⟩ := step_eq innerStep t call
    have hrest : s ∈ (t.step innerStep call).2.sent innerStep calls →
        s.1 = tsnPcpFor t.pcpMap (tsnClassifyFrame s.2) := by
      intro hs
      rw [← hmap]
      exact ih (hsame.symm ▸ hfd) s hs
    cases call with
    | send frame =>
      rcases List.mem_cons.mp hs with rfl | hs
      · simp only [step, tag, if_pos hfd]
      · exact hrest hs
    | recv done bufCap => exact hrest hs
    | close => exact hrest hs

end TsnTransport

/-! ### Both ends -/

namespace MockServer
variable {σ τ : Type}

theorem schedCompare_eq {a b : SchedEntry} :
    schedCompare a b < 0 ↔ schedKindRank b.kind < schedKindRank a.kind ∨
      schedKindRank a.kind = schedKindRank b.kind ∧ a.sequence < b.sequence := by
  have ha := schedKindRank_le a.kind
  have hb := schedKindRank_le b.kind
  rw [schedCompare_neg]
  unfold SchedEntry.key
  rw [Prod.Lex.toLex_lt_toLex]
  dsimp only
  rw [UInt8.lt_iff_toNat_lt, ← UInt8.toNat_inj, UInt64.lt_iff_toNat_lt]
  omega

/-- The server orders the requests that it has stored as the network orders the frames they came in: a tick executes one
    whose frame no other due one's had precedence over, and among frames of one priority the first admitted comes first.
    This holds of every server that calls lead to, and of every transport that sends with the default map. -/
theorem pcp_orders_requests (innerStep : τ → TransportCall → TransportResult × τ) (t : TsnTransport τ)
    (calls : List TransportCall) (hfd : t.fd ≥ 0) (hmap : t.pcpMap = tsnDefaultPcpMap) (world : σ)
    (ops : List (MockOp σ)) (e : EndpointIx) (i j : SlotIx) {p q : UInt8} {f g : Octets}
    (hi : (((new world).run ops).slot e i).inUse = true) (hj : (((new world).run ops).slot e j).inUse = true)
    (hp : (p, f) ∈ t.sent innerStep calls) (hq : (q, g) ∈ t.sent innerStep calls)
    (hf : Carries (((new world).run ops).slot e i).frame f) (hg : Carries (((new world).run ops).slot e j).frame g) :
    (schedCompare (((new world).run ops).slot e i).entry (((new world).run ops).slot e j).entry < 0 ↔
      q < p ∨ p = q ∧ (((new world).run ops).slot e i).sequence < (((new world).run ops).slot e j).sequence) ∧
    ∀ ctx, (((((new world).run ops).endpoints e).queue).selectDue ctx).1 = some i →
      ((((new world).run ops).endpoints e).queue).due ctx j = true → q ≤ p := by
  have hlabelled := (run_reachable world ops e).labelled
  have htag : ∀ {k : SlotIx} {r : UInt8} {frame : Octets}, (((new world).run ops).slot e k).inUse = true →
      (r, frame) ∈ t.sent innerStep calls → Carries (((new world).run ops).slot e k).frame frame →
      r = schedKindRank (((new world).run ops).slot e k).kind := by
    intro k r frame hk hsent hcarries
    have hkind : (((new world).run ops).slot e k).kind = requestKind (((new world).run ops).slot e k).frame :=
      hlabelled k hk
    rw [hkind, ← hcarries.classify]
    have htagged := TsnTransport.sent_tagged calls hfd (r, frame) hsent
    rwa [hmap] at htagged
  obtain rfl := htag hi hp hf
  obtain rfl := htag hj hq hg
  refine ⟨schedCompare_eq, fun ctx hselected hdue => ?_⟩
  have hleast := (Endpoint.selectDue_minimal hselected).2 j hdue
  refine UInt8.not_lt.mp fun hlt => hleast (schedCompare_eq.mpr (.inl hlt))

/-- A triggered request, and a timed one after it. -/
def triggeredThenTimed : List (MockOp Unit) :=
  bringUp ++
    [.call (.dispatch (bus1 Acf.msgTypeGbb) triggered7),
     .call (.dispatch { bus1 Acf.msgTypeGbb with timeSyncSupported := true } timed8)]

def ntscfStream9 : NtscfHeader :=
  { sv := 1, version := 0, ntscfDataLength := 0, sequenceNum := 0, streamId := .fromU64 9 }

/-- The NTSCF frame of one request. -/
def ntscfFrame (request : Octets) : Octets := (avtpEncodeNtscf ntscfStream9 request).getD []

theorem carries_ntscfFrame {request : Octets} (h : IsMember request) (hlen : request.length ≤ avtpNtscfMaxPayload) :
    Carries request (ntscfFrame request) := by
  refine ⟨h, request, [], .plain, .inl ⟨ntscfStream9, ?_⟩⟩
  rw [List.append_nil, ntscfFrame, avtpEncodeNtscf, if_neg (Nat.not_lt.mpr hlen), Option.getD_some]

theorem pcp_orders_requests_triggered :
    schedCompare (((new ()).run triggeredThenTimed).slot 0 0).entry
        (((new ()).run triggeredThenTimed).slot 0 1).entry < 0 ↔
      (4 : UInt8) < 5 ∨ (5 : UInt8) = 4 ∧
        (((new ()).run triggeredThenTimed).slot 0 0).sequence <
          (((new ()).run triggeredThenTimed).slot 0 1).sequence := by
  have hframe₀ : (((new ()).run triggeredThenTimed).slot 0 0).frame = triggered7 := by decide +kernel
  have hframe₁ : (((new ()).run triggeredThenTimed).slot 0 1).frame = timed8 := by decide +kernel
  have hcarries₀ : Carries triggered7 (ntscfFrame triggered7) :=
    carries_ntscfFrame ⟨by decide, by decide, by decide⟩ (by decide)
  have hcarries₁ : Carries timed8 (ntscfFrame timed8) :=
    carries_ntscfFrame ⟨by decide, by decide, by decide⟩ (by decide)
  exact (pcp_orders_requests LoopbackTransport.step { inner := .new 2, fd := 3 }
    [.send (ntscfFrame triggered7), .send (ntscfFrame timed8)] (by decide) rfl () triggeredThenTimed 0 0 1
    (by decide +kernel) (by decide +kernel) (by decide +kernel) (by decide +kernel)
    (hframe₀ ▸ hcarries₀) (hframe₁ ▸ hcarries₁)).1

end MockServer
end Rcp
