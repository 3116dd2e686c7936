import Rcp.MockRun
import Rcp.Theorems.Reassembly
import Rcp.Theorems.Wrapping

/-! Fragmented requests: a sender's fragments, delivered in order, against the same message sent whole. -/

namespace Rcp

/-! ### A dispatch does not read the fragments collected so far -/

namespace MockServer

variable {σ : Type}

/-- The server with other reassemblers and other remembered first headers. -/
def withFrag (srv : MockServer σ) (reasm : StreamIx → Reassembler) (first : StreamIx → Octets) : MockServer σ :=
  { srv with fragReasm := reasm, fragFirstHeader := first }

def Dispatched.withFrag (d : Dispatched σ) (reasm : StreamIx → Reassembler) (first : StreamIx → Octets) : Dispatched σ :=
  { d with server := d.server.withFrag reasm first }

variable (srv : MockServer σ) (reasm : StreamIx → Reassembler) (first : StreamIx → Octets)

@[simp] theorem withFrag_endpoints : (srv.withFrag reasm first).endpoints = srv.endpoints := rfl
@[simp] theorem withFrag_requestStreamCfg : (srv.withFrag reasm first).requestStreamCfg = srv.requestStreamCfg := rfl
@[simp] theorem withFrag_epIdMap : (srv.withFrag reasm first).epIdMap = srv.epIdMap := rfl
@[simp] theorem withFrag_accepts (env : Envelope) : (srv.withFrag reasm first).accepts env = srv.accepts env := rfl
@[simp] theorem withFrag_findSlot (byteBusId : ByteBusId) :
    (srv.withFrag reasm first).findSlot byteBusId = srv.findSlot byteBusId := rfl
@[simp] theorem withFrag_findSlotOnStream (streamId : UInt64) (byteBusId : ByteBusId) :
    (srv.withFrag reasm first).findSlotOnStream streamId byteBusId = srv.findSlotOnStream streamId byteBusId := rfl
@[simp] theorem withFrag_sequencerAccess (slot : Pending) (streamId : UInt64) :
    (srv.withFrag reasm first).sequencerAccess slot streamId = srv.sequencerAccess slot streamId := rfl
@[simp] theorem withFrag_setQueue (e : EndpointIx) (queue : Endpoint) :
    (srv.withFrag reasm first).setQueue e queue = (srv.setQueue e queue).withFrag reasm first := rfl

theorem withFrag_runHandler (e : EndpointIx) (request : Octets) :
    (srv.withFrag reasm first).runHandler e request =
      ((srv.runHandler e request).1, (srv.runHandler e request).2.withFrag reasm first) := by
  simp only [runHandler, withFrag]
  split <;> rfl

theorem withFrag_watchdogPurge (found : Option EndpointIx) :
    (srv.withFrag reasm first).watchdogPurge found =
      ((srv.watchdogPurge found).1, (srv.watchdogPurge found).2.withFrag reasm first) := by
  cases found with
  | none => rfl
  | some e => simp only [watchdogPurge, withFrag_endpoints, withFrag_setQueue]

theorem withFrag_broadcastSafeState (requestStreamIndex : UInt8) :
    ((srv.withFrag reasm first).broadcastSafeState requestStreamIndex).2 =
      (srv.broadcastSafeState requestStreamIndex).2.withFrag reasm first := by
  simp only [broadcastSafeState, withFrag_epIdMap]
  split
  · rfl
  generalize 0 = purged
  generalize (epIdMapByteBusIdsForStream srv.epIdMap requestStreamIndex).take mockMaxEndpoints = ids
  induction ids generalizing srv purged with
  | nil => rfl
  | cons byteBusId rest ih =>
    have hslot : (srv.withFrag reasm first).safeStateSlot requestStreamIndex byteBusId =
        srv.safeStateSlot requestStreamIndex byteBusId := rfl
    simp only [List.foldl_cons, hslot, withFrag_watchdogPurge]
    exact ih _ _

theorem withFrag_noteOverflow (streamId : UInt64) :
    (srv.withFrag reasm first).noteOverflow streamId = (srv.noteOverflow streamId).withFrag reasm first := by
  have hbroadcast : ∀ (status : StreamIx → StreamStatus) (requestStreamIndex : UInt8),
      (({ srv.withFrag reasm first with streamStatus := status } : MockServer σ).broadcastSafeState requestStreamIndex).2 =
        (({ srv with streamStatus := status } : MockServer σ).broadcastSafeState requestStreamIndex).2.withFrag reasm first :=
    fun status => withFrag_broadcastSafeState { srv with streamStatus := status } reasm first
  unfold noteOverflow
  rw [withFrag_requestStreamCfg]
  cases srv.requestStreamCfg.resolveRow streamId with
  | none => rfl
  | some row =>
    dsimp only
    cases (srv.requestStreamCfg.rows row).rxOvrflwSafestateEnable with
    | false => rfl
    | true =>
      rw [if_pos rfl, if_pos rfl]
      exact hbroadcast _ _

theorem withFrag_finishAdmission (e : EndpointIx) (r : AdmitResult) (byteBusId : ByteBusId) (request : Octets) :
    (srv.withFrag reasm first).finishAdmission e r byteBusId request =
      Dispatched.withFrag (srv.finishAdmission e r byteBusId request) reasm first := by
  unfold finishAdmission
  cases r.outcome with
  | executeNow =>
    simp only [withFrag_runHandler]
    rfl
  | queued | pending | cancellation | rejected | suspended => rfl

theorem withFrag_dispatchAdmit (e : EndpointIx) (env : Envelope) (timing : TscfTiming) (request : Octets) :
    (srv.withFrag reasm first).dispatchAdmit e env timing request =
      Dispatched.withFrag (srv.dispatchAdmit e env timing request) reasm first := by
  unfold dispatchAdmit
  rw [withFrag_endpoints]
  generalize (srv.endpoints e).queue.admitWithAck request 0 timing.tv timing.avtpTimestamp timing.gptpReferenceNow = admitted
  obtain ⟨r, queue⟩ := admitted
  dsimp only
  rw [withFrag_setQueue]
  generalize srv.setQueue e queue = srv
  split
  · rfl
  have hoverflow : (if r.error = .requestStorageOverflow then (srv.withFrag reasm first).noteOverflow env.streamId
      else srv.withFrag reasm first) =
      (if r.error = .requestStorageOverflow then srv.noteOverflow env.streamId else srv).withFrag reasm first := by
    split
    · exact withFrag_noteOverflow srv reasm first _
    · rfl
  rw [hoverflow]
  generalize (if r.error = .requestStorageOverflow then srv.noteOverflow env.streamId else srv) = srv
  have hfinish : ∀ access : SequencerAccess,
      (if access ≠ .ok then MockServer.unadmit (srv.withFrag reasm first) e (r.index.getD 0) env.byteBusId access.wireError
        else (srv.withFrag reasm first).finishAdmission e r env.byteBusId request) =
      Dispatched.withFrag (if access ≠ .ok then srv.unadmit e (r.index.getD 0) env.byteBusId access.wireError
        else srv.finishAdmission e r env.byteBusId request) reasm first := by
    intro access
    split
    · rfl
    · exact withFrag_finishAdmission srv reasm first e r _ _
  exact hfinish _

theorem withFrag_dispatchPlain (env : Envelope) (timing : TscfTiming) (request : Octets) :
    (srv.withFrag reasm first).dispatchPlain env timing request =
      Dispatched.withFrag (srv.dispatchPlain env timing request) reasm first := by
  have hinner : (srv.withFrag reasm first).dispatchPlainInner env timing request =
      Dispatched.withFrag (srv.dispatchPlainInner env timing request) reasm first := by
    simp only [dispatchPlainInner, withFrag_accepts, withFrag_findSlotOnStream]
    split
    · rfl
    · rfl
    split
    · rfl
    · exact withFrag_dispatchAdmit srv reasm first _ _ _ _
  simp only [dispatchPlain, hinner]
  rfl

theorem dispatchPlain_fragReasm (env : Envelope) (timing : TscfTiming) (request : Octets) :
    (srv.dispatchPlain env timing request).server.fragReasm = srv.fragReasm :=
  congrArg (fun d : Dispatched σ => d.server.fragReasm)
    (withFrag_dispatchPlain srv srv.fragReasm srv.fragFirstHeader env timing request)

end MockServer

/-! ### The sender -/

/-- A header as the encoders take it: those of `rcp_acf_encode_abb`, `rcp_acf_encode_gbb` and the request
    encoders. -/
inductive AcfHeader where
  | abb (info : Acf.ByteMessageInfo)
  | gbb (hdr : Acf.GbbHeader)
  | repurposed (byteBusId : ByteBusId) (cs evt transactionNum : UInt8) (ts : UInt64)

namespace AcfHeader

def type : AcfHeader → UInt8
  | abb _ => Acf.msgTypeAbb
  | gbb _ | repurposed .. => Acf.msgTypeGbb

def info : AcfHeader → Acf.ByteMessageInfo
  | abb info => info
  | gbb hdr => hdr.info
  | repurposed byteBusId cs evt transactionNum _ => Acf.repurposedInfo byteBusId cs evt transactionNum

/-- The octets between the header and the payload. -/
def region : AcfHeader → Octets
  | abb _ => []
  | gbb hdr => putU64 hdr.region
  | repurposed _ _ _ _ ts => putU64 ts

def encode : AcfHeader → Octets → Option Octets
  | abb info, payload => Acf.encodeAbb info payload
  | gbb hdr, payload => Acf.encodeGbb hdr payload
  | repurposed byteBusId cs evt transactionNum ts, payload =>
    encodeGbbRepurposed byteBusId cs evt transactionNum ts payload

/-- The quadlets of a message with this header. -/
def quadlets (header : AcfHeader) (payloadLen : Nat) : Nat :=
  Acf.quadletsOf (Acf.abbHeaderLen + header.region.length + payloadLen)

theorem encode_eq_some {header : AcfHeader} {payload m : Octets} :
    header.encode payload = some m ↔
      header.quadlets payload.length ≤ 0x1FF ∧ Acf.framed header.type header.info header.region payload = m := by
  cases header with
  | abb info => exact Acf.encodeAbb_eq_some
  | gbb hdr => exact Acf.encodeGbb_eq_some
  | repurposed byteBusId cs evt transactionNum ts => exact Acf.encodeGbbRepurposed_eq_some

theorem quadlets_mono (header : AcfHeader) {a b : Nat} (h : a ≤ b) : header.quadlets a ≤ header.quadlets b := by
  simp only [quadlets, Acf.quadletsOf, Acf.padLen]
  omega

/-- What `rcp_acf_encode_abb` and `rcp_acf_encode_gbb` make of this header once it has been decoded. -/
def reencoded (header : AcfHeader) (payload : Octets) : Octets :=
  match header with
  | abb info => Acf.framed Acf.msgTypeAbb { info with mtv := Acf.mtvUntimed } [] payload
  | gbb hdr =>
    Acf.framed Acf.msgTypeGbb hdr.info (putU64 (if hdr.info.mtv &&& 1 = Acf.mtvUntimed then 0 else hdr.region)) payload
  | repurposed byteBusId cs evt transactionNum _ =>
    Acf.framed Acf.msgTypeGbb (Acf.repurposedInfo byteBusId cs evt transactionNum) (putU64 0) payload

/-- The header survives that: an ACF_ABB header with mtv clear, an ACF_GBB header with mtv set or with a
    zero timestamp region. -/
def Reproduced : AcfHeader → Prop
  | abb info => info.mtv &&& 1 = Acf.mtvUntimed
  | gbb hdr => hdr.info.mtv &&& 1 ≠ Acf.mtvUntimed ∨ hdr.region = 0
  | repurposed _ _ _ _ ts => ts = 0

theorem reencoded_eq {header : AcfHeader} (h : header.Reproduced) (payload : Octets) :
    header.reencoded payload = Acf.framed header.type header.info header.region payload := by
  cases header with
  | abb info =>
    have hpack : ∀ (q : UInt16) (pad : UInt8),
        Acf.packHeader Acf.msgTypeAbb q { info with mtv := Acf.mtvUntimed, pad := pad } =
          Acf.packHeader Acf.msgTypeAbb q { info with pad := pad } := by
      intro q pad
      simp only [Acf.packHeader, show info.mtv &&& 1 = Acf.mtvUntimed from h]
      rfl
    simp only [reencoded, Acf.framed, hpack, type, AcfHeader.info, region]
  | gbb hdr =>
    have hregion : (if hdr.info.mtv &&& 1 = Acf.mtvUntimed then 0 else hdr.region) = hdr.region := by
      rcases h with h | h
      · rw [if_neg h]
      · rw [h, ite_self]
    simp only [reencoded, hregion, type, AcfHeader.info, region]
  | repurposed byteBusId cs evt transactionNum ts =>
    have hts : ts = 0 := h
    subst hts
    rfl

end AcfHeader

/-- A message before it is cut into fragments. -/
structure AcfMessage where
  header : AcfHeader
  payload : Octets
  unfragmented : header.info.ms &&& 1 = 0

namespace AcfMessage

/-- The octets of a planned segment: its slice of the payload under the header of the message, with ms and
    segment_num in the intermediate ones. -/
def segment (m : AcfMessage) (seg : FragmentSegment) : Octets :=
  Acf.framed m.header.type
    (if seg.ms then { m.header.info with ms := 1, readSizeOrSegmentNum := seg.segmentNum } else m.header.info)
    m.header.region ((m.payload.drop seg.offset).take seg.len)

/-- The octets of the first fragment's header that enter the CRC of the whole message. -/
def firstHeader (m : AcfMessage) (first : FragmentSegment) : Octets :=
  (m.segment first).take (Acf.abbHeaderLen + m.header.region.length)

/-- The CRC the last fragment carries. -/
def crc (m : AcfMessage) (env : Envelope) (avtpTimestamp : UInt32) (first : FragmentSegment) : UInt32 :=
  e2eComputeFragmentedCrc
    { avtpSubtype := env.avtpSubtype, streamId := env.streamId,
      avtpTimestamp := if env.avtpSubtype = avtpSubtypeNtscf then 0 else avtpTimestamp }
    (m.firstHeader first) m.payload

/-- What goes out for a plan. A plan of one segment is no fragmentation: the message goes out wrapped. -/
def fragments (m : AcfMessage) (env : Envelope) (avtpTimestamp : UInt32) (wrapped : Octets) :
    List FragmentSegment → List Octets
  | [] => []
  | [_] => [wrapped]
  | first :: rest =>
    (first :: rest).map fun seg =>
      if seg.ms then m.segment seg
      else (insertCrc (fun _ => m.crc env avtpTimestamp first) (m.segment seg)).getD []

end AcfMessage

/-- Deliver fragments in order: the results and responses, and the server at the end. -/
def MockServer.deliver {σ : Type} (srv : MockServer σ) (env : Envelope) (avtpTimestamp : UInt32) :
    List Octets → List (DispatchResult × Option Octets) × MockServer σ
  | [] => ([], srv)
  | fragment :: rest =>
    let d := srv.dispatchE2eFragment env avtpTimestamp fragment
    let (outs, last) := d.server.deliver env avtpTimestamp rest
    ((d.result, d.response) :: outs, last)

theorem MockServer.deliver_append {σ : Type} (srv : MockServer σ) (env : Envelope) (avtpTimestamp : UInt32)
    (a b : List Octets) :
    srv.deliver env avtpTimestamp (a ++ b) =
      ((srv.deliver env avtpTimestamp a).1 ++ ((srv.deliver env avtpTimestamp a).2.deliver env avtpTimestamp b).1,
        ((srv.deliver env avtpTimestamp a).2.deliver env avtpTimestamp b).2) := by
  induction a generalizing srv with
  | nil => rfl
  | cons fragment rest ih => simp only [List.cons_append, deliver, ih]

/-! ### The plan -/

theorem AcfMessage.fragments_of_two (m : AcfMessage) (env : Envelope) (avtpTimestamp : UInt32) (wrapped : Octets)
    (first : FragmentSegment) {rest : List FragmentSegment} (hrest : rest ≠ []) :
    m.fragments env avtpTimestamp wrapped (first :: rest) =
      (first :: rest).map fun seg =>
        if seg.ms then m.segment seg
        else (insertCrc (fun _ => m.crc env avtpTimestamp first) (m.segment seg)).getD [] := by
  cases rest with
  | nil => exact absurd rfl hrest
  | cons second rest => rfl

/-- The fragments of a plan of several segments. -/
theorem AcfMessage.fragments_multi (m : AcfMessage) (env : Envelope) (avtpTimestamp : UInt32) (wrapped : Octets)
    {maxPayload n : Nat} (hn : 1 ≤ n) :
    m.fragments env avtpTimestamp wrapped
        ((List.range n).map (intermediate maxPayload) ++ [finalSegment m.payload.length maxPayload n]) =
      ((List.range n).map fun i => m.segment (intermediate maxPayload i)) ++
        [(insertCrc (fun _ => m.crc env avtpTimestamp (intermediate maxPayload 0))
          (m.segment (finalSegment m.payload.length maxPayload n))).getD []] := by
  obtain ⟨k, rfl⟩ := Nat.exists_eq_add_of_le' hn
  have hplan : (List.range (k + 1)).map (intermediate maxPayload) ++ [finalSegment m.payload.length maxPayload (k + 1)] =
      intermediate maxPayload 0 :: ((List.range k).map (fun i => intermediate maxPayload (i + 1)) ++
        [finalSegment m.payload.length maxPayload (k + 1)]) := by
    rw [List.range_succ_eq_map, List.map_cons, List.map_map, List.cons_append]
    rfl
  rw [hplan, fragments_of_two _ _ _ _ _ (by simp), ← hplan, List.map_append, List.map_map]
  rfl

/-! ### The receiver -/

namespace AcfHeader

theorem headerLen_eq (header : AcfHeader) :
    (if header.type = Acf.msgTypeGbb then Acf.gbbHeaderLen else Acf.abbHeaderLen) =
      Acf.abbHeaderLen + header.region.length := by
  cases header with
  | abb info => rfl
  | gbb hdr => rfl
  | repurposed byteBusId cs evt transactionNum ts => rfl

theorem fragmentPayload_framed (header : AcfHeader) (info : Acf.ByteMessageInfo) (payload : Octets)
    (hfits : header.quadlets payload.length ≤ 0x1FF) :
    MockServer.fragmentPayload header.type (Acf.framed header.type info header.region payload) = some payload := by
  cases header with
  | abb hdr =>
    have hdecode := Acf.decodeAbb_framed info payload hfits
    simp only [MockServer.fragmentPayload, type, region, hdecode]
    rfl
  | gbb hdr =>
    have hdecode := Acf.decodeGbb_framed info payload hdr.region hfits
    simp only [MockServer.fragmentPayload, type, region, hdecode]
    rfl
  | repurposed byteBusId cs evt transactionNum ts =>
    have hdecode := Acf.decodeGbb_framed info payload ts hfits
    simp only [MockServer.fragmentPayload, type, region, hdecode]
    rfl

theorem finalFragment_abb (info : Acf.ByteMessageInfo) (slice payload : Octets)
    (hslice : Acf.quadletsOf (Acf.abbHeaderLen + slice.length) ≤ 0x1FF)
    (hfits : Acf.quadletsOf (Acf.abbHeaderLen + payload.length) ≤ 0x1FF) :
    ∃ final, MockServer.finalFragment Acf.msgTypeAbb (Acf.framed Acf.msgTypeAbb info [] slice) = some final ∧
      final.payload = slice ∧
      final.reencode payload = some (Acf.framed Acf.msgTypeAbb { info with mtv := Acf.mtvUntimed } [] payload) := by
  have hinfo : { Acf.framedInfo Acf.msgTypeAbb info [] slice with mtv := Acf.mtvUntimed } =
      Acf.framedInfo Acf.msgTypeAbb { info with mtv := Acf.mtvUntimed } [] slice := by
    simp only [Acf.framedInfo, Acf.ByteMessageInfo.onWire]
    rfl
  unfold MockServer.finalFragment
  rw [if_neg (by decide), Acf.decodeAbb_framed info slice hslice]
  refine ⟨_, rfl, rfl, ?_⟩
  dsimp only
  rw [hinfo]
  exact Acf.encodeAbb_eq_some.mpr ⟨hfits, Acf.framed_framedInfo ..⟩

theorem finalFragment_gbb (info : Acf.ByteMessageInfo) (ts : UInt64) (slice payload : Octets)
    (hslice : Acf.quadletsOf (Acf.gbbHeaderLen + slice.length) ≤ 0x1FF)
    (hfits : Acf.quadletsOf (Acf.gbbHeaderLen + payload.length) ≤ 0x1FF) :
    ∃ final, MockServer.finalFragment Acf.msgTypeGbb (Acf.framed Acf.msgTypeGbb info (putU64 ts) slice) = some final ∧
      final.payload = slice ∧
      final.reencode payload =
        some (Acf.framed Acf.msgTypeGbb info (putU64 (if info.mtv &&& 1 = Acf.mtvUntimed then 0 else ts)) payload) := by
  unfold MockServer.finalFragment
  rw [if_pos rfl, Acf.decodeGbb_framed info slice ts hslice]
  refine ⟨_, rfl, rfl, ?_⟩
  dsimp only
  exact Acf.encodeGbb_eq_some.mpr ⟨hfits, Acf.framed_framedInfo ..⟩

/-- The final fragment decodes to its slice, and its header re-encodes a payload of the whole message. -/
theorem finalFragment_framed (header : AcfHeader) (slice payload : Octets)
    (hslice : header.quadlets slice.length ≤ 0x1FF) (hfits : header.quadlets payload.length ≤ 0x1FF) :
    ∃ final, MockServer.finalFragment header.type (Acf.framed header.type header.info header.region slice) = some final ∧
      final.payload = slice ∧ final.reencode payload = some (header.reencoded payload) := by
  cases header with
  | abb info => exact finalFragment_abb info slice payload hslice hfits
  | gbb hdr => exact finalFragment_gbb hdr.info hdr.region slice payload hslice hfits
  | repurposed byteBusId cs evt transactionNum ts =>
    have huntimed : (Acf.repurposedInfo byteBusId cs evt transactionNum).mtv &&& 1 = Acf.mtvUntimed := by
      show (0 : UInt8) &&& 1 = 0
      decide
    have hfinal := finalFragment_gbb (Acf.repurposedInfo byteBusId cs evt transactionNum) ts slice payload hslice hfits
    rw [if_pos huntimed] at hfinal
    exact hfinal

end AcfHeader

/-- The stream of `env` is configured, and its endpoint asks for the CRC. -/
structure MockServer.Protects {σ : Type} (srv : MockServer σ) (env : Envelope) (row : StreamIx) (e : EndpointIx) : Prop where
  row : srv.requestStreamCfg.resolveRow env.streamId = some row
  slot : srv.findSlotOnStream env.streamId env.byteBusId = some e
  crc : (srv.endpoints e).reqCrcEnable = true

namespace MockServer

variable {σ : Type} {srv : MockServer σ} {env : Envelope} {row : StreamIx} {e : EndpointIx}

/-- `dispatch_e2e_fragment` on a protected endpoint of a stream without a latched fault. -/
theorem Protects.dispatchE2eFragment (h : srv.Protects env row e) (hfault : srv.streamFaulted env.streamId = false)
    (avtpTimestamp : UInt32) {fragment : Octets} (hlen : 8 ≤ fragment.length) :
    srv.dispatchE2eFragment env avtpTimestamp fragment =
      if (Acf.unpackHeader fragment).ms ≠ 0 then srv.dispatchIntermediateFragment row env.acfMsgType fragment else
      if !(srv.fragReasm row).collecting then srv.dispatchE2eWith env {} avtpTimestamp fragment else
      srv.dispatchFinalFragment row env {} avtpTimestamp (srv.endpoints e).rxEnforceE2e fragment := by
  rw [MockServer.dispatchE2eFragment, dispatchE2eFragmentWith]
  simp only [hfault, Bool.false_eq_true, if_false, h.slot, h.crc, Bool.not_true, Nat.not_lt.mpr hlen, h.row]

/-- The server in the middle of a reassembly. -/
def collected (srv : MockServer σ) (row : StreamIx) (first : Octets) (reasm : Reassembler) : MockServer σ :=
  srv.withFrag (Function.update srv.fragReasm row reasm) (Function.update srv.fragFirstHeader row first)

theorem setReasm_collected (first : Octets) (reasm reasm' : Reassembler) :
    (srv.collected row first reasm).setReasm row reasm' = srv.collected row first reasm' := by
  simp only [collected, setReasm, withFrag, Function.update_idem]

theorem Protects.collected (h : srv.Protects env row e) (first : Octets) (reasm : Reassembler) :
    (srv.collected row first reasm).Protects env row e := ⟨h.row, h.slot, h.crc⟩

/-- One intermediate fragment. -/
theorem Protects.dispatch_intermediate (h : srv.Protects env row e) (hfault : srv.streamFaulted env.streamId = false)
    (avtpTimestamp : UInt32) {m : AcfMessage} (htype : env.acfMsgType = m.header.type) {maxPayload i : Nat}
    (hi : i < fragmentMaxIntermediateSegments) (hfits : m.header.quadlets maxPayload ≤ 0x1FF)
    (hslice : ((m.payload.drop (i * maxPayload)).take maxPayload).length = maxPayload) {reasm : Reassembler}
    (hfeed : (srv.fragReasm row).feed true (UInt16.ofNat i) ((m.payload.drop (i * maxPayload)).take maxPayload) =
      (.continue, reasm)) :
    srv.dispatchE2eFragment env avtpTimestamp (m.segment (intermediate maxPayload i)) =
      { result := .fragmentPending,
        server :=
          (if (srv.fragReasm row).collecting then srv else
            srv.withFrag srv.fragReasm
              (Function.update srv.fragFirstHeader row (m.firstHeader (intermediate maxPayload i)))).setReasm row reasm } := by
  have hfits' : m.header.quadlets ((m.payload.drop (i * maxPayload)).take maxPayload).length ≤ 0x1FF := by rwa [hslice]
  have hlen : 8 ≤ (m.segment (intermediate maxPayload i)).length := by
    have := Acf.quadletsOf_mul (Acf.abbHeaderLen + m.header.region.length +
      ((m.payload.drop (i * maxPayload)).take maxPayload).length)
    have habb : Acf.abbHeaderLen = 8 := rfl
    rw [AcfMessage.segment, Acf.framed_length]
    simp only [intermediate]
    omega
  have hhdr : Acf.unpackHeader (m.segment (intermediate maxPayload i)) = _ := Acf.unpackHeader_framed ..
  have hseg : (Acf.unpackHeader (m.segment (intermediate maxPayload i))).readSizeOrSegmentNum = UInt16.ofNat i := by
    rw [hhdr]
    exact ofNat_and_segmentMask hi
  have hms : (Acf.unpackHeader (m.segment (intermediate maxPayload i))).ms ≠ 0 := by
    rw [hhdr]
    show (1 : UInt8) &&& 1 ≠ 0
    decide
  have hpayload : fragmentPayload m.header.type (m.segment (intermediate maxPayload i)) =
      some ((m.payload.drop (i * maxPayload)).take maxPayload) := m.header.fragmentPayload_framed _ _ hfits'
  rw [h.dispatchE2eFragment hfault avtpTimestamp hlen, if_pos hms]
  simp only [dispatchIntermediateFragment, htype, hpayload, hseg, AcfHeader.headerLen_eq]
  cases hcollecting : (srv.fragReasm row).collecting with
  | false =>
    simp only [Bool.false_eq_true, if_false, hfeed]
    rfl
  | true =>
    simp only [if_true, hfeed]

end MockServer

/-- The reassembler behind the first `k` intermediate fragments. -/
def AcfMessage.reasmAfter (m : AcfMessage) (maxPayload k : Nat) : Reassembler where
  collecting := true
  expectedSegmentNum := UInt16.ofNat k
  buf := m.payload.take (k * maxPayload)
  maxTotalLen := 65536

@[simp] theorem AcfMessage.reasmAfter_collecting (m : AcfMessage) (maxPayload k : Nat) :
    (m.reasmAfter maxPayload k).collecting = true := rfl

theorem AcfMessage.segment_final (m : AcfMessage) (maxPayload n : Nat) :
    m.segment (finalSegment m.payload.length maxPayload n) =
      Acf.framed m.header.type m.header.info m.header.region (m.payload.drop (n * maxPayload)) := by
  simp only [segment, finalSegment, Bool.false_eq_true, if_false]
  rw [List.take_of_length_le (by rw [List.length_drop])]

namespace MockServer

variable {σ : Type} {srv : MockServer σ} {env : Envelope} {row : StreamIx} {e : EndpointIx}

/-- All the intermediate fragments. -/
theorem Protects.deliver_intermediates (h : srv.Protects env row e) (hfault : srv.streamFaulted env.streamId = false)
    (hidle : srv.fragReasm row = .init 65536) (avtpTimestamp : UInt32) {m : AcfMessage}
    (htype : env.acfMsgType = m.header.type) {maxPayload n : Nat} (hn : n ≤ fragmentMaxIntermediateSegments)
    (hlen : m.payload.length ≤ 65536) (hcut : n * maxPayload < m.payload.length)
    (hfits : m.header.quadlets maxPayload ≤ 0x1FF) (k : Nat) (hk : k < n) :
    srv.deliver env avtpTimestamp ((List.range (k + 1)).map fun i => m.segment (intermediate maxPayload i)) =
      (List.replicate (k + 1) (.fragmentPending, none),
        srv.collected row (m.firstHeader (intermediate maxPayload 0)) (m.reasmAfter maxPayload (k + 1))) := by
  have hslice : ∀ i < n, ((m.payload.drop (i * maxPayload)).take maxPayload).length = maxPayload := by
    intro i hi
    have hle : (i + 1) * maxPayload ≤ n * maxPayload := Nat.mul_le_mul_right _ hi
    rw [Nat.succ_mul] at hle
    rw [List.length_take, List.length_drop]
    omega
  induction k with
  | zero =>
    have hstep := h.dispatch_intermediate hfault avtpTimestamp htype (i := 0) (by decide) hfits (hslice 0 hk)
      (by rw [hidle]; exact Reassembler.feed_first hlen maxPayload)
    have hcollecting : (srv.fragReasm row).collecting = false := by rw [hidle]; rfl
    rw [hcollecting] at hstep
    simp only [Nat.zero_add, List.range_one, List.map_cons, List.map_nil, deliver, hstep]
    rfl
  | succ k ih =>
    have hmid := ih (by omega)
    have hnow : (srv.collected row (m.firstHeader (intermediate maxPayload 0)) (m.reasmAfter maxPayload (k + 1))).fragReasm
        row = m.reasmAfter maxPayload (k + 1) := Function.update_self ..
    have hstep := (h.collected (m.firstHeader (intermediate maxPayload 0))
        (m.reasmAfter maxPayload (k + 1))).dispatch_intermediate hfault avtpTimestamp htype (i := k + 1) (by omega) hfits
      (hslice (k + 1) hk) (by rw [hnow]; exact Reassembler.feed_next hlen maxPayload (k + 1))
    rw [hnow, AcfMessage.reasmAfter_collecting, if_pos rfl, setReasm_collected] at hstep
    rw [List.range_succ, List.map_append, deliver_append, hmid]
    simp only [List.map_cons, List.map_nil, deliver, hstep, ← List.replicate_succ']
    rfl

/-- The final fragment: the whole message is re-encoded with its header and dispatched. -/
theorem Protects.dispatch_final (h : srv.Protects env row e) (hfault : srv.streamFaulted env.streamId = false)
    (avtpTimestamp : UInt32) {m : AcfMessage} (htype : env.acfMsgType = m.header.type) {maxPayload n : Nat}
    (hlen : m.payload.length ≤ 65536) (hcut : n * maxPayload < m.payload.length)
    (hfits : m.header.quadlets m.payload.length + 1 ≤ 0x1FF) {first : FragmentSegment} {w : Octets}
    (hw : insertCrc (fun _ => m.crc env avtpTimestamp first) (m.segment (finalSegment m.payload.length maxPayload n)) =
      some w) :
    (srv.collected row (m.firstHeader first) (m.reasmAfter maxPayload n)).dispatchE2eFragment env avtpTimestamp w =
      (srv.collected row (m.firstHeader first) (.init 65536)).dispatchPlain env {} (m.header.reencoded m.payload) := by
  have hslice : m.header.quadlets (m.payload.drop (n * maxPayload)).length ≤ m.header.quadlets m.payload.length :=
    m.header.quadlets_mono (by rw [List.length_drop]; omega)
  rw [m.segment_final] at hw
  have hframed := hw
  rw [insertCrc_framed _ (Nat.le_trans (Nat.succ_le_succ hslice) hfits), Option.some.injEq] at hframed
  have hreal := realLen_framed m.header.type m.header.info m.header.region (m.payload.drop (n * maxPayload))
  have habb : Acf.abbHeaderLen = 8 := rfl
  have hlong : 3 ≤ realLen (Acf.framed m.header.type m.header.info m.header.region (m.payload.drop (n * maxPayload))) := by
    omega
  have hgot := getU32_insertCrc hw
  have hunwrap := e2eUnwrap_insertCrc
    (e2eFramedHeader env.streamId (env.avtpSubtype == avtpSubtypeNtscf) 0 false avtpTimestamp) hw hlong
  obtain ⟨final, hfinal, hpayload, hreencode⟩ := m.header.finalFragment_framed (m.payload.drop (n * maxPayload)) m.payload
    (by omega) (by omega)
  generalize Acf.framed m.header.type m.header.info m.header.region (m.payload.drop (n * maxPayload)) = frame at *
  have hms : ¬(Acf.unpackHeader w).ms ≠ 0 := by
    rw [← hframed, Acf.unpackHeader_framed]
    exact not_not.mpr m.unfragmented
  have hwlen : 8 ≤ w.length := by
    have := Acf.framed_length m.header.type m.header.info m.header.region
      (m.payload.drop (n * maxPayload) ++ putU32 (m.crc env avtpTimestamp first))
    have := Acf.quadletsOf_mul (Acf.abbHeaderLen + m.header.region.length +
      (m.payload.drop (n * maxPayload) ++ putU32 (m.crc env avtpTimestamp first)).length)
    rw [← hframed]
    omega
  have hpad : acfPadOctets w = acfPadOctets frame := by
    obtain ⟨-, -, -, -, rfl⟩ := insertCrc_eq_some.mp hw
    rw [List.append_assoc, acfPadOctets_insert hlong]
  have hpadle := acfPadOctets_le frame
  have hverdict : ∃ verdict, e2eUnwrapFramed env.streamId (env.avtpSubtype == avtpSubtypeNtscf) 0 false avtpTimestamp w =
      (verdict, frame) ∧ verdict ≠ .error .shortFrame := by
    refine ⟨_, hunwrap, ?_⟩
    split <;> simp
  obtain ⟨verdict, hverdict, hshort⟩ := hverdict
  have hfeed : ((srv.collected row (m.firstHeader first) (m.reasmAfter maxPayload n)).fragReasm row).feed false 0
      final.payload = (.complete, { m.reasmAfter maxPayload n with buf := m.payload, collecting := false }) := by
    rw [hpayload, show (srv.collected row (m.firstHeader first) (m.reasmAfter maxPayload n)).fragReasm row =
      m.reasmAfter maxPayload n from Function.update_self ..]
    exact Reassembler.feed_last hlen maxPayload n
  have hcollecting : ((srv.collected row (m.firstHeader first) (m.reasmAfter maxPayload n)).fragReasm row).collecting =
      true := by
    rw [show (srv.collected row (m.firstHeader first) (m.reasmAfter maxPayload n)).fragReasm row =
      m.reasmAfter maxPayload n from Function.update_self ..]
    rfl
  rw [(h.collected (m.firstHeader first) (m.reasmAfter maxPayload n)).dispatchE2eFragment hfault avtpTimestamp hwlen,
    if_neg hms, hcollecting, if_neg (by decide)]
  unfold dispatchFinalFragment
  simp only [unpackHeader_pad (show 3 ≤ w.length by omega), hpad, hgot, hverdict, htype, hfinal, hfeed, setReasm_collected]
  rw [if_neg (by simp only [e2eCrcLen]; omega), if_neg (by simp only [e2eCrcLen]; omega)]
  have hfirst : (srv.collected row (m.firstHeader first)
      { m.reasmAfter maxPayload n with buf := m.payload, collecting := false }).fragFirstHeader row = m.firstHeader first :=
    Function.update_self ..
  have hreassembled : (srv.collected row (m.firstHeader first)
      { m.reasmAfter maxPayload n with buf := m.payload, collecting := false }).dispatchReassembled row env {}
        avtpTimestamp ((srv.collected row (m.firstHeader first) (m.reasmAfter maxPayload n)).endpoints e).rxEnforceE2e final
        (m.crc env avtpTimestamp first) m.payload =
      (srv.collected row (m.firstHeader first) (.init 65536)).dispatchPlain env {} (m.header.reencoded m.payload) := by
    have hreset : (srv.collected row (m.firstHeader first)
        { m.reasmAfter maxPayload n with buf := m.payload, collecting := false }).fragReasm row =
        { m.reasmAfter maxPayload n with buf := m.payload, collecting := false } := Function.update_self ..
    simp only [dispatchReassembled, hfirst, hreset, setReasm_collected, hreencode]
    rw [if_neg (show ¬m.crc env avtpTimestamp first ≠ e2eComputeFragmentedCrc _ (m.firstHeader first) m.payload from
      not_not.mpr rfl)]
    rfl
  rcases verdict with (_ | _) | _
  · exact absurd rfl hshort
  · exact hreassembled
  · exact hreassembled

/-! ### Transparency -/

/-- The fragments of `m` are dispatched as the wrapped message is: `answer` for each intermediate one, then the
    result and the response of the whole; the same server except for the remembered header, with the
    reassembler of `row` idle and empty. -/
def Transparent (srv : MockServer σ) (env : Envelope) (avtpTimestamp : UInt32) (m : AcfMessage) (wrapped : Octets)
    (plan : List FragmentSegment) (row : StreamIx) (answer : Octets → DispatchResult × Option Octets) : Prop :=
  let whole := srv.dispatchE2e env avtpTimestamp wrapped
  let fragments := m.fragments env avtpTimestamp wrapped plan
  let delivered := srv.deliver env avtpTimestamp fragments
  delivered.1 = fragments.dropLast.map answer ++ [(whole.result, whole.response)] ∧
    (∃ first, delivered.2 = whole.server.withFrag whole.server.fragReasm first) ∧
    delivered.2.fragReasm row = .init 65536

/-- What an intermediate fragment is answered: an unlatched stream collects it, a latched one turns it down. -/
def intermediateAnswer (srv : MockServer σ) (env : Envelope) (fragment : Octets) : DispatchResult × Option Octets :=
  if srv.streamFaulted env.streamId then (.streamFaulted, errorResponseTo fragment env.byteBusId .pociFailure)
  else (.fragmentPending, none)

/-- A wrapped message is delivered as the message. -/
theorem Protects.dispatchE2e (h : srv.Protects env row e) (hfault : srv.streamFaulted env.streamId = false)
    {avtpTimestamp : UInt32} {message wrapped : Octets} (hlong : 8 ≤ message.length)
    (hwrap : e2eWrapFramed env.streamId (env.avtpSubtype == avtpSubtypeNtscf) 0 false avtpTimestamp message = some wrapped) :
    srv.dispatchE2e env avtpTimestamp wrapped = srv.dispatchPlain env {} message := by
  have hunwrap := e2eUnwrap_insertCrc
    (e2eFramedHeader env.streamId (env.avtpSubtype == avtpSubtypeNtscf) 0 false avtpTimestamp) hwrap
    (realLen_of_long hlong)
  rw [if_neg (not_not.mpr rfl)] at hunwrap
  have hframed : e2eUnwrapFramed env.streamId (env.avtpSubtype == avtpSubtypeNtscf) 0 false avtpTimestamp wrapped =
      (.ok (), message) := hunwrap
  simp only [MockServer.dispatchE2e, dispatchE2eWith, hfault, Bool.false_eq_true, if_false, h.slot, h.crc, Bool.not_true,
    hframed]

/-- On a latched stream nothing changes. -/
theorem deliver_faulted (hfault : srv.streamFaulted env.streamId = true) (avtpTimestamp : UInt32) (fragments : List Octets) :
    srv.deliver env avtpTimestamp fragments =
      (fragments.map fun fragment => (.streamFaulted, errorResponseTo fragment env.byteBusId .pociFailure), srv) := by
  induction fragments with
  | nil => rfl
  | cons fragment rest ih =>
    have hstep : srv.dispatchE2eFragment env avtpTimestamp fragment =
        { result := .streamFaulted, response := errorResponseTo fragment env.byteBusId .pociFailure, server := srv } := by
      simp only [MockServer.dispatchE2eFragment, dispatchE2eFragmentWith, hfault, if_true]
    simp only [deliver, hstep, ih, List.map_cons]

theorem errorResponseTo_framed {type : UInt8} {info info' : Acf.ByteMessageInfo} {region payload payload' : Octets}
    (htn : info.transactionNum = info'.transactionNum) (byteBusId : ByteBusId) (error : WireError) :
    errorResponseTo (Acf.framed type info region payload) byteBusId error =
      errorResponseTo (Acf.framed type info' region payload') byteBusId error := by
  have hlong : ∀ info payload, ¬(Acf.framed type info region payload).length < 8 := by
    intro info payload
    have := Acf.quadletsOf_mul (Acf.abbHeaderLen + region.length + payload.length)
    have habb : Acf.abbHeaderLen = 8 := rfl
    rw [Acf.framed_length]
    omega
  have hnum : (Acf.framedInfo type info region payload).transactionNum =
      (Acf.framedInfo type info' region payload').transactionNum := htn
  rw [errorResponseTo, errorResponseTo, if_neg (hlong _ _), if_neg (hlong _ _), Acf.unpackHeader_framed,
    Acf.unpackHeader_framed, hnum]

theorem dispatchE2e_faulted (hfault : srv.streamFaulted env.streamId = true) (avtpTimestamp : UInt32) (request : Octets) :
    srv.dispatchE2e env avtpTimestamp request =
      { result := .streamFaulted, response := errorResponseTo request env.byteBusId .pociFailure, server := srv } := by
  simp only [MockServer.dispatchE2e, dispatchE2eWith, hfault, if_true]

section transparent

variable {avtpTimestamp : UInt32} {m : AcfMessage} {wrapped : Octets} {plan : List FragmentSegment} {crc : UInt32}

/-- A plan of one segment goes to `dispatch_e2e`. -/
theorem Protects.dispatch_single (h : srv.Protects env row e) (hidle : srv.fragReasm row = .init 65536)
    (hwrapped : Acf.framed m.header.type m.header.info m.header.region (m.payload ++ putU32 crc) = wrapped) :
    srv.dispatchE2eFragment env avtpTimestamp wrapped = srv.dispatchE2e env avtpTimestamp wrapped := by
  cases hfault : srv.streamFaulted env.streamId with
  | true =>
    rw [dispatchE2e_faulted hfault]
    simp only [MockServer.dispatchE2eFragment, dispatchE2eFragmentWith, hfault, if_true]
  | false =>
    have hmul := Acf.quadletsOf_mul (Acf.abbHeaderLen + m.header.region.length + (m.payload ++ putU32 crc).length)
    have habb : Acf.abbHeaderLen = 8 := rfl
    have hlen : 8 ≤ wrapped.length := by
      rw [← hwrapped, Acf.framed_length]
      omega
    have hms : ¬(Acf.unpackHeader wrapped).ms ≠ 0 := by
      rw [← hwrapped, Acf.unpackHeader_framed]
      exact not_not.mpr m.unfragmented
    rw [h.dispatchE2eFragment hfault avtpTimestamp hlen, if_neg hms, hidle]
    rfl

variable {maxPayload n : Nat} {w : Octets}

theorem transparent_faulted (hfault : srv.streamFaulted env.streamId = true) (hidle : srv.fragReasm row = .init 65536)
    (hwrapped : Acf.framed m.header.type m.header.info m.header.region (m.payload ++ putU32 crc) = wrapped) (hn : 1 ≤ n)
    (hw : insertCrc (fun _ => m.crc env avtpTimestamp (intermediate maxPayload 0))
      (m.segment (finalSegment m.payload.length maxPayload n)) = some w)
    (hframed : ∃ slice, w = Acf.framed m.header.type m.header.info m.header.region slice) :
    srv.Transparent env avtpTimestamp m wrapped
      ((List.range n).map (intermediate maxPayload) ++ [finalSegment m.payload.length maxPayload n]) row
      (srv.intermediateAnswer env) := by
  obtain ⟨slice, rfl⟩ := hframed
  have hresponse : errorResponseTo wrapped env.byteBusId .pociFailure =
      errorResponseTo (Acf.framed m.header.type m.header.info m.header.region slice) env.byteBusId .pociFailure := by
    rw [← hwrapped]
    exact errorResponseTo_framed rfl _ _
  simp only [Transparent, m.fragments_multi env avtpTimestamp wrapped hn, hw, deliver_faulted hfault,
    dispatchE2e_faulted hfault, List.map_append, List.map_cons, List.map_nil, List.dropLast_concat, Option.getD_some,
    hresponse]
  have hanswer : srv.intermediateAnswer env =
      fun fragment => (.streamFaulted, errorResponseTo fragment env.byteBusId .pociFailure) := by
    funext fragment
    rw [intermediateAnswer, if_pos hfault]
  exact ⟨by rw [hanswer], ⟨_, rfl⟩, hidle⟩

theorem Protects.transparent_collected (h : srv.Protects env row e) (hfault : srv.streamFaulted env.streamId = false)
    (hidle : srv.fragReasm row = .init 65536)
    (hwhole : srv.dispatchE2e env avtpTimestamp wrapped =
      srv.dispatchPlain env {} (Acf.framed m.header.type m.header.info m.header.region m.payload))
    (htype : env.acfMsgType = m.header.type) (hkept : m.header.Reproduced)
    (hroom : m.header.quadlets m.payload.length + 1 ≤ 0x1FF) (hn : 1 ≤ n) (hmany : n ≤ fragmentMaxIntermediateSegments)
    (hcut : n * maxPayload < m.payload.length)
    (hw : insertCrc (fun _ => m.crc env avtpTimestamp (intermediate maxPayload 0))
      (m.segment (finalSegment m.payload.length maxPayload n)) = some w) :
    srv.Transparent env avtpTimestamp m wrapped
      ((List.range n).map (intermediate maxPayload) ++ [finalSegment m.payload.length maxPayload n]) row
      (srv.intermediateAnswer env) := by
  have hlen : m.payload.length ≤ 65536 := by
    have := (Acf.quadletsOf_le _).mp (Nat.le_of_succ_le hroom)
    omega
  have hfits : m.header.quadlets maxPayload ≤ 0x1FF := by
    have hle : 1 * maxPayload ≤ n * maxPayload := Nat.mul_le_mul_right _ hn
    have := m.header.quadlets_mono (show maxPayload ≤ m.payload.length by omega)
    omega
  obtain ⟨k, rfl⟩ := Nat.exists_eq_add_of_le' hn
  have hcollect := h.deliver_intermediates hfault hidle avtpTimestamp htype hmany hlen hcut hfits k (by omega)
  have hfinal := h.dispatch_final hfault avtpTimestamp htype hlen hcut hroom hw
  have hidle' : srv.collected row (m.firstHeader (intermediate maxPayload 0)) (.init 65536) =
      srv.withFrag srv.fragReasm (Function.update srv.fragFirstHeader row (m.firstHeader (intermediate maxPayload 0))) := by
    rw [MockServer.collected, ← hidle, Function.update_eq_self]
  rw [hidle', withFrag_dispatchPlain, AcfHeader.reencoded_eq hkept] at hfinal
  simp only [Transparent, m.fragments_multi env avtpTimestamp wrapped hn, hw, deliver_append, hcollect, Option.getD_some,
    deliver, hfinal, hwhole, List.dropLast_concat, List.map_map]
  have hanswer : srv.intermediateAnswer env ∘ (fun i => m.segment (intermediate maxPayload i)) =
      fun _ => (.fragmentPending, none) := by
    funext i
    simp only [Function.comp, intermediateAnswer, hfault, Bool.false_eq_true, if_false]
  refine ⟨?_, ⟨Function.update srv.fragFirstHeader row (m.firstHeader (intermediate maxPayload 0)), ?_⟩, hidle⟩
  · rw [hanswer, List.map_const', List.length_range]
    rfl
  · rw [dispatchPlain_fragReasm]
    rfl

end transparent

/-- `m` is sent by `plan` to a protected endpoint of a configured stream whose reassembler is idle. -/
structure Sent (srv : MockServer σ) (env : Envelope) (avtpTimestamp : UInt32) (m : AcfMessage)
    (plan : List FragmentSegment) (wrapped : Octets) (row : StreamIx) (e : EndpointIx) : Prop where
  plan : ∃ maxPayload count, fragmentPlan m.payload.length maxPayload count = .ok plan
  wrapped : ∃ message, m.header.encode m.payload = some message ∧
    e2eWrapFramed env.streamId (env.avtpSubtype == avtpSubtypeNtscf) 0 false avtpTimestamp message = some wrapped
  type : env.acfMsgType = m.header.type
  protects : srv.Protects env row e
  idle : srv.fragReasm row = .init 65536

/-- A fragmented message is dispatched as the whole message is, on a latched stream too, where both are
    turned down. A plan of more than one segment needs a header that survives its re-encoding. -/
theorem fragmentation_transparent {srv : MockServer σ} {env : Envelope} {avtpTimestamp : UInt32} {m : AcfMessage}
    {plan : List FragmentSegment} {wrapped : Octets} {row : StreamIx} {e : EndpointIx}
    (h : srv.Sent env avtpTimestamp m plan wrapped row e) (hkept : plan.length = 1 ∨ m.header.Reproduced) :
    srv.Transparent env avtpTimestamp m wrapped plan row (srv.intermediateAnswer env) := by
  obtain ⟨⟨maxPayload, count, hplan⟩, ⟨message, hencode, hwrap⟩, htype, hprotects, hidle⟩ := h
  obtain ⟨hfits, rfl⟩ := AcfHeader.encode_eq_some.mp hencode
  have hroom : m.header.quadlets m.payload.length + 1 ≤ 0x1FF := insertCrc_framed_room hfits hwrap
  have hwrapped := hwrap
  rw [e2eWrapFramed, e2eWrap_eq_insertCrc, insertCrc_framed _ hroom, Option.some.injEq] at hwrapped
  have hlong : 8 ≤ (Acf.framed m.header.type m.header.info m.header.region m.payload).length := by
    have hmul := Acf.quadletsOf_mul (Acf.abbHeaderLen + m.header.region.length + m.payload.length)
    have habb : Acf.abbHeaderLen = 8 := rfl
    rw [Acf.framed_length]
    omega
  rcases fragmentPlan_cases hplan with hone | ⟨n, hn, hmany, -, hcut, rfl⟩
  · obtain ⟨seg, rfl⟩ := List.length_eq_one_iff.mp hone
    have hidle' : (srv.dispatchE2e env avtpTimestamp wrapped).server.fragReasm row = .init 65536 := by
      cases hfault : srv.streamFaulted env.streamId with
      | true =>
        rw [dispatchE2e_faulted hfault]
        exact hidle
      | false =>
        rw [hprotects.dispatchE2e hfault hlong hwrap, dispatchPlain_fragReasm]
        exact hidle
    simp only [Transparent, AcfMessage.fragments, deliver, hprotects.dispatch_single hidle hwrapped]
    exact ⟨rfl, ⟨_, rfl⟩, hidle'⟩
  · have hslice : m.header.quadlets (m.payload.drop (n * maxPayload)).length ≤ m.header.quadlets m.payload.length :=
      m.header.quadlets_mono (by rw [List.length_drop]; omega)
    have hw := @insertCrc_framed m.header.type m.header.info _ _
      (fun _ => m.crc env avtpTimestamp (intermediate maxPayload 0)) (Nat.le_trans (Nat.succ_le_succ hslice) hroom)
    rw [← m.segment_final] at hw
    cases hfault : srv.streamFaulted env.streamId with
    | true => exact transparent_faulted hfault hidle hwrapped hn hw ⟨_, rfl⟩
    | false =>
      have hkept' : m.header.Reproduced := hkept.resolve_left (by simp; omega)
      exact hprotects.transparent_collected hfault hidle (hprotects.dispatchE2e hfault hlong hwrap) htype hkept' hroom hn
        hmany hcut hw

/-! ### A write in two fragments -/

/-- The calls that bring a server with one protected endpoint, on bus 1 of stream 9, into service. Its handler
    keeps the requests it is called with. -/
def bringUpProtected : List (MockOp (List Octets)) :=
  [.transition .hwConfigured (some {}) {} true,
   .transition .rcpConfigured (some {}) { viaDiscoveryStream := true } true,
   .addEndpoint 1 true (some fun request world => (none, request :: world)),
   .setEndpointReqCrcEnable none 1 true, .setEndpointRxEnforceE2e none 1 true,
   .setRequestStreamCfg [{ rxStreamId := 9 }], .setStreamFaultTracker (some {})]

def protectedServer : MockServer (List Octets) := (MockServer.new []).run bringUpProtected

def bus1On9 (acfMsgType : UInt8) : Envelope :=
  { byteBusId := 1, avtpSubtype := avtpSubtypeNtscf, acfMsgType := acfMsgType, timeSyncSupported := false, streamId := 9 }

/-- The same after a request without a CRC. -/
def latchedServer : MockServer (List Octets) :=
  protectedServer.run [.call (.dispatchE2e (bus1On9 Acf.msgTypeAbb) 0 [0x1C, 2, 0, 1, 0, 1, 0x80, 0])]

/-- An ACF_ABB write of three octets. -/
def abbWrite : AcfMessage where
  header := .abb { byteBusId := 1, transactionNum := 4, op := Acf.opWrite }
  payload := [0xA0, 0xA1, 0xA2]
  unfragmented := by decide

/-- A triggered write of three octets. -/
def triggeredWrite : AcfMessage where
  header := .repurposed 1 0 0 4 (triggeredPackTs RequestType.triggered { triggerSourceEp := 2, triggerSignalNr := 3 })
  payload := [0xA0, 0xA1, 0xA2]
  unfragmented := by decide

/-- Two octets in the first fragment and one in the last. -/
def twoSegments : List FragmentSegment := [intermediate 2 0, finalSegment 3 2 1]

/-- The two messages as they go out whole. -/
def abbWrapped : Octets := [0x1C, 4, 0x40, 1, 0, 4, 0x80, 0, 0xA0, 0xA1, 0xA2, 33, 237, 131, 44, 0]
def triggeredWrapped : Octets :=
  [0x1A, 6, 0x40, 1, 0, 4, 0x80, 0, 0x0E, 2, 3, 0, 0, 0, 0, 0, 0xA0, 0xA1, 0xA2, 244, 43, 243, 245, 0]

theorem protectedServer_sent_abb : protectedServer.Sent (bus1On9 Acf.msgTypeAbb) 0 abbWrite twoSegments abbWrapped 0 0 :=
  ⟨⟨2, 2, rfl⟩, ⟨_, rfl, by decide +kernel⟩, rfl, ⟨by decide +kernel, by decide +kernel, by decide +kernel⟩, by decide +kernel⟩

theorem fragmentation_transparent_abb :
    protectedServer.Transparent (bus1On9 Acf.msgTypeAbb) 0 abbWrite abbWrapped twoSegments 0
      (protectedServer.intermediateAnswer (bus1On9 Acf.msgTypeAbb)) :=
  fragmentation_transparent protectedServer_sent_abb (Or.inr (show (0 : UInt8) &&& 1 = Acf.mtvUntimed by decide))

/-- A latched stream turns the intermediate fragment down. And a triggered write comes out of the reassembly
    without the opcode in its timestamp region: whole it waits for its trigger, in fragments it runs at once. -/
theorem fragmentation_not_transparent :
    (latchedServer.Sent (bus1On9 Acf.msgTypeAbb) 0 abbWrite twoSegments abbWrapped 0 0 ∧
      ¬latchedServer.Transparent (bus1On9 Acf.msgTypeAbb) 0 abbWrite abbWrapped twoSegments 0
        fun _ => (.fragmentPending, none)) ∧
    protectedServer.Sent (bus1On9 Acf.msgTypeGbb) 0 triggeredWrite twoSegments triggeredWrapped 0 0 ∧
      ¬protectedServer.Transparent (bus1On9 Acf.msgTypeGbb) 0 triggeredWrite triggeredWrapped twoSegments 0
        fun _ => (.fragmentPending, none) := by
  refine ⟨⟨⟨⟨2, 2, rfl⟩, ⟨_, rfl, by decide +kernel⟩, rfl,
      ⟨by decide +kernel, by decide +kernel, by decide +kernel⟩, by decide +kernel⟩, ?_⟩,
    ⟨⟨2, 2, rfl⟩, ⟨_, rfl, by decide +kernel⟩, rfl,
      ⟨by decide +kernel, by decide +kernel, by decide +kernel⟩, by decide +kernel⟩, ?_⟩
  · rintro ⟨hanswers, -⟩
    exact absurd hanswers (by decide +kernel)
  · rintro ⟨hanswers, -⟩
    exact absurd hanswers (by decide +kernel)

end MockServer

end Rcp
