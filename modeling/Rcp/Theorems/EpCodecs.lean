import Rcp.Discovery
import Rcp.EpCodec
import Rcp.Theorems.Framing

/-! What the decoders of the endpoint types find in a message that an encoder has built, and what a message is that they
    accept. -/

namespace Rcp
open Acf

/-- An event without modifiers is received without them. -/
theorem evtRow2IsPlain_zero : evtRow2IsPlain (0 &&& 0xF) = true := by decide

/-! ### Requests -/

/-- The header an ACF_ABB decoder finds. -/
def sentAbb (hdr : ByteMessageInfo) (payload : Octets) : ByteMessageInfo :=
  { hdr.sent msgTypeAbb (abbHeaderLen + payload.length) with mtv := mtvUntimed }

section fields
variable (hdr : ByteMessageInfo) (payload : Octets)

@[simp] theorem sentAbb_evt : (sentAbb hdr payload).evt = hdr.evt &&& 0xF := rfl
@[simp] theorem sentAbb_transactionNum : (sentAbb hdr payload).transactionNum = hdr.transactionNum := rfl
@[simp] theorem sentAbb_op : (sentAbb hdr payload).op = if hdr.op = opRead then opRead else opWrite := rfl
@[simp] theorem sentAbb_readSize :
    (sentAbb hdr payload).readSizeOrSegmentNum = hdr.readSizeOrSegmentNum &&& 0xFFF := rfl

end fields

/-- A message of ACF_ABB is built whenever its payload fits. -/
theorem encodeAbb_isSome (hdr : ByteMessageInfo) {payload : Octets} (h : payload.length ≤ abbMaxPayload) :
    ∃ m, encodeAbb hdr payload = some m := by
  refine ⟨_, encodeAbb_eq_some.mpr ⟨(quadletsOf_le _).mpr ?_, rfl⟩⟩
  simp only [abbMaxPayload, abbHeaderLen] at h ⊢
  omega

theorem length_le_of_encodeAbb {hdr : ByteMessageInfo} {payload m : Octets}
    (h : encodeAbb hdr payload = some m) : payload.length ≤ abbMaxPayload := by
  have hfits := (quadletsOf_le _).mp (encodeAbb_eq_some.mp h).1
  simp only [abbMaxPayload, abbHeaderLen] at hfits ⊢
  omega

theorem decodeAbb_of_encodeAbb {hdr : ByteMessageInfo} {payload m : Octets} (h : encodeAbb hdr payload = some m) :
    decodeAbb m = .ok (sentAbb hdr payload, payload) := by
  obtain ⟨m', henc, hdec, -⟩ := decodeAbb_encodeAbb hdr (length_le_of_encodeAbb h)
  obtain rfl := Option.some.inj (h.symm.trans henc)
  exact hdec

theorem epDecodeRequest_of_decodeAbb {b payload : Octets} {hdr : ByteMessageInfo} (h : decodeAbb b = .ok (hdr, payload)) :
    epDecodeRequest b hdr.byteBusId = .ok (hdr, payload) := by
  rw [epDecodeRequest, h]
  simp only [ne_eq, not_true_eq_false, if_false]

theorem epDecodeRequest_encoded {hdr : ByteMessageInfo} {payload m : Octets} (h : encodeAbb hdr payload = some m) :
    epDecodeRequest m (hdr.byteBusId &&& 0x7FF) = .ok (sentAbb hdr payload, payload) :=
  epDecodeRequest_of_decodeAbb (decodeAbb_of_encodeAbb h)

theorem epDecodeRequest_eq_ok {b payload : Octets} {byteBusId : ByteBusId} {hdr : ByteMessageInfo} :
    epDecodeRequest b byteBusId = .ok (hdr, payload) ↔ decodeAbb b = .ok (hdr, payload) ∧ hdr.byteBusId = byteBusId := by
  refine ⟨fun h => ?_, fun ⟨h, hbus⟩ => hbus ▸ epDecodeRequest_of_decodeAbb h⟩
  rw [epDecodeRequest] at h
  split at h
  · cases h
  split at h
  · cases h
  rename_i hdec hbus
  obtain ⟨rfl, rfl⟩ := Prod.mk.inj (Except.ok.inj h)
  exact ⟨hdec, not_not.mp hbus⟩

/-! ### Responses -/

/-- The response a decoder finds. -/
def sentResponse (info : ByteMessageInfo) (payload : Octets) (timed : Bool) (timestamp : UInt64) : EpResponse where
  info :=
    if timed then { info with mtv := mtvValid }.sent msgTypeGbb (gbbHeaderLen + payload.length)
    else sentAbb info payload
  payload := payload
  timed := timed
  timestamp := if timed then timestamp else 0

section fields
variable (info : ByteMessageInfo) (payload : Octets) (timed : Bool) (timestamp : UInt64)

@[simp] theorem sentResponse_payload : (sentResponse info payload timed timestamp).payload = payload := rfl
@[simp] theorem sentResponse_timed : (sentResponse info payload timed timestamp).timed = timed := rfl
@[simp] theorem sentResponse_timestamp :
    (sentResponse info payload timed timestamp).timestamp = if timed then timestamp else 0 := rfl

@[simp] theorem sentResponse_byteBusId :
    (sentResponse info payload timed timestamp).info.byteBusId = info.byteBusId &&& 0x7FF := by
  cases timed <;> rfl

@[simp] theorem sentResponse_evt : (sentResponse info payload timed timestamp).info.evt = info.evt &&& 0xF := by
  cases timed <;> rfl

@[simp] theorem sentResponse_transactionNum :
    (sentResponse info payload timed timestamp).info.transactionNum = info.transactionNum := by
  cases timed <;> rfl

@[simp] theorem sentResponse_ms : (sentResponse info payload timed timestamp).info.ms = info.ms &&& 0x1 := by
  cases timed <;> rfl

@[simp] theorem sentResponse_segmentNum :
    (sentResponse info payload timed timestamp).info.readSizeOrSegmentNum = info.readSizeOrSegmentNum &&& 0xFFF := by
  cases timed <;> rfl

end fields

theorem decodeGbb_of_encodeGbb {hdr : GbbHeader} {payload m : Octets} (h : encodeGbb hdr payload = some m) :
    decodeGbb m =
      .ok ({ info := hdr.info.sent msgTypeGbb (gbbHeaderLen + payload.length), messageTimestamp := hdr.region },
        payload) := by
  obtain ⟨hfits, -⟩ := encodeGbb_eq_some.mp h
  obtain ⟨m', henc, hdec, -⟩ := decodeGbb_encodeGbb hdr (Nat.not_lt.mp ((gbb_fits_iff payload).mp hfits))
  obtain rfl := Option.some.inj (h.symm.trans henc)
  exact hdec

theorem peekMsgType_of_decodeAbb {b payload : Octets} {hdr : ByteMessageInfo} (h : decodeAbb b = .ok (hdr, payload)) :
    peekMsgType b = some msgTypeAbb := by
  obtain ⟨htype, hin, hcut, -, -⟩ := decodeAbb_eq_ok h
  rw [peekMsgType, if_neg (by rw [abbHeaderLen] at hcut; omega), htype]

theorem peekMsgType_of_decodeGbb {b payload : Octets} {hdr : GbbHeader} (h : decodeGbb b = .ok (hdr, payload)) :
    peekMsgType b = some msgTypeGbb := by
  obtain ⟨htype, hin, hcut, -, -⟩ := decodeGbb_eq_ok h
  rw [peekMsgType, if_neg (by rw [gbbHeaderLen] at hcut; omega), htype]

theorem epDecodeMessage_abb {b payload : Octets} {hdr : ByteMessageInfo} (h : decodeAbb b = .ok (hdr, payload)) :
    epDecodeMessage b = .ok { info := hdr, payload, timed := false, timestamp := 0 } := by
  have htype : msgTypeAbb ≠ msgTypeGbb := by decide
  simp only [epDecodeMessage, peekMsgType_of_decodeAbb h, htype, if_false, h]

theorem epDecodeMessage_gbb {b payload : Octets} {hdr : GbbHeader} (h : decodeGbb b = .ok (hdr, payload)) :
    epDecodeMessage b =
      .ok { info := hdr.info, payload, timed := gbbIsTimed hdr
            timestamp := if gbbIsTimed hdr then hdr.messageTimestamp else 0 } := by
  simp only [epDecodeMessage, peekMsgType_of_decodeGbb h, if_true, h]

/-- A valid timestamp is announced on the wire as one. -/
theorem gbbIsTimed_sent (info : ByteMessageInfo) (n : Nat) (timestamp : UInt64) :
    gbbIsTimed { info := { info with mtv := mtvValid }.sent msgTypeGbb n, messageTimestamp := timestamp } = true :=
  (by decide : (mtvValid &&& 0x1 == mtvValid) = true)

theorem epDecodeMessage_encoded {info : ByteMessageInfo} {payload m : Octets} {timed : Bool} {timestamp : UInt64}
    (h : epEncodeResponse info payload timed timestamp = some m) :
    epDecodeMessage m = .ok (sentResponse info payload timed timestamp) := by
  cases timed with
  | true =>
    have hregion : GbbHeader.region { info := { info with mtv := mtvValid }, messageTimestamp := timestamp } = timestamp :=
      if_neg (by decide : mtvValid ≠ mtvUntimed)
    rw [epDecodeMessage_gbb (decodeGbb_of_encodeGbb h), hregion, gbbIsTimed_sent]
    rfl
  | false => exact epDecodeMessage_abb (decodeAbb_of_encodeAbb h)

theorem epDecodeResponse_eq_ok {b : Octets} {byteBusId : ByteBusId} {r : EpResponse} :
    epDecodeResponse b byteBusId = .ok r ↔ epDecodeMessage b = .ok r ∧ r.info.byteBusId = byteBusId := by
  rw [epDecodeResponse]
  rcases epDecodeMessage b with e | msg
  · simp [bind, Except.bind]
  · simp only [bind, Except.bind]
    split
    · rename_i hbus
      simp only [reduceCtorEq, false_iff, not_and]
      rintro ⟨rfl⟩
      exact hbus
    · rename_i hbus
      simp only [Except.ok.injEq]
      exact ⟨fun h => ⟨h, h ▸ not_not.mp hbus⟩, And.left⟩

theorem epDecodeResponse_encoded {info : ByteMessageInfo} {payload m : Octets} {timed : Bool} {timestamp : UInt64}
    (h : epEncodeResponse info payload timed timestamp = some m) :
    epDecodeResponse m (info.byteBusId &&& 0x7FF) = .ok (sentResponse info payload timed timestamp) :=
  epDecodeResponse_eq_ok.mpr ⟨epDecodeMessage_encoded h, sentResponse_byteBusId ..⟩

/-! ### Discovery messages -/

theorem avtpDecodeNtscf_of_encode {hdr : NtscfHeader} {payload m : Octets} (h : avtpEncodeNtscf hdr payload = some m) :
    avtpDecodeNtscf m = .ok (hdr.onWire payload.length, payload) := by
  have hlen : payload.length ≤ avtpNtscfMaxPayload := by
    rw [avtpEncodeNtscf] at h
    split at h
    · cases h
    · rename_i hlen
      exact Nat.not_lt.mp hlen
  obtain ⟨f, hf, -, hdec, -⟩ := avtpDecodeNtscf_encode hdr hlen
  obtain rfl := Option.some.inj (h.symm.trans hf)
  simpa using hdec []

theorem discoveryDecodeCommon_encoded {hdr : ByteMessageInfo} {payload m : Octets} {streamId : StreamId}
    (h : discoveryEncode hdr payload streamId = some m) (hbus : hdr.byteBusId = discoveryByteBusId)
    (hop : hdr.op = opRead) : discoveryDecodeCommon m = .ok (streamId, sentAbb hdr payload, payload) := by
  obtain ⟨acfFrame, hacf, hframe⟩ := Option.bind_eq_some_iff.mp h
  have hntscf := avtpDecodeNtscf_of_encode hframe
  obtain ⟨hsubtype, hin, -, -⟩ := avtpDecodeNtscf_eq_ok hntscf
  have hbus' : (sentAbb hdr payload).byteBusId = discoveryByteBusId := by
    change hdr.byteBusId &&& 0x7FF = discoveryByteBusId
    rw [hbus]
    rfl
  rw [avtpNtscfHeaderLen] at hin
  rw [discoveryDecodeCommon, if_neg (by omega), hsubtype, hntscf]
  simp only [discoveryShouldDrop, decodeAbb_of_encodeAbb hacf, hbus', sentAbb_op, hop, bne_self_eq_false,
    Bool.false_eq_true, if_false, if_true, ne_eq, not_true_eq_false]
  rfl

/-- A message of at most 255 octets of payload has room in a frame. -/
theorem discoveryEncode_isSome (hdr : ByteMessageInfo) {payload : Octets} (streamId : StreamId)
    (hlen : payload.length ≤ 255) : ∃ m, discoveryEncode hdr payload streamId = some m := by
  have hacf : encodeAbb hdr payload = some (framed msgTypeAbb hdr [] payload) :=
    encodeAbb_eq_some.mpr ⟨(quadletsOf_le _).mpr (by rw [abbHeaderLen]; omega), rfl⟩
  have hlen' : (framed msgTypeAbb hdr [] payload).length ≤ avtpNtscfMaxPayload := by
    rw [framed_length, quadletsOf_mul, avtpNtscfMaxPayload, List.length_nil, abbHeaderLen]
    have := padLen_lt (8 + 0 + payload.length)
    omega
  rw [discoveryEncode, hacf]
  exact ⟨_, if_neg (Nat.not_lt.mpr hlen')⟩

end Rcp
