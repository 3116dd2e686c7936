import Rcp.Theorems.Codec

/-! Both directions of the message codec. Decoding what was encoded is a matter of the framing lemmas; the
    other way round the header is put together again octet by octet, and the parts a decoder cuts a message
    into are shown to be the parts an encoder joins. -/

namespace Rcp
namespace Acf

/-! ### The header, octet by octet -/

/-- The reserved bits of the header (octet 2 bits 4:3, octet 4 bits 3:2) are zero. -/
def ReservedZero (b : Octets) : Prop := b.at 2 &&& 0x18 = 0 ∧ b.at 4 &&& 0x0C = 0

theorem lowOctet_pack (x y : UInt8) : ((x.toUInt16 <<< 8 ||| y.toUInt16) &&& 0xFF).toUInt8 = y := by
  apply UInt8.toBitVec_inj.mp
  simp only [UInt8.toBitVec_toUInt16, UInt16.toBitVec_toUInt8, UInt16.toBitVec_and, UInt16.toBitVec_or,
    UInt16.toBitVec_shiftLeft]
  ext i hi
  interval_cases i <;> simp

theorem highOctet_pack (x y m : UInt8) :
    ((x.toUInt16 <<< 8 ||| y.toUInt16) >>> 8 &&& m.toUInt16).toUInt8 = x &&& m := by
  apply UInt8.toBitVec_inj.mp
  simp only [UInt8.toBitVec_toUInt16, UInt16.toBitVec_toUInt8, UInt16.toBitVec_and, UInt16.toBitVec_or,
    UInt16.toBitVec_shiftLeft, UInt16.toBitVec_shiftRight, UInt8.toBitVec_and]
  ext i hi
  interval_cases i <;> simp

theorem and_and_mask (x m : UInt8) : x &&& m &&& m = x &&& m := by
  rw [UInt8.and_assoc, UInt8.and_self]

theorem highOctet_masked (x y m : UInt8) :
    (((x &&& m).toUInt16 <<< 8 ||| y.toUInt16) >>> 8 &&& m.toUInt16).toUInt8 = x &&& m := by
  rw [highOctet_pack, and_and_mask]

theorem octet0_pack (x : UInt8) : (x >>> 1) <<< 1 ||| (x &&& 0x01) = x := by
  apply UInt8.toBitVec_inj.mp
  simp only [UInt8.toBitVec_or, UInt8.toBitVec_and, UInt8.toBitVec_shiftLeft, UInt8.toBitVec_shiftRight]
  ext i hi
  interval_cases i <;> simp

theorem getLsbD_of_and_eq_zero {x m : UInt8} (h : x &&& m = 0) {i : Nat} (hm : m.toBitVec.getLsbD i = true) :
    x.toBitVec.getLsbD i = false := by
  have hbit := congrArg (fun z => z.toBitVec.getLsbD i) h
  simpa [hm] using hbit

theorem octet2_pack {x : UInt8} (hx : x &&& 0x18 = 0) :
    (x >>> 6 &&& 0x3) <<< 6 ||| (x >>> 5 &&& 0x1) <<< 5 ||| (x &&& 0x07) = x := by
  have h3 := getLsbD_of_and_eq_zero hx (i := 3) (by decide)
  have h4 := getLsbD_of_and_eq_zero hx (i := 4) (by decide)
  simp only [BitVec.getLsbD_eq_getElem, Nat.reduceLT] at h3 h4
  apply UInt8.toBitVec_inj.mp
  simp only [UInt8.toBitVec_or, UInt8.toBitVec_and, UInt8.toBitVec_shiftLeft, UInt8.toBitVec_shiftRight]
  ext i hi
  interval_cases i <;> simp [h3, h4]

theorem octet4_pack {x : UInt8} (hx : x &&& 0x0C = 0) :
    (x >>> 4 &&& 0xF) <<< 4 ||| (x >>> 1 &&& 0x1) <<< 1 ||| (x &&& 0x1) = x := by
  have h2 := getLsbD_of_and_eq_zero hx (i := 2) (by decide)
  have h3 := getLsbD_of_and_eq_zero hx (i := 3) (by decide)
  simp only [BitVec.getLsbD_eq_getElem, Nat.reduceLT] at h2 h3
  apply UInt8.toBitVec_inj.mp
  simp only [UInt8.toBitVec_or, UInt8.toBitVec_and, UInt8.toBitVec_shiftLeft, UInt8.toBitVec_shiftRight]
  ext i hi
  interval_cases i <;> simp [h2, h3]

theorem octet6_pack (x : UInt8) :
    (x >>> 7 &&& 0x1) <<< 7 ||| (x >>> 6 &&& 0x1) <<< 6 ||| (x >>> 5 &&& 0x1) <<< 5 ||| (x >>> 4 &&& 0x1) <<< 4 |||
      (x &&& 0x0F) = x := by
  apply UInt8.toBitVec_inj.mp
  simp only [UInt8.toBitVec_or, UInt8.toBitVec_and, UInt8.toBitVec_shiftLeft, UInt8.toBitVec_shiftRight]
  ext i hi
  interval_cases i <;> simp

theorem opBit_unpackHeader (b : Octets) :
    (if (unpackHeader b).op = opRead then (0 : UInt8) else 1) = b.at 6 >>> 7 &&& 0x1 := by
  change (if (if b.at 6 >>> 7 &&& 0x1 ≠ 0 then opWrite else opRead) = opRead then (0 : UInt8) else 1) = _
  have hle : (b.at 6 >>> 7 &&& 0x1).toNat ≤ 1 := by
    rw [UInt8.toNat_and]
    exact Nat.and_le_right
  rcases Nat.le_one_iff_eq_zero_or_eq_one.mp hle with hbit | hbit
  · rw [show b.at 6 >>> 7 &&& 0x1 = 0 from UInt8.toNat_inj.mp hbit]
    rfl
  · rw [show b.at 6 >>> 7 &&& 0x1 = 1 from UInt8.toNat_inj.mp hbit]
    rfl

theorem packHeader_unpackHeader {b : Octets} (hres : ReservedZero b) :
    packHeader (unpackHeader b).acfMsgType (unpackHeader b).acfMsgLength (unpackHeader b) =
      [b.at 0, b.at 1, b.at 2, b.at 3, b.at 4, b.at 5, b.at 6, b.at 7] := by
  simp only [packHeader, opBit_unpackHeader]
  simp only [unpackHeader, lowOctet_pack, and_and_mask, List.cons.injEq, and_true, true_and]
  refine ⟨?_, ?_, octet4_pack hres.2, ?_⟩
  · exact (congrArg _ (highOctet_masked _ _ 0x01)).trans (octet0_pack _)
  · exact (congrArg _ (highOctet_masked _ _ 0x07)).trans (octet2_pack hres.1)
  · exact (congrArg _ (highOctet_masked _ _ 0x0F)).trans (octet6_pack _)

/-! ### What a decoder cuts out of a message -/

theorem take_drop_eq_at {b : Octets} {n k : Nat} (h : n + k ≤ b.length) :
    (b.drop n).take k = (List.range k).map fun i => b.at (n + i) := by
  have hlen : ((b.drop n).take k).length = k := by
    rw [List.length_take, List.length_drop]
    omega
  apply List.ext_getElem
  · rw [hlen, List.length_map, List.length_range]
  · intro i hi _
    rw [hlen] at hi
    rw [List.getElem_take, List.getElem_drop, List.getElem_map, List.getElem_range, Octets.at,
      List.getD_eq_getElem?_getD, List.getElem?_eq_getElem (by omega), Option.getD_some]

theorem padLen_of_quadlets {q n pad : Nat} (hpad : pad < 4) (h : n + pad = q * 4) :
    padLen n = pad ∧ quadletsOf n = q := by
  have hlen : padLen n = pad := by
    simp only [padLen]
    omega
  refine ⟨hlen, ?_⟩
  rw [quadletsOf, hlen]
  omega

theorem unpackHeader_pad_lt (b : Octets) : (unpackHeader b).pad.toNat < 4 := by
  have hle : (b.at 2 >>> 6 &&& 0x3).toNat ≤ 3 := by
    rw [UInt8.toNat_and]
    exact Nat.and_le_right
  exact Nat.lt_succ_of_le hle

/-- A bus is received in eleven bits. -/
theorem byteBusId_and (b : Octets) : (unpackHeader b).byteBusId &&& 0x7FF = (unpackHeader b).byteBusId :=
  wideField_and (b.at 2) (b.at 3) 0x07

theorem unpackHeader_quadlets_le (b : Octets) : (unpackHeader b).acfMsgLength.toNat ≤ 0x1FF :=
  wideField_le (b.at 0) (b.at 1) 0x01

/-- The pad of `b` is zero: its last octets, as many as the pad field says. -/
def PadZero (b : Octets) (pad : UInt8) : Prop := b.drop (b.length - pad.toNat) = List.replicate pad.toNat 0

/-- The encoders put the parts a decoder cuts a message into together again: header, timestamp region of
    `n` octets, payload, pad. -/
theorem framed_cut {b payload : Octets} {n : Nat} (hlen : b.length = (unpackHeader b).acfMsgLength.toNat * 4)
    (hcut : abbHeaderLen + n + (unpackHeader b).pad.toNat ≤ b.length)
    (hpayload : payload = (b.drop (abbHeaderLen + n)).take (b.length - (abbHeaderLen + n) - (unpackHeader b).pad.toNat))
    (hpad : PadZero b (unpackHeader b).pad) (hres : ReservedZero b) :
    quadletsOf (abbHeaderLen + n + payload.length) ≤ 0x1FF ∧
      framed (b.at 0 >>> 1) (unpackHeader b) ((b.drop abbHeaderLen).take n) payload = b := by
  have hregion : ((b.drop abbHeaderLen).take n).length = n := by
    rw [List.length_take, List.length_drop]
    omega
  have hk : payload.length = b.length - (abbHeaderLen + n) - (unpackHeader b).pad.toNat := by
    rw [hpayload, List.length_take, List.length_drop]
    omega
  rw [← hk] at hpayload
  have hsum : abbHeaderLen + n + payload.length + (unpackHeader b).pad.toNat = b.length := by omega
  obtain ⟨hpadLen, hquadlets⟩ := padLen_of_quadlets (unpackHeader_pad_lt b) (hsum.trans hlen)
  refine ⟨hquadlets.symm ▸ unpackHeader_quadlets_le b, ?_⟩
  have htake : (b.drop 0).take 8 = _ := take_drop_eq_at (n := 0) (k := 8) (b := b) (by
    rw [abbHeaderLen] at hcut
    omega)
  have hheader : packHeader (b.at 0 >>> 1) (unpackHeader b).acfMsgLength (unpackHeader b) = b.take abbHeaderLen :=
    (packHeader_unpackHeader hres).trans htake.symm
  simp only [framed, hregion, hpadLen, hquadlets, UInt16.ofNat_toNat, UInt8.ofNat_toNat]
  have hbody : b.take (abbHeaderLen + n) ++ payload = b.take (abbHeaderLen + n + payload.length) := by
    rw [List.take_add (l := b) (i := abbHeaderLen + n), ← hpayload]
  rw [hheader, ← hpad, show b.length - (unpackHeader b).pad.toNat = abbHeaderLen + n + payload.length by omega,
    ← List.take_add, hbody, List.take_append_drop]

theorem decodeAbb_eq_ok {b payload : Octets} {hdr : ByteMessageInfo} (h : decodeAbb b = .ok (hdr, payload)) :
    b.at 0 >>> 1 = msgTypeAbb ∧ (unpackHeader b).acfMsgLength.toNat * 4 ≤ b.length ∧
      abbHeaderLen + (unpackHeader b).pad.toNat ≤ (unpackHeader b).acfMsgLength.toNat * 4 ∧
      hdr = { unpackHeader b with mtv := mtvUntimed } ∧
      payload = (b.drop abbHeaderLen).take
        ((unpackHeader b).acfMsgLength.toNat * 4 - abbHeaderLen - (unpackHeader b).pad.toNat) := by
  rw [decodeAbb] at h
  split at h
  · cases h
  split at h
  · cases h
  rename_i htype
  simp only at h
  split at h
  · cases h
  split at h
  · cases h
  split at h
  · cases h
  rename_i hlong hin hpad
  obtain ⟨rfl, rfl⟩ := Prod.mk.inj (Except.ok.inj h)
  exact ⟨not_not.mp htype, by omega, by omega, rfl, rfl⟩

theorem decodeGbb_eq_ok {b payload : Octets} {hdr : GbbHeader} (h : decodeGbb b = .ok (hdr, payload)) :
    b.at 0 >>> 1 = msgTypeGbb ∧ (unpackHeader b).acfMsgLength.toNat * 4 ≤ b.length ∧
      gbbHeaderLen + (unpackHeader b).pad.toNat ≤ (unpackHeader b).acfMsgLength.toNat * 4 ∧
      hdr = { info := unpackHeader b, messageTimestamp := getU64 b abbHeaderLen } ∧
      payload = (b.drop gbbHeaderLen).take
        ((unpackHeader b).acfMsgLength.toNat * 4 - gbbHeaderLen - (unpackHeader b).pad.toNat) := by
  rw [decodeGbb] at h
  split at h
  · cases h
  split at h
  · cases h
  rename_i htype
  simp only at h
  split at h
  · cases h
  split at h
  · cases h
  split at h
  · cases h
  rename_i hlong hin hpad
  obtain ⟨rfl, rfl⟩ := Prod.mk.inj (Except.ok.inj h)
  exact ⟨not_not.mp htype, by omega, by omega, rfl, rfl⟩

theorem encodeAbb_decodeAbb {b payload : Octets} {hdr : ByteMessageInfo} (h : decodeAbb b = .ok (hdr, payload))
    (hlen : b.length = 4 * hdr.acfMsgLength.toNat) (hpad : PadZero b hdr.pad) (hres : ReservedZero b)
    (hmtv : (unpackHeader b).mtv = mtvUntimed) : encodeAbb hdr payload = some b := by
  obtain ⟨htype, hin, hcut, rfl, hpayload⟩ := decodeAbb_eq_ok h
  have hsame : { unpackHeader b with mtv := mtvUntimed } = unpackHeader b := by rw [← hmtv]
  rw [hsame] at hlen hpad ⊢
  have hlen' : b.length = (unpackHeader b).acfMsgLength.toNat * 4 := by omega
  rw [← hlen'] at hpayload
  obtain ⟨hfits, hframed⟩ := framed_cut (n := 0) hlen' (by omega) hpayload hpad hres
  rw [htype, List.take_zero] at hframed
  exact encodeAbb_eq_some.mpr ⟨hfits, hframed⟩

theorem encodeGbb_decodeGbb {b payload : Octets} {hdr : GbbHeader} (h : decodeGbb b = .ok (hdr, payload))
    (hlen : b.length = 4 * hdr.info.acfMsgLength.toNat) (hpad : PadZero b hdr.info.pad) (hres : ReservedZero b)
    (hts : hdr.info.mtv = mtvUntimed → hdr.messageTimestamp = 0) : encodeGbb hdr payload = some b := by
  obtain ⟨htype, hin, hcut, rfl, hpayload⟩ := decodeGbb_eq_ok h
  simp only at hlen hpad hts
  have hlen' : b.length = (unpackHeader b).acfMsgLength.toNat * 4 := by omega
  rw [← hlen'] at hpayload
  have hgbb : abbHeaderLen + 8 = gbbHeaderLen := rfl
  obtain ⟨hfits, hframed⟩ := framed_cut (n := 8) hlen' (by omega) hpayload hpad hres
  have hregion : GbbHeader.region ⟨unpackHeader b, getU64 b abbHeaderLen⟩ = getU64 b abbHeaderLen := by
    by_cases hmtv : (unpackHeader b).mtv = mtvUntimed
    · exact (if_pos hmtv).trans (hts hmtv).symm
    · exact if_neg hmtv
  have hoctets : putU64 (getU64 b abbHeaderLen) = (b.drop abbHeaderLen).take 8 := by
    rw [putU64_getU64, take_drop_eq_at (by omega)]
    rfl
  rw [htype, ← hoctets, ← hregion] at hframed
  exact encodeGbb_eq_some.mpr ⟨hfits, hframed⟩

/-! ### The codec -/

/-- What comes back of a header that was sent over `unpadded` octets: every field masked to its wire width,
    NONE folded to WRITE, and the type, the length and the pad as the encoder computes them. -/
def ByteMessageInfo.sent (hdr : ByteMessageInfo) (type : UInt8) (unpadded : Nat) : ByteMessageInfo where
  acfMsgType := type
  acfMsgLength := UInt16.ofNat ((unpadded + padLen unpadded) / 4)
  pad := UInt8.ofNat (padLen unpadded)
  mtv := hdr.mtv &&& 0x1
  byteBusId := hdr.byteBusId &&& 0x7FF
  evt := hdr.evt &&& 0xF
  hs := hdr.hs &&& 0x1
  cs := hdr.cs &&& 0x1
  transactionNum := hdr.transactionNum
  op := if hdr.op = opRead then opRead else opWrite
  rsp := hdr.rsp &&& 0x1
  err := hdr.err &&& 0x1
  ms := hdr.ms &&& 0x1
  readSizeOrSegmentNum := hdr.readSizeOrSegmentNum &&& 0xFFF

theorem framedInfo_eq_sent {type : UInt8} (info : ByteMessageInfo) (region payload : Octets)
    (htype : type = msgTypeAbb ∨ type = msgTypeGbb)
    (hfits : quadletsOf (abbHeaderLen + region.length + payload.length) ≤ 0x1FF) :
    framedInfo type info region payload = info.sent type (abbHeaderLen + region.length + payload.length) := by
  generalize hn : abbHeaderLen + region.length + payload.length = n at hfits
  have htype' : type &&& 0x7F = type := by
    rcases htype with rfl | rfl <;> rfl
  have hq : UInt16.ofNat (quadletsOf n) &&& 0x1FF = UInt16.ofNat (quadletsOf n) := and_quadletMask (by
    rw [UInt16.toNat_ofNat_of_lt' (by rw [UInt16.size]; omega)]
    exact hfits)
  have hpad : UInt8.ofNat (padLen n) &&& 0x3 = UInt8.ofNat (padLen n) := by
    have hlt := padLen_lt n
    interval_cases padLen n <;> rfl
  simp only [framedInfo, ByteMessageInfo.onWire, ByteMessageInfo.sent, hn, htype', hq, hpad]
  rfl

theorem sent_quadlets {hdr : ByteMessageInfo} {type : UInt8} {n : Nat} (hfits : quadletsOf n ≤ 0x1FF) :
    4 * (hdr.sent type n).acfMsgLength.toNat = quadletsOf n * 4 := by
  have hof : (UInt16.ofNat (quadletsOf n)).toNat = quadletsOf n := UInt16.toNat_ofNat_of_lt' (by
    rw [UInt16.size]
    omega)
  rw [ByteMessageInfo.sent, ← quadletsOf, hof, Nat.mul_comm]

theorem decodeAbb_encodeAbb (hdr : ByteMessageInfo) {payload : Octets} (hlen : payload.length ≤ abbMaxPayload) :
    ∃ m, encodeAbb hdr payload = some m ∧
      decodeAbb m = .ok ({ hdr.sent msgTypeAbb (abbHeaderLen + payload.length) with mtv := mtvUntimed }, payload) ∧
      m.length = 4 * (hdr.sent msgTypeAbb (abbHeaderLen + payload.length)).acfMsgLength.toNat := by
  have hfits : quadletsOf (abbHeaderLen + payload.length) ≤ 0x1FF := by
    rw [quadletsOf_le]
    simp only [abbMaxPayload, abbHeaderLen] at hlen ⊢
    omega
  have hinfo := framedInfo_eq_sent hdr [] payload (Or.inl rfl) hfits
  refine ⟨framed msgTypeAbb hdr [] payload, encodeAbb_eq_some.mpr ⟨hfits, rfl⟩, ?_, ?_⟩
  · rw [decodeAbb_framed hdr payload hfits, hinfo]
    rfl
  · rw [sent_quadlets hfits]
    exact framed_length msgTypeAbb hdr [] payload

theorem decodeGbb_encodeGbb (hdr : GbbHeader) {payload : Octets} (hlen : payload.length ≤ gbbMaxPayload) :
    ∃ m, encodeGbb hdr payload = some m ∧
      decodeGbb m =
        .ok ({ info := hdr.info.sent msgTypeGbb (gbbHeaderLen + payload.length), messageTimestamp := hdr.region },
          payload) ∧
      m.length = 4 * (hdr.info.sent msgTypeGbb (gbbHeaderLen + payload.length)).acfMsgLength.toNat := by
  have hfits : quadletsOf (gbbHeaderLen + payload.length) ≤ 0x1FF := (gbb_fits_iff payload).mpr (Nat.not_lt.mpr hlen)
  have hinfo := framedInfo_eq_sent hdr.info (putU64 hdr.region) payload (Or.inr rfl) hfits
  refine ⟨framed msgTypeGbb hdr.info (putU64 hdr.region) payload, encodeGbb_eq_some.mpr ⟨hfits, rfl⟩, ?_, ?_⟩
  · rw [decodeGbb_framed hdr.info payload hdr.region hfits, hinfo]
    rfl
  · rw [sent_quadlets hfits]
    exact framed_length msgTypeGbb hdr.info (putU64 hdr.region) payload

theorem decodeAbb_inside {b payload : Octets} {hdr : ByteMessageInfo} (h : decodeAbb b = .ok (hdr, payload)) :
    abbHeaderLen + payload.length ≤ 4 * hdr.acfMsgLength.toNat ∧ 4 * hdr.acfMsgLength.toNat ≤ b.length ∧
      payload = (b.drop abbHeaderLen).take payload.length := by
  obtain ⟨-, hin, hcut, rfl, hpayload⟩ := decodeAbb_eq_ok h
  have hlen : payload.length =
      (unpackHeader b).acfMsgLength.toNat * 4 - abbHeaderLen - (unpackHeader b).pad.toNat := by
    rw [hpayload, List.length_take, List.length_drop]
    omega
  simp only
  exact ⟨by omega, by omega, hlen ▸ hpayload⟩

theorem decodeGbb_inside {b payload : Octets} {hdr : GbbHeader} (h : decodeGbb b = .ok (hdr, payload)) :
    gbbHeaderLen + payload.length ≤ 4 * hdr.info.acfMsgLength.toNat ∧ 4 * hdr.info.acfMsgLength.toNat ≤ b.length ∧
      payload = (b.drop gbbHeaderLen).take payload.length := by
  obtain ⟨-, hin, hcut, rfl, hpayload⟩ := decodeGbb_eq_ok h
  have hlen : payload.length =
      (unpackHeader b).acfMsgLength.toNat * 4 - gbbHeaderLen - (unpackHeader b).pad.toNat := by
    rw [hpayload, List.length_take, List.length_drop]
    omega
  simp only
  exact ⟨by omega, by omega, hlen ▸ hpayload⟩

/-- The codec. What is sent comes back, a frame that was accepted is built again octet for octet once its
    reserved bits, its pad and its timestamp are the ones an encoder writes, and a payload lies inside its
    message. -/
theorem codec_exact :
    (∀ (hdr : ByteMessageInfo) (payload : Octets), payload.length ≤ abbMaxPayload →
      ∃ m, encodeAbb hdr payload = some m ∧
        decodeAbb m = .ok ({ hdr.sent msgTypeAbb (abbHeaderLen + payload.length) with mtv := mtvUntimed }, payload) ∧
        m.length = 4 * (hdr.sent msgTypeAbb (abbHeaderLen + payload.length)).acfMsgLength.toNat) ∧
    (∀ (hdr : GbbHeader) (payload : Octets), payload.length ≤ gbbMaxPayload →
      ∃ m, encodeGbb hdr payload = some m ∧
        decodeGbb m =
          .ok ({ info := hdr.info.sent msgTypeGbb (gbbHeaderLen + payload.length),
                 messageTimestamp := if hdr.info.mtv = mtvUntimed then 0 else hdr.messageTimestamp }, payload) ∧
        m.length = 4 * (hdr.info.sent msgTypeGbb (gbbHeaderLen + payload.length)).acfMsgLength.toNat) ∧
    (∀ (b : Octets) (hdr : ByteMessageInfo) (payload : Octets), decodeAbb b = .ok (hdr, payload) →
      b.length = 4 * hdr.acfMsgLength.toNat → PadZero b hdr.pad → ReservedZero b →
      (unpackHeader b).mtv = mtvUntimed → encodeAbb hdr payload = some b) ∧
    (∀ (b : Octets) (hdr : GbbHeader) (payload : Octets), decodeGbb b = .ok (hdr, payload) →
      b.length = 4 * hdr.info.acfMsgLength.toNat → PadZero b hdr.info.pad → ReservedZero b →
      (hdr.info.mtv = mtvUntimed → hdr.messageTimestamp = 0) → encodeGbb hdr payload = some b) ∧
    (∀ (b : Octets) (hdr : ByteMessageInfo) (payload : Octets), decodeAbb b = .ok (hdr, payload) →
      abbHeaderLen + payload.length ≤ 4 * hdr.acfMsgLength.toNat ∧ 4 * hdr.acfMsgLength.toNat ≤ b.length ∧
        payload = (b.drop abbHeaderLen).take payload.length) ∧
    (∀ (b : Octets) (hdr : GbbHeader) (payload : Octets), decodeGbb b = .ok (hdr, payload) →
      gbbHeaderLen + payload.length ≤ 4 * hdr.info.acfMsgLength.toNat ∧ 4 * hdr.info.acfMsgLength.toNat ≤ b.length ∧
        payload = (b.drop gbbHeaderLen).take payload.length) := by
  refine ⟨fun hdr payload hlen => decodeAbb_encodeAbb hdr hlen, fun hdr payload hlen => decodeGbb_encodeGbb hdr hlen,
    ?_, ?_, fun b hdr payload h => decodeAbb_inside h, fun b hdr payload h => decodeGbb_inside h⟩
  · intro b hdr payload h hlen hpad hres hmtv
    exact encodeAbb_decodeAbb h hlen hpad hres hmtv
  · intro b hdr payload h hlen hpad hres hts
    exact encodeGbb_decodeGbb h hlen hpad hres hts

/-- The header of `plainFrame`. -/
def plainInfo : ByteMessageInfo :=
  { acfMsgType := msgTypeAbb, acfMsgLength := 3, pad := 2, byteBusId := 7, transactionNum := 9, op := opWrite }

/-- An ACF_ABB message of two payload octets. -/
def plainFrame : Octets := [0x1C, 3, 0x80, 7, 0, 9, 0x80, 0, 0xAA, 0xBB, 0, 0]

/-- The header of `stampedFrame`. -/
def stampedHeader : GbbHeader where
  info := { acfMsgType := msgTypeGbb, acfMsgLength := 5, pad := 3, mtv := 1, byteBusId := 7, transactionNum := 9,
            op := opRead }
  messageTimestamp := 0x0102030405060708

/-- An ACF_GBB message of one payload octet, with a presentation time. -/
def stampedFrame : Octets := [0x1A, 5, 0xE0, 7, 0, 9, 0, 0, 1, 2, 3, 4, 5, 6, 7, 8, 0xAA, 0, 0, 0]

theorem codec_exact_frames :
    (∃ m, encodeAbb plainInfo [0xAA, 0xBB] = some m ∧ decodeAbb m = .ok (plainInfo, [0xAA, 0xBB]) ∧ m.length = 4 * 3) ∧
      (∃ m, encodeGbb stampedHeader [0xAA] = some m ∧ decodeGbb m = .ok (stampedHeader, [0xAA]) ∧ m.length = 4 * 5) ∧
      encodeAbb plainInfo [0xAA, 0xBB] = some plainFrame ∧ encodeGbb stampedHeader [0xAA] = some stampedFrame ∧
      abbHeaderLen + 2 ≤ 4 * 3 ∧ gbbHeaderLen + 1 ≤ 4 * 5 := by
  obtain ⟨habb, hgbb, habbBack, hgbbBack, habbInside, hgbbInside⟩ := codec_exact
  have hplain : decodeAbb plainFrame = .ok (plainInfo, [0xAA, 0xBB]) := by decide +kernel
  have htimed : decodeGbb stampedFrame = .ok (stampedHeader, [0xAA]) := by decide +kernel
  refine ⟨habb plainInfo [0xAA, 0xBB] (by decide), hgbb stampedHeader [0xAA] (by decide), ?_, ?_,
    (habbInside plainFrame plainInfo [0xAA, 0xBB] hplain).1, (hgbbInside stampedFrame stampedHeader [0xAA] htimed).1⟩
  · exact habbBack plainFrame plainInfo [0xAA, 0xBB] hplain rfl rfl ⟨rfl, rfl⟩ rfl
  · exact hgbbBack stampedFrame stampedHeader [0xAA] htimed rfl rfl ⟨rfl, rfl⟩ (fun h => absurd h (by decide))

/-- `plainFrame` with a reserved bit of octet 4 set. -/
def reservedFrame : Octets := [0x1C, 3, 0x80, 7, 4, 9, 0x80, 0, 0xAA, 0xBB, 0, 0]

/-- The decoder drops the reserved bits: the frame is accepted, whole, with a zero pad and a canonical header,
    and comes back as another. -/
theorem reserved_not_reproduced :
    decodeAbb reservedFrame = .ok (plainInfo, [0xAA, 0xBB]) ∧ reservedFrame.length = 4 * plainInfo.acfMsgLength.toNat ∧
      PadZero reservedFrame plainInfo.pad ∧ plainInfo.pad.toNat = padLen (abbHeaderLen + 2) ∧
      (unpackHeader reservedFrame).mtv = mtvUntimed ∧ encodeAbb plainInfo [0xAA, 0xBB] ≠ some reservedFrame := by
  refine ⟨by decide +kernel, rfl, rfl, rfl, rfl, by decide +kernel⟩

end Acf
end Rcp
