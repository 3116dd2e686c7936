import Rcp.Can
import Rcp.Theorems.EpCodecs

/-! CAN frames. A decoder gives back what was sent, and what it accepts is rebuilt octet for octet; but it does not check
    the length of the data against the format, as an encoder does. -/

namespace Rcp
open Acf

/-! ### The combined word -/

theorem getLsbD_idMask (j : Nat) : (0x1FFFFFFF#32).getLsbD j = decide (j < 29) := by
  have hbits : (0x1FFFFFFF#32).getLsbD j = (decide (j < 32) && Nat.testBit (2 ^ 29 - 1) j) := BitVec.getLsbD_ofNat ..
  rw [hbits, Nat.testBit_two_pow_sub_one]
  grind

theorem getLsbD_formatMask (j : Nat) : (7#32).getLsbD j = decide (j < 3) := by
  have hbits : (7#32).getLsbD j = (decide (j < 32) && Nat.testBit (2 ^ 3 - 1) j) := BitVec.getLsbD_ofNat ..
  rw [hbits, Nat.testBit_two_pow_sub_one]
  grind

theorem word_of_fields (x : UInt32) : ((x >>> 29) &&& 0x7) <<< 29 ||| (x &&& 0x1FFFFFFF &&& 0x1FFFFFFF) = x := by
  apply UInt32.toBitVec_inj.mp
  apply BitVec.eq_of_getLsbD_eq
  intro i hi
  simp only [UInt32.toBitVec_or, UInt32.toBitVec_and, UInt32.toBitVec_shiftLeft, UInt32.toBitVec_shiftRight,
    UInt32.toBitVec_ofNat, BitVec.shiftLeft_eq', BitVec.ushiftRight_eq', BitVec.getLsbD_or, BitVec.getLsbD_and,
    BitVec.getLsbD_shiftLeft, BitVec.getLsbD_ushiftRight, getLsbD_idMask, getLsbD_formatMask]
  grind

theorem fields_of_word (format id : UInt32) :
    ((format <<< 29 ||| (id &&& 0x1FFFFFFF)) >>> 29) &&& 0x7 = format &&& 0x7 ∧
      (format <<< 29 ||| (id &&& 0x1FFFFFFF)) &&& 0x1FFFFFFF = id &&& 0x1FFFFFFF := by
  refine ⟨?_, ?_⟩
  all_goals
    apply UInt32.toBitVec_inj.mp
    apply BitVec.eq_of_getLsbD_eq
    intro i hi
    simp only [UInt32.toBitVec_or, UInt32.toBitVec_and, UInt32.toBitVec_shiftLeft, UInt32.toBitVec_shiftRight,
      UInt32.toBitVec_ofNat, BitVec.shiftLeft_eq', BitVec.ushiftRight_eq', BitVec.getLsbD_or, BitVec.getLsbD_and,
      BitVec.getLsbD_shiftLeft, BitVec.getLsbD_ushiftRight, getLsbD_idMask, getLsbD_formatMask]
    grind

theorem and_idMask {id : UInt32} (h : id ≤ 0x1FFFFFFF) : id &&& 0x1FFFFFFF = id := by
  apply UInt32.toNat_inj.mp
  rw [UInt32.toNat_and]
  exact Nat.and_two_pow_sub_one_of_lt_two_pow (n := 29) (Nat.lt_succ_of_le (UInt32.le_iff_toNat_le.mp h))

/-! ### Formats -/

/-- The values of the enumeration. -/
theorem canFrameFormat_cases {format : UInt32} (h : format ≤ canFrameXlNewPl) :
    format = canFrameCbff ∨ format = canFrameCeff ∨ format = canFrameFbff ∨ format = canFrameFeff ∨
      format = canFrameXlClassicalPl ∨ format = canFrameXlNewPl := by
  have hle : format.toNat ≤ 5 := UInt32.le_iff_toNat_le.mp h
  simp only [← UInt32.toNat_inj, canFrameCbff, canFrameCeff, canFrameFbff, canFrameFeff, canFrameXlClassicalPl,
    canFrameXlNewPl, UInt32.reduceToNat]
  omega

theorem canArbitrationIdValid_le {format id : UInt32} (h : canArbitrationIdValid format id = true) : id ≤ 0x1FFFFFFF := by
  rw [canArbitrationIdValid] at h
  split at h
  · cases h
  split at h
  · exact of_decide_eq_true h
  · exact UInt32.le_trans (of_decide_eq_true h) (by decide)

/-- A format a decoder has read. -/
theorem canReadFrameFormat_le {p : Octets} (h : canFrameFormatValid (canReadFrameFormat p).toUInt8 = true) :
    canReadFrameFormat p ≤ canFrameXlNewPl := by
  have hsmall : (canReadFrameFormat p).toNat ≤ 7 := by
    rw [canReadFrameFormat, UInt32.toNat_and]
    exact Nat.and_le_right
  have hvalid : (canReadFrameFormat p).toUInt8.toNat ≤ 5 := UInt8.le_iff_toNat_le.mp (of_decide_eq_true h)
  rw [UInt32.toNat_toUInt8] at hvalid
  exact UInt32.le_iff_toNat_le.mpr (show _ ≤ 5 by omega)

theorem four_le_prefixLen (format : UInt32) : 4 ≤ canPrefixLenFor format := by
  rw [canPrefixLenFor]
  split <;> decide

theorem canEncodePreconditionsOk_iff {f : CanFrame} :
    canEncodePreconditionsOk f = true ↔
      canFrameFormatValid f.frameFormat.toUInt8 = true ∧ canArbitrationIdValid f.frameFormat f.arbitrationId = true ∧
        f.data.length ≤ canFrameFormatMaxDataLen f.frameFormat ∧
        f.xlHeader.isSome = canFrameFormatIsXl f.frameFormat := by
  rw [canEncodePreconditionsOk]
  cases canFrameFormatValid f.frameFormat.toUInt8 with
  | false => simp only [Bool.not_false, if_true, Bool.false_eq_true, false_and]
  | true =>
    cases canArbitrationIdValid f.frameFormat f.arbitrationId with
    | false => simp only [Bool.not_true, Bool.not_false, Bool.false_eq_true, if_false, if_true, false_and, and_false]
    | true =>
      by_cases hlen : f.data.length ≤ canFrameFormatMaxDataLen f.frameFormat
      · rw [if_neg (Nat.not_lt.mpr hlen)]
        cases canFrameFormatIsXl f.frameFormat <;> cases f.xlHeader <;> simp [hlen]
      · rw [if_pos (Nat.lt_of_not_le hlen)]
        simp [hlen]

/-! ### What a decoder accepts -/

theorem canDecodeReassembled_eq_ok {p : Octets} {f : CanFrame} :
    canDecodeReassembledFrameResponse p = .ok f ↔
      canFrameFormatValid (canReadFrameFormat p).toUInt8 = true ∧ canPrefixLenFor (canReadFrameFormat p) ≤ p.length ∧
        canArbitrationIdValid (canReadFrameFormat p) (getU32 p 0 &&& 0x1FFFFFFF) = true ∧
        f = { frameFormat := canReadFrameFormat p, arbitrationId := getU32 p 0 &&& 0x1FFFFFFF
              xlHeader := (canReadPrefix p (canReadFrameFormat p)).2
              data := p.drop (canPrefixLenFor (canReadFrameFormat p)) } := by
  have hfour := four_le_prefixLen (canReadFrameFormat p)
  simp only [canDecodeReassembledFrameResponse, Bool.not_eq_true']
  constructor
  · intro h
    split at h
    · cases h
    split at h
    · cases h
    split at h
    · cases h
    split at h
    · cases h
    rename_i _ hvalid hlong hid
    exact ⟨Bool.of_not_eq_false hvalid, Nat.not_lt.mp hlong, Bool.of_not_eq_false hid, (Except.ok.inj h).symm⟩
  · rintro ⟨hvalid, hlong, hid, rfl⟩
    have hid' : canArbitrationIdValid (canReadFrameFormat p) (canReadPrefix p (canReadFrameFormat p)).1 = true := hid
    rw [if_neg (by omega), if_neg (by simp [hvalid]), if_neg (by omega), if_neg (by simp [hid'])]
    rfl

/-- The prefix that was read is written again. -/
theorem canWritePrefix_read {p : Octets} (hlong : canPrefixLenFor (canReadFrameFormat p) ≤ p.length) (data : Octets) :
    canWritePrefix
        { frameFormat := canReadFrameFormat p, arbitrationId := getU32 p 0 &&& 0x1FFFFFFF
          xlHeader := (canReadPrefix p (canReadFrameFormat p)).2, data } =
      p.take (canPrefixLenFor (canReadFrameFormat p)) := by
  have hword : canReadFrameFormat p <<< 29 ||| (getU32 p 0 &&& 0x1FFFFFFF &&& 0x1FFFFFFF) = getU32 p 0 :=
    word_of_fields _
  simp only [canWritePrefix, canReadPrefix, hword, putU32_getU32, Nat.zero_add]
  simp only [canPrefixLenFor] at hlong ⊢
  split
  · rename_i hxl
    rw [if_pos hxl] at hlong
    have htake := take_drop_eq_at (b := p) (n := 0) (k := 10) (by omega)
    rw [List.drop_zero] at htake
    rw [htake]
    simp [List.range_succ, putU32_getU32]
  · rename_i hxl
    rw [if_neg hxl] at hlong
    have htake := take_drop_eq_at (b := p) (n := 0) (k := 4) (by omega)
    rw [List.drop_zero] at htake
    rw [htake]
    simp [List.range_succ]

/-- The preconditions of the encoders hold of a frame, and it is built into this payload. -/
def CanFrame.Rebuilds (f : CanFrame) (payload : Octets) : Prop :=
  canEncodePreconditionsOk f = true ∧ canBuildPayload f = payload

/-- The payload is not longer than the prefix and the data that its format admits. -/
def CanPayloadFits (payload : Octets) : Prop :=
  payload.length ≤ canPrefixLenFor (canReadFrameFormat payload) + canFrameFormatMaxDataLen (canReadFrameFormat payload)

instance (payload : Octets) : Decidable (CanPayloadFits payload) := inferInstanceAs (Decidable (_ ≤ _))

theorem rebuilds_iff {p : Octets} {f : CanFrame} (h : canDecodeReassembledFrameResponse p = .ok f) :
    f.Rebuilds p ↔ CanPayloadFits p := by
  obtain ⟨hvalid, hlong, hid, rfl⟩ := canDecodeReassembled_eq_ok.mp h
  have hbuild : canBuildPayload
      { frameFormat := canReadFrameFormat p, arbitrationId := getU32 p 0 &&& 0x1FFFFFFF
        xlHeader := (canReadPrefix p (canReadFrameFormat p)).2
        data := p.drop (canPrefixLenFor (canReadFrameFormat p)) } = p := by
    rw [canBuildPayload, canWritePrefix_read hlong, List.take_append_drop]
  -- an XL header was read where the format has one, so that of the preconditions only the length is left
  have hhdr : (canReadPrefix p (canReadFrameFormat p)).2.isSome = canFrameFormatIsXl (canReadFrameFormat p) := by
    rw [canReadPrefix]
    cases canFrameFormatIsXl (canReadFrameFormat p) <;> rfl
  rw [CanFrame.Rebuilds, and_iff_left hbuild, canEncodePreconditionsOk_iff, CanPayloadFits, and_iff_right hvalid,
    and_iff_right hid, and_iff_left hhdr, List.length_drop]
  exact Nat.sub_le_iff_le_add'

/-! ### What is sent -/

theorem canWritePrefix_length (f : CanFrame) : (canWritePrefix f).length = canPrefixLenFor f.frameFormat := by
  rw [canWritePrefix, canPrefixLenFor]
  split <;> rfl

/-- The first word of a payload. -/
theorem getU32_canBuildPayload (f : CanFrame) :
    getU32 (canBuildPayload f) 0 = f.frameFormat <<< 29 ||| (f.arbitrationId &&& 0x1FFFFFFF) := by
  rw [canBuildPayload, canWritePrefix, List.append_assoc, getU32_append_left (Nat.le_refl _), getU32_putU32]

theorem canReadPrefix_canBuildPayload {f : CanFrame} (hhdr : f.xlHeader.isSome = canFrameFormatIsXl f.frameFormat) :
    (canReadPrefix (canBuildPayload f) f.frameFormat).2 = f.xlHeader := by
  rw [canReadPrefix]
  cases hxl : canFrameFormatIsXl f.frameFormat with
  | false =>
    rw [hxl, Option.isSome_eq_false_iff, Option.isNone_iff_eq_none] at hhdr
    rw [hhdr]
    rfl
  | true =>
    rw [hxl, Option.isSome_iff_exists] at hhdr
    obtain ⟨hdr, hhdr⟩ := hhdr
    have hpayload : canBuildPayload f =
        putU32 (f.frameFormat <<< 29 ||| (f.arbitrationId &&& 0x1FFFFFFF)) ++ [hdr.sdt, hdr.vcid] ++
          (putU32 hdr.af ++ f.data) := by
      simp [canBuildPayload, canWritePrefix, hxl, hhdr]
    have haf : getU32 (canBuildPayload f) 6 = hdr.af := by
      rw [hpayload, getU32_append (by rfl), getU32_append_left (Nat.le_refl _), getU32_putU32]
    have hsdt : Octets.at (canBuildPayload f) 4 = hdr.sdt := by
      rw [hpayload]
      rfl
    have hvcid : Octets.at (canBuildPayload f) 5 = hdr.vcid := by
      rw [hpayload]
      rfl
    rw [hhdr, if_pos rfl, haf, hsdt, hvcid]

/-- The payload of a frame that an encoder takes is decoded to the frame. -/
theorem canDecode_canBuildPayload {f : CanFrame} (h : canEncodePreconditionsOk f = true)
    (hformat : f.frameFormat ≤ canFrameXlNewPl) : canDecodeReassembledFrameResponse (canBuildPayload f) = .ok f := by
  obtain ⟨hvalid, hid, hlen, hhdr⟩ := canEncodePreconditionsOk_iff.mp h
  have hword := fields_of_word f.frameFormat f.arbitrationId
  have hread : canReadFrameFormat (canBuildPayload f) = f.frameFormat := by
    rw [canReadFrameFormat, getU32_canBuildPayload, hword.1]
    rcases canFrameFormat_cases hformat with h | h | h | h | h | h <;> rw [h] <;> rfl
  have hreadId : getU32 (canBuildPayload f) 0 &&& 0x1FFFFFFF = f.arbitrationId := by
    rw [getU32_canBuildPayload, hword.2, and_idMask (canArbitrationIdValid_le hid)]
  rw [canDecodeReassembled_eq_ok, hread, hreadId, canReadPrefix_canBuildPayload hhdr]
  refine ⟨hvalid, ?_, hid, ?_⟩
  · rw [canBuildPayload, List.length_append, canWritePrefix_length]
    exact Nat.le_add_right _ _
  · rw [canBuildPayload, List.drop_left' (canWritePrefix_length f)]

/-- A frame comes back from its payload when its format is one of the six. -/
theorem canDecode_canBuildPayload_iff {f : CanFrame} (h : canEncodePreconditionsOk f = true) :
    canDecodeReassembledFrameResponse (canBuildPayload f) = .ok f ↔ f.frameFormat ≤ canFrameXlNewPl := by
  refine ⟨fun hdec => ?_, canDecode_canBuildPayload h⟩
  obtain ⟨hvalid, -, -, hf⟩ := canDecodeReassembled_eq_ok.mp hdec
  have hformat := congrArg CanFrame.frameFormat hf
  rw [hformat]
  exact canReadFrameFormat_le hvalid

/-! ### The messages -/

theorem canDecodeFrameRequest_eq_ok {b : Octets} {byteBusId : ByteBusId} {f : CanFrame} {transactionNum : UInt8} :
    canDecodeFrameRequest b byteBusId = .ok (f, transactionNum) ↔
      ∃ hdr payload, epDecodeRequest b byteBusId = .ok (hdr, payload) ∧ hdr.op = opWrite ∧
        evtRow2IsPlain hdr.evt = true ∧ canDecodeReassembledFrameResponse payload = .ok f ∧
        hdr.transactionNum = transactionNum := by
  rw [canDecodeFrameRequest]
  rcases epDecodeRequest b byteBusId with e | ⟨hdr, payload⟩
  · simp [bind, Except.bind]
  by_cases hop : hdr.op = opWrite
  · cases hevt : evtRow2IsPlain hdr.evt <;> rcases hdec : canDecodeReassembledFrameResponse payload with e | f' <;>
      simp [bind, Except.bind, hop, hevt, hdec]
  · simp [bind, Except.bind, hop]

theorem canDecodeFrameResponse_eq_ok {b : Octets} {byteBusId : ByteBusId} {reply : EpReply CanFrame} :
    canDecodeFrameResponse b byteBusId = .ok reply ↔
      ∃ r, epDecodeResponse b byteBusId = .ok r ∧ evtRow2IsPlain r.info.evt = true ∧
        canDecodeReassembledFrameResponse r.payload = .ok reply.value ∧ reply = r.reply reply.value := by
  rw [canDecodeFrameResponse]
  rcases epDecodeResponse b byteBusId with e | r
  · simp [bind, Except.bind]
  cases hevt : evtRow2IsPlain r.info.evt <;> rcases hdec : canDecodeReassembledFrameResponse r.payload with e | f <;>
    simp [bind, Except.bind, hevt, hdec]
  constructor
  · rintro rfl
    exact ⟨rfl, rfl⟩
  · rintro ⟨hvalue, hreply⟩
    rw [hvalue, ← hreply]

/-- A request that was built is decoded as its payload is. -/
theorem canDecodeFrameRequest_encoded {byteBusId : ByteBusId} {f g : CanFrame} {transactionNum : UInt8} {m : Octets}
    (h : canEncodeFrameRequest byteBusId f transactionNum = some m) :
    canEncodePreconditionsOk f = true ∧
      (canDecodeFrameRequest m (byteBusId &&& 0x7FF) = .ok (g, transactionNum) ↔
        canDecodeReassembledFrameResponse (canBuildPayload f) = .ok g) := by
  rw [canEncodeFrameRequest] at h
  split at h
  · cases h
  rename_i hpre
  refine ⟨by simpa using hpre, ?_⟩
  rw [canDecodeFrameRequest_eq_ok, epDecodeRequest_encoded h]
  constructor
  · rintro ⟨hdr, payload, hdec, -, -, hf, -⟩
    obtain ⟨rfl, rfl⟩ := Prod.mk.inj (Except.ok.inj hdec)
    exact hf
  · exact fun hf => ⟨_, _, rfl, rfl, evtRow2IsPlain_zero, hf, rfl⟩

/-- A CAN frame is received as it was sent exactly when its format is a value of the enumeration. -/
theorem canDecodeFrameRequest_encoded_iff {byteBusId : ByteBusId} {f : CanFrame} {transactionNum : UInt8} {m : Octets}
    (h : canEncodeFrameRequest byteBusId f transactionNum = some m) :
    canDecodeFrameRequest m (byteBusId &&& 0x7FF) = .ok (f, transactionNum) ↔ f.frameFormat ≤ canFrameXlNewPl := by
  obtain ⟨hpre, hdec⟩ := canDecodeFrameRequest_encoded (g := f) h
  rw [hdec, canDecode_canBuildPayload_iff hpre]

theorem canDecodeFrameResponse_encoded {byteBusId : ByteBusId} {f g : CanFrame} {transactionNum : UInt8} {timed : Bool}
    {timestamp : UInt64} {m : Octets} (h : canEncodeFrameResponse byteBusId f transactionNum timed timestamp = some m) :
    canEncodePreconditionsOk f = true ∧
      (canDecodeFrameResponse m (byteBusId &&& 0x7FF) =
          .ok { value := g, timed, timestamp := if timed then timestamp else 0, transactionNum } ↔
        canDecodeReassembledFrameResponse (canBuildPayload f) = .ok g) := by
  rw [canEncodeFrameResponse] at h
  split at h
  · cases h
  rename_i hpre
  refine ⟨by simpa using hpre, ?_⟩
  have hdec := epDecodeResponse_encoded h
  rw [canDecodeFrameResponse_eq_ok]
  constructor
  · rintro ⟨r, hr, -, hg, -⟩
    obtain rfl := Except.ok.inj (hdec.symm.trans hr)
    exact hg
  · intro hg
    refine ⟨_, hdec, ?_, hg, ?_⟩
    · rw [sentResponse_evt]
      exact evtRow2IsPlain_zero
    · rw [EpResponse.reply, sentResponse_transactionNum]
      rfl

/-! ### The codec -/

/-- What the three decoders accept is what the encoders build, exactly when the payload is no longer than its format
    admits. A frame that an encoder takes and sends comes back, exactly when its format is a value of the
    enumeration. -/
theorem can_codec_exact_iff (b payload : Octets) (byteBusId : ByteBusId) (f : CanFrame) (transactionNum : UInt8)
    (timed : Bool) (timestamp : UInt64) :
    (canDecodeFrameRequest b byteBusId = .ok (f, transactionNum) →
      ∃ hdr p, decodeAbb b = .ok (hdr, p) ∧ (f.Rebuilds p ↔ CanPayloadFits p)) ∧
    (∀ reply, canDecodeFrameResponse b byteBusId = .ok reply →
      ∃ r, epDecodeMessage b = .ok r ∧ (reply.value.Rebuilds r.payload ↔ CanPayloadFits r.payload)) ∧
    (canDecodeReassembledFrameResponse payload = .ok f → (f.Rebuilds payload ↔ CanPayloadFits payload)) ∧
    (canEncodeFrameRequest byteBusId f transactionNum = some b →
      (canDecodeFrameRequest b (byteBusId &&& 0x7FF) = .ok (f, transactionNum) ↔ f.frameFormat ≤ canFrameXlNewPl)) ∧
    (canEncodeFrameResponse byteBusId f transactionNum timed timestamp = some b →
      (canDecodeFrameResponse b (byteBusId &&& 0x7FF) =
          .ok { value := f, timed, timestamp := if timed then timestamp else 0, transactionNum } ↔
        f.frameFormat ≤ canFrameXlNewPl)) ∧
    (canEncodePreconditionsOk f = true →
      (canDecodeReassembledFrameResponse (canBuildPayload f) = .ok f ↔ f.frameFormat ≤ canFrameXlNewPl)) := by
  refine ⟨?_, ?_, rebuilds_iff, canDecodeFrameRequest_encoded_iff, ?_, canDecode_canBuildPayload_iff⟩
  · intro h
    obtain ⟨hdr, p, hdec, -, -, hf, -⟩ := canDecodeFrameRequest_eq_ok.mp h
    exact ⟨hdr, p, (epDecodeRequest_eq_ok.mp hdec).1, rebuilds_iff hf⟩
  · intro reply h
    obtain ⟨r, hdec, -, hf, -⟩ := canDecodeFrameResponse_eq_ok.mp h
    exact ⟨r, (epDecodeResponse_eq_ok.mp hdec).1, rebuilds_iff hf⟩
  · intro h
    obtain ⟨hpre, hdec⟩ := canDecodeFrameResponse_encoded (g := f) h
    rw [hdec, canDecode_canBuildPayload_iff hpre]

def xlFrame : CanFrame where
  frameFormat := canFrameXlNewPl
  arbitrationId := 0x7FF
  xlHeader := some { sdt := 1, vcid := 2, af := 0xA0B0C0D0 }
  data := [1, 2, 3]

theorem can_codec_exact_frame :
    ∃ m, canEncodeFrameResponse 5 xlFrame 7 true 99 = some m ∧
      canDecodeFrameResponse m 5 =
        .ok { value := xlFrame, timed := true, timestamp := 99, transactionNum := 7 } ∧
      CanPayloadFits (canBuildPayload xlFrame) ∧ xlFrame.Rebuilds (canBuildPayload xlFrame) :=
  have hiff (b : Octets) := can_codec_exact_iff b (canBuildPayload xlFrame) 5 xlFrame 7 true 99
  ⟨_, rfl, ((hiff _).2.2.2.2.1 rfl).mpr (by decide), by decide, ((hiff []).2.2.1 (by decide)).mpr (by decide)⟩

/-- A classical frame with nine octets of data. -/
def nineOctets : Octets := putU32 0x123 ++ [1, 2, 3, 4, 5, 6, 7, 8, 9]

def nineOctetFrame : CanFrame where
  frameFormat := canFrameCbff
  arbitrationId := 0x123
  xlHeader := none
  data := [1, 2, 3, 4, 5, 6, 7, 8, 9]

/-- All three decoders take it, although no encoder does. -/
theorem can_codec_not_exact :
    canDecodeReassembledFrameResponse nineOctets = .ok nineOctetFrame ∧
      (∃ b, encodeAbb { byteBusId := 5, op := opWrite, transactionNum := 7 } nineOctets = some b ∧
        canDecodeFrameRequest b 5 = .ok (nineOctetFrame, 7)) ∧
      (∃ b, epEncodeResponse (canResponseHeader 5 7) nineOctets false 0 = some b ∧
        canDecodeFrameResponse b 5 =
          .ok { value := nineOctetFrame, timed := false, timestamp := 0, transactionNum := 7 }) ∧
      canEncodePreconditionsOk nineOctetFrame = false :=
  ⟨by decide, ⟨_, rfl, by decide⟩, ⟨_, rfl, by decide⟩, by decide⟩

end Rcp
