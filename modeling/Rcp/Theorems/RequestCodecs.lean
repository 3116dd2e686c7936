import Rcp.Adc
import Rcp.Gpio
import Rcp.I2c
import Rcp.Iseled
import Rcp.Lin
import Rcp.Mdio
import Rcp.Pwm
import Rcp.Spi
import Rcp.Theorems.FrameFormats
import Rcp.Uart
import Rcp.Wakeup

/-! What the request decoders of the endpoint types find in what the request encoders have built. -/

namespace Rcp

/-! ### Guards -/

/-- A guard that is passed. -/
theorem of_guard {ε α : Type} {c : Prop} [Decidable c] {e : ε} {x : Except ε α} {a : α}
    (h : (if c then .error e else x) = .ok a) : ¬c ∧ x = .ok a := by
  split at h
  · cases h
  · rename_i hc
    exact ⟨hc, h⟩

/-- A refusal that is passed. -/
theorem of_refusal {α : Type} {c : Prop} [Decidable c] {x : Option α} {a : α}
    (h : (if c then none else x) = some a) : ¬c ∧ x = some a := by
  split at h
  · cases h
  · rename_i hc
    exact ⟨hc, h⟩

/-! ### Fields of the header -/

/-- A read size is received in twelve bits. -/
theorem readSize_le (b : Octets) : (Acf.unpackHeader b).readSizeOrSegmentNum.toNat ≤ 0xFFF :=
  Acf.wideField_le (b.at 6) (b.at 7) 0x0F

/-- A decoder of requests reads a message of its bus first. -/
theorem epDecodeRequest_bind_eq_ok {α : Type} {b : Octets} {byteBusId : ByteBusId}
    {k : Acf.ByteMessageInfo × Octets → Except EpErrc α} {a : α} (h : epDecodeRequest b byteBusId >>= k = .ok a) :
    ∃ hdr payload, Acf.decodeAbb b = .ok (hdr, payload) ∧ hdr.byteBusId = byteBusId ∧ k (hdr, payload) = .ok a := by
  rcases hdec : epDecodeRequest b byteBusId with e | ⟨hdr, payload⟩
  · rw [hdec] at h
    cases h
  · rw [hdec] at h
    obtain ⟨habb, hbus⟩ := epDecodeRequest_eq_ok.mp hdec
    exact ⟨hdr, payload, habb, hbus, h⟩

theorem epDecodeRequest_bind {α : Type} {b : Octets} {byteBusId : ByteBusId}
    {k : Acf.ByteMessageInfo × Octets → Except EpErrc α} {a : α} (h : epDecodeRequest b byteBusId >>= k = .ok a) :
    ∃ hdr payload, k (hdr, payload) = .ok a ∧ hdr.readSizeOrSegmentNum.toNat ≤ 0xFFF := by
  obtain ⟨hdr, payload, hdec, -, h⟩ := epDecodeRequest_bind_eq_ok h
  obtain ⟨-, -, -, rfl, -⟩ := Acf.decodeAbb_eq_ok hdec
  exact ⟨_, payload, h, readSize_le b⟩

theorem and_seven_lt (evt : UInt8) : (evt &&& 0x7).toNat < 8 := by
  rw [UInt8.toNat_and]
  exact Nat.lt_succ_of_le Nat.and_le_right

theorem and_mask {v : UInt8} {k : Nat} (hk : 2 ^ k - 1 < 256) (h : v.toNat < 2 ^ k) :
    v &&& UInt8.ofNat (2 ^ k - 1) = v := by
  apply UInt8.toNat_inj.mp
  rw [UInt8.toNat_and, UInt8.toNat_ofNat_of_lt' hk, Nat.and_two_pow_sub_one_eq_mod, Nat.mod_eq_of_lt h]

theorem and_sizeMask {v : UInt16} (h : v.toNat ≤ 0xFFF) : v &&& 0xFFF = v := by
  apply UInt16.toNat_inj.mp
  rw [UInt16.toNat_and]
  exact (Nat.and_two_pow_sub_one_eq_mod _ 12).trans (Nat.mod_eq_of_lt (by omega))

theorem toUInt8_toNat {u : UInt32} (h : u.toNat < 256) : u.toUInt8.toNat = u.toNat := by
  rw [UInt32.toNat_toUInt8]
  exact Nat.mod_eq_of_lt h

/-- A write event of three bits is received as it was sent. -/
theorem evt_read {evt : UInt32} (h : evt.toNat < 8) : (evt &&& 0x7).toUInt8 &&& 0xF &&& 0x7 = evt.toUInt8 := by
  have hevt : evt &&& 0x7 = evt := by
    apply UInt32.toNat_inj.mp
    rw [UInt32.toNat_and]
    exact (Nat.and_two_pow_sub_one_eq_mod _ 3).trans (Nat.mod_eq_of_lt h)
  have hnat := toUInt8_toNat (u := evt) (by omega)
  have hseven : evt.toUInt8 &&& 0x7 = evt.toUInt8 := and_mask (k := 3) (by decide) (by omega)
  have hfifteen : evt.toUInt8 &&& 0xF = evt.toUInt8 := and_mask (k := 4) (by decide) (by omega)
  rw [hevt, hfifteen, hseven]

/-- A channel of three bits is received as it was sent. -/
theorem channel_read {channel : UInt8} (h : channel.toNat < 8) : channel &&& 0x7 &&& 0xF &&& 0x7 = channel := by
  have hseven : channel &&& 0x7 = channel := and_mask (k := 3) (by decide) (by omega)
  have hfifteen : channel &&& 0xF = channel := and_mask (k := 4) (by decide) (by omega)
  rw [hseven, hfifteen, hseven]

/-- A frame without an XL header fits into a message. -/
theorem canBuildPayload_length_le {f : CanFrame} (h : canEncodePreconditionsOk f = true) (hxl : f.xlHeader = none) :
    (canBuildPayload f).length ≤ Acf.abbMaxPayload := by
  obtain ⟨-, -, hlen, hhdr⟩ := canEncodePreconditionsOk_iff.mp h
  rw [hxl, Option.isSome_none] at hhdr
  have hformat : canFrameFormatMaxDataLen f.frameFormat ≤ 64 := by
    rw [canFrameFormatMaxDataLen]
    split
    · decide
    split
    · exact Nat.le_refl _
    split
    · rename_i hformat
      have hxl := hhdr.symm
      simp only [canFrameFormatIsXl, Bool.or_eq_false_iff, beq_eq_false_iff_ne] at hxl
      exact absurd hformat (not_or.mpr hxl)
    · decide
  rw [canBuildPayload, List.length_append, canWritePrefix_length, canPrefixLenFor, ← hhdr]
  simp only [Bool.false_eq_true, if_false, Acf.abbMaxPayload, Acf.abbHeaderLen]
  omega

variable {byteBusId : ByteBusId} {transactionNum : UInt8} {m : Octets}

/-- A number of twelve bits is not cut by the cast to sixteen. -/
theorem toUInt16_toNat {u : UInt32} (h : u.toNat ≤ 0xFFFF) : u.toUInt16.toNat = u.toNat := by
  rw [UInt32.toNat_toUInt16]
  exact Nat.mod_eq_of_lt (by omega)

/-- The direction of an I2C transfer follows from its read size. -/
theorem i2cEncode_readSize {u : UInt32} (h : u ≤ i2cMaxReadSize.toUInt32) (txData : Octets) :
    i2cEncodeTransferRequest byteBusId
        { direction := if u ≠ 0 then .read else .write, txData, readSize := u.toUInt16 } transactionNum =
      Acf.encodeAbb
        { byteBusId, op := if u ≠ 0 then Acf.opRead else Acf.opWrite, evt := 0, transactionNum
          readSizeOrSegmentNum := u.toUInt16 } txData := by
  have hle : u.toNat ≤ 0xFFF := UInt32.le_iff_toNat_le.mp h
  have hsize : ¬u.toUInt16 > i2cMaxReadSize := by
    rw [gt_iff_lt, UInt16.not_lt, UInt16.le_iff_toNat_le, toUInt16_toNat (by omega)]
    exact hle
  by_cases hzero : u = 0
  · subst hzero
    rfl
  · simp only [i2cEncodeTransferRequest, hsize, if_false, hzero, ne_eq, not_false_eq_true, if_true, reduceCtorEq,
      false_and, I2cDir.toOp]

theorem iseledEncodeReadRequest_eq {u : UInt32} (h : u ≤ iseledMaxReadSize.toUInt32) (txData : Octets) :
    iseledEncodeReadRequest byteBusId txData u.toUInt16 transactionNum =
      Acf.encodeAbb { byteBusId, op := Acf.opRead, evt := 0, transactionNum, readSizeOrSegmentNum := u.toUInt16 }
        txData := by
  have hle : u.toNat ≤ 0xFFF := UInt32.le_iff_toNat_le.mp h
  rw [iseledEncodeReadRequest, if_neg]
  rw [gt_iff_lt, UInt16.not_lt, UInt16.le_iff_toNat_le, toUInt16_toNat (by omega)]
  exact hle

theorem mdioEncodeReadRequest_eq_some {addr : MdioAddr} {wordCount : Nat} {m : Octets} :
    mdioEncodeReadRequest byteBusId addr wordCount transactionNum = some m ↔
      mdioAddrValid addr = true ∧ wordCount ≠ 0 ∧ wordCount ≤ mdioMaxBurstWords ∧
        Acf.encodeAbb { byteBusId, op := Acf.opRead, evt := 0, transactionNum }
          ([mdioModeForWordCount wordCount] ++ mdioPutAddrPrefix addr ++ putU16 (UInt16.ofNat wordCount)) = some m := by
  rw [mdioEncodeReadRequest]
  constructor
  · intro h
    obtain ⟨hvalid, h⟩ := of_refusal h
    obtain ⟨hcount, h⟩ := of_refusal h
    exact ⟨by simpa using hvalid, fun hzero => hcount (Or.inl hzero),
      Nat.not_lt.mp fun hmax => hcount (Or.inr hmax), h⟩
  · rintro ⟨hvalid, hpos, hmax, h⟩
    rw [if_neg (by simp [hvalid]), if_neg (not_or.mpr ⟨hpos, Nat.not_lt.mpr hmax⟩), h]

theorem mdioEncodeWriteRequest_eq_some {addr : MdioAddr} {words : List UInt16} {m : Octets} :
    mdioEncodeWriteRequest byteBusId addr words transactionNum = some m ↔
      mdioAddrValid addr = true ∧ words.length ≠ 0 ∧ words.length ≤ mdioMaxBurstWords ∧
        Acf.encodeAbb { byteBusId, op := Acf.opWrite, evt := 0, transactionNum }
          ([mdioModeForWordCount words.length] ++ mdioPutAddrPrefix addr ++ mdioPackWords words) = some m := by
  rw [mdioEncodeWriteRequest]
  constructor
  · intro h
    obtain ⟨hvalid, h⟩ := of_refusal h
    obtain ⟨hcount, h⟩ := of_refusal h
    exact ⟨by simpa using hvalid, fun hzero => hcount (Or.inl hzero),
      Nat.not_lt.mp fun hmax => hcount (Or.inr hmax), h⟩
  · rintro ⟨hvalid, hpos, hmax, h⟩
    rw [if_neg (by simp [hvalid]), if_neg (not_or.mpr ⟨hpos, Nat.not_lt.mpr hmax⟩), h]

theorem mdioPackWords_length (words : List UInt16) : (mdioPackWords words).length = 2 * words.length := by
  induction words with
  | nil => rfl
  | cons w words ih =>
    rw [mdioPackWords] at ih
    rw [mdioPackWords, List.flatMap_cons, List.length_append, putU16_length, List.length_cons]
    omega

/-- The words of a payload, as `rcp_message_to_request` takes them apart. -/
def mdioPayloadWords (payload : Octets) : List UInt16 :=
  (List.range (payload.length / 2)).map (mdioUnpackWordAt payload)

/-- The words of an even number of octets are packed into these octets again. -/
theorem mdioPackWords_payloadWords : ∀ {payload : Octets}, payload.length % 2 = 0 →
    mdioPackWords (mdioPayloadWords payload) = payload
  | [], _ => rfl
  | [_], h => by simp at h
  | a :: b :: payload, h => by
    have hlen : (a :: b :: payload).length / 2 = payload.length / 2 + 1 := by
      simp only [List.length_cons]
      omega
    have hrest : ∀ i, mdioUnpackWordAt (a :: b :: payload) (i + 1) = mdioUnpackWordAt payload i := fun _ => rfl
    have heven : payload.length % 2 = 0 := by
      simp only [List.length_cons] at h
      omega
    have ih := mdioPackWords_payloadWords heven
    rw [mdioPayloadWords, mdioPackWords] at ih
    rw [mdioPayloadWords, hlen, List.range_succ_eq_map, List.map_cons, List.map_map, mdioPackWords, List.flatMap_cons]
    simp only [Function.comp_def, Nat.succ_eq_add_one, hrest]
    rw [ih, mdioUnpackWordAt, putU16_be16]
    rfl

/-- An address that is written is read again. -/
theorem mdioGetAddrPrefix_put (mode : UInt8) {addr : MdioAddr} (hclause : addr.clause.toNat ≤ 1) (rest : Octets) :
    mdioGetAddrPrefix ([mode] ++ mdioPutAddrPrefix addr ++ rest) 1 = addr := by
  have hc : addr.clause.toUInt8.toUInt32 = addr.clause := by
    apply UInt32.toNat_inj.mp
    rw [UInt8.toNat_toUInt32, toUInt8_toNat (by omega)]
  have hr : be16 (putU16 addr.regad) 0 = addr.regad := be16_putU16 _
  change MdioAddr.mk addr.clause.toUInt8.toUInt32 addr.prtad addr.devad (be16 (putU16 addr.regad) 0) = addr
  rw [hc, hr]

/-- The mode of a request is not one of the two that are not supported. -/
theorem mdioModeForWordCount_supported (wordCount : Nat) :
    mdioModeIsUnsupportedMms (mdioModeForWordCount wordCount &&& 0x03) = false := by
  rw [mdioModeForWordCount]
  split <;> rfl

/-- The clause of an address that is valid is one of the two. -/
theorem clause_le {addr : MdioAddr} (h : mdioAddrValid addr = true) : addr.clause.toNat ≤ 1 := by
  rw [mdioAddrValid] at h
  split at h
  · cases h
  split at h
  · rename_i hclause
    rw [hclause]
    decide
  split at h
  · rename_i hclause
    rw [hclause]
    decide
  · cases h

/-! ### What is received -/

theorem evtPlain : Acf.evtRow2IsPlain 0 = true := by decide

theorem opRead_ne_opWrite : Acf.opRead ≠ Acf.opWrite := by decide

theorem gpioDecodeReadRequest_encoded (h : gpioEncodeReadRequest byteBusId transactionNum = some m) :
    gpioDecodeReadRequest m (byteBusId &&& 0x7FF) = .ok transactionNum := by
  have hdec : epDecodeRequest m (byteBusId &&& 0x7FF) = .ok (_, _) := epDecodeRequest_encoded h
  simp [gpioDecodeReadRequest, hdec, bind, Except.bind]

theorem gpioDecodeWriteRequest_encoded {bitmask evt : UInt32} (hevt : evt.toNat < 8) (hne : evt.toNat ≠ 4)
    (h : gpioEncodeWriteRequest byteBusId bitmask evt transactionNum = some m) :
    gpioDecodeWriteRequest m (byteBusId &&& 0x7FF) = .ok (bitmask, evt.toUInt8, transactionNum) := by
  have hdec : epDecodeRequest m (byteBusId &&& 0x7FF) = .ok (_, _) := epDecodeRequest_encoded h
  have hnat := toUInt8_toNat (u := evt) (by omega)
  have hreserved : evt.toUInt8 ≠ gpioWriteReserved4 := fun h4 => hne (by rw [← hnat, h4]; rfl)
  have hop : Acf.opWrite ≠ Acf.opRead := opRead_ne_opWrite.symm
  simp only [gpioDecodeWriteRequest, hdec, bind, Except.bind, sentAbb_op, sentAbb_evt, sentAbb_transactionNum,
    evt_read hevt, getU32_putU32, putU32_length, gpioPayloadLen, hreserved, hop, ne_eq, not_true_eq_false, if_false]

/-- A bitmask is made of the four octets of its payload. -/
theorem putU32_getU32_self {p : Octets} (h : p.length = gpioPayloadLen) : putU32 (getU32 p 0) = p := by
  match p, h with
  | [a, b, c, d], _ =>
    rw [putU32_getU32]
    rfl

theorem pwmOutDecodeReadRequest_encoded (h : pwmOutEncodeReadRequest byteBusId transactionNum = some m) :
    pwmOutDecodeReadRequest m (byteBusId &&& 0x7FF) = .ok transactionNum := by
  have hdec : epDecodeRequest m (byteBusId &&& 0x7FF) = .ok (_, _) := epDecodeRequest_encoded h
  simp [pwmOutDecodeReadRequest, hdec, bind, Except.bind]

theorem getPwmValue_put (v : PwmValue) : getPwmValue (putPwmValue v) = v := by
  have hp : be16 (putU16 v.period) 0 = v.period := be16_putU16 _
  have ha : be16 (putU16 v.activeDuration) 0 = v.activeDuration := be16_putU16 _
  change PwmValue.mk (be16 (putU16 v.period) 0) (be16 (putU16 v.activeDuration) 0) = v
  rw [hp, ha]

/-- A value is made of the four octets of its payload. -/
theorem putPwmValue_get {p : Octets} (h : p.length = pwmPayloadLen) : putPwmValue (getPwmValue p) = p := by
  match p, h with
  | [a, b, c, d], _ =>
    change putU16 (be16 [a, b, c, d] 0) ++ putU16 (be16 [a, b, c, d] 2) = _
    rw [putU16_be16, putU16_be16]
    rfl

theorem pwmOutDecodeWriteRequest_encoded {value : PwmValue} {evt : UInt32} (hevt : evt.toNat < 8) (hne : evt.toNat ≠ 4)
    (h : pwmOutEncodeWriteRequest byteBusId value evt transactionNum = some m) :
    pwmOutDecodeWriteRequest m (byteBusId &&& 0x7FF) = .ok (value, evt.toUInt8, transactionNum) := by
  have hdec : epDecodeRequest m (byteBusId &&& 0x7FF) = .ok (_, _) := epDecodeRequest_encoded h
  have hnat := toUInt8_toNat (u := evt) (by omega)
  have hreserved : evt.toUInt8 ≠ pwmOutWriteReserved4 := fun h4 => hne (by rw [← hnat, h4]; rfl)
  have hop : Acf.opWrite ≠ Acf.opRead := opRead_ne_opWrite.symm
  have hlen : (putPwmValue value).length = pwmPayloadLen := rfl
  simp only [pwmOutDecodeWriteRequest, hdec, bind, Except.bind, sentAbb_op, sentAbb_evt, sentAbb_transactionNum,
    evt_read hevt, getPwmValue_put, hlen, hreserved, hop, ne_eq, not_true_eq_false, if_false]

theorem pwmInDecodeReadRequest_encoded (h : pwmInEncodeReadRequest byteBusId transactionNum = some m) :
    pwmInDecodeReadRequest m (byteBusId &&& 0x7FF) = .ok transactionNum := by
  have hdec : epDecodeRequest m (byteBusId &&& 0x7FF) = .ok (_, _) := epDecodeRequest_encoded h
  simp [pwmInDecodeReadRequest, hdec, bind, Except.bind, evtPlain]

theorem spiDecodeTransferRequest_encoded {t : SpiTransfer} (hchannel : t.channel.toNat < spiMaxChannels)
    (hsize : t.readSize.toNat ≤ 0xFFF) (h : spiEncodeTransferRequest byteBusId t transactionNum = some m) :
    spiDecodeTransferRequest m (byteBusId &&& 0x7FF) = .ok (t, transactionNum) := by
  have hdec : epDecodeRequest m (byteBusId &&& 0x7FF) = .ok (_, _) := epDecodeRequest_encoded h
  have hvalid : spiChannelValid t.channel = true := decide_eq_true hchannel
  rw [spiMaxChannels] at hchannel
  have hread : t.channel &&& 0x7 &&& 0xF &&& 0x7 = t.channel := channel_read (by omega)
  simp only [spiDecodeTransferRequest, hdec, bind, Except.bind, sentAbb_op, sentAbb_evt, sentAbb_transactionNum,
    sentAbb_readSize, hread, and_sizeMask hsize, hvalid, Bool.not_true, Bool.false_eq_true, ne_eq, not_true_eq_false,
    if_false, if_true]

/-- A transfer of I2C is received as it was sent. -/
theorem i2cDecodeTransferRequest_encoded {t : I2cTransfer}
    (h : i2cEncodeTransferRequest byteBusId t transactionNum = some m) :
    i2cDecodeTransferRequest m (byteBusId &&& 0x7FF) = .ok (t, transactionNum) := by
  obtain ⟨hsize, h⟩ := of_refusal h
  obtain ⟨hzero, h⟩ := of_refusal h
  have hdec : epDecodeRequest m (byteBusId &&& 0x7FF) = .ok (_, _) := epDecodeRequest_encoded h
  have hle : t.readSize.toNat ≤ 0xFFF := UInt16.le_iff_toNat_le.mp (UInt16.not_lt.mp hsize)
  rcases t with ⟨direction, txData, readSize⟩
  cases direction with
  | read =>
    simp only at hle
    simp [i2cDecodeTransferRequest, hdec, bind, Except.bind, evtPlain, I2cDir.toOp, I2cDir.ofOp, and_sizeMask hle]
  | write =>
    have hnone : readSize = 0 := not_not.mp fun hne => hzero ⟨rfl, hne⟩
    simp [i2cDecodeTransferRequest, hdec, bind, Except.bind, evtPlain, I2cDir.toOp, I2cDir.ofOp, hnone,
      opRead_ne_opWrite.symm]

theorem uartDecodeWriteRequest_encoded {txData : Octets}
    (h : uartEncodeWriteRequest byteBusId txData transactionNum = some m) :
    uartDecodeWriteRequest m (byteBusId &&& 0x7FF) = .ok (txData, transactionNum) := by
  have hdec : epDecodeRequest m (byteBusId &&& 0x7FF) = .ok (_, _) := epDecodeRequest_encoded h
  simp [uartDecodeWriteRequest, hdec, bind, Except.bind, evtPlain, opRead_ne_opWrite.symm]

theorem uartDecodeReadRequest_encoded {readSize : UInt16} (hsize : readSize.toNat ≤ 0xFFF)
    (h : uartEncodeReadRequest byteBusId readSize transactionNum = some m) :
    uartDecodeReadRequest m (byteBusId &&& 0x7FF) = .ok (readSize, transactionNum) := by
  have hdec : epDecodeRequest m (byteBusId &&& 0x7FF) = .ok (_, _) := epDecodeRequest_encoded h
  simp [uartDecodeReadRequest, hdec, bind, Except.bind, evtPlain, and_sizeMask hsize]

theorem adcDecodeReadRequest_encoded {readSize : UInt16} (hsize : readSize.toNat ≤ 0xFFF)
    (h : adcEncodeReadRequest byteBusId readSize transactionNum = some m) :
    adcDecodeReadRequest m (byteBusId &&& 0x7FF) = .ok (readSize, transactionNum) := by
  have hdec : epDecodeRequest m (byteBusId &&& 0x7FF) = .ok (_, _) := epDecodeRequest_encoded h
  simp [adcDecodeReadRequest, hdec, bind, Except.bind, evtPlain, and_sizeMask hsize]

theorem linDecodeCommandRequest_encoded {txData : Octets}
    (h : linEncodeCommandRequest byteBusId txData transactionNum = some m) :
    linDecodeCommandRequest m (byteBusId &&& 0x7FF) = .ok (txData, transactionNum) := by
  have hdec : epDecodeRequest m (byteBusId &&& 0x7FF) = .ok (_, _) := epDecodeRequest_encoded h
  simp [linDecodeCommandRequest, hdec, bind, Except.bind, evtPlain]

/-- A command of ISELED is received as one, -/
theorem iseledDecodeCommandRequest_encoded {txData : Octets}
    (h : iseledEncodeCommandRequest byteBusId txData transactionNum = some m) :
    iseledDecodeReadRequest m (byteBusId &&& 0x7FF) = .error .wrongOp ∧
      iseledDecodeCommandRequest m (byteBusId &&& 0x7FF) = .ok (txData, transactionNum) := by
  have hdec : epDecodeRequest m (byteBusId &&& 0x7FF) = .ok (_, _) := epDecodeRequest_encoded h
  constructor
  · simp [iseledDecodeReadRequest, hdec, bind, Except.bind, opRead_ne_opWrite.symm]
  · simp [iseledDecodeCommandRequest, hdec, bind, Except.bind, evtPlain, opRead_ne_opWrite.symm]

/-- and a read as a read. -/
theorem iseledDecodeReadRequest_encoded {txData : Octets} {readSize : UInt16}
    (h : iseledEncodeReadRequest byteBusId txData readSize transactionNum = some m) :
    iseledDecodeReadRequest m (byteBusId &&& 0x7FF) = .ok (txData, readSize, transactionNum) := by
  obtain ⟨hsize, h⟩ := of_refusal h
  have hdec : epDecodeRequest m (byteBusId &&& 0x7FF) = .ok (_, _) := epDecodeRequest_encoded h
  have hle : readSize.toNat ≤ 0xFFF := UInt16.le_iff_toNat_le.mp (UInt16.not_lt.mp hsize)
  simp [iseledDecodeReadRequest, hdec, bind, Except.bind, evtPlain, and_sizeMask hle]

/-- A read of registers is received as it was sent. -/
theorem mdioDecodeReadRequest_encoded {addr : MdioAddr} {wordCount : Nat}
    (h : mdioEncodeReadRequest byteBusId addr wordCount transactionNum = some m) :
    mdioDecodeReadRequest m (byteBusId &&& 0x7FF) = .ok (addr, wordCount, transactionNum) := by
  obtain ⟨hvalid, hpos, hmax, h⟩ := mdioEncodeReadRequest_eq_some.mp h
  have hdec : epDecodeRequest m (byteBusId &&& 0x7FF) = .ok (_, _) := epDecodeRequest_encoded h
  have haddr := mdioGetAddrPrefix_put (mdioModeForWordCount wordCount) (clause_le hvalid)
    (putU16 (UInt16.ofNat wordCount))
  have hlen : ([mdioModeForWordCount wordCount] ++ mdioPutAddrPrefix addr ++
    putU16 (UInt16.ofNat wordCount)).length = 8 := rfl
  have hmode : Octets.at ([mdioModeForWordCount wordCount] ++ mdioPutAddrPrefix addr ++
    putU16 (UInt16.ofNat wordCount)) 0 = mdioModeForWordCount wordCount := rfl
  have hcount : be16 ([mdioModeForWordCount wordCount] ++ mdioPutAddrPrefix addr ++ putU16 (UInt16.ofNat wordCount)) 6 =
    UInt16.ofNat wordCount := be16_putU16 (UInt16.ofNat wordCount)
  have hnat : (UInt16.ofNat wordCount).toNat = wordCount := by
    rw [mdioMaxBurstWords] at hmax
    exact UInt16.toNat_ofNat_of_lt' (by rw [UInt16.size]; omega)
  have hfits : ¬(wordCount = 0 ∨ wordCount > mdioMaxBurstWords) := not_or.mpr ⟨hpos, Nat.not_lt.mpr hmax⟩
  have hevt : Acf.evtRow2IsPlain (0 &&& 0xF) = true := evtRow2IsPlain_zero
  simp only [mdioDecodeReadRequest, hdec, bind, Except.bind, sentAbb_op, sentAbb_evt, sentAbb_transactionNum, hevt, hlen,
    hmode, mdioModeForWordCount_supported, haddr, hvalid, hcount, hnat, hfits, Bool.not_true, Bool.false_eq_true, ne_eq,
    not_true_eq_false, if_false, if_true, Nat.lt_irrefl]

/-- A write of registers is received as it was sent. -/
theorem mdioDecodeWriteRequest_encoded {addr : MdioAddr} {words : List UInt16}
    (h : mdioEncodeWriteRequest byteBusId addr words transactionNum = some m) :
    mdioDecodeWriteRequest m (byteBusId &&& 0x7FF) = .ok (addr, mdioPackWords words, transactionNum) := by
  obtain ⟨hvalid, hpos, hmax, h⟩ := mdioEncodeWriteRequest_eq_some.mp h
  have hdec : epDecodeRequest m (byteBusId &&& 0x7FF) = .ok (_, _) := epDecodeRequest_encoded h
  have haddr := mdioGetAddrPrefix_put (mdioModeForWordCount words.length) (clause_le hvalid) (mdioPackWords words)
  have hlen : ([mdioModeForWordCount words.length] ++ mdioPutAddrPrefix addr ++ mdioPackWords words).length =
      6 + 2 * words.length := by
    rw [List.length_append, mdioPackWords_length]
    rfl
  have hmode : Octets.at ([mdioModeForWordCount words.length] ++ mdioPutAddrPrefix addr ++ mdioPackWords words) 0 =
    mdioModeForWordCount words.length := rfl
  have hdrop : ([mdioModeForWordCount words.length] ++ mdioPutAddrPrefix addr ++ mdioPackWords words).drop 6 =
    mdioPackWords words := rfl
  have hcount : mdioWordCountOf (6 + 2 * words.length - 6) = some words.length := by
    rw [mdioWordCountOf, if_neg (by omega)]
    congr 1
    omega
  have hfits : ¬(words.length = 0 ∨ words.length > mdioMaxBurstWords) := not_or.mpr ⟨hpos, Nat.not_lt.mpr hmax⟩
  have hevt : Acf.evtRow2IsPlain (0 &&& 0xF) = true := evtRow2IsPlain_zero
  have hop : Acf.opWrite ≠ Acf.opRead := opRead_ne_opWrite.symm
  have hlong : ¬6 + 2 * words.length < 6 := by omega
  simp only [mdioDecodeWriteRequest, hdec, bind, Except.bind, sentAbb_op, sentAbb_evt, sentAbb_transactionNum, hevt, hop,
    hlen, hlong, hmode, mdioModeForWordCount_supported, haddr, hvalid, hcount, hfits, hdrop, Bool.not_true,
    Bool.false_eq_true, ne_eq, not_true_eq_false, if_false]

theorem wakeupDecodeSleepcmdRequest_encoded (h : wakeupEncodeSleepcmdRequest byteBusId transactionNum = some m) :
    wakeupDecodeSleepcmdRequest m (byteBusId &&& 0x7FF) = .ok transactionNum := by
  have hdec := decodeAbb_of_encodeAbb h
  have hbus : (sentAbb { byteBusId, op := Acf.opNone, transactionNum } [wakeupSleepcmdOpcode]).byteBusId =
    byteBusId &&& 0x7FF := rfl
  simp [wakeupDecodeSleepcmdRequest, wakeupDecodeAbb, hdec, hbus, bind, Except.bind, Octets.at]

theorem wakeupDecodeWakeupMessage_encoded (h : wakeupEncodeWakeupMessage byteBusId transactionNum = some m) :
    wakeupDecodeWakeupMessage m (byteBusId &&& 0x7FF) = .ok transactionNum := by
  have hdec := decodeAbb_of_encodeAbb h
  have hbus : (sentAbb { byteBusId, op := Acf.opNone, transactionNum } [wakeupWakeupOpcode]).byteBusId =
    byteBusId &&& 0x7FF := rfl
  simp [wakeupDecodeWakeupMessage, wakeupDecodeAbb, hdec, hbus, bind, Except.bind, Octets.at]

/-- A request of discovery is received as it was sent. -/
theorem discoveryDecodeRequest_encoded {requester : StreamId} {readSize : UInt8}
    (h : discoveryEncodeRequest requester readSize transactionNum = some m) :
    discoveryDecodeRequest m = .ok { requester, readSize, transactionNum } := by
  have hdec : discoveryDecodeCommon m = .ok (_, _, _) := discoveryDecodeCommon_encoded h rfl rfl
  have hsize : (readSize.toUInt16 &&& 0xFFF).toUInt8 = readSize := by
    rw [and_sizeMask (by rw [UInt8.toNat_toUInt16]; have := readSize.toNat_lt; omega), UInt8.toUInt8_toUInt16]
  simp only [discoveryDecodeRequest, hdec, bind, Except.bind, sentAbb_readSize, sentAbb_transactionNum, hsize]

end Rcp
