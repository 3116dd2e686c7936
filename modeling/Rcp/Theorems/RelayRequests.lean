import Rcp.Adapt
import Rcp.Theorems.RequestCodecs

/-! The requests the relay builds: a request says what its message says exactly when every number of the message is one
    that its field of the request can have. -/

namespace Rcp

/-! ### The numbers of a message -/

/-- The numbers of the requests. -/
inductive RelayField where
  | gpioEvt | spiChannel | spiReadSize | i2cReadSize | uartReadSize | adcReadSize | pwmEvt | canFrameFormat
  | canArbitrationId | iseledReadSize | mdioClause | mdioPrtad | mdioDevad | mdioRegad | mdioWordCount
  | discoveryReadSize
deriving DecidableEq, Repr

namespace RelayField

/-- The key of its entry. -/
def key : RelayField → String
  | gpioEvt => "rcp.gpio.evt"
  | spiChannel => "rcp.spi.channel"
  | spiReadSize => "rcp.spi.read_size"
  | i2cReadSize => "rcp.i2c.read_size"
  | uartReadSize => "rcp.uart.read_size"
  | adcReadSize => "rcp.adc.read_size"
  | pwmEvt => "rcp.pwm.evt"
  | canFrameFormat => "rcp.can.frame_format"
  | canArbitrationId => "rcp.can.arbitration_id"
  | iseledReadSize => "rcp.iseled.read_size"
  | mdioClause => "rcp.mdio.clause"
  | mdioPrtad => "rcp.mdio.prtad"
  | mdioDevad => "rcp.mdio.devad"
  | mdioRegad => "rcp.mdio.regad"
  | mdioWordCount => "rcp.mdio.word_count"
  | discoveryReadSize => "rcp.discovery.read_size"

/-- The documented value of a message without the entry. -/
def default (msg : RelayMessage) : RelayField → Option Nat
  | gpioEvt | spiChannel | i2cReadSize | pwmEvt | iseledReadSize => some 0
  | spiReadSize => some msg.payload.length
  | adcReadSize => some adcValueLen
  | discoveryReadSize => some discoveryGeneralSliceLen
  | _ => none

/-- What the message says of it: nothing where a required entry is missing, or an entry is no integer. -/
def intended (msg : RelayMessage) (f : RelayField) : Option Int :=
  match msg.getMeta f.key with
  | none => (f.default msg).map Nat.cast
  | some v => Lib.integerWritten v.toList

/-- The numbers that its field of the request can have. -/
def Takes : RelayField → Nat → Prop
  | gpioEvt, n | pwmEvt, n => n < 8 ∧ n ≠ 4
  | spiChannel, n => n < 6
  | spiReadSize, n | i2cReadSize, n | uartReadSize, n | adcReadSize, n | iseledReadSize, n => n ≤ 0xFFF
  | canFrameFormat, n => n ≤ 5
  | canArbitrationId, n => n ≤ 0x1FFFFFFF
  | mdioClause, n => n ≤ 1
  | mdioPrtad, n | mdioDevad, n => n ≤ 0x1F
  | mdioRegad, n => n ≤ 0xFFFF
  | mdioWordCount, n => n ≤ 512
  | discoveryReadSize, n => n ≤ 0xFF

/-- The message says a number that the field can have. -/
def InRange (msg : RelayMessage) (f : RelayField) : Prop := ∃ n : Nat, f.intended msg = some (n : Int) ∧ f.Takes n

theorem Takes.lt {f : RelayField} {n : Nat} (h : f.Takes n) : n < 2 ^ 32 := by
  cases f <;> simp only [Takes] at h <;> omega

end RelayField

variable {msg : RelayMessage}

/-- An entry that is a number of 32 bits is read as that number. -/
theorem getU32_of_integer {key v : String} {n : Nat} (hv : msg.getMeta key = some v)
    (hn : Lib.integerWritten v.toList = some (n : Int)) (hlt : n < 2 ^ 32) :
    ∃ u, msg.getU32 key = some u ∧ u.toNat = n := by
  have hne : v.toList ≠ [] := by
    rintro hnil
    rw [hnil] at hn
    simp [Lib.integerWritten, Lib.scanNumeral] at hn
  have hend : (Lib.strtoul v.toList).2 = [] := (Lib.strtoul_end hne).mpr (by rw [hn]; rfl)
  have hlow := (Lib.strtoul_low_eq_iff hn).mpr ⟨Int.natCast_nonneg n, by exact_mod_cast hlt⟩
  refine ⟨(Lib.strtoul v.toList).1.toUInt32, ?_, by exact_mod_cast hlow⟩
  simp only [RelayMessage.getU32, hv, if_neg hne, hend, ne_eq, not_true_eq_false, if_false]

/-- A required number that can be sent is the one that is read. -/
theorem RelayField.InRange.read {f : RelayField} {u : UInt32} (h : f.InRange msg) (hu : msg.getU32 f.key = some u) :
    f.intended msg = some (u.toNat : Int) ∧ f.Takes u.toNat := by
  obtain ⟨n, hn, htakes⟩ := h
  cases hv : msg.getMeta f.key with
  | none => simp only [RelayMessage.getU32, hv, reduceCtorEq] at hu
  | some v =>
    simp only [intended, hv] at hn
    obtain ⟨u', hu', rfl⟩ := getU32_of_integer hv hn htakes.lt
    obtain rfl := Option.some.inj (hu'.symm.trans hu)
    exact ⟨by simpa only [intended, hv] using hn, htakes⟩

/-- A number with a default that can be sent is the one that is read. -/
theorem RelayField.InRange.read_default {f : RelayField} {d : UInt32} (h : f.InRange msg)
    (hd : f.default msg = some d.toNat) :
    f.intended msg = some ((msg.getU32Default f.key d).toNat : Int) ∧ f.Takes (msg.getU32Default f.key d).toNat := by
  obtain ⟨n, hn, htakes⟩ := h
  cases hv : msg.getMeta f.key with
  | none =>
    have hread : msg.getU32Default f.key d = d := by
      simp only [RelayMessage.getU32Default, RelayMessage.getU32, hv, Option.getD_none]
    simp only [intended, hv, hd, Option.map_some, Option.some.injEq, Nat.cast_inj] at hn
    rw [hread, intended, hv, hd, hn]
    exact ⟨by rw [← hn]; rfl, htakes⟩
  | some v =>
    simp only [intended, hv] at hn
    obtain ⟨u, hu, rfl⟩ := getU32_of_integer hv hn htakes.lt
    rw [RelayMessage.getU32Default, hu, Option.getD_some]
    exact ⟨by simpa only [intended, hv] using hn, htakes⟩

/-! ### What the decoders of requests read -/

/-- What the decoder of an operation's requests reads: the numbers, the payload where one is transmitted, and the
    transaction number. -/
structure RequestRead where
  numbers : List (RelayField × Nat) := []
  payload : Option Octets := none
  transactionNum : UInt8
deriving DecidableEq, Repr

/-- The numbers of the requests of an operation. -/
def AdaptOp.fields : AdaptOp → List RelayField
  | gpioWrite => [.gpioEvt]
  | spiTransfer => [.spiChannel, .spiReadSize]
  | i2cTransfer => [.i2cReadSize]
  | uartRead => [.uartReadSize]
  | adcRead => [.adcReadSize]
  | pwmOutWrite => [.pwmEvt]
  | canFrame => [.canFrameFormat, .canArbitrationId]
  | iseledCommand => [.iseledReadSize]
  | mdioRead => [.mdioClause, .mdioPrtad, .mdioDevad, .mdioRegad, .mdioWordCount]
  | mdioWrite => [.mdioClause, .mdioPrtad, .mdioDevad, .mdioRegad]
  | discovery => [.discoveryReadSize]
  | gpioRead | uartWrite | pwmOutRead | pwmInRead | linCommand | wakeupSleepcmd | wakeupWakeup => []

/-- What is read of an address. -/
def MdioAddr.numbers (addr : MdioAddr) : List (RelayField × Nat) :=
  [(.mdioClause, addr.clause.toNat), (.mdioPrtad, addr.prtad.toNat), (.mdioDevad, addr.devad.toNat),
   (.mdioRegad, addr.regad.toNat)]

/-- What the decoder of an operation's requests makes of octets. An ISELED command is decoded as a read or as a
    command. -/
def readRequest (op : AdaptOp) (byteBusId : ByteBusId) (b : Octets) : Option RequestRead :=
  match op with
  | .gpioRead => (gpioDecodeReadRequest b byteBusId).toOption.map fun transactionNum => { transactionNum }
  | .gpioWrite =>
    (gpioDecodeWriteRequest b byteBusId).toOption.map fun (bitmask, evt, transactionNum) =>
      { numbers := [(.gpioEvt, evt.toNat)], payload := some (putU32 bitmask), transactionNum }
  | .spiTransfer =>
    (spiDecodeTransferRequest b byteBusId).toOption.map fun (t, transactionNum) =>
      { numbers := [(.spiChannel, t.channel.toNat), (.spiReadSize, t.readSize.toNat)], payload := some t.txData
        transactionNum }
  | .i2cTransfer =>
    (i2cDecodeTransferRequest b byteBusId).toOption.map fun (t, transactionNum) =>
      { numbers := [(.i2cReadSize, t.readSize.toNat)], payload := some t.txData, transactionNum }
  | .uartWrite =>
    (uartDecodeWriteRequest b byteBusId).toOption.map fun (txData, transactionNum) =>
      { payload := some txData, transactionNum }
  | .uartRead =>
    (uartDecodeReadRequest b byteBusId).toOption.map fun (readSize, transactionNum) =>
      { numbers := [(.uartReadSize, readSize.toNat)], transactionNum }
  | .adcRead =>
    (adcDecodeReadRequest b byteBusId).toOption.map fun (readSize, transactionNum) =>
      { numbers := [(.adcReadSize, readSize.toNat)], transactionNum }
  | .pwmOutRead => (pwmOutDecodeReadRequest b byteBusId).toOption.map fun transactionNum => { transactionNum }
  | .pwmOutWrite =>
    (pwmOutDecodeWriteRequest b byteBusId).toOption.map fun (value, evt, transactionNum) =>
      { numbers := [(.pwmEvt, evt.toNat)], payload := some (putPwmValue value), transactionNum }
  | .pwmInRead => (pwmInDecodeReadRequest b byteBusId).toOption.map fun transactionNum => { transactionNum }
  | .linCommand =>
    (linDecodeCommandRequest b byteBusId).toOption.map fun (txData, transactionNum) =>
      { payload := some txData, transactionNum }
  | .canFrame =>
    (canDecodeFrameRequest b byteBusId).toOption.map fun (f, transactionNum) =>
      { numbers := [(.canFrameFormat, f.frameFormat.toNat), (.canArbitrationId, f.arbitrationId.toNat)]
        payload := some f.data, transactionNum }
  | .iseledCommand =>
    match iseledDecodeReadRequest b byteBusId with
    | .ok (txData, readSize, transactionNum) =>
      some { numbers := [(.iseledReadSize, readSize.toNat)], payload := some txData, transactionNum }
    | .error _ =>
      (iseledDecodeCommandRequest b byteBusId).toOption.map fun (txData, transactionNum) =>
        { numbers := [(.iseledReadSize, 0)], payload := some txData, transactionNum }
  | .mdioRead =>
    (mdioDecodeReadRequest b byteBusId).toOption.map fun (addr, wordCount, transactionNum) =>
      { numbers := addr.numbers ++ [(.mdioWordCount, wordCount)], transactionNum }
  | .mdioWrite =>
    (mdioDecodeWriteRequest b byteBusId).toOption.map fun (addr, data, transactionNum) =>
      { numbers := addr.numbers, payload := some data, transactionNum }
  | .wakeupSleepcmd => (wakeupDecodeSleepcmdRequest b byteBusId).toOption.map fun transactionNum => { transactionNum }
  | .wakeupWakeup => (wakeupDecodeWakeupMessage b byteBusId).toOption.map fun transactionNum => { transactionNum }
  | .discovery =>
    (discoveryDecodeRequest b).toOption.map fun r =>
      { numbers := [(.discoveryReadSize, r.readSize.toNat)], transactionNum := r.transactionNum }

theorem toOption_map_eq_some {ε α β : Type} {x : Except ε α} {f : α → β} {y : β} (h : x.toOption.map f = some y) :
    ∃ a, x = .ok a ∧ f a = y := by
  cases x with
  | error e => cases h
  | ok a => exact ⟨a, rfl, Option.some.inj h⟩

/-- The fields of an address that is valid. -/
theorem MdioAddr.takes {addr : MdioAddr} (h : mdioAddrValid addr = true) :
    ∀ p ∈ addr.numbers, p.1.Takes p.2 := by
  rw [mdioAddrValid] at h
  split at h
  · cases h
  rename_i hprtad
  have hprtad' : addr.prtad.toNat ≤ 0x1F := UInt8.le_iff_toNat_le.mp (UInt8.not_lt.mp hprtad)
  have hclause : addr.clause.toNat ≤ 1 ∧ addr.devad.toNat ≤ 0x1F := by
    split at h
    · rename_i hclause
      simp only [Bool.and_eq_true, beq_iff_eq] at h
      rw [hclause, h.1]
      decide
    split at h
    · rename_i hclause
      rw [hclause]
      exact ⟨by decide, UInt8.le_iff_toNat_le.mp (of_decide_eq_true h)⟩
    · cases h
  have hregad := addr.regad.toNat_lt
  simp only [numbers, List.forall_mem_cons, RelayField.Takes]
  exact ⟨hclause.1, hprtad', hclause.2, by omega, List.forall_mem_nil _⟩

/-- Whatever octets the decoder of an operation accepts, the numbers it reads are ones that their fields take. -/
theorem readRequest_takes {op : AdaptOp} {byteBusId : ByteBusId} {b : Octets} {r : RequestRead}
    (h : readRequest op byteBusId b = some r) : ∀ p ∈ r.numbers, p.1.Takes p.2 := by
  have hnone : ∀ p ∈ ([] : List (RelayField × Nat)), p.1.Takes p.2 := List.forall_mem_nil _
  cases op with
  | gpioRead | pwmOutRead | pwmInRead | wakeupSleepcmd | wakeupWakeup =>
    obtain ⟨_, -, rfl⟩ := toOption_map_eq_some h
    exact hnone
  | uartWrite | linCommand =>
    obtain ⟨_, -, rfl⟩ := toOption_map_eq_some h
    exact hnone
  | gpioWrite =>
    obtain ⟨⟨bitmask, evt, transactionNum⟩, hdec, rfl⟩ := toOption_map_eq_some h
    obtain ⟨hdr, payload, hdec, -⟩ := epDecodeRequest_bind hdec
    obtain ⟨-, hdec⟩ := of_guard hdec
    obtain ⟨-, hdec⟩ := of_guard hdec
    obtain ⟨hreserved, hdec⟩ := of_guard hdec
    simp only [Except.ok.injEq, Prod.mk.injEq] at hdec
    obtain ⟨-, rfl, -⟩ := hdec
    simp only [List.forall_mem_cons, RelayField.Takes]
    exact ⟨⟨and_seven_lt _, fun h4 => hreserved (UInt8.toNat_inj.mp h4)⟩, hnone⟩
  | pwmOutWrite =>
    obtain ⟨⟨value, evt, transactionNum⟩, hdec, rfl⟩ := toOption_map_eq_some h
    obtain ⟨hdr, payload, hdec, -⟩ := epDecodeRequest_bind hdec
    obtain ⟨-, hdec⟩ := of_guard hdec
    obtain ⟨-, hdec⟩ := of_guard hdec
    obtain ⟨hreserved, hdec⟩ := of_guard hdec
    simp only [Except.ok.injEq, Prod.mk.injEq] at hdec
    obtain ⟨-, rfl, -⟩ := hdec
    simp only [List.forall_mem_cons, RelayField.Takes]
    exact ⟨⟨and_seven_lt _, fun h4 => hreserved (UInt8.toNat_inj.mp h4)⟩, hnone⟩
  | spiTransfer =>
    obtain ⟨⟨t, transactionNum⟩, hdec, rfl⟩ := toOption_map_eq_some h
    obtain ⟨hdr, payload, hdec, hsize⟩ := epDecodeRequest_bind hdec
    obtain ⟨-, hdec⟩ := of_guard hdec
    obtain ⟨hvalid, hdec⟩ := of_guard hdec
    simp only [Except.ok.injEq, Prod.mk.injEq] at hdec
    obtain ⟨rfl, -⟩ := hdec
    simp only [List.forall_mem_cons, RelayField.Takes]
    have hlt : (hdr.evt &&& 0x7).toNat < 6 := by simpa [spiChannelValid, spiMaxChannels] using hvalid
    exact ⟨hlt, hsize, hnone⟩
  | i2cTransfer =>
    obtain ⟨⟨t, transactionNum⟩, hdec, rfl⟩ := toOption_map_eq_some h
    obtain ⟨hdr, payload, hdec, hsize⟩ := epDecodeRequest_bind hdec
    obtain ⟨-, hdec⟩ := of_guard hdec
    simp only [Except.ok.injEq, Prod.mk.injEq] at hdec
    obtain ⟨rfl, -⟩ := hdec
    simp only [List.forall_mem_cons, RelayField.Takes]
    refine ⟨?_, hnone⟩
    split
    · exact hsize
    · exact Nat.zero_le _
  | uartRead =>
    obtain ⟨⟨readSize, transactionNum⟩, hdec, rfl⟩ := toOption_map_eq_some h
    obtain ⟨hdr, payload, hdec, hsize⟩ := epDecodeRequest_bind hdec
    obtain ⟨-, hdec⟩ := of_guard hdec
    obtain ⟨-, hdec⟩ := of_guard hdec
    obtain ⟨-, hdec⟩ := of_guard hdec
    simp only [Except.ok.injEq, Prod.mk.injEq] at hdec
    obtain ⟨rfl, -⟩ := hdec
    simp only [List.forall_mem_cons, RelayField.Takes]
    exact ⟨hsize, hnone⟩
  | adcRead =>
    obtain ⟨⟨readSize, transactionNum⟩, hdec, rfl⟩ := toOption_map_eq_some h
    obtain ⟨hdr, payload, hdec, hsize⟩ := epDecodeRequest_bind hdec
    obtain ⟨-, hdec⟩ := of_guard hdec
    obtain ⟨-, hdec⟩ := of_guard hdec
    simp only [Except.ok.injEq, Prod.mk.injEq] at hdec
    obtain ⟨rfl, -⟩ := hdec
    simp only [List.forall_mem_cons, RelayField.Takes]
    exact ⟨hsize, hnone⟩
  | canFrame =>
    obtain ⟨⟨f, transactionNum⟩, hdec, rfl⟩ := toOption_map_eq_some h
    obtain ⟨hdr, payload, -, -, -, hf, -⟩ := canDecodeFrameRequest_eq_ok.mp hdec
    obtain ⟨hvalid, -, hid, rfl⟩ := canDecodeReassembled_eq_ok.mp hf
    simp only [List.forall_mem_cons, RelayField.Takes]
    exact ⟨UInt32.le_iff_toNat_le.mp (canReadFrameFormat_le hvalid),
      UInt32.le_iff_toNat_le.mp (canArbitrationIdValid_le hid), hnone⟩
  | iseledCommand =>
    rw [readRequest] at h
    split at h
    · rename_i txData readSize transactionNum hdec
      obtain ⟨hdr, payload, hdec, hsize⟩ := epDecodeRequest_bind hdec
      obtain ⟨-, hdec⟩ := of_guard hdec
      obtain ⟨-, hdec⟩ := of_guard hdec
      simp only [Except.ok.injEq, Prod.mk.injEq] at hdec
      obtain ⟨-, rfl, -⟩ := hdec
      obtain rfl := Option.some.inj h
      simp only [List.forall_mem_cons, RelayField.Takes]
      exact ⟨hsize, hnone⟩
    · obtain ⟨_, -, rfl⟩ := toOption_map_eq_some h
      simp only [List.forall_mem_cons, RelayField.Takes]
      exact ⟨Nat.zero_le _, hnone⟩
  | mdioRead =>
    obtain ⟨⟨addr, wordCount, transactionNum⟩, hdec, rfl⟩ := toOption_map_eq_some h
    obtain ⟨hdr, payload, hdec, -⟩ := epDecodeRequest_bind hdec
    obtain ⟨-, hdec⟩ := of_guard hdec
    obtain ⟨-, hdec⟩ := of_guard hdec
    obtain ⟨-, hdec⟩ := of_guard hdec
    obtain ⟨-, hdec⟩ := of_guard hdec
    obtain ⟨hvalid, hdec⟩ := of_guard hdec
    obtain ⟨hcount, hdec⟩ := of_guard hdec
    simp only [Except.ok.injEq, Prod.mk.injEq] at hdec
    obtain ⟨rfl, rfl, -⟩ := hdec
    simp only [List.forall_mem_append, List.forall_mem_cons, RelayField.Takes]
    refine ⟨MdioAddr.takes (by simpa using hvalid), ?_, hnone⟩
    rw [mdioMaxBurstWords] at hcount
    omega
  | mdioWrite =>
    obtain ⟨⟨addr, data, transactionNum⟩, hdec, rfl⟩ := toOption_map_eq_some h
    obtain ⟨hdr, payload, hdec, -⟩ := epDecodeRequest_bind hdec
    obtain ⟨-, hdec⟩ := of_guard hdec
    obtain ⟨-, hdec⟩ := of_guard hdec
    obtain ⟨-, hdec⟩ := of_guard hdec
    obtain ⟨-, hdec⟩ := of_guard hdec
    obtain ⟨hvalid, hdec⟩ := of_guard hdec
    split at hdec
    · cases hdec
    obtain ⟨-, hdec⟩ := of_guard hdec
    simp only [Except.ok.injEq, Prod.mk.injEq] at hdec
    obtain ⟨rfl, -⟩ := hdec
    exact MdioAddr.takes (by simpa using hvalid)
  | discovery =>
    obtain ⟨r', hdec, rfl⟩ := toOption_map_eq_some h
    have hsize := r'.readSize.toNat_lt
    simp only [List.forall_mem_cons, RelayField.Takes]
    exact ⟨by omega, hnone⟩

/-! ### Which messages become requests -/

/-- The messages of which an operation makes a request. -/
def Buildable (op : AdaptOp) (msg : RelayMessage) : Prop :=
  match op with
  | .gpioWrite => msg.payload.length = gpioPayloadLen
  | .pwmOutWrite => msg.payload.length = pwmPayloadLen
  | .spiTransfer | .uartWrite | .linCommand => msg.payload.length ≤ Acf.abbMaxPayload
  | .i2cTransfer =>
    msg.getU32Default "rcp.i2c.read_size" 0 ≤ i2cMaxReadSize.toUInt32 ∧ msg.payload.length ≤ Acf.abbMaxPayload
  | .iseledCommand =>
    msg.getU32Default "rcp.iseled.read_size" 0 ≤ iseledMaxReadSize.toUInt32 ∧ msg.payload.length ≤ Acf.abbMaxPayload
  | .uartRead => ∃ readSize, msg.getU32 "rcp.uart.read_size" = some readSize
  | .canFrame =>
    ∃ frameFormat arbitrationId, msg.getU32 "rcp.can.frame_format" = some frameFormat ∧
      msg.getU32 "rcp.can.arbitration_id" = some arbitrationId ∧
      canEncodePreconditionsOk { frameFormat, arbitrationId, xlHeader := none, data := msg.payload } = true
  | .mdioRead =>
    ∃ addr wordCount, mdioAddrOf msg = some addr ∧ msg.getU32 "rcp.mdio.word_count" = some wordCount ∧
      mdioAddrValid addr = true ∧ wordCount.toNat ≠ 0 ∧ wordCount.toNat ≤ mdioMaxBurstWords
  | .mdioWrite =>
    ∃ addr, mdioAddrOf msg = some addr ∧ mdioAddrValid addr = true ∧ msg.payload.length ≠ 0 ∧
      msg.payload.length % 2 = 0 ∧ msg.payload.length / 2 ≤ mdioMaxBurstWords
  | _ => True

variable {byteBusId : ByteBusId} {requester : StreamId} {transactionNum : UInt8}

/-- `rcp_message_to_request` takes the words of an even payload that has some, but not too many. -/
theorem requestOf_mdioWrite {addr : MdioAddr} {m : Octets} (haddr : mdioAddrOf msg = some addr) :
    requestOf .mdioWrite byteBusId requester msg transactionNum = some m ↔
      msg.payload.length ≠ 0 ∧ msg.payload.length % 2 = 0 ∧ msg.payload.length / 2 ≤ mdioMaxBurstWords ∧
        mdioEncodeWriteRequest byteBusId addr (mdioPayloadWords msg.payload) transactionNum = some m := by
  simp only [requestOf, haddr, bind, Option.bind]
  constructor
  · intro h
    obtain ⟨hlen, h⟩ := of_refusal h
    obtain ⟨hmax, h⟩ := of_refusal h
    exact ⟨fun hzero => hlen (Or.inl hzero), not_not.mp fun hodd => hlen (Or.inr hodd), Nat.not_lt.mp hmax, h⟩
  · rintro ⟨hpos, heven, hmax, h⟩
    rw [if_neg (not_or.mpr ⟨hpos, not_not.mpr heven⟩), if_neg (Nat.not_lt.mpr hmax)]
    exact h

/-- An operation makes a request of the messages it can, -/
theorem requestOf_isSome {op : AdaptOp} (h : Buildable op msg) :
    ∃ m, requestOf op byteBusId requester msg transactionNum = some m := by
  have hempty (hdr : Acf.ByteMessageInfo) : ∃ m, Acf.encodeAbb hdr [] = some m := encodeAbb_isSome hdr (Nat.zero_le _)
  cases op with
  | gpioRead | pwmOutRead | pwmInRead | adcRead => exact hempty _
  | wakeupSleepcmd =>
    exact encodeAbb_isSome _ (by decide : [wakeupSleepcmdOpcode].length ≤ Acf.abbMaxPayload)
  | wakeupWakeup => exact encodeAbb_isSome _ (by decide : [wakeupWakeupOpcode].length ≤ Acf.abbMaxPayload)
  | discovery => exact discoveryEncode_isSome _ _ (Nat.zero_le _)
  | spiTransfer | uartWrite | linCommand => exact encodeAbb_isSome _ h
  | gpioWrite =>
    have hlen : msg.payload.length = gpioPayloadLen := h
    rw [requestOf, if_neg (not_not.mpr hlen)]
    refine encodeAbb_isSome _ ?_
    rw [putU32_length]
    decide
  | pwmOutWrite =>
    have hlen : msg.payload.length = pwmPayloadLen := h
    rw [requestOf, if_neg (not_not.mpr hlen)]
    refine encodeAbb_isSome _ ?_
    rw [putPwmValue, List.length_append, putU16_length, putU16_length]
    decide
  | uartRead =>
    obtain ⟨readSize, hread⟩ := h
    rw [requestOf, hread]
    exact hempty _
  | i2cTransfer =>
    rw [requestOf, if_neg (UInt32.not_lt.mpr h.1), i2cEncode_readSize h.1]
    exact encodeAbb_isSome _ h.2
  | iseledCommand =>
    rw [requestOf, if_neg (UInt32.not_lt.mpr h.1), iseledEncodeReadRequest_eq h.1]
    split
    · exact encodeAbb_isSome _ h.2
    · exact encodeAbb_isSome _ h.2
  | canFrame =>
    obtain ⟨frameFormat, arbitrationId, hformat, hid, hpre⟩ := h
    simp only [requestOf, hformat, hid, bind, Option.bind, canEncodeFrameRequest, hpre, Bool.not_true,
      Bool.false_eq_true, if_false]
    exact encodeAbb_isSome _ (canBuildPayload_length_le hpre rfl)
  | mdioRead =>
    obtain ⟨addr, wordCount, haddr, hcount, hvalid, hpos, hmax⟩ := h
    have hlen : ([mdioModeForWordCount wordCount.toNat] ++ mdioPutAddrPrefix addr ++
        putU16 (UInt16.ofNat wordCount.toNat)).length ≤ Acf.abbMaxPayload := (by decide : 8 ≤ Acf.abbMaxPayload)
    obtain ⟨m, hm⟩ := encodeAbb_isSome { byteBusId, op := Acf.opRead, evt := 0, transactionNum } hlen
    simp only [requestOf, haddr, hcount, bind, Option.bind]
    exact ⟨m, mdioEncodeReadRequest_eq_some.mpr ⟨hvalid, hpos, hmax, hm⟩⟩
  | mdioWrite =>
    obtain ⟨addr, haddr, hvalid, hpos, heven, hmax⟩ := h
    have hwords : (mdioPayloadWords msg.payload).length = msg.payload.length / 2 := by
      rw [mdioPayloadWords, List.length_map, List.length_range]
    have hlen : ([mdioModeForWordCount (mdioPayloadWords msg.payload).length] ++ mdioPutAddrPrefix addr ++
        mdioPackWords (mdioPayloadWords msg.payload)).length ≤ Acf.abbMaxPayload := by
      rw [mdioPackWords_payloadWords heven, List.length_append]
      change 6 + msg.payload.length ≤ 2036
      rw [mdioMaxBurstWords] at hmax
      omega
    obtain ⟨m, hm⟩ := encodeAbb_isSome { byteBusId, op := Acf.opWrite, evt := 0, transactionNum } hlen
    refine ⟨m, (requestOf_mdioWrite haddr).mpr ⟨hpos, heven, hmax, ?_⟩⟩
    exact mdioEncodeWriteRequest_eq_some.mpr ⟨hvalid, by omega, by omega, hm⟩

/-- and of no others. -/
theorem buildable_of_requestOf {op : AdaptOp} {m : Octets}
    (h : requestOf op byteBusId requester msg transactionNum = some m) : Buildable op msg := by
  cases op with
  | gpioRead | pwmOutRead | pwmInRead | adcRead | wakeupSleepcmd | wakeupWakeup | discovery => trivial
  | spiTransfer | uartWrite | linCommand => exact length_le_of_encodeAbb h
  | gpioWrite =>
    obtain ⟨hlen, -⟩ := of_refusal h
    exact not_not.mp hlen
  | pwmOutWrite =>
    obtain ⟨hlen, -⟩ := of_refusal h
    exact not_not.mp hlen
  | uartRead =>
    obtain ⟨readSize, hread, -⟩ := Option.bind_eq_some_iff.mp h
    exact ⟨readSize, hread⟩
  | i2cTransfer =>
    obtain ⟨hsize, h⟩ := of_refusal h
    rw [i2cEncode_readSize (UInt32.not_lt.mp hsize)] at h
    exact ⟨UInt32.not_lt.mp hsize, length_le_of_encodeAbb h⟩
  | iseledCommand =>
    obtain ⟨hsize, h⟩ := of_refusal h
    refine ⟨UInt32.not_lt.mp hsize, ?_⟩
    rw [iseledEncodeReadRequest_eq (UInt32.not_lt.mp hsize)] at h
    split at h
    · exact length_le_of_encodeAbb h
    · exact length_le_of_encodeAbb h
  | canFrame =>
    obtain ⟨frameFormat, hformat, h⟩ := Option.bind_eq_some_iff.mp h
    obtain ⟨arbitrationId, hid, h⟩ := Option.bind_eq_some_iff.mp h
    obtain ⟨hpre, -⟩ := of_refusal h
    exact ⟨frameFormat, arbitrationId, hformat, hid, by simpa using hpre⟩
  | mdioRead =>
    obtain ⟨addr, haddr, h⟩ := Option.bind_eq_some_iff.mp h
    obtain ⟨wordCount, hcount, h⟩ := Option.bind_eq_some_iff.mp h
    obtain ⟨hvalid, hpos, hmax, -⟩ := mdioEncodeReadRequest_eq_some.mp h
    exact ⟨addr, wordCount, haddr, hcount, hvalid, hpos, hmax⟩
  | mdioWrite =>
    obtain ⟨addr, haddr, -⟩ := Option.bind_eq_some_iff.mp h
    obtain ⟨hpos, heven, hmax, h⟩ := (requestOf_mdioWrite haddr).mp h
    exact ⟨addr, haddr, (mdioEncodeWriteRequest_eq_some.mp h).1, hpos, heven, hmax⟩

/-! ### What a request says -/

/-- What is read of a request is what its message says. -/
structure RequestRead.Says (r : RequestRead) (op : AdaptOp) (msg : RelayMessage) (transactionNum : UInt8) : Prop where
  numbers : ∀ f ∈ op.fields, ∃ n : Nat, (f, n) ∈ r.numbers ∧ f.intended msg = some (n : Int)
  payload : ∀ p ∈ r.payload, p = msg.payload
  transactionNum : r.transactionNum = transactionNum

/-- A request, if one is made, is accepted by the decoder of its operation, which reads what the message says. -/
def Faithful (op : AdaptOp) (byteBusId : ByteBusId) (requester : StreamId) (msg : RelayMessage) (transactionNum : UInt8) :
    Prop :=
  ∀ frame, messageToRequest op byteBusId requester msg transactionNum = .ok frame →
    ∃ r, readRequest op (byteBusId &&& 0x7FF) frame = some r ∧ r.Says op msg transactionNum

/-- A payload that is the message's own. -/
theorem says_payload {payload : Octets} : ∀ p ∈ some payload, p = payload := fun _ h => (Option.some.inj h).symm

/-- A message of one number. -/
theorem says_number {f : RelayField} {n : Nat} (h : f.intended msg = some (n : Int)) :
    ∀ f' ∈ [f], ∃ n' : Nat, (f', n') ∈ [(f, n)] ∧ f'.intended msg = some (n' : Int) := by
  intro f' hf'
  obtain rfl := List.mem_singleton.mp hf'
  exact ⟨n, List.mem_singleton.mpr rfl, h⟩

/-- A message of two. -/
theorem says_numbers {f g : RelayField} {n k : Nat} (hf : f.intended msg = some (n : Int))
    (hg : g.intended msg = some (k : Int)) :
    ∀ f' ∈ [f, g], ∃ n' : Nat, (f', n') ∈ [(f, n), (g, k)] ∧ f'.intended msg = some (n' : Int) := by
  intro f' hf'
  rcases List.mem_pair.mp hf' with rfl | rfl
  · exact ⟨n, List.mem_pair.mpr (Or.inl rfl), hf⟩
  · exact ⟨k, List.mem_pair.mpr (Or.inr rfl), hg⟩

/-- The address of a message whose four numbers can be sent. -/
theorem mdioAddrOf_says {addr : MdioAddr} (haddr : mdioAddrOf msg = some addr)
    (hin : ∀ f ∈ AdaptOp.mdioWrite.fields, f.InRange msg) :
    ∀ f ∈ AdaptOp.mdioWrite.fields, ∃ n : Nat, (f, n) ∈ addr.numbers ∧ f.intended msg = some (n : Int) := by
  obtain ⟨clause, hclause, haddr⟩ := Option.bind_eq_some_iff.mp haddr
  obtain ⟨prtad, hprtad, haddr⟩ := Option.bind_eq_some_iff.mp haddr
  obtain ⟨devad, hdevad, haddr⟩ := Option.bind_eq_some_iff.mp haddr
  obtain ⟨regad, hregad, haddr⟩ := Option.bind_eq_some_iff.mp haddr
  obtain rfl := Option.some.inj haddr
  simp only [AdaptOp.fields, List.forall_mem_cons, List.not_mem_nil, false_imp_iff, implies_true, and_true] at hin ⊢
  obtain ⟨hc, hp, hd, hr⟩ := hin
  obtain ⟨hc, -⟩ := hc.read hclause
  obtain ⟨hp, hpmax⟩ := hp.read hprtad
  obtain ⟨hd, hdmax⟩ := hd.read hdevad
  obtain ⟨hr, hrmax⟩ := hr.read hregad
  simp only [RelayField.Takes] at hpmax hdmax hrmax
  have hp' : prtad.toUInt8.toNat = prtad.toNat := toUInt8_toNat (by omega)
  have hd' : devad.toUInt8.toNat = devad.toNat := toUInt8_toNat (by omega)
  have hr' : regad.toUInt16.toNat = regad.toNat := toUInt16_toNat hrmax
  refine ⟨⟨_, by simp [MdioAddr.numbers], hc⟩, ⟨prtad.toNat, by simp [MdioAddr.numbers, hp'], hp⟩,
    ⟨devad.toNat, by simp [MdioAddr.numbers, hd'], hd⟩, ⟨regad.toNat, by simp [MdioAddr.numbers, hr'], hr⟩⟩

/-- A request whose numbers can all be sent is accepted, and says what its message says. -/
theorem request_says {op : AdaptOp} {frame : Octets}
    (hreq : requestOf op byteBusId requester msg transactionNum = some frame)
    (hin : ∀ f ∈ op.fields, f.InRange msg) :
    ∃ r, readRequest op (byteBusId &&& 0x7FF) frame = some r ∧ r.Says op msg transactionNum := by
  cases op with
  | gpioRead =>
    refine ⟨{ transactionNum }, ?_, nofun, nofun, rfl⟩
    rw [readRequest, gpioDecodeReadRequest_encoded hreq]
    rfl
  | pwmOutRead =>
    refine ⟨{ transactionNum }, ?_, nofun, nofun, rfl⟩
    rw [readRequest, pwmOutDecodeReadRequest_encoded hreq]
    rfl
  | pwmInRead =>
    refine ⟨{ transactionNum }, ?_, nofun, nofun, rfl⟩
    rw [readRequest, pwmInDecodeReadRequest_encoded hreq]
    rfl
  | wakeupSleepcmd =>
    refine ⟨{ transactionNum }, ?_, nofun, nofun, rfl⟩
    rw [readRequest, wakeupDecodeSleepcmdRequest_encoded hreq]
    rfl
  | wakeupWakeup =>
    refine ⟨{ transactionNum }, ?_, nofun, nofun, rfl⟩
    rw [readRequest, wakeupDecodeWakeupMessage_encoded hreq]
    rfl
  | uartWrite =>
    refine ⟨{ payload := some msg.payload, transactionNum }, ?_, nofun, says_payload, rfl⟩
    rw [readRequest, uartDecodeWriteRequest_encoded hreq]
    rfl
  | linCommand =>
    refine ⟨{ payload := some msg.payload, transactionNum }, ?_, nofun, says_payload, rfl⟩
    rw [readRequest, linDecodeCommandRequest_encoded hreq]
    rfl
  | gpioWrite =>
    obtain ⟨hlen, hreq⟩ := of_refusal hreq
    obtain ⟨hevt, hlt, hne⟩ := (hin .gpioEvt (by decide)).read_default (d := 0) rfl
    rw [← toUInt8_toNat (by omega)] at hevt
    refine ⟨{ numbers := [(.gpioEvt, _)], payload := some (putU32 (getU32 msg.payload 0)), transactionNum }, ?_,
      says_number hevt, ?_, rfl⟩
    · rw [readRequest, gpioDecodeWriteRequest_encoded hlt hne hreq]
      rfl
    · rw [putU32_getU32_self (not_not.mp hlen)]
      exact says_payload
  | pwmOutWrite =>
    obtain ⟨hlen, hreq⟩ := of_refusal hreq
    obtain ⟨hevt, hlt, hne⟩ := (hin .pwmEvt (by decide)).read_default (d := 0) rfl
    rw [← toUInt8_toNat (by omega)] at hevt
    refine ⟨{ numbers := [(.pwmEvt, _)], payload := some (putPwmValue (getPwmValue msg.payload)), transactionNum }, ?_,
      says_number hevt, ?_, rfl⟩
    · rw [readRequest, pwmOutDecodeWriteRequest_encoded hlt hne hreq]
      rfl
    · rw [putPwmValue_get (not_not.mp hlen)]
      exact says_payload
  | spiTransfer =>
    -- the default of the read size is a length of 32 bits, since the payload fits into a message
    have hlen : msg.payload.length ≤ 2036 := length_le_of_encodeAbb hreq
    have hdefault : RelayField.spiReadSize.default msg = some (UInt32.ofNat msg.payload.length).toNat := by
      rw [UInt32.toNat_ofNat_of_lt' (by rw [UInt32.size]; omega)]
      rfl
    obtain ⟨hchannel, hlt⟩ := (hin .spiChannel (by decide)).read_default (d := 0) rfl
    obtain ⟨hread, hle⟩ := (hin .spiReadSize (by decide)).read_default hdefault
    simp only [RelayField.Takes] at hlt hle
    have hc := toUInt8_toNat (u := msg.getU32Default RelayField.spiChannel.key 0) (by omega)
    have hr := toUInt16_toNat (u := msg.getU32Default RelayField.spiReadSize.key (UInt32.ofNat msg.payload.length))
      (by omega)
    rw [← hc] at hchannel hlt
    rw [← hr] at hread hle
    refine ⟨{ numbers := [(.spiChannel, _), (.spiReadSize, _)], payload := some msg.payload, transactionNum }, ?_,
      says_numbers hchannel hread, says_payload, rfl⟩
    rw [readRequest, spiDecodeTransferRequest_encoded hlt hle hreq]
    rfl
  | i2cTransfer =>
    obtain ⟨hsize, hreq⟩ := of_refusal hreq
    obtain ⟨hread, hle⟩ := (hin .i2cReadSize (by decide)).read_default (d := 0) rfl
    simp only [RelayField.Takes] at hle
    rw [← toUInt16_toNat (by omega)] at hread
    refine ⟨{ numbers := [(.i2cReadSize, _)], payload := some msg.payload, transactionNum }, ?_, says_number hread,
      says_payload, rfl⟩
    rw [readRequest, i2cDecodeTransferRequest_encoded hreq]
    rfl
  | uartRead =>
    obtain ⟨readSize, hsize, hreq⟩ := Option.bind_eq_some_iff.mp hreq
    obtain ⟨hread, hle⟩ := (hin .uartReadSize (by decide)).read hsize
    simp only [RelayField.Takes] at hle
    rw [← toUInt16_toNat (by omega)] at hread hle
    refine ⟨{ numbers := [(.uartReadSize, _)], transactionNum }, ?_, says_number hread, nofun, rfl⟩
    rw [readRequest, uartDecodeReadRequest_encoded hle hreq]
    rfl
  | adcRead =>
    obtain ⟨hread, hle⟩ := (hin .adcReadSize (by decide)).read_default (d := UInt32.ofNat adcValueLen) rfl
    simp only [RelayField.Takes] at hle
    rw [← toUInt16_toNat (by omega)] at hread hle
    refine ⟨{ numbers := [(.adcReadSize, _)], transactionNum }, ?_, says_number hread, nofun, rfl⟩
    rw [readRequest, adcDecodeReadRequest_encoded hle hreq]
    rfl
  | canFrame =>
    obtain ⟨frameFormat, hformat, hreq⟩ := Option.bind_eq_some_iff.mp hreq
    obtain ⟨arbitrationId, hid, hreq⟩ := Option.bind_eq_some_iff.mp hreq
    -- of the range of the format only its upper end is needed: the encoder has checked the id
    obtain ⟨hf, hfmax⟩ := (hin .canFrameFormat (by decide)).read hformat
    obtain ⟨hi, -⟩ := (hin .canArbitrationId (by decide)).read hid
    refine ⟨{ numbers := [(.canFrameFormat, _), (.canArbitrationId, _)], payload := some msg.payload, transactionNum },
      ?_, says_numbers hf hi, says_payload, rfl⟩
    have hdec := (canDecodeFrameRequest_encoded_iff hreq).mpr (UInt32.le_iff_toNat_le.mpr hfmax)
    rw [readRequest, hdec]
    rfl
  | iseledCommand =>
    obtain ⟨hsize, hreq⟩ := of_refusal hreq
    obtain ⟨hread, hle⟩ := (hin .iseledReadSize (by decide)).read_default (d := 0) rfl
    simp only [RelayField.Takes] at hle
    split at hreq
    · rw [← toUInt16_toNat (by omega)] at hread
      refine ⟨{ numbers := [(.iseledReadSize, _)], payload := some msg.payload, transactionNum }, ?_, says_number hread,
        says_payload, rfl⟩
      rw [readRequest, iseledDecodeReadRequest_encoded hreq]
      rfl
    · -- a read size of 0 is sent as a command, which carries none
      rename_i hzero
      have hzero' : (msg.getU32Default RelayField.iseledReadSize.key 0).toNat = 0 := by
        rw [show msg.getU32Default RelayField.iseledReadSize.key 0 = 0 from not_not.mp hzero]
        rfl
      rw [hzero'] at hread
      refine ⟨{ numbers := [(.iseledReadSize, 0)], payload := some msg.payload, transactionNum }, ?_, says_number hread,
        says_payload, rfl⟩
      obtain ⟨hwrong, hdec⟩ := iseledDecodeCommandRequest_encoded hreq
      rw [readRequest, hwrong, hdec]
      rfl
  | mdioRead =>
    obtain ⟨addr, haddr, hreq⟩ := Option.bind_eq_some_iff.mp hreq
    obtain ⟨wordCount, hcount, hreq⟩ := Option.bind_eq_some_iff.mp hreq
    have hsaid := mdioAddrOf_says haddr fun f hf => hin f (List.mem_append_left [RelayField.mdioWordCount] hf :
      f ∈ AdaptOp.mdioWrite.fields ++ [.mdioWordCount])
    obtain ⟨hc, -⟩ := (hin .mdioWordCount (by decide)).read hcount
    refine ⟨{ numbers := addr.numbers ++ [(.mdioWordCount, wordCount.toNat)], transactionNum }, ?_, ?_, nofun, rfl⟩
    · rw [readRequest, mdioDecodeReadRequest_encoded hreq]
      rfl
    · intro f hf
      rcases List.mem_append.mp (show f ∈ AdaptOp.mdioWrite.fields ++ [.mdioWordCount] from hf) with hf | hf
      · obtain ⟨n, hn, hsays⟩ := hsaid f hf
        exact ⟨n, List.mem_append_left _ hn, hsays⟩
      · obtain rfl := List.mem_singleton.mp hf
        exact ⟨_, List.mem_append_right _ (List.mem_singleton.mpr rfl), hc⟩
  | mdioWrite =>
    obtain ⟨addr, haddr, -⟩ := Option.bind_eq_some_iff.mp hreq
    obtain ⟨-, heven, -, hreq⟩ := (requestOf_mdioWrite haddr).mp hreq
    refine ⟨{ numbers := addr.numbers, payload := some msg.payload, transactionNum }, ?_, mdioAddrOf_says haddr hin,
      says_payload, rfl⟩
    rw [readRequest, mdioDecodeWriteRequest_encoded hreq, mdioPackWords_payloadWords heven]
    rfl
  | discovery =>
    obtain ⟨hread, hle⟩ := (hin .discoveryReadSize (by decide)).read_default
      (d := UInt32.ofNat discoveryGeneralSliceLen) rfl
    simp only [RelayField.Takes] at hle
    rw [← toUInt8_toNat (by omega)] at hread
    refine ⟨{ numbers := [(.discoveryReadSize, _)], transactionNum }, ?_, says_number hread, nofun, rfl⟩
    rw [readRequest, discoveryDecodeRequest_encoded hreq]
    rfl

/-- The mapping is faithful exactly to the messages that make no request, and to those whose numbers can all be sent. -/
theorem request_faithful_iff (op : AdaptOp) (byteBusId : ByteBusId) (requester : StreamId) (msg : RelayMessage)
    (transactionNum : UInt8) :
    Faithful op byteBusId requester msg transactionNum ↔ (Buildable op msg → ∀ f ∈ op.fields, f.InRange msg) := by
  have hreq {frame : Octets} : messageToRequest op byteBusId requester msg transactionNum = .ok frame ↔
      requestOf op byteBusId requester msg transactionNum = some frame := by
    rw [messageToRequest]
    split
    · rename_i hnone
      rw [hnone]
      exact ⟨nofun, nofun⟩
    · rename_i hsome
      rw [hsome, Except.ok.injEq, Option.some.injEq]
  constructor
  · intro h hbuild f hf
    obtain ⟨frame, hframe⟩ := requestOf_isSome hbuild
    obtain ⟨r, hread, hsays⟩ := h frame (hreq.mpr hframe)
    obtain ⟨n, hn, hint⟩ := hsays.numbers f hf
    exact ⟨n, hint, readRequest_takes hread _ hn⟩
  · intro h frame hframe
    exact request_says (hreq.mp hframe) (h (buildable_of_requestOf (hreq.mp hframe)))

/-- A message with one entry. -/
def oneEntry (key value : String) (payload : Octets) : RelayMessage := { payload, entries := [(key, value)] }

/-- A UART read of 5000 octets is sent as one of 904; an SPI transfer on channel 8 as one on channel 0; a GPIO write whose
    semantics are no number as one of semantics 0; and a GPIO write of semantics 4 is not accepted. -/
theorem request_not_faithful :
    (∃ frame, messageToRequest .uartRead 5 (.fromU64 1) (oneEntry "rcp.uart.read_size" "5000" []) 7 = .ok frame ∧
      uartDecodeReadRequest frame 5 = .ok (904, 7)) ∧
    (∃ frame, messageToRequest .spiTransfer 5 (.fromU64 1) (oneEntry "rcp.spi.channel" "8" [1]) 7 = .ok frame ∧
      spiDecodeTransferRequest frame 5 = .ok ({ channel := 0, txData := [1], readSize := 1 }, 7)) ∧
    (∃ frame, messageToRequest .gpioWrite 5 (.fromU64 1) (oneEntry "rcp.gpio.evt" "low" [0, 0, 0, 1]) 7 = .ok frame ∧
      gpioDecodeWriteRequest frame 5 = .ok (1, 0, 7)) ∧
    (∃ frame, messageToRequest .gpioWrite 5 (.fromU64 1) (oneEntry "rcp.gpio.evt" "4" [0, 0, 0, 1]) 7 = .ok frame ∧
      gpioDecodeWriteRequest frame 5 = .error .reservedEvt) ∧
    ¬Faithful .uartRead 5 (.fromU64 1) (oneEntry "rcp.uart.read_size" "5000" []) 7 := by
  refine ⟨⟨_, rfl, by decide⟩, ⟨_, rfl, by decide⟩, ⟨_, rfl, by decide⟩, ⟨_, rfl, by decide⟩, ?_⟩
  intro h
  obtain ⟨r, hread, hsays⟩ := h _ rfl
  obtain rfl : { numbers := [(.uartReadSize, 904)], transactionNum := 7 } = r :=
    Option.some.inj ((by decide : _ = _).symm.trans hread)
  obtain ⟨n, hn, hint⟩ := hsays.numbers .uartReadSize (by decide)
  obtain ⟨-, rfl⟩ := Prod.mk.inj (List.mem_singleton.mp hn)
  exact absurd hint (by decide)

end Rcp
