import Rcp.Adapt
import Rcp.Theorems.FrameFormats

/-! The responses the relay takes: of each operation, exactly the frames whose payload has the shape that its endpoint
    type answers with. Whether the header announces an error or an acknowledge is not looked at. -/

namespace Rcp

/-! ### Acceptance -/

/-- A decoder has a result. -/
def Accepted {ε α : Type} (x : Except ε α) : Prop := ∃ a, x = .ok a

section accepted
variable {ε α β : Type}

@[simp] theorem accepted_ok (a : α) : Accepted (.ok a : Except ε α) := ⟨a, rfl⟩

@[simp] theorem accepted_error (e : ε) : ¬Accepted (.error e : Except ε α) := nofun

theorem accepted_bind (x : Except ε α) (k : α → Except ε β) : Accepted (x >>= k) ↔ ∃ a, x = .ok a ∧ Accepted (k a) := by
  cases x with
  | error e => exact ⟨nofun, nofun⟩
  | ok a => exact ⟨fun h => ⟨a, rfl, h⟩, fun ⟨_, ha, h⟩ => by rwa [Except.ok.inj ha]⟩

theorem accepted_guard {c : Prop} [Decidable c] (e : ε) (x : Except ε α) :
    Accepted (if c then .error e else x) ↔ ¬c ∧ Accepted x := by
  by_cases hc : c
  · simp only [hc, if_true, accepted_error, not_true_eq_false, false_and]
  · simp only [hc, if_false, not_false_eq_true, true_and]

end accepted

theorem accepted_replyMessage {ε α : Type} (decoded : Except ε (EpReply α)) (payload : α → Octets) (nowMs : UInt64)
    (annotate : α → RelayMessage → RelayMessage) :
    Accepted (replyMessage decoded payload nowMs annotate) ↔ Accepted decoded := by
  cases decoded with
  | error e => exact ⟨nofun, nofun⟩
  | ok r => exact ⟨fun _ => accepted_ok r, fun _ => accepted_ok _⟩

theorem accepted_responseToMessage {op : AdaptOp} {byteBusId : ByteBusId} {b : Octets} {nowMs : UInt64} :
    Accepted (responseToMessage op byteBusId b nowMs) ↔ Accepted (responseToMessageImpl op byteBusId b nowMs) := by
  rw [responseToMessage]
  cases responseToMessageImpl op byteBusId b nowMs with
  | error e => exact ⟨nofun, nofun⟩
  | ok msg => exact ⟨fun _ => accepted_ok msg, fun _ => accepted_ok _⟩

/-! ### Shapes of responses -/

/-- A payload that a CAN frame is read from. -/
def CanPayloadTaken (p : Octets) : Prop :=
  canFrameFormatValid (canReadFrameFormat p).toUInt8 = true ∧ canPrefixLenFor (canReadFrameFormat p) ≤ p.length ∧
    canArbitrationIdValid (canReadFrameFormat p) (getU32 p 0 &&& 0x1FFFFFFF) = true

instance (p : Octets) : Decidable (CanPayloadTaken p) := by
  unfold CanPayloadTaken
  exact inferInstance

/-- The responses that have the shape of an operation's responses. `err` is no part of it, and of `evt` only what a type
    carries in it. -/
def AdaptOp.Takes (op : AdaptOp) (r : EpResponse) : Prop :=
  match op with
  | uartWrite | uartRead | i2cTransfer | linCommand | iseledCommand => True
  | spiTransfer => spiChannelValid (r.info.evt &&& 0x7) = true
  | gpioRead | gpioWrite => r.payload.length = gpioPayloadLen
  | pwmOutRead | pwmOutWrite | pwmInRead => r.payload.length = pwmPayloadLen
  | adcRead => r.payload.length ≠ 0 ∧ r.payload.length % 2 = 0 ∧ r.payload.length / 2 ≤ adaptAdcMaxValues
  | canFrame => Acf.evtRow2IsPlain r.info.evt = true ∧ CanPayloadTaken r.payload
  | mdioRead | mdioWrite => r.payload.length % 2 = 0 ∧ r.payload.length / 2 ≤ mdioMaxBurstWords
  | wakeupWakeup => r.info.acfMsgType = Acf.msgTypeAbb ∧ r.payload.head? = some wakeupWakeupOpcode
  | wakeupSleepcmd | discovery => False

theorem accepted_mdio (b : Octets) (byteBusId : ByteBusId) :
    Accepted (mdioDecodeWordsResponse b byteBusId) ↔
      ∃ r, epDecodeResponse b byteBusId = .ok r ∧ r.payload.length % 2 = 0 ∧ r.payload.length / 2 ≤ mdioMaxBurstWords := by
  rw [mdioDecodeWordsResponse, accepted_bind]
  refine exists_congr fun r => and_congr_right fun _ => ?_
  by_cases heven : r.payload.length % 2 = 0
  · simp only [mdioWordCountOf, heven, ne_eq, not_true_eq_false, if_false, accepted_guard, accepted_ok, gt_iff_lt,
      Nat.not_lt, and_true, true_and]
  · simp only [mdioWordCountOf, heven, ne_eq, not_false_eq_true, if_true, accepted_error, false_and]

theorem accepted_can (b : Octets) (byteBusId : ByteBusId) :
    Accepted (canDecodeFrameResponse b byteBusId) ↔
      ∃ r, epDecodeResponse b byteBusId = .ok r ∧ Acf.evtRow2IsPlain r.info.evt = true ∧ CanPayloadTaken r.payload := by
  rw [canDecodeFrameResponse, accepted_bind]
  refine exists_congr fun r => and_congr_right fun _ => ?_
  rw [accepted_guard, Bool.not_eq_true', Bool.not_eq_false, accepted_bind]
  refine and_congr_right fun _ => ⟨?_, ?_⟩
  · rintro ⟨f, hf, -⟩
    obtain ⟨hvalid, hlong, hid, -⟩ := canDecodeReassembled_eq_ok.mp hf
    exact ⟨hvalid, hlong, hid⟩
  · rintro ⟨hvalid, hlong, hid⟩
    exact ⟨_, canDecodeReassembled_eq_ok.mpr ⟨hvalid, hlong, hid, rfl⟩, accepted_ok _⟩

/-- What is read of a message of ACF_ABB. -/
theorem decodeAbb_of_epDecodeMessage {b : Octets} {r : EpResponse} (h : epDecodeMessage b = .ok r)
    (htype : r.info.acfMsgType = Acf.msgTypeAbb) : Acf.decodeAbb b = .ok (r.info, r.payload) := by
  rw [epDecodeMessage] at h
  split at h
  · cases h
  split at h
  · split at h
    · cases h
    · rename_i hdr payload hdec
      obtain rfl := Except.ok.inj h
      obtain ⟨hgbb, -, -, hinfo, -⟩ := Acf.decodeGbb_eq_ok hdec
      rw [hinfo] at htype
      exact absurd (hgbb.symm.trans htype) (by decide)
  · split at h
    · cases h
    · rename_i hdr payload hdec
      obtain rfl := Except.ok.inj h
      exact hdec

theorem wakeupDecodeAbb_eq_ok {b payload : Octets} {byteBusId : ByteBusId} {hdr : Acf.ByteMessageInfo} :
    wakeupDecodeAbb b byteBusId = .ok (hdr, payload) ↔
      Acf.decodeAbb b = .ok (hdr, payload) ∧ hdr.byteBusId = byteBusId := by
  rw [wakeupDecodeAbb]
  rcases Acf.decodeAbb b with e | ⟨hdr', payload'⟩
  · cases e <;> simp
  · by_cases hbus : hdr'.byteBusId = byteBusId
    · simp only [hbus, ne_eq, not_true_eq_false, if_false, Except.ok.injEq, Prod.mk.injEq, iff_self_and]
      rintro ⟨rfl, -⟩
      exact hbus
    · simp only [hbus, ne_eq, not_false_eq_true, if_true, reduceCtorEq, Except.ok.injEq, Prod.mk.injEq, false_iff,
        not_and, and_imp]
      rintro rfl -
      exact hbus

theorem accepted_wakeup (b : Octets) (byteBusId : ByteBusId) :
    Accepted (wakeupDecodeWakeupMessage b byteBusId) ↔
      ∃ r, epDecodeResponse b byteBusId = .ok r ∧ r.info.acfMsgType = Acf.msgTypeAbb ∧
        r.payload.head? = some wakeupWakeupOpcode := by
  have hopcode (hdr : Acf.ByteMessageInfo) (payload : Octets) :
      Accepted (if payload.length < 1 then .error .shortFrame
        else if payload.at 0 ≠ wakeupWakeupOpcode then .error .badOpcode else .ok hdr.transactionNum :
          Except WakeupErrc UInt8) ↔ payload.head? = some wakeupWakeupOpcode := by
    cases payload with
    | nil => simp
    | cons a rest => by_cases ha : a = wakeupWakeupOpcode <;> simp [Octets.at, ha]
  rw [wakeupDecodeWakeupMessage, accepted_bind]
  constructor
  · rintro ⟨⟨hdr, payload⟩, habb, hacc⟩
    obtain ⟨habb, hbus⟩ := wakeupDecodeAbb_eq_ok.mp habb
    refine ⟨_, epDecodeResponse_eq_ok.mpr ⟨epDecodeMessage_abb habb, hbus⟩, ?_, (hopcode hdr payload).mp hacc⟩
    obtain ⟨htype, -, -, rfl, -⟩ := Acf.decodeAbb_eq_ok habb
    exact htype
  · rintro ⟨r, hr, htype, hhead⟩
    obtain ⟨hr, hbus⟩ := epDecodeResponse_eq_ok.mp hr
    exact ⟨(r.info, r.payload), wakeupDecodeAbb_eq_ok.mpr ⟨decodeAbb_of_epDecodeMessage hr htype, hbus⟩,
      (hopcode r.info r.payload).mpr hhead⟩

/-- The relay takes exactly the responses of an operation's shape. -/
theorem accepted_response {op : AdaptOp} (hsleep : op ≠ .wakeupSleepcmd) (hdiscovery : op ≠ .discovery)
    {byteBusId : ByteBusId} {b : Octets} {nowMs : UInt64} :
    Accepted (responseToMessage op byteBusId b nowMs) ↔ ∃ r, epDecodeResponse b byteBusId = .ok r ∧ op.Takes r := by
  rw [accepted_responseToMessage]
  cases op with
  | wakeupSleepcmd => exact absurd rfl hsleep
  | discovery => exact absurd rfl hdiscovery
  | gpioRead | gpioWrite =>
    rw [responseToMessageImpl, accepted_replyMessage, gpioDecodeResponse, accepted_bind]
    simp only [accepted_guard, accepted_ok, and_true, not_not, ne_eq, AdaptOp.Takes]
  | pwmOutRead | pwmOutWrite =>
    rw [responseToMessageImpl, accepted_replyMessage, pwmOutDecodeResponse, accepted_bind]
    simp only [accepted_guard, accepted_ok, and_true, not_not, ne_eq, AdaptOp.Takes]
  | pwmInRead =>
    rw [responseToMessageImpl, accepted_replyMessage, pwmInDecodeResponse, accepted_bind]
    simp only [accepted_guard, accepted_ok, and_true, not_not, ne_eq, AdaptOp.Takes]
  | spiTransfer =>
    rw [responseToMessageImpl, accepted_replyMessage, spiDecodeResponse, accepted_bind]
    simp only [accepted_guard, accepted_ok, and_true, Bool.not_eq_true', Bool.not_eq_false, AdaptOp.Takes]
  | i2cTransfer =>
    rw [responseToMessageImpl, accepted_replyMessage, i2cDecodeResponse, accepted_bind]
    simp only [accepted_ok, AdaptOp.Takes]
  | uartWrite =>
    rw [responseToMessageImpl, accepted_replyMessage, uartDecodeWriteResponse, accepted_bind]
    simp only [accepted_ok, AdaptOp.Takes]
  | uartRead =>
    rw [responseToMessageImpl, accepted_replyMessage, uartDecodeReadResponse, accepted_bind]
    simp only [accepted_ok, AdaptOp.Takes]
  | linCommand =>
    rw [responseToMessageImpl, accepted_replyMessage, linDecodeResponse, accepted_bind]
    simp only [accepted_ok, AdaptOp.Takes]
  | iseledCommand =>
    rw [responseToMessageImpl, accepted_replyMessage, iseledDecodeResponse, accepted_bind]
    simp only [accepted_ok, AdaptOp.Takes]
  | adcRead =>
    rw [responseToMessageImpl, accepted_replyMessage, adcDecodeResponse, accepted_bind]
    simp only [accepted_guard, accepted_ok, and_true, not_or, not_not, ne_eq, gt_iff_lt, Nat.not_lt, and_assoc,
      adcValueLen, AdaptOp.Takes]
  | canFrame => rw [responseToMessageImpl, accepted_replyMessage, accepted_can]; rfl
  | mdioRead => rw [responseToMessageImpl, accepted_replyMessage, mdioDecodeReadResponse, accepted_mdio]; rfl
  | mdioWrite => rw [responseToMessageImpl, accepted_replyMessage, mdioDecodeWriteResponse, accepted_mdio]; rfl
  | wakeupWakeup =>
    have himpl : Accepted (responseToMessageImpl .wakeupWakeup byteBusId b nowMs) ↔
        Accepted (wakeupDecodeWakeupMessage b byteBusId) := by
      rw [responseToMessageImpl]
      cases wakeupDecodeWakeupMessage b byteBusId with
      | error e => exact ⟨nofun, nofun⟩
      | ok n => exact ⟨fun _ => accepted_ok n, fun _ => accepted_ok _⟩
    rw [himpl, accepted_wakeup]
    rfl

/-! ### Errors and acknowledges -/

/-- A header of a response that is neither an error nor an acknowledge. -/
def Acf.ByteMessageInfo.IsData (hdr : Acf.ByteMessageInfo) : Prop :=
  hdr.err = 0 ∧ classifyResponse hdr ≠ .acknowledge ∧ classifyResponse hdr ≠ .error

instance (hdr : Acf.ByteMessageInfo) : Decidable hdr.IsData := by
  unfold Acf.ByteMessageInfo.IsData
  exact inferInstance

/-- The header that is decoded is that of the frame, but for the timestamp's validity. -/
theorem epDecodeMessage_isData {b : Octets} {r : EpResponse} (h : epDecodeMessage b = .ok r) :
    r.info.IsData ↔ (Acf.unpackHeader b).IsData := by
  rw [epDecodeMessage] at h
  split at h
  · cases h
  split at h
  · split at h
    · cases h
    · rename_i hdr payload hdec
      obtain rfl := Except.ok.inj h
      obtain ⟨-, -, -, hinfo, -⟩ := Acf.decodeGbb_eq_ok hdec
      rw [hinfo]
  · split at h
    · cases h
    · rename_i hdr payload hdec
      obtain rfl := Except.ok.inj h
      obtain ⟨-, -, -, hinfo, -⟩ := Acf.decodeAbb_eq_ok hdec
      rw [hinfo]
      rfl

/-- A response that is built without a timestamp is taken when the bus fits its field and the payload has the shape. -/
theorem accepted_built {op : AdaptOp} (hsleep : op ≠ .wakeupSleepcmd) (hdiscovery : op ≠ .discovery)
    {hdr : Acf.ByteMessageInfo} {payload b : Octets} {nowMs : UInt64} (h : Acf.encodeAbb hdr payload = some b) :
    Accepted (responseToMessage op hdr.byteBusId b nowMs) ↔
      hdr.byteBusId &&& 0x7FF = hdr.byteBusId ∧
        op.Takes { info := sentAbb hdr payload, payload, timed := false, timestamp := 0 } := by
  have hdec := epDecodeMessage_abb (decodeAbb_of_encodeAbb h)
  rw [accepted_response hsleep hdiscovery]
  constructor
  · rintro ⟨r, hr, htakes⟩
    obtain ⟨hr, hbus⟩ := epDecodeResponse_eq_ok.mp hr
    obtain rfl := Except.ok.inj (hdec.symm.trans hr)
    exact ⟨hbus, htakes⟩
  · rintro ⟨hbus, htakes⟩
    exact ⟨_, epDecodeResponse_eq_ok.mpr ⟨hdec, hbus⟩, htakes⟩

/-- The operations that take an error, an acknowledge, and a rejected acknowledge for data. -/
def AdaptOp.takesError : AdaptOp → Bool
  | uartWrite | uartRead | i2cTransfer | linCommand | iseledCommand | spiTransfer => true
  | _ => false

def AdaptOp.takesAcknowledge : AdaptOp → Bool
  | uartWrite | uartRead | i2cTransfer | linCommand | iseledCommand | mdioRead | mdioWrite => true
  | _ => false

def AdaptOp.takesRejection : AdaptOp → Bool
  | uartWrite | uartRead | i2cTransfer | linCommand | iseledCommand => true
  | _ => false

section built
variable {op : AdaptOp} {byteBusId : ByteBusId} {transactionNum : UInt8} {b : Octets} {nowMs : UInt64}

/-- One octet, or none, is no CAN frame. -/
theorem not_canPayloadTaken {p : Octets} (h : p.length < 4) : ¬CanPayloadTaken p := by
  rintro ⟨-, hlong, -⟩
  have := four_le_prefixLen (canReadFrameFormat p)
  omega

/-- No error code is the opcode of a wakeup message. -/
theorem code_ne_wakeupOpcode (error : WireError) : error.code ≠ wakeupWakeupOpcode := by
  cases error <;> decide

/-- An error code has the shape of the types that answer with any octets, and of SPI where the event is a channel. -/
theorem takes_octet (hdr : Acf.ByteMessageInfo) (error : WireError) (hsleep : op ≠ .wakeupSleepcmd)
    (hdiscovery : op ≠ .discovery) :
    op.Takes { info := sentAbb hdr [error.code], payload := [error.code], timed := false, timestamp := 0 } ↔
      op.takesRejection = true ∨ op = .spiTransfer ∧ spiChannelValid (hdr.evt &&& 0xF &&& 0x7) = true := by
  cases op with
  | wakeupSleepcmd => exact absurd rfl hsleep
  | discovery => exact absurd rfl hdiscovery
  | uartWrite | uartRead | i2cTransfer | linCommand | iseledCommand => exact ⟨fun _ => Or.inl rfl, fun _ => trivial⟩
  | spiTransfer => exact ⟨fun h => Or.inr ⟨rfl, h⟩, fun h => h.elim nofun And.right⟩
  | gpioRead | gpioWrite | pwmOutRead | pwmOutWrite | pwmInRead =>
    simp [AdaptOp.Takes, AdaptOp.takesRejection, gpioPayloadLen, pwmPayloadLen]
  | adcRead | mdioRead | mdioWrite => simp [AdaptOp.Takes, AdaptOp.takesRejection]
  | canFrame => simp [AdaptOp.Takes, AdaptOp.takesRejection, not_canPayloadTaken]
  | wakeupWakeup => simp [AdaptOp.Takes, AdaptOp.takesRejection, code_ne_wakeupOpcode]

theorem takes_error (hdr : Acf.ByteMessageInfo) (error : WireError) (hevt : hdr.evt = 0)
    (hsleep : op ≠ .wakeupSleepcmd) (hdiscovery : op ≠ .discovery) :
    op.Takes { info := sentAbb hdr [error.code], payload := [error.code], timed := false, timestamp := 0 } ↔
      op.takesError = true := by
  have hchannel : spiChannelValid (0 &&& 0xF &&& 0x7) = true := by decide
  rw [takes_octet hdr error hsleep hdiscovery, hevt, and_iff_left hchannel]
  cases op <;> decide

theorem takes_rejection (hdr : Acf.ByteMessageInfo) (error : WireError) (hevt : hdr.evt = Acf.evtAcknowledge)
    (hsleep : op ≠ .wakeupSleepcmd) (hdiscovery : op ≠ .discovery) :
    op.Takes { info := sentAbb hdr [error.code], payload := [error.code], timed := false, timestamp := 0 } ↔
      op.takesRejection = true := by
  have hchannel : spiChannelValid (Acf.evtAcknowledge &&& 0xF &&& 0x7) = false := by decide
  rw [takes_octet hdr error hsleep hdiscovery, hevt, hchannel]
  simp

theorem takes_acknowledge (hdr : Acf.ByteMessageInfo) (hevt : hdr.evt = Acf.evtAcknowledge)
    (hsleep : op ≠ .wakeupSleepcmd) (hdiscovery : op ≠ .discovery) :
    op.Takes { info := sentAbb hdr [], payload := [], timed := false, timestamp := 0 } ↔ op.takesAcknowledge = true := by
  cases op with
  | wakeupSleepcmd => exact absurd rfl hsleep
  | discovery => exact absurd rfl hdiscovery
  | uartWrite | uartRead | i2cTransfer | linCommand | iseledCommand => exact ⟨fun _ => rfl, fun _ => trivial⟩
  | spiTransfer =>
    simp only [AdaptOp.Takes, sentAbb_evt, hevt]
    exact ⟨fun h => absurd h (by decide), nofun⟩
  | gpioRead | gpioWrite | pwmOutRead | pwmOutWrite | pwmInRead => exact ⟨nofun, nofun⟩
  | adcRead => exact ⟨fun h => absurd rfl h.1, nofun⟩
  | mdioRead | mdioWrite => exact ⟨fun _ => rfl, fun _ => ⟨rfl, (by decide : 0 / 2 ≤ mdioMaxBurstWords)⟩⟩
  | canFrame => exact ⟨fun h => absurd h.2 (not_canPayloadTaken (by decide : 0 < 4)), nofun⟩
  | wakeupWakeup => exact ⟨fun h => absurd h.2 nofun, nofun⟩

end built

/-- What the relay takes is data exactly when no response of the operation's shape announces otherwise; and the errors,
    acknowledges and rejections that are built are refused exactly by the operations whose shape they do not have, and on
    a bus that its field cannot carry. -/
theorem response_data_iff {op : AdaptOp} (hsleep : op ≠ .wakeupSleepcmd) (hdiscovery : op ≠ .discovery)
    (byteBusId : ByteBusId) (nowMs : UInt64) :
    (∀ b, (Accepted (responseToMessage op byteBusId b nowMs) → (Acf.unpackHeader b).IsData) ↔
      ∀ r, epDecodeResponse b byteBusId = .ok r → op.Takes r → r.info.IsData) ∧
    (∀ transactionNum error b, Acf.buildErrorResponse byteBusId transactionNum error = some b →
      (¬Accepted (responseToMessage op byteBusId b nowMs) ↔ op.takesError = false ∨ byteBusId &&& 0x7FF ≠ byteBusId)) ∧
    (∀ transactionNum b, Acf.buildAcknowledgeResponse byteBusId transactionNum = some b →
      (¬Accepted (responseToMessage op byteBusId b nowMs) ↔
        op.takesAcknowledge = false ∨ byteBusId &&& 0x7FF ≠ byteBusId)) ∧
    (∀ transactionNum error b, Acf.buildAcknowledgeRejectedResponse byteBusId transactionNum error = some b →
      (¬Accepted (responseToMessage op byteBusId b nowMs) ↔
        op.takesRejection = false ∨ byteBusId &&& 0x7FF ≠ byteBusId)) := by
  have hrefused {takes : Bool} {P Q : Prop} (hQ : Q ↔ takes = true) : (¬(P ∧ Q) ↔ takes = false ∨ ¬P) := by
    rw [hQ, Classical.not_and_iff_not_or_not, Bool.not_eq_true, or_comm]
  refine ⟨fun b => ?_, fun transactionNum error b h => ?_, fun transactionNum b h => ?_,
    fun transactionNum error b h => ?_⟩
  · rw [accepted_response hsleep hdiscovery]
    constructor
    · intro h r hr htakes
      exact (epDecodeMessage_isData (epDecodeResponse_eq_ok.mp hr).1).mpr (h ⟨r, hr, htakes⟩)
    · rintro h ⟨r, hr, htakes⟩
      exact (epDecodeMessage_isData (epDecodeResponse_eq_ok.mp hr).1).mp (h r hr htakes)
  · rw [accepted_built hsleep hdiscovery h]
    exact hrefused (takes_error _ error rfl hsleep hdiscovery)
  · rw [accepted_built hsleep hdiscovery h]
    exact hrefused (takes_acknowledge _ rfl hsleep hdiscovery)
  · rw [accepted_built hsleep hdiscovery h]
    exact hrefused (takes_rejection _ error rfl hsleep hdiscovery)

/-- GPIO refuses all three. -/
theorem response_data_gpio :
    ∃ b, Acf.buildErrorResponse 5 7 .invalidParameter = some b ∧ ¬Accepted (responseToMessage .gpioRead 5 b 0) :=
  ⟨_, rfl, ((response_data_iff (by decide) (by decide) 5 0).2.1 7 .invalidParameter _ rfl).mpr (Or.inl rfl)⟩

/-- The error code of an error response becomes the payload of a UART read; an acknowledge an empty one. -/
theorem response_not_data :
    (∃ b msg, Acf.buildErrorResponse 5 7 .invalidParameter = some b ∧ responseToMessage .uartRead 5 b 0 = .ok msg ∧
      msg.payload = [15] ∧ (Acf.unpackHeader b).err = 1) ∧
    (∃ b msg, Acf.buildAcknowledgeResponse 5 7 = some b ∧ responseToMessage .mdioRead 5 b 0 = .ok msg ∧
      msg.payload = [] ∧ classifyResponse (Acf.unpackHeader b) = .acknowledge) ∧
    ∃ b msg, Acf.buildAcknowledgeRejectedResponse 5 7 .invalidParameter = some b ∧
      responseToMessage .linCommand 5 b 0 = .ok msg ∧ msg.payload = [15] ∧
      classifyResponse (Acf.unpackHeader b) = .acknowledge :=
  ⟨⟨_, _, rfl, rfl, rfl, by decide⟩, ⟨_, _, rfl, rfl, rfl, by decide⟩, ⟨_, _, rfl, rfl, rfl, by decide⟩⟩

end Rcp
