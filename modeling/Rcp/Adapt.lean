import Rcp.Adc
import Rcp.Can
import Rcp.Discovery
import Rcp.Gpio
import Rcp.I2c
import Rcp.Iseled
import Rcp.Lin
import Rcp.Mdio
import Rcp.Pwm
import Rcp.Relay
import Rcp.Spi
import Rcp.Uart
import Rcp.Wakeup

/-! The mapping between relay messages and the wire (`adapt.c`): a message becomes a request of an operation, and a
    response becomes a message. -/

namespace Rcp

/-- `rcp_adapt_op_t`. -/
inductive AdaptOp where
  | gpioRead | gpioWrite | spiTransfer | i2cTransfer | uartWrite | uartRead | adcRead | pwmOutRead | pwmOutWrite
  | pwmInRead | linCommand | canFrame | iseledCommand | mdioRead | mdioWrite | wakeupSleepcmd | wakeupWakeup
  | discovery
deriving DecidableEq, Repr

/-- `rcp_adapt_ep_kind_t`. -/
inductive AdaptEpKind where
  | gpio | spi | i2c | uart | adc | pwmOut | pwmIn | lin | can | iseled | mdio | wakeup | discovery
deriving DecidableEq, Repr

/-- `rcp_adapt_errc_t` without its success value. -/
inductive AdaptErrc where
  | closed | timeout | encode | decode | transport | notSupported
deriving DecidableEq, Repr

namespace AdaptOp

/-- `rcp_adapt_op_kind`. -/
def kind : AdaptOp → AdaptEpKind
  | gpioRead | gpioWrite => .gpio
  | spiTransfer => .spi
  | i2cTransfer => .i2c
  | uartWrite | uartRead => .uart
  | adcRead => .adc
  | pwmOutRead | pwmOutWrite => .pwmOut
  | pwmInRead => .pwmIn
  | linCommand => .lin
  | canFrame => .can
  | iseledCommand => .iseled
  | mdioRead | mdioWrite => .mdio
  | wakeupSleepcmd | wakeupWakeup => .wakeup
  | discovery => .discovery

/-- `OP_NAMES`. -/
def names : List (AdaptOp × String) :=
  [(gpioRead, "gpio_read"), (gpioWrite, "gpio_write"), (spiTransfer, "spi_transfer"), (i2cTransfer, "i2c_transfer"),
   (uartWrite, "uart_write"), (uartRead, "uart_read"), (adcRead, "adc_read"), (pwmOutRead, "pwm_out_read"),
   (pwmOutWrite, "pwm_out_write"), (pwmInRead, "pwm_in_read"), (linCommand, "lin_command"), (canFrame, "can_frame"),
   (iseledCommand, "iseled_command"), (mdioRead, "mdio_read"), (mdioWrite, "mdio_write"),
   (wakeupSleepcmd, "wakeup_sleepcmd"), (wakeupWakeup, "wakeup_wakeup"), (discovery, "discovery")]

/-- `rcp_adapt_op_from_string`. -/
def fromString (name : String) : Option AdaptOp := (names.find? (·.2 == name)).map Prod.fst

end AdaptOp

/-- `RCP_ADAPT_ADC_MAX_VALUES`. -/
def adaptAdcMaxValues : Nat := 64

/-! ### Requests -/

/-- What `rcp_message_to_request` reads of the address of a register. -/
def mdioAddrOf (msg : RelayMessage) : Option MdioAddr := do
  let clause ← msg.getU32 "rcp.mdio.clause"
  let prtad ← msg.getU32 "rcp.mdio.prtad"
  let devad ← msg.getU32 "rcp.mdio.devad"
  let regad ← msg.getU32 "rcp.mdio.regad"
  return { clause, prtad := prtad.toUInt8, devad := devad.toUInt8, regad := regad.toUInt16 }

/-- The switch of `rcp_message_to_request`. -/
def requestOf (op : AdaptOp) (byteBusId : ByteBusId) (requesterStreamId : StreamId) (msg : RelayMessage)
    (transactionNum : UInt8) : Option Octets :=
  match op with
  | .discovery =>
    let readSize := msg.getU32Default "rcp.discovery.read_size" (UInt32.ofNat discoveryGeneralSliceLen)
    discoveryEncodeRequest requesterStreamId readSize.toUInt8 transactionNum
  | .gpioRead => gpioEncodeReadRequest byteBusId transactionNum
  | .gpioWrite =>
    if msg.payload.length ≠ gpioPayloadLen then none else
    let evt := msg.getU32Default "rcp.gpio.evt" 0
    gpioEncodeWriteRequest byteBusId (getU32 msg.payload 0) evt transactionNum
  | .spiTransfer =>
    let channel := msg.getU32Default "rcp.spi.channel" 0
    let readSize := msg.getU32Default "rcp.spi.read_size" (UInt32.ofNat msg.payload.length)
    spiEncodeTransferRequest byteBusId
      { channel := channel.toUInt8, txData := msg.payload, readSize := readSize.toUInt16 } transactionNum
  | .i2cTransfer =>
    let readSize := msg.getU32Default "rcp.i2c.read_size" 0
    if readSize > i2cMaxReadSize.toUInt32 then none else
    i2cEncodeTransferRequest byteBusId
      { direction := if readSize ≠ 0 then .read else .write, txData := msg.payload, readSize := readSize.toUInt16 }
      transactionNum
  | .uartWrite => uartEncodeWriteRequest byteBusId msg.payload transactionNum
  | .uartRead => do
    let readSize ← msg.getU32 "rcp.uart.read_size"
    uartEncodeReadRequest byteBusId readSize.toUInt16 transactionNum
  | .adcRead =>
    let readSize := msg.getU32Default "rcp.adc.read_size" (UInt32.ofNat adcValueLen)
    adcEncodeReadRequest byteBusId readSize.toUInt16 transactionNum
  | .pwmOutRead => pwmOutEncodeReadRequest byteBusId transactionNum
  | .pwmOutWrite =>
    if msg.payload.length ≠ pwmPayloadLen then none else
    let evt := msg.getU32Default "rcp.pwm.evt" 0
    pwmOutEncodeWriteRequest byteBusId (getPwmValue msg.payload) evt transactionNum
  | .pwmInRead => pwmInEncodeReadRequest byteBusId transactionNum
  | .linCommand => linEncodeCommandRequest byteBusId msg.payload transactionNum
  | .canFrame => do
    let frameFormat ← msg.getU32 "rcp.can.frame_format"
    let arbitrationId ← msg.getU32 "rcp.can.arbitration_id"
    canEncodeFrameRequest byteBusId { frameFormat, arbitrationId, xlHeader := none, data := msg.payload } transactionNum
  | .iseledCommand =>
    let readSize := msg.getU32Default "rcp.iseled.read_size" 0
    if readSize > iseledMaxReadSize.toUInt32 then none else
    if readSize ≠ 0 then iseledEncodeReadRequest byteBusId msg.payload readSize.toUInt16 transactionNum
    else iseledEncodeCommandRequest byteBusId msg.payload transactionNum
  | .mdioRead => do
    let addr ← mdioAddrOf msg
    let wordCount ← msg.getU32 "rcp.mdio.word_count"
    mdioEncodeReadRequest byteBusId addr wordCount.toNat transactionNum
  | .mdioWrite => do
    let addr ← mdioAddrOf msg
    if msg.payload.length = 0 ∨ msg.payload.length % 2 ≠ 0 then none else
    let wordCount := msg.payload.length / 2
    if wordCount > mdioMaxBurstWords then none else
    mdioEncodeWriteRequest byteBusId addr ((List.range wordCount).map (mdioUnpackWordAt msg.payload)) transactionNum
  | .wakeupSleepcmd => wakeupEncodeSleepcmdRequest byteBusId transactionNum
  | .wakeupWakeup => wakeupEncodeWakeupMessage byteBusId transactionNum

/-- `rcp_message_to_request`. -/
def messageToRequest (op : AdaptOp) (byteBusId : ByteBusId) (requesterStreamId : StreamId) (msg : RelayMessage)
    (transactionNum : UInt8) : Except AdaptErrc Octets :=
  match requestOf op byteBusId requesterStreamId msg transactionNum with
  | none => .error .encode
  | some frame => .ok frame

/-! ### Responses -/

/-- `finish_timed_response`, where `nowMs` is what `rcp_wallclock_ms` returns. -/
def finishTimedResponse {α : Type} (r : EpReply α) (nowMs : UInt64) : RelayMessage :=
  let msg := { RelayMessage.init with protocol := .rcp, timestampMs := nowMs }
  let msg := msg.setBool "rcp.timed" r.timed
  let msg := if r.timed then msg.setNat "rcp.timestamp" r.timestamp.toNat else msg
  msg.setNat "rcp.transaction_num" r.transactionNum.toNat

/-- A message without a timestamp of the wire. -/
def untimedMessage (nowMs : UInt64) : RelayMessage :=
  { RelayMessage.init with protocol := .rcp, timestampMs := nowMs }

/-- `snprintf("%016llx", v)`. -/
def hex16 (v : UInt64) : String :=
  let digits := Nat.toDigits 16 v.toNat
  String.ofList (List.replicate (16 - digits.length) '0' ++ digits)

/-- The branch of a type whose response is a payload and perhaps some numbers. -/
def replyMessage {ε α : Type} (decoded : Except ε (EpReply α)) (payload : α → Octets) (nowMs : UInt64)
    (annotate : α → RelayMessage → RelayMessage) : Except AdaptErrc RelayMessage :=
  match decoded with
  | .error _ => .error .decode
  | .ok r => .ok (annotate r.value { finishTimedResponse r nowMs with payload := payload r.value })

/-- `response_to_message_impl`. -/
def responseToMessageImpl (op : AdaptOp) (byteBusId : ByteBusId) (b : Octets) (nowMs : UInt64) :
    Except AdaptErrc RelayMessage :=
  match op with
  | .discovery =>
    match discoveryDecodeResponse b with
    | .error _ => .error .decode
    | .ok result =>
      let msg := (untimedMessage nowMs).setId (hex16 result.serverStreamId.toU64)
      let msg := msg.setNat "rcp.discovery.magic" result.magic.toNat
      let msg := msg.setNat "rcp.discovery.svr_version" result.svrVersion.toNat
      let msg := msg.setNat "rcp.discovery.vendor_id" result.vendorId.toNat
      let msg := msg.setNat "rcp.discovery.device_id" result.deviceId.toNat
      .ok (msg.setNat "rcp.discovery.svr_ep_count" result.svrEpCount.toNat)
  | .gpioRead | .gpioWrite => replyMessage (gpioDecodeResponse b byteBusId) putU32 nowMs fun _ => id
  | .spiTransfer =>
    replyMessage (spiDecodeResponse b byteBusId) Prod.snd nowMs fun v msg => msg.setNat "rcp.spi.channel" v.1.toNat
  | .i2cTransfer =>
    replyMessage (i2cDecodeResponse b byteBusId) Prod.snd nowMs fun v msg =>
      msg.setNat "rcp.i2c.read_size" (if v.1 = .read then (UInt32.ofNat v.2.length).toNat else 0)
  | .uartWrite => replyMessage (uartDecodeWriteResponse b byteBusId) id nowMs fun _ => id
  | .uartRead => replyMessage (uartDecodeReadResponse b byteBusId) id nowMs fun _ => id
  | .adcRead =>
    replyMessage (adcDecodeResponse b byteBusId adaptAdcMaxValues) (·.flatMap putU16) nowMs fun values msg =>
      msg.setNat "rcp.adc.value_count" values.length
  | .pwmOutRead | .pwmOutWrite => replyMessage (pwmOutDecodeResponse b byteBusId) putPwmValue nowMs fun _ => id
  | .pwmInRead => replyMessage (pwmInDecodeResponse b byteBusId) putPwmValue nowMs fun _ => id
  | .linCommand => replyMessage (linDecodeResponse b byteBusId) id nowMs fun _ => id
  | .canFrame =>
    replyMessage (canDecodeFrameResponse b byteBusId) CanFrame.data nowMs fun f msg =>
      (msg.setNat "rcp.can.frame_format" f.frameFormat.toNat).setNat "rcp.can.arbitration_id" f.arbitrationId.toNat
  | .iseledCommand => replyMessage (iseledDecodeResponse b byteBusId) id nowMs fun _ => id
  | .mdioRead => replyMessage (mdioDecodeReadResponse b byteBusId) id nowMs fun _ => id
  | .mdioWrite => replyMessage (mdioDecodeWriteResponse b byteBusId) id nowMs fun _ => id
  | .wakeupSleepcmd =>
    match wakeupDecodeSleepcmdResponse b byteBusId with
    | .error _ => .error .decode
    | .ok (result, transactionNum) =>
      let msg := (untimedMessage nowMs).setNat "rcp.transaction_num" transactionNum.toNat
      .ok (msg.setNat "rcp.wakeup.result" (if result = .ok then 0 else 1))
  | .wakeupWakeup =>
    match wakeupDecodeWakeupMessage b byteBusId with
    | .error _ => .error .decode
    | .ok transactionNum => .ok ((untimedMessage nowMs).setNat "rcp.transaction_num" transactionNum.toNat)

/-- `rcp_response_to_message`. -/
def responseToMessage (op : AdaptOp) (byteBusId : ByteBusId) (b : Octets) (nowMs : UInt64) :
    Except AdaptErrc RelayMessage :=
  match responseToMessageImpl op byteBusId b nowMs with
  | .error e => .error e
  | .ok msg => .ok (if op ≠ .discovery then msg.setId (toString byteBusId.toNat) else msg)

end Rcp
