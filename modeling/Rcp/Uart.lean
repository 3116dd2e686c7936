import Rcp.EpFunc
import Rcp.EpCodec

/-! The UART endpoint (`ep_uart.c`): the padding of transferred octets, the functional configuration with its setters
    and its block of registers, and the codec of its messages. -/

namespace Rcp

def uartNrBitsMin : UInt8 := 1
def uartNrBitsMax : UInt8 := 8

/-- `rcp_ep_uart_nr_bits_valid`. -/
def uartNrBitsValid (nrBits : UInt8) : Bool := nrBits ≥ uartNrBitsMin && nrBits ≤ uartNrBitsMax

/-- `rcp_ep_uart_bit_pad_mask`. -/
def uartBitPadMask (nrBits : UInt8) : UInt8 :=
  if !uartNrBitsValid nrBits then 0 else
  if nrBits = 8 then 0xFF else ((1 : UInt32) <<< nrBits.toUInt32 - 1).toUInt8

/-- `rcp_ep_uart_apply_bit_padding`. -/
def uartApplyBitPadding (buf : Octets) (nrBits : UInt8) : Octets :=
  let mask := uartBitPadMask nrBits
  buf.map (· &&& mask)

/-- `rcp_ep_uart_parity_t`. -/
inductive UartParity where
  | none | odd | even
deriving DecidableEq, Repr

/-- `rcp_ep_uart_stop_bits_t`. -/
inductive UartStopBits where
  | one | two | oneHalf
deriving DecidableEq, Repr

/-- `rcp_ep_uart_trigger_t`. -/
inductive UartTrigger where
  | none | txFinalized | rxFinalized
deriving DecidableEq, Repr

/-- `rcp_ep_uart_functional_cfg_t`. -/
structure UartFunctionalCfg where
  common : EpFunctionalCfg := {}
  baudRate : UInt32 := 0
  uartNrBits : UInt8 := 0
  parity : UartParity := .none
  stopBits : UartStopBits := .one
  epRxBufferSize : UInt16 := 0
  uartTimeoutMs : UInt32 := 0
  epStatus : UInt16 := 0
  baudRateKbps : UInt16 := 0
  rtsEnable : Bool := false
  ctsEnable : Bool := false
  halfDuplex : Bool := false
  wireTimeoutBitTimes : UInt8 := 0
  trail : UInt8 := 0
  trigger : UartTrigger := .none
deriving DecidableEq, Repr

namespace UartFunctionalCfg

/-- `rcp_ep_uart_functional_cfg_init`. -/
def init : UartFunctionalCfg := { uartNrBits := uartNrBitsMax }

/-! ### The setters -/

section setters
variable (cfg : UartFunctionalCfg) (state : LifecycleState) (writer : FieldWriterCtx)

/-- `rcp_ep_uart_set_baud_rate`. -/
def setBaudRate (baudRate : UInt32) : Bool × UartFunctionalCfg := epSetField cfg { cfg with baudRate } state writer

/-- `rcp_ep_uart_set_frame_format`. -/
def setFrameFormat (nrBits : UInt8) (parity : UartParity) (stopBits : UartStopBits) : Bool × UartFunctionalCfg :=
  if !uartNrBitsValid nrBits then (false, cfg) else
  epSetField cfg { cfg with uartNrBits := nrBits, parity, stopBits } state writer

/-- `rcp_ep_uart_set_rx_buffer_size`. -/
def setRxBufferSize (rxBufferSize : UInt16) : Bool × UartFunctionalCfg :=
  epSetField cfg { cfg with epRxBufferSize := rxBufferSize } state writer

/-- `rcp_ep_uart_set_timeout`. -/
def setTimeout (timeoutMs : UInt32) : Bool × UartFunctionalCfg :=
  epSetField cfg { cfg with uartTimeoutMs := timeoutMs } state writer

/-- `rcp_ep_uart_set_trigger`. -/
def setTrigger (trigger : UartTrigger) : Bool × UartFunctionalCfg := epSetField cfg { cfg with trigger } state writer

end setters

end UartFunctionalCfg

/-! ### The register block -/

/-- `RCP_EP_UART_EP_FUNC_LEN`. -/
def uartEpFuncLen : Nat := 0x0D

/-- `RCP_EP_UART_REG_NR_BITS`. -/
def uartRegNrBits : Nat := 8

/-- `stop_bits_to_half_units`. -/
def UartStopBits.toHalfUnits : UartStopBits → UInt8
  | .two => 4
  | .oneHalf => 3
  | .one => 2

/-- `half_units_to_stop_bits`. -/
def UartStopBits.ofHalfUnits (halfUnits : UInt8) : UartStopBits :=
  if halfUnits = 3 then .oneHalf else if halfUnits ≥ 4 then .two else .one

/-- The octet of `RCP_EP_UART_REG_FLAGS`, by the bits `RCP_EP_UART_FLAG_*`. -/
def UartFunctionalCfg.flags (cfg : UartFunctionalCfg) : UInt8 :=
  (if cfg.parity ≠ .none then 0x01 else 0) ||| (if cfg.parity = .even then 0x02 else 0) |||
  (if cfg.rtsEnable then 0x04 else 0) ||| (if cfg.ctsEnable then 0x08 else 0) |||
  (if cfg.halfDuplex then 0x10 else 0)

/-- `rcp_ep_uart_render_registers`. -/
def uartRenderRegisters (cfg : UartFunctionalCfg) : Octets :=
  [UInt8.ofNat uartEpFuncLen, 0, cfg.common.enableClr, cfg.common.options] ++ putU16 cfg.epStatus ++
  putU16 cfg.baudRateKbps ++
  [cfg.uartNrBits, cfg.flags, cfg.stopBits.toHalfUnits, cfg.wireTimeoutBitTimes, cfg.trail]

/-- `parse_registers`. -/
def uartParseRegisters (cfg : UartFunctionalCfg) (block : Octets) : UartFunctionalCfg :=
  let flags := block.at 9
  { cfg with
    common := .parse (block.at 2) (block.at 3)
    epStatus := be16 block 4
    baudRateKbps := be16 block 6
    uartNrBits := block.at uartRegNrBits
    parity := if flags &&& 0x01 = 0 then .none else if flags &&& 0x02 ≠ 0 then .even else .odd
    rtsEnable := flags &&& 0x04 != 0
    ctsEnable := flags &&& 0x08 != 0
    halfDuplex := flags &&& 0x10 != 0
    stopBits := .ofHalfUnits (block.at 10)
    wireTimeoutBitTimes := block.at 11
    trail := block.at 12 }

/-- The block of the endpoint, with `reg_offset_read_only`. -/
def uartBlock : EpBlock UartFunctionalCfg where
  len := uartEpFuncLen
  render := uartRenderRegisters
  parse := uartParseRegisters
  readOnly addr := addr == 0 || addr == 1
  length_render _ := rfl

/-- `rcp_ep_uart_apply_reconfig`. -/
def uartApplyReconfig (cfg : UartFunctionalCfg) (payload : Octets) : Option EpReconfigErrc × UartFunctionalCfg :=
  epApplyReconfig uartBlock cfg payload

/-! ### Messages -/

/-- `rcp_ep_uart_encode_write_request`. -/
def uartEncodeWriteRequest (byteBusId : ByteBusId) (txData : Octets) (transactionNum : UInt8) : Option Octets :=
  Acf.encodeAbb { byteBusId, op := Acf.opWrite, evt := 0, transactionNum } txData

/-- `rcp_ep_uart_decode_write_request`: the data and the transaction number. -/
def uartDecodeWriteRequest (b : Octets) (expectedBusId : ByteBusId) : Except EpErrc (Octets × UInt8) := do
  let (hdr, payload) ← epDecodeRequest b expectedBusId
  if hdr.op ≠ Acf.opWrite then .error .wrongOp else
  if !Acf.evtRow2IsPlain hdr.evt then .error .badEvt else
  .ok (payload, hdr.transactionNum)

/-- `rcp_ep_uart_encode_read_request`. -/
def uartEncodeReadRequest (byteBusId : ByteBusId) (readSize : UInt16) (transactionNum : UInt8) : Option Octets :=
  Acf.encodeAbb { byteBusId, op := Acf.opRead, evt := 0, transactionNum, readSizeOrSegmentNum := readSize } []

/-- `rcp_ep_uart_decode_read_request`: the read size and the transaction number. -/
def uartDecodeReadRequest (b : Octets) (expectedBusId : ByteBusId) : Except EpErrc (UInt16 × UInt8) := do
  let (hdr, payload) ← epDecodeRequest b expectedBusId
  if hdr.op ≠ Acf.opRead then .error .wrongOp else
  if !Acf.evtRow2IsPlain hdr.evt then .error .badEvt else
  if payload.length ≠ 0 then .error .unknownCmd else
  .ok (hdr.readSizeOrSegmentNum, hdr.transactionNum)

/-- `rcp_ep_uart_decode_write_response`. -/
def uartDecodeWriteResponse (b : Octets) (expectedBusId : ByteBusId) : Except EpErrc (EpReply Octets) := do
  let r ← epDecodeResponse b expectedBusId
  .ok (r.reply r.payload)

/-- The header of a read response. -/
def uartReadResponseHeader (byteBusId : ByteBusId) (transactionNum : UInt8) : Acf.ByteMessageInfo :=
  { byteBusId, op := Acf.opRead, rsp := 1, evt := 0, transactionNum }

/-- `rcp_ep_uart_encode_read_response`. -/
def uartEncodeReadResponse (byteBusId : ByteBusId) (rxData : Octets) (transactionNum : UInt8) (timed : Bool)
    (timestamp : UInt64) : Option Octets :=
  epEncodeResponse (uartReadResponseHeader byteBusId transactionNum) rxData timed timestamp

/-- `rcp_ep_uart_decode_read_response`. -/
def uartDecodeReadResponse (b : Octets) (expectedBusId : ByteBusId) : Except EpErrc (EpReply Octets) := do
  let r ← epDecodeResponse b expectedBusId
  .ok (r.reply r.payload)

/-- `rcp_ep_uart_encode_read_response_fragmented`: the frames, or `none` for a return value of 0. -/
def uartEncodeReadResponseFragmented (byteBusId : ByteBusId) (rxData : Octets) (transactionNum : UInt8) (timed : Bool)
    (timestamp maxFragmentPayload : UInt64) : Option (List Octets) :=
  let rxLen := UInt64.ofNat rxData.length
  let count := SizeT.fragmentPlanCount rxLen maxFragmentPayload
  if count = 0 then none else
  match SizeT.fragmentPlan rxLen maxFragmentPayload count with
  | .error _ => none
  | .ok segs => epEncodeResponseFragments (uartReadResponseHeader byteBusId transactionNum) rxData timed timestamp segs

/-- `rcp_ep_uart_decode_read_response_fragment`. -/
def uartDecodeReadResponseFragment (b : Octets) (expectedBusId : ByteBusId) : Except EpErrc EpFragment := do
  let r ← epDecodeResponse b expectedBusId
  .ok r.fragment

end Rcp
