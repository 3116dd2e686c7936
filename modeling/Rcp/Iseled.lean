import Rcp.EpFunc
import Rcp.EpCodec

/-! The ISELED endpoint (`ep_iseled.c`): the functional configuration with its setters and its block of registers, and
    the codec of its messages. -/

namespace Rcp

/-- `rcp_ep_iseled_trigger_t`. -/
inductive IseledTrigger where
  | none | txComplete
deriving DecidableEq, Repr

/-- `rcp_ep_iseled_functional_cfg_t`. -/
structure IseledFunctionalCfg where
  common : EpFunctionalCfg := {}
  iseledBitClkDivider : UInt32 := 0
  iseledUseRcvClk : Bool := false
  iseledCrcEnable : Bool := false
  trigger : IseledTrigger := .none
  baseClk : UInt16 := 0
  epStatus : UInt16 := 0
  wireClkDivider : UInt8 := 0
  collectResp : Bool := false
  nrLeds : UInt16 := 0
  rcvTimeout : UInt16 := 0
deriving DecidableEq, Repr

namespace IseledFunctionalCfg

/-- `rcp_ep_iseled_functional_cfg_init`. -/
def init : IseledFunctionalCfg := {}

section setters
variable (cfg : IseledFunctionalCfg) (state : LifecycleState) (writer : FieldWriterCtx)

/-- `rcp_ep_iseled_set_bit_clk_divider`. -/
def setBitClkDivider (divider : UInt32) : Bool × IseledFunctionalCfg :=
  epSetField cfg { cfg with iseledBitClkDivider := divider } state writer

/-- `rcp_ep_iseled_set_use_rcv_clk`. -/
def setUseRcvClk (useRcvClk : Bool) : Bool × IseledFunctionalCfg :=
  epSetField cfg { cfg with iseledUseRcvClk := useRcvClk } state writer

/-- `rcp_ep_iseled_set_crc_enable`. -/
def setCrcEnable (enable : Bool) : Bool × IseledFunctionalCfg :=
  epSetField cfg { cfg with iseledCrcEnable := enable } state writer

/-- `rcp_ep_iseled_set_trigger`. -/
def setTrigger (trigger : IseledTrigger) : Bool × IseledFunctionalCfg :=
  epSetField cfg { cfg with trigger } state writer

end setters

end IseledFunctionalCfg

/-! ### The register block -/

/-- `RCP_EP_ISELED_EP_FUNC_LEN`. -/
def iseledEpFuncLen : Nat := 0x0E

/-- The octet of `RCP_EP_ISELED_REG_FLAGS`, by the bits `RCP_EP_ISELED_FLAG_*`. -/
def IseledFunctionalCfg.flags (cfg : IseledFunctionalCfg) : UInt8 :=
  (if cfg.collectResp then 0x08 else 0) ||| (if cfg.iseledUseRcvClk then 0x10 else 0)

/-- `rcp_ep_iseled_render_registers`. -/
def iseledRenderRegisters (cfg : IseledFunctionalCfg) : Octets :=
  [UInt8.ofNat iseledEpFuncLen, 0, cfg.common.enableClr, cfg.common.options] ++ putU16 cfg.baseClk ++
  putU16 cfg.epStatus ++ [cfg.wireClkDivider, cfg.flags] ++ putU16 cfg.nrLeds ++ putU16 cfg.rcvTimeout

/-- `parse_iseled_registers`. -/
def iseledParseRegisters (cfg : IseledFunctionalCfg) (block : Octets) : IseledFunctionalCfg :=
  let flags := block.at 9
  { cfg with
    common := .parse (block.at 2) (block.at 3)
    collectResp := flags &&& 0x08 != 0
    iseledUseRcvClk := flags &&& 0x10 != 0
    epStatus := be16 block 6
    wireClkDivider := block.at 8
    nrLeds := be16 block 10
    rcvTimeout := be16 block 12 }

/-- The block of the endpoint, with `iseled_reg_offset_read_only`. -/
def iseledBlock : EpBlock IseledFunctionalCfg where
  len := iseledEpFuncLen
  render := iseledRenderRegisters
  parse := iseledParseRegisters
  readOnly := epRegOffsetReadOnly
  length_render _ := rfl

/-- `rcp_ep_iseled_apply_reconfig`. -/
def iseledApplyReconfig (cfg : IseledFunctionalCfg) (payload : Octets) : Option EpReconfigErrc × IseledFunctionalCfg :=
  epApplyReconfig iseledBlock cfg payload

/-! ### Messages -/

/-- `RCP_EP_ISELED_MAX_READ_SIZE`. -/
def iseledMaxReadSize : UInt16 := 0x0FFF

/-- `rcp_ep_iseled_encode_command_request`. -/
def iseledEncodeCommandRequest (byteBusId : ByteBusId) (txData : Octets) (transactionNum : UInt8) : Option Octets :=
  Acf.encodeAbb { byteBusId, op := Acf.opWrite, evt := 0, transactionNum } txData

/-- `rcp_ep_iseled_decode_command_request`: the data and the transaction number. -/
def iseledDecodeCommandRequest (b : Octets) (expectedBusId : ByteBusId) : Except EpErrc (Octets × UInt8) := do
  let (hdr, payload) ← epDecodeRequest b expectedBusId
  if hdr.op ≠ Acf.opWrite then .error .wrongOp else
  if !Acf.evtRow2IsPlain hdr.evt then .error .badEvt else
  .ok (payload, hdr.transactionNum)

/-- `rcp_ep_iseled_encode_read_request`. -/
def iseledEncodeReadRequest (byteBusId : ByteBusId) (txData : Octets) (readSize : UInt16) (transactionNum : UInt8) :
    Option Octets :=
  if readSize > iseledMaxReadSize then none else
  Acf.encodeAbb { byteBusId, op := Acf.opRead, evt := 0, transactionNum, readSizeOrSegmentNum := readSize } txData

/-- `rcp_ep_iseled_decode_read_request`: the data, the read size and the transaction number. -/
def iseledDecodeReadRequest (b : Octets) (expectedBusId : ByteBusId) : Except EpErrc (Octets × UInt16 × UInt8) := do
  let (hdr, payload) ← epDecodeRequest b expectedBusId
  if hdr.op ≠ Acf.opRead then .error .wrongOp else
  if !Acf.evtRow2IsPlain hdr.evt then .error .badEvt else
  .ok (payload, hdr.readSizeOrSegmentNum, hdr.transactionNum)

/-- `rcp_ep_iseled_decode_response`: the data. -/
def iseledDecodeResponse (b : Octets) (expectedBusId : ByteBusId) : Except EpErrc (EpReply Octets) := do
  let r ← epDecodeResponse b expectedBusId
  .ok (r.reply r.payload)

end Rcp
