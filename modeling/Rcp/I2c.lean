import Rcp.EpFunc
import Rcp.EpCodec

/-! The I2C endpoint (`ep_i2c.c`): the functional configuration with its setter and its block of registers, and the
    codec of its messages. -/

namespace Rcp

/-- `RCP_EP_I2C_MODE_ULTRA_FAST`, the last of `rcp_ep_i2c_mode_t`. -/
def i2cModeUltraFast : UInt8 := 4

/-- `rcp_ep_i2c_mode_valid`. -/
def i2cModeValid (v : UInt8) : Bool := v ≤ i2cModeUltraFast

/-- `rcp_ep_i2c_functional_cfg_t`. -/
structure I2cFunctionalCfg where
  common : EpFunctionalCfg := {}
  i2cMode : UInt8 := 0
  epStatus : UInt16 := 0
  clockDivider : UInt8 := 0
  trail : UInt8 := 0
deriving DecidableEq, Repr

/-- `rcp_ep_i2c_functional_cfg_init`. -/
def I2cFunctionalCfg.init : I2cFunctionalCfg := {}

/-- `rcp_ep_i2c_set_mode`. -/
def I2cFunctionalCfg.setMode (cfg : I2cFunctionalCfg) (state : LifecycleState) (writer : FieldWriterCtx)
    (mode : UInt8) : Bool × I2cFunctionalCfg :=
  if !i2cModeValid mode then (false, cfg) else epSetField cfg { cfg with i2cMode := mode } state writer

/-! ### The register block -/

/-- `RCP_EP_I2C_EP_FUNC_LEN`. -/
def i2cEpFuncLen : Nat := 0x0B

/-- `RCP_EP_I2C_REG_MODE`. -/
def i2cRegMode : Nat := 9

/-- `rcp_ep_i2c_render_registers`. -/
def i2cRenderRegisters (cfg : I2cFunctionalCfg) : Octets :=
  [UInt8.ofNat i2cEpFuncLen, 0, cfg.common.enableClr, cfg.common.options] ++ putU16 0 ++ putU16 cfg.epStatus ++
  [cfg.clockDivider, cfg.i2cMode, cfg.trail]

/-- `parse_registers`. -/
def i2cParseRegisters (cfg : I2cFunctionalCfg) (block : Octets) : I2cFunctionalCfg :=
  { cfg with
    common := .parse (block.at 2) (block.at 3)
    epStatus := be16 block 6
    clockDivider := block.at 8
    i2cMode := block.at i2cRegMode
    trail := block.at 10 }

/-- The block of the endpoint, with `reg_offset_read_only`. -/
def i2cBlock : EpBlock I2cFunctionalCfg where
  len := i2cEpFuncLen
  render := i2cRenderRegisters
  parse := i2cParseRegisters
  readOnly := epRegOffsetReadOnly
  length_render _ := rfl

/-- `rcp_ep_i2c_apply_reconfig`. -/
def i2cApplyReconfig (cfg : I2cFunctionalCfg) (payload : Octets) : Option EpReconfigErrc × I2cFunctionalCfg :=
  epApplyReconfig i2cBlock cfg payload

/-! ### Messages -/

/-- `RCP_EP_I2C_MAX_READ_SIZE`. -/
def i2cMaxReadSize : UInt16 := 0x0FFF

/-- `rcp_ep_i2c_dir_t`. -/
inductive I2cDir where
  | write | read
deriving DecidableEq, Repr

/-- `dir_to_op`. -/
def I2cDir.toOp : I2cDir → UInt8
  | .read => Acf.opRead
  | .write => Acf.opWrite

/-- `op_to_dir`. -/
def I2cDir.ofOp (op : UInt8) : I2cDir := if op = Acf.opRead then .read else .write

/-- What a transfer request asks for. -/
structure I2cTransfer where
  direction : I2cDir
  txData : Octets
  readSize : UInt16
deriving DecidableEq, Repr

/-- `rcp_ep_i2c_encode_transfer_request`. -/
def i2cEncodeTransferRequest (byteBusId : ByteBusId) (t : I2cTransfer) (transactionNum : UInt8) : Option Octets :=
  if t.readSize > i2cMaxReadSize then none else
  if t.direction = .write ∧ t.readSize ≠ 0 then none else
  Acf.encodeAbb
    { byteBusId, op := t.direction.toOp, evt := 0, transactionNum
      readSizeOrSegmentNum := if t.direction = .read then t.readSize else 0 } t.txData

/-- `rcp_ep_i2c_decode_transfer_request`: the transfer and the transaction number. -/
def i2cDecodeTransferRequest (b : Octets) (expectedBusId : ByteBusId) : Except EpErrc (I2cTransfer × UInt8) := do
  let (hdr, payload) ← epDecodeRequest b expectedBusId
  if !Acf.evtRow2IsPlain hdr.evt then .error .badEvt else
  let direction := I2cDir.ofOp hdr.op
  .ok ({ direction, txData := payload, readSize := if direction = .read then hdr.readSizeOrSegmentNum else 0 },
    hdr.transactionNum)

/-- `rcp_ep_i2c_decode_response`: the direction and the data. -/
def i2cDecodeResponse (b : Octets) (expectedBusId : ByteBusId) : Except EpErrc (EpReply (I2cDir × Octets)) := do
  let r ← epDecodeResponse b expectedBusId
  .ok (r.reply (I2cDir.ofOp r.info.op, r.payload))

end Rcp
