import Rcp.EpFunc
import Rcp.EpCodec

/-! The LIN endpoint (`ep_lin.c`): the functional configuration with its setters and its block of registers, and the
    codec of its messages. -/

namespace Rcp

/-- `rcp_ep_lin_trigger_t`. -/
inductive LinTrigger where
  | none | txDone
deriving DecidableEq, Repr

/-- `rcp_ep_lin_functional_cfg_t`. -/
structure LinFunctionalCfg where
  common : EpFunctionalCfg := {}
  linClkDivider : UInt32 := 0
  trigger : LinTrigger := .none
  epStatus : UInt16 := 0
  wireClkDivider : UInt8 := 0
deriving DecidableEq, Repr

namespace LinFunctionalCfg

/-- `rcp_ep_lin_functional_cfg_init`. -/
def init : LinFunctionalCfg := {}

section setters
variable (cfg : LinFunctionalCfg) (state : LifecycleState) (writer : FieldWriterCtx)

/-- `rcp_ep_lin_set_clk_divider`. -/
def setClkDivider (linClkDivider : UInt32) : Bool × LinFunctionalCfg :=
  epSetField cfg { cfg with linClkDivider } state writer

/-- `rcp_ep_lin_set_trigger`. -/
def setTrigger (trigger : LinTrigger) : Bool × LinFunctionalCfg := epSetField cfg { cfg with trigger } state writer

end setters

end LinFunctionalCfg

/-! ### The register block -/

/-- `RCP_EP_LIN_EP_FUNC_LEN`. -/
def linEpFuncLen : Nat := 9

/-- `rcp_ep_lin_render_registers`. -/
def linRenderRegisters (cfg : LinFunctionalCfg) : Octets :=
  [UInt8.ofNat linEpFuncLen, 0, cfg.common.enableClr, cfg.common.options] ++ putU16 0 ++ putU16 cfg.epStatus ++
  [cfg.wireClkDivider]

/-- `parse_registers`. -/
def linParseRegisters (cfg : LinFunctionalCfg) (block : Octets) : LinFunctionalCfg :=
  { cfg with
    common := .parse (block.at 2) (block.at 3)
    epStatus := be16 block 6
    wireClkDivider := block.at 8 }

/-- The block of the endpoint, with `reg_offset_read_only`. -/
def linBlock : EpBlock LinFunctionalCfg where
  len := linEpFuncLen
  render := linRenderRegisters
  parse := linParseRegisters
  readOnly := epRegOffsetReadOnly
  length_render _ := rfl

/-- `rcp_ep_lin_apply_reconfig`. -/
def linApplyReconfig (cfg : LinFunctionalCfg) (payload : Octets) : Option EpReconfigErrc × LinFunctionalCfg :=
  epApplyReconfig linBlock cfg payload

/-! ### Messages -/

/-- `rcp_ep_lin_encode_command_request`. -/
def linEncodeCommandRequest (byteBusId : ByteBusId) (txData : Octets) (transactionNum : UInt8) : Option Octets :=
  Acf.encodeAbb { byteBusId, op := Acf.opRead, transactionNum } txData

/-- `rcp_ep_lin_decode_command_request`: the data and the transaction number. -/
def linDecodeCommandRequest (b : Octets) (expectedBusId : ByteBusId) : Except EpErrc (Octets × UInt8) := do
  let (hdr, payload) ← epDecodeRequest b expectedBusId
  if hdr.op ≠ Acf.opRead then .error .wrongOp else
  if !Acf.evtRow2IsPlain hdr.evt then .error .badEvt else
  .ok (payload, hdr.transactionNum)

/-- `rcp_ep_lin_decode_response`: the data. -/
def linDecodeResponse (b : Octets) (expectedBusId : ByteBusId) : Except EpErrc (EpReply Octets) := do
  let r ← epDecodeResponse b expectedBusId
  .ok (r.reply r.payload)

end Rcp
