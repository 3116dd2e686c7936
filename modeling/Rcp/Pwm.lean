import Rcp.EpFunc
import Rcp.EpCodec

/-! The PWM endpoints (`ep_pwm.c`): the value both exchange, the comparison of a captured value with the threshold of
    a compound-wait request, the functional configurations with their setters and blocks of registers, the trigger events
    of a cycle, and the codecs of their messages. -/

namespace Rcp

/-- `RCP_EP_PWM_IN_NO_SIGNAL`: what a measurement that saw no edge is reported as. -/
def pwmInNoSignal : UInt16 := 0xFFFF

/-- `RCP_EP_PWM_PAYLOAD_LEN`. -/
def pwmPayloadLen : Nat := 4

/-- `rcp_ep_pwm_value_t`. -/
structure PwmValue where
  period : UInt16
  activeDuration : UInt16
deriving DecidableEq, Repr

/-- `put_pwm_value`. -/
def putPwmValue (v : PwmValue) : Octets := putU16 v.period ++ putU16 v.activeDuration

/-- `get_pwm_value`. -/
def getPwmValue (p : Octets) : PwmValue where
  period := be16 p 0
  activeDuration := be16 p 2

/-- `rcp_ep_pwm_in_compound_wait_mode_t`. -/
inductive PwmInCompoundWaitMode where
  | periodGe | periodLe | dutyGe | dutyLe
deriving DecidableEq, Repr

/-- The value of a mode, which is also its evt[2:0]. -/
def PwmInCompoundWaitMode.code : PwmInCompoundWaitMode → UInt8
  | .periodGe => 4 | .periodLe => 5 | .dutyGe => 6 | .dutyLe => 7

/-- `rcp_ep_pwm_in_compound_wait_compare`. "GE" asks whether the threshold is at least the captured value. -/
def pwmInCompoundWaitCompare (captured : PwmValue) (mode : PwmInCompoundWaitMode) (threshold : UInt16) : Bool :=
  match mode with
  | .periodGe => if captured.period = pwmInNoSignal then false else captured.period ≤ threshold
  | .periodLe => if captured.period = pwmInNoSignal then false else captured.period ≥ threshold
  | .dutyGe => if captured.activeDuration = pwmInNoSignal then false else captured.activeDuration ≤ threshold
  | .dutyLe => if captured.activeDuration = pwmInNoSignal then false else captured.activeDuration ≥ threshold

/-! ### PWM_OUT: the functional configuration -/

/-- `rcp_ep_pwm_out_trigger_t`. -/
inductive PwmOutTrigger where
  | none | cycleStart | midPulse | done
deriving DecidableEq, Repr

/-- `rcp_ep_pwm_out_functional_cfg_t`. -/
structure PwmOutFunctionalCfg where
  common : EpFunctionalCfg := {}
  trigger : PwmOutTrigger := .none
  baseClk : UInt16 := 0
  epStatus : UInt16 := 0
  clkDivider : UInt8 := 0
  signalFlags : UInt8 := 0
  dutyCycleMin : UInt16 := 0
  dutyCycleMax : UInt16 := 0
  skew : UInt8 := 0
deriving DecidableEq, Repr

namespace PwmOutFunctionalCfg

/-- `rcp_ep_pwm_out_functional_cfg_init`. -/
def init : PwmOutFunctionalCfg := {}

section setters
variable (cfg : PwmOutFunctionalCfg) (state : LifecycleState) (writer : FieldWriterCtx)

/-- `rcp_ep_pwm_out_set_trigger`. -/
def setTrigger (trigger : PwmOutTrigger) : Bool × PwmOutFunctionalCfg :=
  epSetField cfg { cfg with trigger } state writer

/-- `rcp_ep_pwm_out_set_enabled`. -/
def setEnabled (enabled : Bool) : Bool × PwmOutFunctionalCfg :=
  epSetField cfg { cfg with common := { cfg.common with epEnable := enabled } } state writer

end setters

end PwmOutFunctionalCfg

/-! ### PWM_OUT: trigger events -/

/-- `RCP_EP_PWM_OUT_TRIGGER_EVENT_CYCLE_START`. -/
def pwmOutTriggerEventCycleStart : UInt8 := 0x01

/-- `RCP_EP_PWM_OUT_TRIGGER_EVENT_MID_PULSE`. -/
def pwmOutTriggerEventMidPulse : UInt8 := 0x02

/-- `rcp_ep_pwm_out_trigger_events_at_tick`. -/
def pwmOutTriggerEventsAtTick (period activeDuration : UInt16) (skew : UInt8) (rawTick : UInt32) : UInt8 :=
  if period = 0 then 0 else
  let skewMod := skew.toUInt32 % period.toUInt32
  let delayedTick := (rawTick % period.toUInt32 + period.toUInt32 - skewMod) % period.toUInt32
  let events := if delayedTick = 0 then 0 ||| pwmOutTriggerEventCycleStart else 0
  if delayedTick = (activeDuration / 2).toUInt32 then events ||| pwmOutTriggerEventMidPulse else events

/-! ### PWM_OUT: the registers -/

/-- `RCP_EP_PWM_OUT_EP_FUNC_LEN`. -/
def pwmOutEpFuncLen : Nat := 0x0F

/-- `rcp_ep_pwm_out_render_registers`. -/
def pwmOutRenderRegisters (cfg : PwmOutFunctionalCfg) : Octets :=
  [UInt8.ofNat pwmOutEpFuncLen, 0, cfg.common.enableClr, cfg.common.options] ++ putU16 cfg.baseClk ++
  putU16 cfg.epStatus ++ [cfg.clkDivider, cfg.signalFlags] ++ putU16 cfg.dutyCycleMin ++ putU16 cfg.dutyCycleMax ++
  [cfg.skew]

/-- `parse_registers`. -/
def pwmOutParseRegisters (cfg : PwmOutFunctionalCfg) (block : Octets) : PwmOutFunctionalCfg :=
  { cfg with
    common := .parse (block.at 2) (block.at 3)
    epStatus := be16 block 6
    clkDivider := block.at 8
    signalFlags := block.at 9
    dutyCycleMin := be16 block 10
    dutyCycleMax := be16 block 12
    skew := block.at 14 }

/-- The block of the endpoint, with `reg_offset_read_only`. -/
def pwmOutBlock : EpBlock PwmOutFunctionalCfg where
  len := pwmOutEpFuncLen
  render := pwmOutRenderRegisters
  parse := pwmOutParseRegisters
  readOnly := epRegOffsetReadOnly
  length_render _ := rfl

/-- `rcp_ep_pwm_out_apply_reconfig`. -/
def pwmOutApplyReconfig (cfg : PwmOutFunctionalCfg) (payload : Octets) : Option EpReconfigErrc × PwmOutFunctionalCfg :=
  epApplyReconfig pwmOutBlock cfg payload

/-! ### PWM_IN: the functional configuration -/

/-- `rcp_ep_pwm_in_trigger_t`. -/
inductive PwmInTrigger where
  | none | rising | falling
deriving DecidableEq, Repr

/-- `rcp_ep_pwm_in_functional_cfg_t`. -/
structure PwmInFunctionalCfg where
  common : EpFunctionalCfg := {}
  trigger : PwmInTrigger := .none
  baseClk : UInt16 := 0
  epStatus : UInt16 := 0
  clkDivider : UInt8 := 0
  flags : UInt8 := 0
  maxPeriod : UInt16 := 0
deriving DecidableEq, Repr

namespace PwmInFunctionalCfg

/-- `rcp_ep_pwm_in_functional_cfg_init`. -/
def init : PwmInFunctionalCfg := {}

/-- `rcp_ep_pwm_in_set_trigger`. -/
def setTrigger (cfg : PwmInFunctionalCfg) (state : LifecycleState) (writer : FieldWriterCtx) (trigger : PwmInTrigger) :
    Bool × PwmInFunctionalCfg := epSetField cfg { cfg with trigger } state writer

end PwmInFunctionalCfg

/-- `RCP_EP_PWM_IN_EP_FUNC_LEN`. -/
def pwmInEpFuncLen : Nat := 0x0C

/-- `rcp_ep_pwm_in_render_registers`. -/
def pwmInRenderRegisters (cfg : PwmInFunctionalCfg) : Octets :=
  [UInt8.ofNat pwmInEpFuncLen, 0, cfg.common.enableClr, cfg.common.options] ++ putU16 cfg.baseClk ++
  putU16 cfg.epStatus ++ [cfg.clkDivider, cfg.flags] ++ putU16 cfg.maxPeriod

/-- `parse_pwm_in_registers`. -/
def pwmInParseRegisters (cfg : PwmInFunctionalCfg) (block : Octets) : PwmInFunctionalCfg :=
  { cfg with
    common := .parse (block.at 2) (block.at 3)
    epStatus := be16 block 6
    clkDivider := block.at 8
    flags := block.at 9
    maxPeriod := be16 block 10 }

/-- The block of the endpoint, with `pwm_in_reg_offset_read_only`. -/
def pwmInBlock : EpBlock PwmInFunctionalCfg where
  len := pwmInEpFuncLen
  render := pwmInRenderRegisters
  parse := pwmInParseRegisters
  readOnly := epRegOffsetReadOnly
  length_render _ := rfl

/-- `rcp_ep_pwm_in_apply_reconfig`. -/
def pwmInApplyReconfig (cfg : PwmInFunctionalCfg) (payload : Octets) : Option EpReconfigErrc × PwmInFunctionalCfg :=
  epApplyReconfig pwmInBlock cfg payload

/-! ### Messages -/

/-- `RCP_EP_PWM_OUT_WRITE_RESERVED4`. -/
def pwmOutWriteReserved4 : UInt8 := 4

/-- `rcp_ep_pwm_out_encode_read_request`. -/
def pwmOutEncodeReadRequest (byteBusId : ByteBusId) (transactionNum : UInt8) : Option Octets :=
  Acf.encodeAbb { byteBusId, op := Acf.opRead, transactionNum } []

/-- `rcp_ep_pwm_out_decode_read_request`: the transaction number. -/
def pwmOutDecodeReadRequest (b : Octets) (expectedBusId : ByteBusId) : Except EpErrc UInt8 := do
  let (hdr, _) ← epDecodeRequest b expectedBusId
  if hdr.op ≠ Acf.opRead then .error .wrongOp else .ok hdr.transactionNum

/-- `rcp_ep_pwm_out_encode_write_request`; `evt` is what its enumeration is cast from. -/
def pwmOutEncodeWriteRequest (byteBusId : ByteBusId) (value : PwmValue) (evt : UInt32) (transactionNum : UInt8) :
    Option Octets :=
  Acf.encodeAbb { byteBusId, op := Acf.opWrite, evt := (evt &&& 0x7).toUInt8, transactionNum } (putPwmValue value)

/-- `rcp_ep_pwm_out_decode_write_request`: the value, the write semantics and the transaction number. -/
def pwmOutDecodeWriteRequest (b : Octets) (expectedBusId : ByteBusId) : Except EpErrc (PwmValue × UInt8 × UInt8) := do
  let (hdr, payload) ← epDecodeRequest b expectedBusId
  if hdr.op ≠ Acf.opWrite then .error .wrongOp else
  if payload.length ≠ pwmPayloadLen then .error .badPayloadLen else
  if hdr.evt &&& 0x7 = pwmOutWriteReserved4 then .error .reservedEvt else
  .ok (getPwmValue payload, hdr.evt &&& 0x7, hdr.transactionNum)

/-- `rcp_ep_pwm_out_decode_response`: the value. -/
def pwmOutDecodeResponse (b : Octets) (expectedBusId : ByteBusId) : Except EpErrc (EpReply PwmValue) := do
  let r ← epDecodeResponse b expectedBusId
  if r.payload.length ≠ pwmPayloadLen then .error .badPayloadLen else .ok (r.reply (getPwmValue r.payload))

/-- `rcp_ep_pwm_in_encode_read_request`. -/
def pwmInEncodeReadRequest (byteBusId : ByteBusId) (transactionNum : UInt8) : Option Octets :=
  Acf.encodeAbb { byteBusId, op := Acf.opRead, transactionNum } []

/-- `rcp_ep_pwm_in_decode_read_request`: the transaction number. -/
def pwmInDecodeReadRequest (b : Octets) (expectedBusId : ByteBusId) : Except EpErrc UInt8 := do
  let (hdr, _) ← epDecodeRequest b expectedBusId
  if hdr.op ≠ Acf.opRead then .error .wrongOp else
  if !Acf.evtRow2IsPlain hdr.evt then .error .badEvt else .ok hdr.transactionNum

/-- `rcp_ep_pwm_in_decode_response`: the value. -/
def pwmInDecodeResponse (b : Octets) (expectedBusId : ByteBusId) : Except EpErrc (EpReply PwmValue) := do
  let r ← epDecodeResponse b expectedBusId
  if r.payload.length ≠ pwmPayloadLen then .error .badPayloadLen else .ok (r.reply (getPwmValue r.payload))

end Rcp
