import Rcp.EpFunc
import Rcp.EpCodec
import Mathlib.Data.List.FinRange

/-! The GPIO endpoint (`ep_gpio.c`): the functional configuration with its setters and its block of registers, and
    the codec of its messages. -/

namespace Rcp

/-- `RCP_EP_GPIO_MAX_PINS`. -/
def gpioMaxPins : Nat := 32

/-- `rcp_ep_gpio_pin_index_valid`. -/
def gpioPinIndexValid (pinIndex : UInt8) : Bool := pinIndex.toNat < gpioMaxPins

/-- `rcp_ep_gpio_trigger_t`. -/
inductive GpioTrigger where
  | none | anyChange | rising | falling
deriving DecidableEq, Repr

/-- `rcp_ep_gpio_pin_cfg_t`. -/
structure GpioPinCfg where
  pinProperty : UInt8 := 0
  trigger : GpioTrigger := .none
deriving DecidableEq, Repr

/-- `rcp_ep_gpio_functional_cfg_t`. -/
structure GpioFunctionalCfg where
  common : EpFunctionalCfg := {}
  pins : Fin gpioMaxPins → GpioPinCfg := fun _ => {}
  epStatus : UInt16 := 0
  clkDivider : UInt8 := 0
  debounce : Fin gpioMaxPins → UInt8 := fun _ => 0

namespace GpioFunctionalCfg

/-- `rcp_ep_gpio_functional_cfg_init`. -/
def init : GpioFunctionalCfg := {}

section setters
variable (cfg : GpioFunctionalCfg) (state : LifecycleState) (writer : FieldWriterCtx) (pinIndex : UInt8)

/-- How the setters of a pin go: the index is checked, then the writer. -/
def setPin (assign : GpioPinCfg → GpioPinCfg) : Bool × GpioFunctionalCfg :=
  if !gpioPinIndexValid pinIndex then (false, cfg) else
  epSetField cfg
    { cfg with pins := fun i => if i.val = pinIndex.toNat then assign (cfg.pins i) else cfg.pins i } state writer

/-- `rcp_ep_gpio_set_pin_property`. -/
def setPinProperty (pinProperty : UInt8) : Bool × GpioFunctionalCfg :=
  cfg.setPin state writer pinIndex fun pin => { pin with pinProperty }

/-- `rcp_ep_gpio_set_pin_trigger`. -/
def setPinTrigger (trigger : GpioTrigger) : Bool × GpioFunctionalCfg :=
  cfg.setPin state writer pinIndex fun pin => { pin with trigger }

end setters

end GpioFunctionalCfg

/-! ### The register block -/

/-- `RCP_EP_GPIO_EP_FUNC_LEN`. -/
def gpioEpFuncLen : Nat := 0x29

/-- `RCP_EP_GPIO_REG_DEBOUNCE_IO0`. -/
def gpioRegDebounceIo0 : Nat := 9

/-- `rcp_ep_gpio_render_registers`. -/
def gpioRenderRegisters (cfg : GpioFunctionalCfg) : Octets :=
  [UInt8.ofNat gpioEpFuncLen, UInt8.ofNat gpioMaxPins, cfg.common.enableClr, cfg.common.options] ++ putU16 0 ++
  putU16 cfg.epStatus ++ [cfg.clkDivider] ++ (List.finRange gpioMaxPins).map cfg.debounce

/-- `parse_registers`. -/
def gpioParseRegisters (cfg : GpioFunctionalCfg) (block : Octets) : GpioFunctionalCfg :=
  { cfg with
    common := .parse (block.at 2) (block.at 3)
    epStatus := be16 block 6
    clkDivider := block.at 8
    debounce := fun i => block.at (gpioRegDebounceIo0 + i.val) }

/-- The block of the endpoint, with `reg_offset_read_only`. -/
def gpioBlock : EpBlock GpioFunctionalCfg where
  len := gpioEpFuncLen
  render := gpioRenderRegisters
  parse := gpioParseRegisters
  readOnly := epRegOffsetReadOnly
  length_render _ := rfl

/-- `rcp_ep_gpio_apply_reconfig`. -/
def gpioApplyReconfig (cfg : GpioFunctionalCfg) (payload : Octets) : Option EpReconfigErrc × GpioFunctionalCfg :=
  epApplyReconfig gpioBlock cfg payload

/-! ### Messages -/

/-- `RCP_EP_GPIO_PAYLOAD_LEN`. -/
def gpioPayloadLen : Nat := 4

/-- `RCP_EP_GPIO_WRITE_RESERVED4`. -/
def gpioWriteReserved4 : UInt8 := 4

/-- `rcp_ep_gpio_encode_read_request`. -/
def gpioEncodeReadRequest (byteBusId : ByteBusId) (transactionNum : UInt8) : Option Octets :=
  Acf.encodeAbb { byteBusId, op := Acf.opRead, transactionNum } []

/-- `rcp_ep_gpio_decode_read_request`: the transaction number. -/
def gpioDecodeReadRequest (b : Octets) (expectedBusId : ByteBusId) : Except EpErrc UInt8 := do
  let (hdr, _) ← epDecodeRequest b expectedBusId
  if hdr.op ≠ Acf.opRead then .error .wrongOp else .ok hdr.transactionNum

/-- `rcp_ep_gpio_encode_write_request`; `evt` is what its enumeration is cast from. -/
def gpioEncodeWriteRequest (byteBusId : ByteBusId) (bitmask evt : UInt32) (transactionNum : UInt8) : Option Octets :=
  Acf.encodeAbb { byteBusId, op := Acf.opWrite, evt := (evt &&& 0x7).toUInt8, transactionNum } (putU32 bitmask)

/-- `rcp_ep_gpio_decode_write_request`: the bitmask, the write semantics and the transaction number. -/
def gpioDecodeWriteRequest (b : Octets) (expectedBusId : ByteBusId) : Except EpErrc (UInt32 × UInt8 × UInt8) := do
  let (hdr, payload) ← epDecodeRequest b expectedBusId
  if hdr.op ≠ Acf.opWrite then .error .wrongOp else
  if payload.length ≠ gpioPayloadLen then .error .badPayloadLen else
  if hdr.evt &&& 0x7 = gpioWriteReserved4 then .error .reservedEvt else
  .ok (getU32 payload 0, hdr.evt &&& 0x7, hdr.transactionNum)

/-- `rcp_ep_gpio_decode_response`: the bitmask. -/
def gpioDecodeResponse (b : Octets) (expectedBusId : ByteBusId) : Except EpErrc (EpReply UInt32) := do
  let r ← epDecodeResponse b expectedBusId
  if r.payload.length ≠ gpioPayloadLen then .error .badPayloadLen else .ok (r.reply (getU32 r.payload 0))

end Rcp
