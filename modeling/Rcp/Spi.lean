import Rcp.EpFunc
import Rcp.EpCodec
import Mathlib.Data.List.FinRange

/-! The SPI endpoint (`ep_spi.c`): its channels, the functional configuration with its setters and its block of
    registers, and the codec of its messages. -/

namespace Rcp

/-- `RCP_EP_SPI_MAX_CHANNELS`. -/
def spiMaxChannels : Nat := 6

/-- `rcp_ep_spi_channel_valid`. -/
def spiChannelValid (channel : UInt8) : Bool := channel.toNat < spiMaxChannels

/-- `rcp_ep_spi_mode_t`. -/
inductive SpiMode where
  | mode0 | mode1 | mode2 | mode3
deriving DecidableEq, Repr

/-- `rcp_ep_spi_mode_cpol`. -/
def SpiMode.cpol : SpiMode → Bool
  | .mode2 | .mode3 => true
  | .mode0 | .mode1 => false

/-- `rcp_ep_spi_mode_cpha`. -/
def SpiMode.cpha : SpiMode → Bool
  | .mode1 | .mode3 => true
  | .mode0 | .mode2 => false

/-- `mode_from_bits`. -/
def SpiMode.fromBits (cpol cpha : Bool) : SpiMode :=
  match cpol, cpha with
  | false, false => .mode0
  | false, true => .mode1
  | true, false => .mode2
  | true, true => .mode3

/-- `rcp_ep_spi_bit_order_t`. -/
inductive SpiBitOrder where
  | msbFirst | lsbFirst
deriving DecidableEq, Repr

/-- `rcp_ep_spi_cs_polarity_t`. -/
inductive SpiCsPolarity where
  | activeLow | activeHigh
deriving DecidableEq, Repr

/-- `rcp_ep_spi_trigger_t`. -/
inductive SpiTrigger where
  | none | transferDone | csAssert | csDeassert
deriving DecidableEq, Repr

/-- `rcp_ep_spi_channel_cfg_t`. -/
structure SpiChannelCfg where
  mode : SpiMode := .mode0
  bitOrder : SpiBitOrder := .msbFirst
  csPolarity : SpiCsPolarity := .activeLow
  trigger : SpiTrigger := .none
  clockDivider : UInt32 := 0
  interByteDelayNs : UInt32 := 0
  interTransferDelayNs : UInt32 := 0
  baudRateKbps : UInt16 := 0
  useCommonCs : Bool := false
  csClkLeadtime : UInt8 := 0
  clkCsTrailtime : UInt8 := 0
  bitsMax : UInt8 := 0
  pauseMin : UInt8 := 0
  deassertCsPause : Bool := false
deriving DecidableEq, Repr

/-- `rcp_ep_spi_functional_cfg_t`. -/
structure SpiFunctionalCfg where
  common : EpFunctionalCfg := {}
  channels : Fin spiMaxChannels → SpiChannelCfg := fun _ => {}
  epStatus : UInt16 := 0

namespace SpiFunctionalCfg

/-- `rcp_ep_spi_functional_cfg_init`. -/
def init : SpiFunctionalCfg := {}

/-! ### The setters -/

section setters
variable (cfg : SpiFunctionalCfg) (state : LifecycleState) (writer : FieldWriterCtx) (channel : UInt8)

/-- How the setters of a channel go: the channel is checked, then the writer. -/
def setChannel (assign : SpiChannelCfg → SpiChannelCfg) : Bool × SpiFunctionalCfg :=
  if !spiChannelValid channel then (false, cfg) else
  epSetField cfg
    { cfg with channels := fun c => if c.val = channel.toNat then assign (cfg.channels c) else cfg.channels c } state writer

/-- `rcp_ep_spi_set_channel_mode`. -/
def setChannelMode (mode : SpiMode) : Bool × SpiFunctionalCfg :=
  cfg.setChannel state writer channel fun ch => { ch with mode }

/-- `rcp_ep_spi_set_channel_bit_order`. -/
def setChannelBitOrder (bitOrder : SpiBitOrder) : Bool × SpiFunctionalCfg :=
  cfg.setChannel state writer channel fun ch => { ch with bitOrder }

/-- `rcp_ep_spi_set_channel_cs_polarity`. -/
def setChannelCsPolarity (csPolarity : SpiCsPolarity) : Bool × SpiFunctionalCfg :=
  cfg.setChannel state writer channel fun ch => { ch with csPolarity }

/-- `rcp_ep_spi_set_channel_clock_divider`. -/
def setChannelClockDivider (clockDivider : UInt32) : Bool × SpiFunctionalCfg :=
  cfg.setChannel state writer channel fun ch => { ch with clockDivider }

/-- `rcp_ep_spi_set_channel_timing`. -/
def setChannelTiming (interByteDelayNs interTransferDelayNs : UInt32) : Bool × SpiFunctionalCfg :=
  cfg.setChannel state writer channel fun ch => { ch with interByteDelayNs, interTransferDelayNs }

/-- `rcp_ep_spi_set_channel_trigger`. -/
def setChannelTrigger (trigger : SpiTrigger) : Bool × SpiFunctionalCfg :=
  cfg.setChannel state writer channel fun ch => { ch with trigger }

end setters

end SpiFunctionalCfg

/-! ### The register block -/

def spiRegChannelBase : Nat := 6
def spiRegChannelSpan : Nat := 8

/-- `RCP_EP_SPI_EP_FUNC_LEN`. -/
def spiEpFuncLen : Nat := spiRegChannelBase + spiMaxChannels * spiRegChannelSpan

/-- The octet of `RCP_EP_SPI_CHREG_CFG`, by the bits `RCP_EP_SPI_CFG_BIT_*`. -/
def SpiChannelCfg.cfgByte (ch : SpiChannelCfg) : UInt8 :=
  (if ch.mode.cpol then 0x01 else 0) ||| (if ch.mode.cpha then 0x02 else 0) |||
  (if ch.csPolarity = .activeHigh then 0x04 else 0) ||| (if ch.useCommonCs then 0x08 else 0) |||
  (if ch.deassertCsPause then 0x10 else 0)

/-- The registers of a channel. -/
def SpiChannelCfg.registers (ch : SpiChannelCfg) : Octets :=
  putU16 ch.baudRateKbps ++
  [ch.cfgByte, ch.csClkLeadtime, ch.clkCsTrailtime, ch.bitsMax, ch.pauseMin, 0]

/-- `rcp_ep_spi_render_registers`. -/
def spiRenderRegisters (cfg : SpiFunctionalCfg) : Octets :=
  [UInt8.ofNat spiEpFuncLen, (UInt8.ofNat spiMaxChannels - 1) &&& 0x0F, cfg.common.enableClr, cfg.common.options] ++
  putU16 cfg.epStatus ++ (List.finRange spiMaxChannels).flatMap fun c => (cfg.channels c).registers

/-- What the registers of a channel at `base` say. -/
def SpiChannelCfg.parse (ch : SpiChannelCfg) (block : Octets) (base : Nat) : SpiChannelCfg :=
  let cfgByte := block.at (base + 2)
  { ch with
    mode := .fromBits (cfgByte &&& 0x01 != 0) (cfgByte &&& 0x02 != 0)
    csPolarity := if cfgByte &&& 0x04 ≠ 0 then .activeHigh else .activeLow
    useCommonCs := cfgByte &&& 0x08 != 0
    deassertCsPause := cfgByte &&& 0x10 != 0
    baudRateKbps := be16 block base
    csClkLeadtime := block.at (base + 3)
    clkCsTrailtime := block.at (base + 4)
    bitsMax := block.at (base + 5)
    pauseMin := block.at (base + 6) }

/-- `parse_registers`. -/
def spiParseRegisters (cfg : SpiFunctionalCfg) (block : Octets) : SpiFunctionalCfg where
  common := .parse (block.at 2) (block.at 3)
  epStatus := be16 block 4
  channels c := (cfg.channels c).parse block (spiRegChannelBase + c.val * spiRegChannelSpan)

/-- `reg_offset_read_only`: the last octet of each channel is reserved. -/
def spiRegOffsetReadOnly (addr : Nat) : Bool :=
  if addr = 0 ∨ addr = 1 then true
  else if addr ≥ spiRegChannelBase then (addr - spiRegChannelBase) % spiRegChannelSpan == 7
  else false

/-- The block of the endpoint. -/
def spiBlock : EpBlock SpiFunctionalCfg where
  len := spiEpFuncLen
  render := spiRenderRegisters
  parse := spiParseRegisters
  readOnly := spiRegOffsetReadOnly
  length_render _ := rfl

/-- `rcp_ep_spi_apply_reconfig`. -/
def spiApplyReconfig (cfg : SpiFunctionalCfg) (payload : Octets) : Option EpReconfigErrc × SpiFunctionalCfg :=
  epApplyReconfig spiBlock cfg payload

/-! ### Messages -/

/-- What a transfer request asks for. -/
structure SpiTransfer where
  channel : UInt8
  txData : Octets
  readSize : UInt16
deriving DecidableEq, Repr

/-- `rcp_ep_spi_encode_transfer_request`. -/
def spiEncodeTransferRequest (byteBusId : ByteBusId) (t : SpiTransfer) (transactionNum : UInt8) : Option Octets :=
  Acf.encodeAbb
    { byteBusId, op := Acf.opRead, evt := t.channel &&& 0x7, readSizeOrSegmentNum := t.readSize, transactionNum } t.txData

/-- `rcp_ep_spi_decode_transfer_request`: the transfer and the transaction number. -/
def spiDecodeTransferRequest (b : Octets) (expectedBusId : ByteBusId) : Except EpErrc (SpiTransfer × UInt8) := do
  let (hdr, payload) ← epDecodeRequest b expectedBusId
  if hdr.op ≠ Acf.opRead then .error .wrongOp else
  let channel := hdr.evt &&& 0x7
  if !spiChannelValid channel then .error .badChannel else
  .ok ({ channel, txData := payload, readSize := hdr.readSizeOrSegmentNum }, hdr.transactionNum)

/-- `rcp_ep_spi_decode_response`: the channel and the data. -/
def spiDecodeResponse (b : Octets) (expectedBusId : ByteBusId) : Except EpErrc (EpReply (UInt8 × Octets)) := do
  let r ← epDecodeResponse b expectedBusId
  let channel := r.info.evt &&& 0x7
  if !spiChannelValid channel then .error .badChannel else
  .ok (r.reply (channel, r.payload))

end Rcp
