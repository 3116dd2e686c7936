import Rcp.EpFunc
import Rcp.EpCodec
import Rcp.Pwm

/-! The ADC endpoint (`ep_adc.c`): the average over an interval, the functional configuration with its setters and its
    block of registers, and the codec of its messages. Two counts are sixteen bits wide in memory and have eight-bit
    registers. -/

namespace Rcp

/-! ### Averaging -/

/-- `rcp_ep_adc_sample_t`. -/
structure AdcSample where
  value : UInt16 := 0
  timestamp : UInt64 := 0
deriving DecidableEq, Repr

/-- `rcp_ep_adc_avg_value_t`. -/
structure AdcAvgValue where
  value : UInt16
  timestamp : UInt64
deriving DecidableEq, Repr

/-- A round of the loop that adds up: the sum and the number of the samples counted, which is a `size_t`. -/
def adcCount (acc : UInt64 × UInt64) (sample : AdcSample) : UInt64 × UInt64 :=
  if sample.value = pwmInNoSignal then acc else (acc.1 + sample.value.toUInt64, acc.2 + 1)

/-- The loop over `i` that goes back to the last sample counted; `timestamp` is what the result has before it. -/
def adcLastTimestamp (samples : List AdcSample) (timestamp : UInt64) : Nat → UInt64
  | 0 => timestamp
  | i + 1 =>
    if (samples.getD i {}).value = pwmInNoSignal then adcLastTimestamp samples timestamp i
    else (samples.getD i {}).timestamp

/-- `rcp_ep_adc_average_interval`. -/
def adcAverageInterval (samples : List AdcSample) : AdcAvgValue :=
  if samples.length = 0 then { value := pwmInNoSignal, timestamp := 0 } else
  let (sum, counted) := samples.foldl adcCount (0, 0)
  { value := if counted = 0 then pwmInNoSignal else (sum / counted).toUInt16
    timestamp := adcLastTimestamp samples (samples.getD (samples.length - 1) {}).timestamp samples.length }

/-! ### The functional configuration -/

/-- `rcp_ep_adc_functional_cfg_t`. -/
structure AdcFunctionalCfg where
  common : EpFunctionalCfg := {}
  adcSamplesPerAvgInterval : UInt16 := 0
  adcAvgIntervalsPerRequest : UInt16 := 0
  adcCombineAvgValues : UInt8 := 0
  epStatus : UInt16 := 0
  baseClkDivider : UInt8 := 0
  sampleInterval : UInt8 := 0
  resolution : UInt8 := 0
  triggerMin : UInt16 := 0
  triggerMax : UInt16 := 0
deriving DecidableEq, Repr

namespace AdcFunctionalCfg

/-- `rcp_ep_adc_functional_cfg_init`. -/
def init : AdcFunctionalCfg := {}

section setters
variable (cfg : AdcFunctionalCfg) (state : LifecycleState) (writer : FieldWriterCtx)

/-- `rcp_ep_adc_set_samples_per_avg_interval`. -/
def setSamplesPerAvgInterval (samplesPerInterval : UInt16) : Bool × AdcFunctionalCfg :=
  epSetField cfg { cfg with adcSamplesPerAvgInterval := samplesPerInterval } state writer

/-- `rcp_ep_adc_set_avg_intervals_per_request`. -/
def setAvgIntervalsPerRequest (intervalsPerRequest : UInt16) : Bool × AdcFunctionalCfg :=
  epSetField cfg { cfg with adcAvgIntervalsPerRequest := intervalsPerRequest } state writer

/-- `rcp_ep_adc_set_combine_avg_values`. -/
def setCombineAvgValues (combineAvgValues : UInt8) : Bool × AdcFunctionalCfg :=
  epSetField cfg { cfg with adcCombineAvgValues := combineAvgValues } state writer

end setters

end AdcFunctionalCfg

/-! ### The register block -/

/-- `RCP_EP_ADC_EP_FUNC_LEN`. -/
def adcEpFuncLen : Nat := 0x12

/-- `rcp_ep_adc_render_registers`. The two counts are cut to their low octet. -/
def adcRenderRegisters (cfg : AdcFunctionalCfg) : Octets :=
  [UInt8.ofNat adcEpFuncLen, 0, cfg.common.enableClr, cfg.common.options] ++ putU16 0 ++ putU16 cfg.epStatus ++
  [cfg.baseClkDivider, cfg.sampleInterval, (cfg.adcAvgIntervalsPerRequest &&& 0xFF).toUInt8,
   (cfg.adcSamplesPerAvgInterval &&& 0xFF).toUInt8, cfg.adcCombineAvgValues, cfg.resolution] ++
  putU16 cfg.triggerMin ++ putU16 cfg.triggerMax

/-- `parse_registers`. -/
def adcParseRegisters (cfg : AdcFunctionalCfg) (block : Octets) : AdcFunctionalCfg :=
  { cfg with
    common := .parse (block.at 2) (block.at 3)
    epStatus := be16 block 6
    baseClkDivider := block.at 8
    sampleInterval := block.at 9
    adcAvgIntervalsPerRequest := (block.at 10).toUInt16
    adcSamplesPerAvgInterval := (block.at 11).toUInt16
    adcCombineAvgValues := block.at 12
    resolution := block.at 13
    triggerMin := be16 block 14
    triggerMax := be16 block 16 }

/-- The block of the endpoint, with `reg_offset_read_only`. -/
def adcBlock : EpBlock AdcFunctionalCfg where
  len := adcEpFuncLen
  render := adcRenderRegisters
  parse := adcParseRegisters
  readOnly := epRegOffsetReadOnly
  length_render _ := rfl

/-- `rcp_ep_adc_apply_reconfig`. -/
def adcApplyReconfig (cfg : AdcFunctionalCfg) (payload : Octets) : Option EpReconfigErrc × AdcFunctionalCfg :=
  epApplyReconfig adcBlock cfg payload

/-! ### Messages -/

/-- `RCP_EP_ADC_VALUE_LEN`. -/
def adcValueLen : Nat := 2

/-- `rcp_ep_adc_encode_read_request`. -/
def adcEncodeReadRequest (byteBusId : ByteBusId) (readSize : UInt16) (transactionNum : UInt8) : Option Octets :=
  Acf.encodeAbb { byteBusId, op := Acf.opRead, readSizeOrSegmentNum := readSize, transactionNum } []

/-- `rcp_ep_adc_decode_read_request`: the read size and the transaction number. -/
def adcDecodeReadRequest (b : Octets) (expectedBusId : ByteBusId) : Except EpErrc (UInt16 × UInt8) := do
  let (hdr, _) ← epDecodeRequest b expectedBusId
  if hdr.op ≠ Acf.opRead then .error .wrongOp else
  if !Acf.evtRow2IsPlain hdr.evt then .error .badEvt else
  .ok (hdr.readSizeOrSegmentNum, hdr.transactionNum)

/-- `rcp_ep_adc_decode_response`: the values, of which there is room for `maxValues`. -/
def adcDecodeResponse (b : Octets) (expectedBusId : ByteBusId) (maxValues : Nat) :
    Except EpErrc (EpReply (List UInt16)) := do
  let r ← epDecodeResponse b expectedBusId
  if r.payload.length = 0 ∨ r.payload.length % adcValueLen ≠ 0 then .error .badPayloadLen else
  let valueCount := r.payload.length / adcValueLen
  if valueCount > maxValues then .error .tooManyValues else
  .ok (r.reply ((List.range valueCount).map fun i => be16 r.payload (i * adcValueLen)))

end Rcp
