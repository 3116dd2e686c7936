import Rcp.Adc
import Rcp.Can
import Rcp.Gpio
import Rcp.I2c
import Rcp.Iseled
import Rcp.Lin
import Rcp.Mdio
import Rcp.Pwm
import Rcp.Spi
import Rcp.Theorems.EpBlocks
import Rcp.Uart
import Rcp.Wakeup
import Mathlib.Tactic.IntervalCases

/-! The fields of the configurations with the octets that show them: each is parsed from its own octets, together they
    make up the configuration, and a block parsed back from its own image is the configuration it was rendered from. -/

namespace Rcp
open Lib

variable {γ : Type} {blk : EpBlock γ}

/-- A field is local where what is parsed for it depends on its own octets. -/
theorem local_of_octets {f : BlockField γ}
    (h : ∀ c (x y : Octets), (∀ k, f.offset ≤ k → k < f.offset + f.width → x.at k = y.at k) →
      f.get (blk.parse c x) = f.get (blk.parse c y)) : f.Local blk := by
  intro c x y hxy
  refine h c x y fun k hlo hhi => ?_
  rw [Octets.at, Octets.at, List.getD_eq_getElem?_getD, List.getD_eq_getElem?_getD, hxy k hlo hhi]

/-- A field without registers. -/
def unshown {Value : Type} (get : γ → Value) : BlockField γ := ⟨get, 0, 0⟩

/-! ### The common part -/

def commonFields (common : γ → EpFunctionalCfg) : List (BlockField γ) :=
  [⟨fun c => (common c).epEnable, 2, 1⟩, ⟨fun c => (common c).epClearReqStorage, 2, 1⟩,
   ⟨fun c => (common c).epReqCrcEnable, 3, 1⟩, ⟨fun c => (common c).epResponseTsEnable, 3, 1⟩,
   ⟨fun c => (common c).epSuppressResponse, 3, 1⟩]

theorem common_separates {common : γ → EpFunctionalCfg} {c c' : γ} (h : ∀ f ∈ commonFields common, f.get c = f.get c') :
    common c = common c' := by
  simp only [commonFields, List.forall_mem_cons] at h
  obtain ⟨henable, hclear, hcrc, hts, hsuppress, -⟩ := h
  generalize common c = x at *
  generalize common c' = y at *
  cases x
  cases y
  simp_all

theorem commonFields_local {common : γ → EpFunctionalCfg}
    (h : ∀ c x, common (blk.parse c x) = .parse (Octets.at x 2) (Octets.at x 3)) :
    ∀ f ∈ commonFields common, f.Local blk := by
  simp only [commonFields, List.forall_mem_cons]
  refine ⟨?_, ?_, ?_, ?_, ?_, by simp⟩
  all_goals exact local_of_octets fun c x y hxy => by simp [h, EpFunctionalCfg.parse, hxy]

theorem EpFunctionalCfg.parse_octets (common : EpFunctionalCfg) : parse common.enableClr common.options = common := by
  rcases common with ⟨enable, clear, crc, ts, suppress⟩
  cases enable <;> cases clear <;> cases crc <;> cases ts <;> cases suppress <;> rfl

/-! ### PWM_OUT and PWM_IN -/

def pwmOutFields : List (BlockField PwmOutFunctionalCfg) :=
  commonFields (·.common) ++
  [⟨(·.epStatus), 6, 2⟩, ⟨(·.clkDivider), 8, 1⟩, ⟨(·.signalFlags), 9, 1⟩, ⟨(·.dutyCycleMin), 10, 2⟩,
   ⟨(·.dutyCycleMax), 12, 2⟩, ⟨(·.skew), 14, 1⟩, ⟨(·.baseClk), 4, 2⟩, unshown (·.trigger)]

theorem pwmOutFields_local : ∀ f ∈ pwmOutFields, f.Local pwmOutBlock := by
  simp only [pwmOutFields, unshown, List.forall_mem_append, List.forall_mem_cons]
  refine ⟨commonFields_local fun _ _ => rfl, ?_, ?_, ?_, ?_, ?_, ?_, ?_, ?_, by simp⟩
  all_goals exact local_of_octets fun c x y h => by simp [pwmOutBlock, pwmOutParseRegisters, be16, h]

theorem pwmOut_separates {c c' : PwmOutFunctionalCfg} (h : ∀ f ∈ pwmOutFields, f.get c = f.get c') : c = c' := by
  simp only [pwmOutFields, unshown, List.forall_mem_append, List.forall_mem_cons] at h
  have hcommon := common_separates h.1
  cases c
  cases c'
  simp_all

theorem pwmOut_parse_render (cfg : PwmOutFunctionalCfg) :
    pwmOutParseRegisters cfg (pwmOutRenderRegisters cfg) = cfg := by
  have hcommon : .parse ((pwmOutRenderRegisters cfg).at 2) ((pwmOutRenderRegisters cfg).at 3) = cfg.common :=
    cfg.common.parse_octets
  have hstatus : be16 (pwmOutRenderRegisters cfg) 6 = cfg.epStatus := be16_putU16 _
  have hmin : be16 (pwmOutRenderRegisters cfg) 10 = cfg.dutyCycleMin := be16_putU16 _
  have hmax : be16 (pwmOutRenderRegisters cfg) 12 = cfg.dutyCycleMax := be16_putU16 _
  rw [pwmOutParseRegisters, hcommon, hstatus, hmin, hmax]
  rfl

def pwmInFields : List (BlockField PwmInFunctionalCfg) :=
  commonFields (·.common) ++
  [⟨(·.epStatus), 6, 2⟩, ⟨(·.clkDivider), 8, 1⟩, ⟨(·.flags), 9, 1⟩, ⟨(·.maxPeriod), 10, 2⟩, ⟨(·.baseClk), 4, 2⟩,
   unshown (·.trigger)]

theorem pwmInFields_local : ∀ f ∈ pwmInFields, f.Local pwmInBlock := by
  simp only [pwmInFields, unshown, List.forall_mem_append, List.forall_mem_cons]
  refine ⟨commonFields_local fun _ _ => rfl, ?_, ?_, ?_, ?_, ?_, ?_, by simp⟩
  all_goals exact local_of_octets fun c x y h => by simp [pwmInBlock, pwmInParseRegisters, be16, h]

theorem pwmIn_separates {c c' : PwmInFunctionalCfg} (h : ∀ f ∈ pwmInFields, f.get c = f.get c') : c = c' := by
  simp only [pwmInFields, unshown, List.forall_mem_append, List.forall_mem_cons] at h
  have hcommon := common_separates h.1
  cases c
  cases c'
  simp_all

theorem pwmIn_parse_render (cfg : PwmInFunctionalCfg) : pwmInParseRegisters cfg (pwmInRenderRegisters cfg) = cfg := by
  have hcommon : .parse ((pwmInRenderRegisters cfg).at 2) ((pwmInRenderRegisters cfg).at 3) = cfg.common :=
    cfg.common.parse_octets
  have hstatus : be16 (pwmInRenderRegisters cfg) 6 = cfg.epStatus := be16_putU16 _
  have hmax : be16 (pwmInRenderRegisters cfg) 10 = cfg.maxPeriod := be16_putU16 _
  rw [pwmInParseRegisters, hcommon, hstatus, hmax]
  rfl

/-! ### GPIO -/

def gpioFields : List (BlockField GpioFunctionalCfg) :=
  commonFields (·.common) ++
  [⟨(·.epStatus), 6, 2⟩, ⟨(·.clkDivider), 8, 1⟩, unshown (·.pins)] ++
  (List.finRange gpioMaxPins).map fun i => ⟨(·.debounce i), gpioRegDebounceIo0 + i.val, 1⟩

theorem gpioFields_local : ∀ f ∈ gpioFields, f.Local gpioBlock := by
  simp only [gpioFields, unshown, List.forall_mem_append, List.forall_mem_cons, List.forall_mem_map]
  refine ⟨⟨commonFields_local fun _ _ => rfl, ?_, ?_, ?_, by simp⟩, fun i _ => ?_⟩
  all_goals exact local_of_octets fun c x y h => by simp [gpioBlock, gpioParseRegisters, be16, h]

theorem gpio_separates {c c' : GpioFunctionalCfg} (h : ∀ f ∈ gpioFields, f.get c = f.get c') : c = c' := by
  simp only [gpioFields, unshown, List.forall_mem_append, List.forall_mem_cons, List.forall_mem_map] at h
  have hcommon := common_separates h.1.1
  have hdebounce : c.debounce = c'.debounce := funext fun i => h.2 i (List.mem_finRange i)
  cases c
  cases c'
  simp_all

theorem gpio_parse_render (cfg : GpioFunctionalCfg) : gpioParseRegisters cfg (gpioRenderRegisters cfg) = cfg := by
  have hcommon : .parse ((gpioRenderRegisters cfg).at 2) ((gpioRenderRegisters cfg).at 3) = cfg.common :=
    cfg.common.parse_octets
  have hstatus : be16 (gpioRenderRegisters cfg) 6 = cfg.epStatus := be16_putU16 _
  have hdebounce : (fun i : Fin gpioMaxPins => (gpioRenderRegisters cfg).at (gpioRegDebounceIo0 + i.val)) = cfg.debounce := by
    funext i
    obtain ⟨i, hi⟩ := i
    simp only [gpioMaxPins] at hi
    interval_cases i <;> rfl
  rw [gpioParseRegisters, hcommon, hstatus, hdebounce]
  rfl

/-! ### SPI -/

/-- The fields of a channel, with its first register at `base`. -/
def spiChannelFields (i : Fin spiMaxChannels) : List (BlockField SpiFunctionalCfg) :=
  let base := spiRegChannelBase + i.val * spiRegChannelSpan
  [⟨fun c => (c.channels i).baudRateKbps, base, 2⟩, ⟨fun c => (c.channels i).mode, base + 2, 1⟩,
   ⟨fun c => (c.channels i).csPolarity, base + 2, 1⟩, ⟨fun c => (c.channels i).useCommonCs, base + 2, 1⟩,
   ⟨fun c => (c.channels i).deassertCsPause, base + 2, 1⟩, ⟨fun c => (c.channels i).csClkLeadtime, base + 3, 1⟩,
   ⟨fun c => (c.channels i).clkCsTrailtime, base + 4, 1⟩, ⟨fun c => (c.channels i).bitsMax, base + 5, 1⟩,
   ⟨fun c => (c.channels i).pauseMin, base + 6, 1⟩, unshown fun c => (c.channels i).bitOrder,
   unshown fun c => (c.channels i).trigger, unshown fun c => (c.channels i).clockDivider,
   unshown fun c => (c.channels i).interByteDelayNs, unshown fun c => (c.channels i).interTransferDelayNs]

def spiFields : List (BlockField SpiFunctionalCfg) :=
  commonFields (·.common) ++ [⟨(·.epStatus), 4, 2⟩] ++ (List.finRange spiMaxChannels).flatMap spiChannelFields

theorem spiChannelFields_local (i : Fin spiMaxChannels) : ∀ f ∈ spiChannelFields i, f.Local spiBlock := by
  simp only [spiChannelFields, unshown, List.forall_mem_cons]
  refine ⟨?_, ?_, ?_, ?_, ?_, ?_, ?_, ?_, ?_, ?_, ?_, ?_, ?_, ?_, by simp⟩
  all_goals exact local_of_octets fun c x y h => by simp [spiBlock, spiParseRegisters, SpiChannelCfg.parse, be16, h]

theorem spiFields_local : ∀ f ∈ spiFields, f.Local spiBlock := by
  simp only [spiFields, List.forall_mem_append, List.forall_mem_flatMap, List.forall_mem_cons]
  refine ⟨⟨commonFields_local fun _ _ => rfl, ?_, by simp⟩, fun i _ => spiChannelFields_local i⟩
  exact local_of_octets fun c x y h => by simp [spiBlock, spiParseRegisters, be16, h]

theorem spi_separates {c c' : SpiFunctionalCfg} (h : ∀ f ∈ spiFields, f.get c = f.get c') : c = c' := by
  simp only [spiFields, List.forall_mem_append, List.forall_mem_flatMap, List.forall_mem_cons] at h
  have hcommon := common_separates h.1.1
  have hchannels : c.channels = c'.channels := by
    funext i
    have hi := h.2 i (List.mem_finRange i)
    simp only [spiChannelFields, unshown, List.forall_mem_cons] at hi
    generalize c.channels i = ch at *
    generalize c'.channels i = ch' at *
    cases ch
    cases ch'
    simp_all
  cases c
  cases c'
  simp_all

theorem SpiChannelCfg.cfgByte_shows (ch : SpiChannelCfg) :
    SpiMode.fromBits (ch.cfgByte &&& 0x01 != 0) (ch.cfgByte &&& 0x02 != 0) = ch.mode ∧
      (if ch.cfgByte &&& 0x04 ≠ 0 then SpiCsPolarity.activeHigh else .activeLow) = ch.csPolarity ∧
      (ch.cfgByte &&& 0x08 != 0) = ch.useCommonCs ∧ (ch.cfgByte &&& 0x10 != 0) = ch.deassertCsPause := by
  unfold SpiChannelCfg.cfgByte
  cases ch.mode <;> cases ch.csPolarity <;> cases ch.useCommonCs <;> cases ch.deassertCsPause <;> decide

theorem SpiChannelCfg.parse_registers (ch : SpiChannelCfg) : ch.parse ch.registers 0 = ch := by
  obtain ⟨hmode, hpolarity, hcommonCs, hdeassert⟩ := ch.cfgByte_shows
  have hbaud : be16 ch.registers 0 = ch.baudRateKbps := be16_putU16 _
  have hcfg : ch.registers.at (0 + 2) = ch.cfgByte := rfl
  simp only [SpiChannelCfg.parse, hbaud, hcfg, hmode, hpolarity, hcommonCs, hdeassert]
  rfl

theorem spi_parse_render (cfg : SpiFunctionalCfg) : spiParseRegisters cfg (spiRenderRegisters cfg) = cfg := by
  have hcommon : .parse ((spiRenderRegisters cfg).at 2) ((spiRenderRegisters cfg).at 3) = cfg.common :=
    cfg.common.parse_octets
  have hstatus : be16 (spiRenderRegisters cfg) 4 = cfg.epStatus := be16_putU16 _
  have hchannels : (fun i : Fin spiMaxChannels =>
      (cfg.channels i).parse (spiRenderRegisters cfg) (spiRegChannelBase + i.val * spiRegChannelSpan)) = cfg.channels := by
    funext i
    refine Eq.trans ?_ (cfg.channels i).parse_registers
    obtain ⟨i, hi⟩ := i
    simp only [spiMaxChannels] at hi
    interval_cases i <;> rfl
  rw [spiParseRegisters, hcommon, hstatus, hchannels]

/-! ### I2C -/

def i2cFields : List (BlockField I2cFunctionalCfg) :=
  commonFields (·.common) ++
  [⟨(·.epStatus), 6, 2⟩, ⟨(·.clockDivider), 8, 1⟩, ⟨(·.i2cMode), i2cRegMode, 1⟩, ⟨(·.trail), 10, 1⟩]

theorem i2cFields_local : ∀ f ∈ i2cFields, f.Local i2cBlock := by
  simp only [i2cFields, List.forall_mem_append, List.forall_mem_cons]
  refine ⟨commonFields_local fun _ _ => rfl, ?_, ?_, ?_, ?_, by simp⟩
  all_goals exact local_of_octets fun c x y h => by simp [i2cBlock, i2cParseRegisters, be16, h]

theorem i2c_separates {c c' : I2cFunctionalCfg} (h : ∀ f ∈ i2cFields, f.get c = f.get c') : c = c' := by
  simp only [i2cFields, List.forall_mem_append, List.forall_mem_cons] at h
  have hcommon := common_separates h.1
  cases c
  cases c'
  simp_all

theorem i2c_parse_render (cfg : I2cFunctionalCfg) : i2cParseRegisters cfg (i2cRenderRegisters cfg) = cfg := by
  have hcommon : .parse ((i2cRenderRegisters cfg).at 2) ((i2cRenderRegisters cfg).at 3) = cfg.common :=
    cfg.common.parse_octets
  have hstatus : be16 (i2cRenderRegisters cfg) 6 = cfg.epStatus := be16_putU16 _
  rw [i2cParseRegisters, hcommon, hstatus]
  rfl

/-! ### UART -/

def uartFields : List (BlockField UartFunctionalCfg) :=
  commonFields (·.common) ++
  [⟨(·.epStatus), 4, 2⟩, ⟨(·.baudRateKbps), 6, 2⟩, ⟨(·.uartNrBits), uartRegNrBits, 1⟩, ⟨(·.parity), 9, 1⟩,
   ⟨(·.rtsEnable), 9, 1⟩, ⟨(·.ctsEnable), 9, 1⟩, ⟨(·.halfDuplex), 9, 1⟩, ⟨(·.stopBits), 10, 1⟩,
   ⟨(·.wireTimeoutBitTimes), 11, 1⟩, ⟨(·.trail), 12, 1⟩, unshown (·.baudRate), unshown (·.epRxBufferSize),
   unshown (·.uartTimeoutMs), unshown (·.trigger)]

theorem uartFields_local : ∀ f ∈ uartFields, f.Local uartBlock := by
  simp only [uartFields, unshown, List.forall_mem_append, List.forall_mem_cons]
  refine ⟨commonFields_local fun _ _ => rfl, ?_, ?_, ?_, ?_, ?_, ?_, ?_, ?_, ?_, ?_, ?_, ?_, ?_, ?_, by simp⟩
  all_goals exact local_of_octets fun c x y h => by simp [uartBlock, uartParseRegisters, be16, h]

theorem uart_separates {c c' : UartFunctionalCfg} (h : ∀ f ∈ uartFields, f.get c = f.get c') : c = c' := by
  simp only [uartFields, unshown, List.forall_mem_append, List.forall_mem_cons] at h
  have hcommon := common_separates h.1
  cases c
  cases c'
  simp_all

theorem UartFunctionalCfg.flags_shows (cfg : UartFunctionalCfg) :
    (if cfg.flags &&& 0x01 = 0 then UartParity.none else if cfg.flags &&& 0x02 ≠ 0 then .even else .odd) = cfg.parity ∧
      (cfg.flags &&& 0x04 != 0) = cfg.rtsEnable ∧ (cfg.flags &&& 0x08 != 0) = cfg.ctsEnable ∧
      (cfg.flags &&& 0x10 != 0) = cfg.halfDuplex := by
  unfold UartFunctionalCfg.flags
  cases cfg.parity <;> cases cfg.rtsEnable <;> cases cfg.ctsEnable <;> cases cfg.halfDuplex <;> decide

theorem uart_parse_render (cfg : UartFunctionalCfg) : uartParseRegisters cfg (uartRenderRegisters cfg) = cfg := by
  obtain ⟨hparity, hrts, hcts, hhalf⟩ := cfg.flags_shows
  have hcommon : .parse ((uartRenderRegisters cfg).at 2) ((uartRenderRegisters cfg).at 3) = cfg.common :=
    cfg.common.parse_octets
  have hstatus : be16 (uartRenderRegisters cfg) 4 = cfg.epStatus := be16_putU16 _
  have hbaud : be16 (uartRenderRegisters cfg) 6 = cfg.baudRateKbps := be16_putU16 _
  have hflags : (uartRenderRegisters cfg).at 9 = cfg.flags := rfl
  have hstop : .ofHalfUnits ((uartRenderRegisters cfg).at 10) = cfg.stopBits := by
    change UartStopBits.ofHalfUnits cfg.stopBits.toHalfUnits = cfg.stopBits
    cases cfg.stopBits <;> decide
  simp only [uartParseRegisters, hcommon, hstatus, hbaud, hflags, hparity, hrts, hcts, hhalf, hstop]
  rfl

/-! ### LIN -/

def linFields : List (BlockField LinFunctionalCfg) :=
  commonFields (·.common) ++
  [⟨(·.epStatus), 6, 2⟩, ⟨(·.wireClkDivider), 8, 1⟩, unshown (·.linClkDivider), unshown (·.trigger)]

theorem linFields_local : ∀ f ∈ linFields, f.Local linBlock := by
  simp only [linFields, unshown, List.forall_mem_append, List.forall_mem_cons]
  refine ⟨commonFields_local fun _ _ => rfl, ?_, ?_, ?_, ?_, by simp⟩
  all_goals exact local_of_octets fun c x y h => by simp [linBlock, linParseRegisters, be16, h]

theorem lin_separates {c c' : LinFunctionalCfg} (h : ∀ f ∈ linFields, f.get c = f.get c') : c = c' := by
  simp only [linFields, unshown, List.forall_mem_append, List.forall_mem_cons] at h
  have hcommon := common_separates h.1
  cases c
  cases c'
  simp_all

theorem lin_parse_render (cfg : LinFunctionalCfg) : linParseRegisters cfg (linRenderRegisters cfg) = cfg := by
  have hcommon : .parse ((linRenderRegisters cfg).at 2) ((linRenderRegisters cfg).at 3) = cfg.common :=
    cfg.common.parse_octets
  have hstatus : be16 (linRenderRegisters cfg) 6 = cfg.epStatus := be16_putU16 _
  rw [linParseRegisters, hcommon, hstatus]
  rfl

/-! ### ADC -/

def adcFields : List (BlockField AdcFunctionalCfg) :=
  commonFields (·.common) ++
  [⟨(·.epStatus), 6, 2⟩, ⟨(·.baseClkDivider), 8, 1⟩, ⟨(·.sampleInterval), 9, 1⟩, ⟨(·.adcAvgIntervalsPerRequest), 10, 1⟩,
   ⟨(·.adcSamplesPerAvgInterval), 11, 1⟩, ⟨(·.adcCombineAvgValues), 12, 1⟩, ⟨(·.resolution), 13, 1⟩,
   ⟨(·.triggerMin), 14, 2⟩, ⟨(·.triggerMax), 16, 2⟩]

theorem adcFields_local : ∀ f ∈ adcFields, f.Local adcBlock := by
  simp only [adcFields, List.forall_mem_append, List.forall_mem_cons]
  refine ⟨commonFields_local fun _ _ => rfl, ?_, ?_, ?_, ?_, ?_, ?_, ?_, ?_, ?_, by simp⟩
  all_goals exact local_of_octets fun c x y h => by simp [adcBlock, adcParseRegisters, be16, h]

theorem adc_separates {c c' : AdcFunctionalCfg} (h : ∀ f ∈ adcFields, f.get c = f.get c') : c = c' := by
  simp only [adcFields, List.forall_mem_append, List.forall_mem_cons] at h
  have hcommon := common_separates h.1
  cases c
  cases c'
  simp_all

/-- The configuration with both counts cut to the width of their registers. -/
def AdcFunctionalCfg.narrowed (cfg : AdcFunctionalCfg) : AdcFunctionalCfg :=
  { cfg with
    adcSamplesPerAvgInterval := cfg.adcSamplesPerAvgInterval &&& 0xFF
    adcAvgIntervalsPerRequest := cfg.adcAvgIntervalsPerRequest &&& 0xFF }

theorem toUInt16_toUInt8_and (v : UInt16) : (v &&& 0xFF).toUInt8.toUInt16 = v &&& 0xFF := by
  have hand : ∀ n : Nat, n &&& 255 = n % 256 := fun n => Nat.and_two_pow_sub_one_eq_mod n 8
  apply UInt16.toNat_inj.mp
  simp [hand]

theorem adc_parse_render (cfg : AdcFunctionalCfg) :
    adcParseRegisters cfg (adcRenderRegisters cfg) = cfg.narrowed := by
  have hcommon : .parse ((adcRenderRegisters cfg).at 2) ((adcRenderRegisters cfg).at 3) = cfg.common :=
    cfg.common.parse_octets
  have hstatus : be16 (adcRenderRegisters cfg) 6 = cfg.epStatus := be16_putU16 _
  have hmin : be16 (adcRenderRegisters cfg) 14 = cfg.triggerMin := be16_putU16 _
  have hmax : be16 (adcRenderRegisters cfg) 16 = cfg.triggerMax := be16_putU16 _
  have havg : ((adcRenderRegisters cfg).at 10).toUInt16 = cfg.adcAvgIntervalsPerRequest &&& 0xFF :=
    toUInt16_toUInt8_and _
  have hsamples : ((adcRenderRegisters cfg).at 11).toUInt16 = cfg.adcSamplesPerAvgInterval &&& 0xFF :=
    toUInt16_toUInt8_and _
  rw [adcParseRegisters, hcommon, hstatus, hmin, hmax, havg, hsamples]
  rfl

/-! ### CAN -/

def canFields : List (BlockField CanFunctionalCfg) :=
  commonFields (·.common) ++
  [⟨(·.epStatus), 6, 2⟩, ⟨(·.status), 0x1C, 4⟩, ⟨(·.fifoStatus), 0x20, 4⟩, unshown (·.arbitrationTiming),
   unshown (·.fdDataTiming), unshown (·.xlDataTiming), unshown (·.delayCompEnable), unshown (·.delayCompOffset),
   unshown (·.execDelayClkDivider), unshown (·.xlFilters), unshown (·.xlNewPlProvisioned)]

theorem canFields_local : ∀ f ∈ canFields, f.Local canBlock := by
  simp only [canFields, unshown, List.forall_mem_append, List.forall_mem_cons]
  refine ⟨commonFields_local fun _ _ => rfl, ?_, ?_, ?_, ?_, ?_, ?_, ?_, ?_, ?_, ?_, ?_, by simp⟩
  all_goals exact local_of_octets fun c x y h => by simp [canBlock, canParseRegisters, be16, getU32, h]

theorem can_separates {c c' : CanFunctionalCfg} (h : ∀ f ∈ canFields, f.get c = f.get c') : c = c' := by
  simp only [canFields, unshown, List.forall_mem_append, List.forall_mem_cons] at h
  have hcommon := common_separates h.1
  cases c
  cases c'
  simp_all

theorem can_parse_render (cfg : CanFunctionalCfg) : canParseRegisters cfg (canRenderRegisters cfg) = cfg := by
  have hcommon : .parse ((canRenderRegisters cfg).at 2) ((canRenderRegisters cfg).at 3) = cfg.common :=
    cfg.common.parse_octets
  have hep : be16 (canRenderRegisters cfg) 6 = cfg.epStatus := be16_putU16 _
  have hstatus : getU32 (canRenderRegisters cfg) 0x1C = cfg.status := getU32_putU32 _
  have hfifo : getU32 (canRenderRegisters cfg) 0x20 = cfg.fifoStatus := getU32_putU32 _
  rw [canParseRegisters, hcommon, hep, hstatus, hfifo]

/-! ### ISELED -/

def iseledFields : List (BlockField IseledFunctionalCfg) :=
  commonFields (·.common) ++
  [⟨(·.epStatus), 6, 2⟩, ⟨(·.wireClkDivider), 8, 1⟩, ⟨(·.collectResp), 9, 1⟩, ⟨(·.iseledUseRcvClk), 9, 1⟩,
   ⟨(·.nrLeds), 10, 2⟩, ⟨(·.rcvTimeout), 12, 2⟩, ⟨(·.baseClk), 4, 2⟩, unshown (·.iseledBitClkDivider),
   unshown (·.iseledCrcEnable), unshown (·.trigger)]

theorem iseledFields_local : ∀ f ∈ iseledFields, f.Local iseledBlock := by
  simp only [iseledFields, unshown, List.forall_mem_append, List.forall_mem_cons]
  refine ⟨commonFields_local fun _ _ => rfl, ?_, ?_, ?_, ?_, ?_, ?_, ?_, ?_, ?_, ?_, by simp⟩
  all_goals exact local_of_octets fun c x y h => by simp [iseledBlock, iseledParseRegisters, be16, h]

theorem iseled_separates {c c' : IseledFunctionalCfg} (h : ∀ f ∈ iseledFields, f.get c = f.get c') : c = c' := by
  simp only [iseledFields, unshown, List.forall_mem_append, List.forall_mem_cons] at h
  have hcommon := common_separates h.1
  cases c
  cases c'
  simp_all

theorem IseledFunctionalCfg.flags_shows (cfg : IseledFunctionalCfg) :
    (cfg.flags &&& 0x08 != 0) = cfg.collectResp ∧ (cfg.flags &&& 0x10 != 0) = cfg.iseledUseRcvClk := by
  unfold IseledFunctionalCfg.flags
  cases cfg.collectResp <;> cases cfg.iseledUseRcvClk <;> decide

theorem iseled_parse_render (cfg : IseledFunctionalCfg) :
    iseledParseRegisters cfg (iseledRenderRegisters cfg) = cfg := by
  obtain ⟨hcollect, hrcv⟩ := cfg.flags_shows
  have hcommon : .parse ((iseledRenderRegisters cfg).at 2) ((iseledRenderRegisters cfg).at 3) = cfg.common :=
    cfg.common.parse_octets
  have hstatus : be16 (iseledRenderRegisters cfg) 6 = cfg.epStatus := be16_putU16 _
  have hleds : be16 (iseledRenderRegisters cfg) 10 = cfg.nrLeds := be16_putU16 _
  have htimeout : be16 (iseledRenderRegisters cfg) 12 = cfg.rcvTimeout := be16_putU16 _
  have hflags : (iseledRenderRegisters cfg).at 9 = cfg.flags := rfl
  simp only [iseledParseRegisters, hcommon, hstatus, hleds, htimeout, hflags, hcollect, hrcv]
  rfl

/-! ### MDIO -/

def mdioFields : List (BlockField MdioFunctionalCfg) := commonFields (·.common) ++ [⟨(·.epStatus), 4, 2⟩]

theorem mdioFields_local : ∀ f ∈ mdioFields, f.Local mdioBlock := by
  simp only [mdioFields, List.forall_mem_append, List.forall_mem_cons]
  refine ⟨commonFields_local fun _ _ => rfl, ?_, by simp⟩
  exact local_of_octets fun c x y h => by simp [mdioBlock, mdioParseRegisters, be16, h]

theorem mdio_separates {c c' : MdioFunctionalCfg} (h : ∀ f ∈ mdioFields, f.get c = f.get c') : c = c' := by
  simp only [mdioFields, List.forall_mem_append, List.forall_mem_cons] at h
  have hcommon := common_separates h.1
  cases c
  cases c'
  simp_all

theorem mdio_parse_render (cfg : MdioFunctionalCfg) : mdioParseRegisters cfg (mdioRenderRegisters cfg) = cfg := by
  have hcommon : .parse ((mdioRenderRegisters cfg).at 2) ((mdioRenderRegisters cfg).at 3) = cfg.common :=
    cfg.common.parse_octets
  have hstatus : be16 (mdioRenderRegisters cfg) 4 = cfg.epStatus := be16_putU16 _
  rw [mdioParseRegisters, hcommon, hstatus]

/-! ### WAKEUP -/

/-- The fields of a source. -/
def wakeupSourceFields (i : Fin wakeupMaxSources) : List (BlockField WakeupFunctionalCfg) :=
  let register := wakeupRegSourceBase + i.val * wakeupRegSourceSpan
  [⟨fun c => (c.sources i).enabled, register, 2⟩, ⟨fun c => (c.sources i).activeHigh, register, 2⟩,
   ⟨fun c => (c.sources i).pinNumber, register, 2⟩, ⟨fun c => (c.sources i).triggerOnRisingEdge, register, 2⟩,
   ⟨fun c => (c.sources i).triggerOnFallingEdge, register, 2⟩]

/-- All fields but the mask of the latch. -/
def wakeupFields : List (BlockField WakeupFunctionalCfg) :=
  [⟨(·.epStatus), wakeupRegEpStatus, 2⟩, unshown (·.common), unshown (·.repetitionTimeUs)] ++
  (List.finRange wakeupMaxSources).flatMap wakeupSourceFields

theorem wakeupFields_local : ∀ f ∈ wakeupFields, f.Local wakeupBlock := by
  simp only [wakeupFields, wakeupSourceFields, unshown, List.forall_mem_append, List.forall_mem_flatMap,
    List.forall_mem_cons]
  refine ⟨⟨?_, ?_, ?_, by simp⟩, fun i _ => ⟨?_, ?_, ?_, ?_, ?_, by simp⟩⟩
  all_goals exact local_of_octets fun c x y h => by simp [wakeupBlock, parseWakeupRegisters, be16, h]

/-- The fields make up the configuration but for the mask of the latch. -/
theorem wakeup_separates {c c' : WakeupFunctionalCfg} (h : ∀ f ∈ wakeupFields, f.get c = f.get c') :
    c = { c' with wupStatus := c.wupStatus } := by
  simp only [wakeupFields, unshown, List.forall_mem_append, List.forall_mem_flatMap, List.forall_mem_cons] at h
  have hsources : c.sources = c'.sources := by
    funext i
    have hi := h.2 i (List.mem_finRange i)
    simp only [wakeupSourceFields, List.forall_mem_cons] at hi
    generalize c.sources i = src at *
    generalize c'.sources i = src' at *
    cases src
    cases src'
    simp_all
  cases c
  cases c'
  simp_all

theorem wakeupFields_wupStatus (cfg : WakeupFunctionalCfg) (mask : UInt16) :
    ∀ f ∈ wakeupFields, f.get { cfg with wupStatus := mask } = f.get cfg := by
  simp [wakeupFields, wakeupSourceFields, unshown, or_imp, forall_and]

/-- A source its register can show: the pin has eleven bits, and a trigger is one of an enabled source. -/
structure WakeupSourceCfg.Shown (src : WakeupSourceCfg) : Prop where
  pin : src.pinNumber &&& 0x07FF = src.pinNumber
  enabled : src.triggerOnRisingEdge = true ∨ src.triggerOnFallingEdge = true → src.enabled = true

theorem WakeupSourceCfg.register_pin (src : WakeupSourceCfg) : src.register &&& 0x07FF = src.pinNumber &&& 0x07FF := by
  unfold register
  apply UInt16.toBitVec_inj.mp
  ext i hi
  interval_cases i <;> simp

theorem WakeupSourceCfg.register_ioSrc (src : WakeupSourceCfg) :
    ((src.register >>> 11) &&& 0x1F).toUInt8 = src.ioSrc := by
  have hfive : src.ioSrc &&& 0x1F = src.ioSrc := by
    unfold ioSrc
    split_ifs <;> rfl
  rw [← hfive, register]
  generalize src.ioSrc = io
  apply UInt8.toBitVec_inj.mp
  ext i hi
  interval_cases i <;> simp

theorem WakeupSourceCfg.parse_register {src : WakeupSourceCfg} (h : src.Shown) : src.parse src.register = src := by
  have henabled := h.enabled
  rw [WakeupSourceCfg.parse, src.register_pin, src.register_ioSrc, h.pin]
  rcases src with ⟨enabled, high, pin, rising, falling⟩
  cases rising <;> cases falling
  · cases enabled <;> cases high <;> rfl
  all_goals
    cases henabled (by simp)
    rfl

/-- A written source is one its register can show, also where the value written is a reserved one. -/
theorem WakeupSourceCfg.shown_parse {src : WakeupSourceCfg} (h : src.Shown) (reg : UInt16) : (src.parse reg).Shown := by
  have hpin : reg &&& 0x07FF &&& 0x07FF = reg &&& 0x07FF := by rw [UInt16.and_assoc, UInt16.and_self]
  unfold parse
  split
  all_goals refine ⟨hpin, ?_⟩
  · simp
  · simp
  · simp
  · simp
  · simp
  · simp
  · exact h.enabled

theorem wakeup_parse_render {cfg : WakeupFunctionalCfg} (h : ∀ i, (cfg.sources i).Shown) :
    parseWakeupRegisters cfg (wakeupRenderRegisters cfg) =
      { cfg with wupStatus := wupStatusWriteOneToClear cfg.wupStatus (cfg.wupStatus &&& 0xFF) } := by
  have hstatus : be16 (wakeupRenderRegisters cfg) wakeupRegEpStatus = cfg.epStatus := be16_putU16 _
  have hwup : be16 (wakeupRenderRegisters cfg) wakeupRegWupStatus = cfg.wupStatus &&& 0xFF := be16_putU16 _
  have hsources : (fun i : Fin wakeupMaxSources => (cfg.sources i).parse
      (be16 (wakeupRenderRegisters cfg) (wakeupRegSourceBase + i.val * wakeupRegSourceSpan))) = cfg.sources := by
    funext i
    refine Eq.trans ?_ (WakeupSourceCfg.parse_register (h i))
    refine congrArg (cfg.sources i).parse (Eq.trans ?_ (be16_putU16 _))
    obtain ⟨i, hi⟩ := i
    simp only [wakeupMaxSources] at hi
    interval_cases i <;> rfl
  rw [parseWakeupRegisters, hstatus, hwup, hsources]

end Rcp
