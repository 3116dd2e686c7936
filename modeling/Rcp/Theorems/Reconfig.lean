import Rcp.Lib.History
import Rcp.Theorems.BlockFields

/-! Configuration writes have no side effects. A refused write changes nothing; an accepted one keeps every field
    whose octets it does not reach, whatever it carries for read-only octets, and one that carries what the block
    shows already changes nothing. -/

namespace Rcp
open Lib

variable {γ ε : Type} {blk : EpBlock γ} {apply : γ → Octets → Option ε × γ}

/-- Two writes differ in what they carry for read-only octets at most. -/
structure SameWritable (blk : EpBlock γ) (payload payload' : Octets) : Prop where
  start : reconfigStart payload = reconfigStart payload'
  length : payload.length = payload'.length
  octets : ∀ k, blk.readOnly k = false → reconfigOctet payload k = reconfigOctet payload' k

/-- A write of what the block shows in `n` octets from `start` on. -/
def writtenBack (blk : EpBlock γ) (cfg : γ) (start : UInt16) (n : Nat) : Octets :=
  putU16 start ++ ((blk.render cfg).drop start.toNat).take n

/-- The configuration writes on `cfg` have no side effects. `kept` holds what the fields keep. -/
structure CleanWrites (apply : γ → Octets → Option ε × γ) (blk : EpBlock γ) (fields : List (BlockField γ))
    (cfg kept : γ) : Prop where
  refused : ∀ payload e, (apply cfg payload).1 = some e → (apply cfg payload).2 = cfg
  untouched : ∀ payload, (apply cfg payload).1 = none → ∀ f ∈ fields,
    f.Untouched (reconfigStart payload) (reconfigData payload).length → f.get (apply cfg payload).2 = f.get kept
  readOnly : ∀ payload payload', SameWritable blk payload payload' → (apply cfg payload).2 = (apply cfg payload').2
  writtenBack : ∀ start n, 0 < n → start.toNat + n ≤ blk.len →
    (apply cfg (writtenBack blk cfg start n)).1 = none ∧
      ∀ f ∈ fields, f.get (apply cfg (writtenBack blk cfg start n)).2 = f.get kept

/-- A configuration write that is one of the block. -/
structure WritesBlock (apply : γ → Octets → Option ε × γ) (blk : EpBlock γ) : Prop where
  accepted : ∀ cfg {payload}, Accepts blk payload →
    apply cfg payload = (none, blk.write cfg (reconfigStart payload) (reconfigData payload))
  refused : ∀ cfg {payload}, ¬Accepts blk payload → ∃ e, apply cfg payload = (some e, cfg)

theorem epApplyReconfig_writesBlock (blk : EpBlock γ) : WritesBlock (epApplyReconfig blk) blk where
  accepted cfg _ h := epApplyReconfig_accepted h cfg
  refused cfg _ h := epApplyReconfig_refused h cfg

theorem WritesBlock.accepts_of_none (h : WritesBlock apply blk) {cfg : γ} {payload : Octets}
    (hnone : (apply cfg payload).1 = none) : Accepts blk payload := by
  by_contra hacc
  obtain ⟨e, he⟩ := h.refused cfg hacc
  rw [he] at hnone
  cases hnone

/-! ### Writes that agree on the octets that may be written -/

theorem SameWritable.data_length {payload payload' : Octets} (h : SameWritable blk payload payload') :
    (reconfigData payload).length = (reconfigData payload').length := by
  rw [reconfigData, reconfigData, List.length_drop, List.length_drop, h.length]

theorem SameWritable.accepts {payload payload' : Octets} (h : SameWritable blk payload payload') :
    Accepts blk payload ↔ Accepts blk payload' := by
  rw [Accepts, Accepts, h.length, h.start, h.data_length]

theorem SameWritable.write_eq {payload payload' : Octets} (h : SameWritable blk payload payload') (cfg : γ) :
    blk.write cfg (reconfigStart payload) (reconfigData payload) =
      blk.write cfg (reconfigStart payload') (reconfigData payload') := by
  rw [← h.start]
  refine Block.write_congr h.data_length ?_
  rintro k ⟨hro, hreach⟩
  have hoctet := h.octets k hro
  rw [reconfigOctet, reconfigOctet, ← h.start, if_pos hreach.1, if_pos hreach.1] at hoctet
  exact hoctet

/-! ### Writes of what the block shows -/

theorem writtenBack_start (blk : EpBlock γ) (cfg : γ) (start : UInt16) (n : Nat) :
    reconfigStart (writtenBack blk cfg start n) = start.toNat := congrArg UInt16.toNat (be16_putU16 start)

theorem writtenBack_data (blk : EpBlock γ) (cfg : γ) (start : UInt16) (n : Nat) :
    reconfigData (writtenBack blk cfg start n) = ((blk.render cfg).drop start.toNat).take n := rfl

theorem writtenBack_accepts {start : UInt16} {n : Nat} (cfg : γ) (hpos : 0 < n) (hfits : start.toNat + n ≤ blk.len) :
    Accepts blk (writtenBack blk cfg start n) := by
  have hdata : (((blk.render cfg).drop start.toNat).take n).length = n := by
    rw [List.length_take, List.length_drop, blk.length_render]
    omega
  rw [Accepts, writtenBack_start, writtenBack_data, hdata, writtenBack, List.length_append, hdata, putU16_length,
    epReconfigAddrLen]
  omega

/-! ### One block -/

/-- Where the fields are parsed from their own octets and the block's own image parses back to what is kept, the
    writes have no side effects. -/
theorem WritesBlock.clean {fields : List (BlockField γ)} {cfg kept : γ} (h : WritesBlock apply blk)
    (hlocal : ∀ f ∈ fields, f.Local blk)
    (hback : ∀ f ∈ fields, f.get (blk.parse cfg (blk.render cfg)) = f.get kept) :
    CleanWrites apply blk fields cfg kept where
  refused payload e he := by
    by_cases hacc : Accepts blk payload
    · rw [h.accepted cfg hacc] at he
      cases he
    · obtain ⟨e', he'⟩ := h.refused cfg hacc
      rw [he']
  untouched payload hnone f hf huntouched := by
    rw [h.accepted cfg (h.accepts_of_none hnone)]
    exact (BlockField.Local.get_write (hlocal f hf) huntouched).trans (hback f hf)
  readOnly payload payload' hsame := by
    by_cases hacc : Accepts blk payload
    · rw [h.accepted cfg hacc, h.accepted cfg (hsame.accepts.mp hacc), hsame.write_eq]
    · obtain ⟨_, he⟩ := h.refused cfg hacc
      obtain ⟨_, he'⟩ := h.refused cfg (fun hacc' => hacc (hsame.accepts.mpr hacc'))
      rw [he, he']
  writtenBack start n hpos hfits := by
    rw [h.accepted cfg (writtenBack_accepts cfg hpos hfits), writtenBack_start, writtenBack_data, Block.write_rendered]
    exact ⟨rfl, hback⟩

/-- A block of registers that shows a configuration whole. -/
theorem epApplyReconfig_clean {fields : List (BlockField γ)} {cfg kept : γ} (hlocal : ∀ f ∈ fields, f.Local blk)
    (hback : blk.parse cfg (blk.render cfg) = kept) : CleanWrites (epApplyReconfig blk) blk fields cfg kept :=
  (epApplyReconfig_writesBlock blk).clean hlocal fun f _ => congrArg f.get hback

/-- The fields make up the configuration. -/
def Separates (fields : List (BlockField γ)) : Prop := ∀ c c' : γ, (∀ f ∈ fields, f.get c = f.get c') → c = c'

/-! ### The runs of an ADC -/

/-- A setter is called, or a configuration write arrives. -/
inductive AdcCall where
  | setSamplesPerAvgInterval (samplesPerInterval : UInt16) (state : LifecycleState) (writer : FieldWriterCtx)
  | setAvgIntervalsPerRequest (intervalsPerRequest : UInt16) (state : LifecycleState) (writer : FieldWriterCtx)
  | setCombineAvgValues (combineAvgValues : UInt8) (state : LifecycleState) (writer : FieldWriterCtx)
  | applyReconfig (payload : Octets)
deriving DecidableEq

/-- The arguments are in the range of the registers, eight bits for both counts. -/
def AdcCall.InRange : AdcCall → Prop
  | .setSamplesPerAvgInterval n _ _ | .setAvgIntervalsPerRequest n _ _ => n ≤ 0xFF
  | .setCombineAvgValues .. | .applyReconfig _ => True

namespace AdcFunctionalCfg

def after (cfg : AdcFunctionalCfg) : AdcCall → AdcFunctionalCfg
  | .setSamplesPerAvgInterval n state writer => (cfg.setSamplesPerAvgInterval state writer n).2
  | .setAvgIntervalsPerRequest n state writer => (cfg.setAvgIntervalsPerRequest state writer n).2
  | .setCombineAvgValues n state writer => (cfg.setCombineAvgValues state writer n).2
  | .applyReconfig payload => (adcApplyReconfig cfg payload).2

/-- The configuration after a run from `init`. -/
def run (calls : List AdcCall) : AdcFunctionalCfg := calls.foldl after init

/-- Both counts fit their registers. -/
structure Shown (cfg : AdcFunctionalCfg) : Prop where
  samples : cfg.adcSamplesPerAvgInterval ≤ 0xFF
  intervals : cfg.adcAvgIntervalsPerRequest ≤ 0xFF

theorem narrowed_of_shown {cfg : AdcFunctionalCfg} (h : cfg.Shown) : cfg.narrowed = cfg := by
  have hand : ∀ n : Nat, n &&& 255 = n % 256 := fun n => Nat.and_two_pow_sub_one_eq_mod n 8
  have hmask : ∀ {v : UInt16}, v ≤ 0xFF → v &&& 0xFF = v := by
    intro v hv
    have hlt : v.toNat < 256 := Nat.lt_succ_of_le (UInt16.le_iff_toNat_le.mp hv)
    apply UInt16.toNat_inj.mp
    simp [hand, Nat.mod_eq_of_lt hlt]
  rw [narrowed, hmask h.samples, hmask h.intervals]

theorem shown_parse (cfg : AdcFunctionalCfg) (block : Octets) : (adcParseRegisters cfg block).Shown where
  samples := by
    rw [UInt16.le_iff_toNat_le]
    exact Nat.le_of_lt_succ (block.at 11).toNat_lt
  intervals := by
    rw [UInt16.le_iff_toNat_le]
    exact Nat.le_of_lt_succ (block.at 10).toNat_lt

theorem shown_after {cfg : AdcFunctionalCfg} {c : AdcCall} (h : cfg.Shown) (hc : c.InRange) : (cfg.after c).Shown := by
  cases c with
  | setSamplesPerAvgInterval n state writer => exact epSetField_field state writer h ⟨hc, h.intervals⟩
  | setAvgIntervalsPerRequest n state writer => exact epSetField_field state writer h ⟨h.samples, hc⟩
  | setCombineAvgValues n state writer => exact epSetField_field state writer h ⟨h.samples, h.intervals⟩
  | applyReconfig payload =>
    by_cases hacc : Accepts adcBlock payload
    · rw [after, adcApplyReconfig, epApplyReconfig_accepted hacc]
      exact shown_parse cfg _
    · obtain ⟨e, he⟩ := epApplyReconfig_refused hacc cfg
      rw [after, adcApplyReconfig, he]
      exact h

theorem shown_run {calls : List AdcCall} (h : ∀ c ∈ calls, c.InRange) : (run calls).Shown := by
  have hfrom : ∀ (calls : List AdcCall) {cfg : AdcFunctionalCfg}, cfg.Shown → (∀ c ∈ calls, c.InRange) →
      (calls.foldl after cfg).Shown := by
    intro calls
    induction calls with
    | nil => exact fun h _ => h
    | cons c calls ih =>
      intro cfg h hcalls
      rw [List.forall_mem_cons] at hcalls
      exact ih (shown_after h hcalls.1) hcalls.2
  exact hfrom calls ⟨by decide, by decide⟩ h

end AdcFunctionalCfg

/-! ### The runs of a WAKEUP -/

/-- The write with the configuration afterwards. -/
def wakeupReconfigured (cfg : WakeupFunctionalCfg) (payload : Octets) :
    Option WakeupReconfigErrc × WakeupFunctionalCfg :=
  match wakeupApplyReconfig cfg payload with
  | .error e => (some e, cfg)
  | .ok cfg' => (none, cfg')

/-- The latch is updated, or a configuration write arrives. -/
inductive WakeupUpdate where
  | latchSource (sourceIndex : Nat)
  | clearSource (sourceIndex : Nat)
  | clear
  | applyReconfig (payload : Octets)
deriving DecidableEq

namespace WakeupFunctionalCfg

def update (cfg : WakeupFunctionalCfg) : WakeupUpdate → WakeupFunctionalCfg
  | .latchSource i => { cfg with wupStatus := wupStatusLatchSource cfg.wupStatus i }
  | .clearSource i => { cfg with wupStatus := wupStatusClearSource cfg.wupStatus i }
  | .clear => { cfg with wupStatus := 0 }
  | .applyReconfig payload => (wakeupReconfigured cfg payload).2

/-- The configuration after a run from `init`. -/
def updated (updates : List WakeupUpdate) : WakeupFunctionalCfg := updates.foldl update init

end WakeupFunctionalCfg

theorem wakeupReconfigured_writesBlock : WritesBlock wakeupReconfigured wakeupBlock where
  accepted cfg payload h := by
    have hdata : (reconfigData payload).length = payload.length - wakeupReconfigAddrLen := List.length_drop
    have hlong : ¬payload.length ≤ wakeupReconfigAddrLen := Nat.not_le.mpr h.1
    have hfits : ¬(be16 payload 0).toNat + (payload.length - wakeupReconfigAddrLen) > wakeupEpFuncLen := by
      rw [← hdata]
      exact Nat.not_lt.mpr h.2
    have hpatch := epPatch_eq_patched wakeupBlock cfg (reconfigStart payload) (reconfigData payload)
    rw [wakeupReconfigured, wakeupApplyReconfig, if_neg hlong, if_neg hfits, Block.write, ← hpatch]
    rfl
  refused cfg payload h := by
    by_cases hlong : payload.length ≤ wakeupReconfigAddrLen
    · exact ⟨.short, by rw [wakeupReconfigured, wakeupApplyReconfig, if_pos hlong]⟩
    · have hdata : (reconfigData payload).length = payload.length - wakeupReconfigAddrLen := List.length_drop
      have hfits : (be16 payload 0).toNat + (payload.length - wakeupReconfigAddrLen) > wakeupEpFuncLen := by
        rw [← hdata]
        exact Nat.not_le.mp fun hle => h ⟨Nat.not_le.mp hlong, hle⟩
      exact ⟨.outOfRange, by rw [wakeupReconfigured, wakeupApplyReconfig, if_neg hlong, if_pos hfits]⟩

namespace WakeupFunctionalCfg

/-- Every source is one its register can show. -/
def Shown (cfg : WakeupFunctionalCfg) : Prop := ∀ i, (cfg.sources i).Shown

theorem shown_update {cfg : WakeupFunctionalCfg} (h : cfg.Shown) (u : WakeupUpdate) : (cfg.update u).Shown := by
  cases u with
  | latchSource i => exact h
  | clearSource i => exact h
  | clear => exact h
  | applyReconfig payload =>
    by_cases hacc : Accepts wakeupBlock payload
    · rw [update, wakeupReconfigured_writesBlock.accepted cfg hacc]
      exact fun i => WakeupSourceCfg.shown_parse (h i) _
    · obtain ⟨e, he⟩ := wakeupReconfigured_writesBlock.refused cfg hacc
      rw [update, he]
      exact h

theorem shown_updated (updates : List WakeupUpdate) : (updated updates).Shown := by
  have hdefault : ({} : WakeupSourceCfg).Shown := ⟨by decide, by decide⟩
  exact List.foldlRecOn updates update (fun _ => hdefault) fun _ h u _ => shown_update h u

theorem clean {cfg : WakeupFunctionalCfg} (h : cfg.Shown) :
    CleanWrites wakeupReconfigured wakeupBlock wakeupFields cfg cfg := by
  refine wakeupReconfigured_writesBlock.clean wakeupFields_local fun f hf => ?_
  have hback : wakeupBlock.parse cfg (wakeupBlock.render cfg) = _ := wakeup_parse_render h
  rw [hback]
  exact wakeupFields_wupStatus cfg _ f hf

end WakeupFunctionalCfg

/-! ### All endpoint types -/

/-- For every endpoint type, configuration writes have no side effects, and the fields this is about make up the
    configuration, but for the mask of the WAKEUP latch. The counts of an ADC are set in the range of their registers;
    wider ones are cut to it by every write. -/
theorem reconfig_clean :
    ((∀ calls : List AdcCall, (∀ c ∈ calls, c.InRange) →
        CleanWrites adcApplyReconfig adcBlock adcFields (.run calls) (.run calls)) ∧
      (∀ cfg, CleanWrites adcApplyReconfig adcBlock adcFields cfg cfg.narrowed) ∧ Separates adcFields) ∧
    ((∀ updates : List WakeupUpdate,
        CleanWrites wakeupReconfigured wakeupBlock wakeupFields (.updated updates) (.updated updates)) ∧
      ∀ c c' : WakeupFunctionalCfg, (∀ f ∈ wakeupFields, f.get c = f.get c') → c = { c' with wupStatus := c.wupStatus }) ∧
    ((∀ cfg, CleanWrites pwmOutApplyReconfig pwmOutBlock pwmOutFields cfg cfg) ∧ Separates pwmOutFields) ∧
    ((∀ cfg, CleanWrites pwmInApplyReconfig pwmInBlock pwmInFields cfg cfg) ∧ Separates pwmInFields) ∧
    ((∀ cfg, CleanWrites gpioApplyReconfig gpioBlock gpioFields cfg cfg) ∧ Separates gpioFields) ∧
    ((∀ cfg, CleanWrites spiApplyReconfig spiBlock spiFields cfg cfg) ∧ Separates spiFields) ∧
    ((∀ cfg, CleanWrites i2cApplyReconfig i2cBlock i2cFields cfg cfg) ∧ Separates i2cFields) ∧
    ((∀ cfg, CleanWrites uartApplyReconfig uartBlock uartFields cfg cfg) ∧ Separates uartFields) ∧
    ((∀ cfg, CleanWrites linApplyReconfig linBlock linFields cfg cfg) ∧ Separates linFields) ∧
    ((∀ cfg, CleanWrites canApplyReconfig canBlock canFields cfg cfg) ∧ Separates canFields) ∧
    ((∀ cfg, CleanWrites iseledApplyReconfig iseledBlock iseledFields cfg cfg) ∧ Separates iseledFields) ∧
    ((∀ cfg, CleanWrites mdioApplyReconfig mdioBlock mdioFields cfg cfg) ∧ Separates mdioFields) := by
  have hadc : ∀ cfg, CleanWrites adcApplyReconfig adcBlock adcFields cfg cfg.narrowed := fun cfg =>
    epApplyReconfig_clean adcFields_local (adc_parse_render cfg)
  refine ⟨⟨fun calls h => ?_, hadc, fun _ _ => adc_separates⟩,
    ⟨fun updates => WakeupFunctionalCfg.clean (WakeupFunctionalCfg.shown_updated updates), fun _ _ => wakeup_separates⟩,
    ⟨fun cfg => epApplyReconfig_clean pwmOutFields_local (pwmOut_parse_render cfg), fun _ _ => pwmOut_separates⟩,
    ⟨fun cfg => epApplyReconfig_clean pwmInFields_local (pwmIn_parse_render cfg), fun _ _ => pwmIn_separates⟩,
    ⟨fun cfg => epApplyReconfig_clean gpioFields_local (gpio_parse_render cfg), fun _ _ => gpio_separates⟩,
    ⟨fun cfg => epApplyReconfig_clean spiFields_local (spi_parse_render cfg), fun _ _ => spi_separates⟩,
    ⟨fun cfg => epApplyReconfig_clean i2cFields_local (i2c_parse_render cfg), fun _ _ => i2c_separates⟩,
    ⟨fun cfg => epApplyReconfig_clean uartFields_local (uart_parse_render cfg), fun _ _ => uart_separates⟩,
    ⟨fun cfg => epApplyReconfig_clean linFields_local (lin_parse_render cfg), fun _ _ => lin_separates⟩,
    ⟨fun cfg => epApplyReconfig_clean canFields_local (can_parse_render cfg), fun _ _ => can_separates⟩,
    ⟨fun cfg => epApplyReconfig_clean iseledFields_local (iseled_parse_render cfg), fun _ _ => iseled_separates⟩,
    fun cfg => epApplyReconfig_clean mdioFields_local (mdio_parse_render cfg), fun _ _ => mdio_separates⟩
  have hclean := hadc (.run calls)
  rwa [AdcFunctionalCfg.narrowed_of_shown (AdcFunctionalCfg.shown_run h)] at hclean

/-- A run that sets 200 intervals per request, and a write of a threshold after it. -/
theorem reconfig_clean_adc :
    (AdcFunctionalCfg.run [.setAvgIntervalsPerRequest 200 .rcpConfigured { viaOwningStream := true },
      .applyReconfig [0, 0x10, 1, 2]]).adcAvgIntervalsPerRequest = 200 := by
  have hclean := reconfig_clean.1.1 [.setAvgIntervalsPerRequest 200 .rcpConfigured { viaOwningStream := true }]
    (by simp [AdcCall.InRange])
  refine hclean.untouched [0, 0x10, 1, 2] (by decide) ⟨(·.adcAvgIntervalsPerRequest), 10, 1⟩ (by simp [adcFields]) ?_
  intro k _ hhi
  have hlt : k < 11 := hhi
  have hstart : reconfigStart [0, 0x10, 1, 2] = 16 := by decide
  rw [hstart, Reaches]
  omega

end Rcp
