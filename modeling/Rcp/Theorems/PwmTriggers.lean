import Rcp.Lib.Cycle
import Rcp.Pwm

/-! The trigger events of a PWM_OUT channel: in every cycle each of them comes up at one tick. -/

namespace Rcp
open Lib

variable {period activeDuration : UInt16} {skew : UInt8} {tick : UInt32}

/-- The event is among those reported at a tick. -/
def PwmOutReports (period activeDuration : UInt16) (skew event : UInt8) (tick : UInt32) : Prop :=
  pwmOutTriggerEventsAtTick period activeDuration skew tick &&& event ≠ 0

/-- `period` ticks in a row, of which the first is `start`. -/
def PwmOutWindow (period : UInt16) (start tick : UInt32) : Prop := Cycle.Window period.toNat start.toNat tick.toNat

/-! ### The delayed tick -/

/-- The `delayed_tick` of the function. -/
def pwmOutDelayedTick (period : UInt16) (skew : UInt8) (tick : UInt32) : UInt32 :=
  (tick % period.toUInt32 + period.toUInt32 - skew.toUInt32 % period.toUInt32) % period.toUInt32

/-- Neither the sum nor the difference wraps, so that the delayed tick is the phase from the skewed edge. -/
theorem pwmOutDelayedTick_toNat (hperiod : 0 < period) (skew : UInt8) (tick : UInt32) :
    (pwmOutDelayedTick period skew tick).toNat = Cycle.phase period.toNat skew.toNat tick.toNat := by
  have hpos : 0 < period.toNat := UInt16.lt_iff_toNat_lt.mp hperiod
  have hlt := period.toNat_lt
  have htick := Nat.mod_lt tick.toNat hpos
  have hskew := Nat.mod_lt skew.toNat hpos
  have hadd : (tick % period.toUInt32 + period.toUInt32).toNat = tick.toNat % period.toNat + period.toNat := by
    rw [UInt32.toNat_add, UInt32.toNat_mod, UInt16.toNat_toUInt32]
    omega
  have hle : skew.toUInt32 % period.toUInt32 ≤ tick % period.toUInt32 + period.toUInt32 := by
    rw [UInt32.le_iff_toNat_le, hadd, UInt32.toNat_mod, UInt16.toNat_toUInt32, UInt8.toNat_toUInt32]
    omega
  rw [pwmOutDelayedTick, UInt32.toNat_mod, UInt32.toNat_sub_of_le _ _ hle, hadd, UInt32.toNat_mod,
    UInt16.toNat_toUInt32, UInt8.toNat_toUInt32, Cycle.phase]

theorem pwmOutTriggerEventsAtTick_eq (hperiod : 0 < period) :
    pwmOutTriggerEventsAtTick period activeDuration skew tick =
      (if Cycle.phase period.toNat skew.toNat tick.toNat = 0 then pwmOutTriggerEventCycleStart else 0) |||
        (if Cycle.phase period.toNat skew.toNat tick.toNat = activeDuration.toNat / 2 then
          pwmOutTriggerEventMidPulse else 0) := by
  have hne : period ≠ 0 := by
    rintro rfl
    exact absurd hperiod (by decide)
  have hphase := pwmOutDelayedTick_toNat hperiod skew tick
  have hstart : pwmOutDelayedTick period skew tick = 0 ↔ Cycle.phase period.toNat skew.toNat tick.toNat = 0 := by
    rw [← UInt32.toNat_inj, hphase]
    rfl
  have hmid : pwmOutDelayedTick period skew tick = (activeDuration / 2).toUInt32 ↔
      Cycle.phase period.toNat skew.toNat tick.toNat = activeDuration.toNat / 2 := by
    rw [← UInt32.toNat_inj, hphase, UInt16.toNat_toUInt32, UInt16.toNat_div]
    rfl
  rw [pwmOutDelayedTick] at hstart hmid
  rw [pwmOutTriggerEventsAtTick, if_neg hne]
  simp only [hstart, hmid]
  split_ifs <;> rfl

/-! ### The events -/

/-- The two bits are told apart. -/
theorem pwmOutTriggerEvents_bits (p q : Prop) [Decidable p] [Decidable q] :
    (((if p then pwmOutTriggerEventCycleStart else 0) ||| (if q then pwmOutTriggerEventMidPulse else 0)) &&&
        pwmOutTriggerEventCycleStart ≠ 0 ↔ p) ∧
      (((if p then pwmOutTriggerEventCycleStart else 0) ||| (if q then pwmOutTriggerEventMidPulse else 0)) &&&
        pwmOutTriggerEventMidPulse ≠ 0 ↔ q) := by
  by_cases hp : p <;> by_cases hq : q <;> simp only [hp, hq, if_true, if_false] <;> decide

theorem pwmOut_cycleStart_iff (hperiod : 0 < period) :
    PwmOutReports period activeDuration skew pwmOutTriggerEventCycleStart tick ↔
      tick.toNat ≡ skew.toNat [MOD period.toNat] := by
  have hpos : 0 < period.toNat := UInt16.lt_iff_toNat_lt.mp hperiod
  rw [PwmOutReports, pwmOutTriggerEventsAtTick_eq hperiod, (pwmOutTriggerEvents_bits _ _).1, Cycle.phase_eq_iff hpos,
    Nat.add_zero]

theorem pwmOut_midPulse_iff (hperiod : 0 < period) (hactive : activeDuration / 2 < period) :
    PwmOutReports period activeDuration skew pwmOutTriggerEventMidPulse tick ↔
      tick.toNat ≡ skew.toNat + activeDuration.toNat / 2 [MOD period.toNat] := by
  rw [PwmOutReports, pwmOutTriggerEventsAtTick_eq hperiod, (pwmOutTriggerEvents_bits _ _).2, Cycle.phase_eq_iff]
  have h := UInt16.lt_iff_toNat_lt.mp hactive
  rwa [UInt16.toNat_div] at h

/-- A window that does not run over the end of the counter has one tick for every residue. -/
theorem existsUnique_pwmOutWindow (hperiod : 0 < period) {start : UInt32} (hstart : start.toNat + period.toNat ≤ 2 ^ 32)
    (r : Nat) : ∃! tick : UInt32, PwmOutWindow period start tick ∧ tick.toNat ≡ r [MOD period.toNat] := by
  have hpos : 0 < period.toNat := UInt16.lt_iff_toNat_lt.mp hperiod
  have hfits : start.toNat + Cycle.phase period.toNat start.toNat r < 2 ^ 32 :=
    Nat.lt_of_lt_of_le (Nat.add_lt_add_left (Cycle.phase_lt hpos) _) hstart
  have htick := UInt32.toNat_ofNat_of_lt' hfits
  refine ⟨UInt32.ofNat (start.toNat + Cycle.phase period.toNat start.toNat r), ?_, ?_⟩
  · exact (Cycle.window_modEq_iff hpos).mpr htick
  · intro tick h
    exact UInt32.toNat_inj.mp (((Cycle.window_modEq_iff hpos).mp h).trans htick.symm)

/-- Every cycle has its start and its middle of the pulse once, the latter half the active duration behind the former. -/
theorem pwmOut_trigger_cycle (period activeDuration : UInt16) (skew : UInt8) (hperiod : 0 < period)
    (hactive : activeDuration / 2 < period) :
    (∀ tick, PwmOutReports period activeDuration skew pwmOutTriggerEventCycleStart tick ↔
      tick.toNat ≡ skew.toNat [MOD period.toNat]) ∧
    (∀ tick, PwmOutReports period activeDuration skew pwmOutTriggerEventMidPulse tick ↔
      tick.toNat ≡ skew.toNat + activeDuration.toNat / 2 [MOD period.toNat]) ∧
    ∀ start : UInt32, start.toNat + period.toNat ≤ 2 ^ 32 →
      (∃! tick, PwmOutWindow period start tick ∧
        PwmOutReports period activeDuration skew pwmOutTriggerEventCycleStart tick) ∧
      (∃! tick, PwmOutWindow period start tick ∧
        PwmOutReports period activeDuration skew pwmOutTriggerEventMidPulse tick) ∧
      ∀ c m, PwmOutWindow period start c → PwmOutWindow period start m →
        PwmOutReports period activeDuration skew pwmOutTriggerEventCycleStart c →
        PwmOutReports period activeDuration skew pwmOutTriggerEventMidPulse m →
        m.toNat = start.toNat + (c.toNat - start.toNat + activeDuration.toNat / 2) % period.toNat := by
  refine ⟨fun _ => pwmOut_cycleStart_iff hperiod, fun _ => pwmOut_midPulse_iff hperiod hactive, fun start hstart => ?_⟩
  simp only [pwmOut_cycleStart_iff hperiod, pwmOut_midPulse_iff hperiod hactive]
  refine ⟨existsUnique_pwmOutWindow hperiod hstart _, existsUnique_pwmOutWindow hperiod hstart _, ?_⟩
  intro c m hc hm hcycle hpulse
  exact Cycle.Window.later (UInt16.lt_iff_toNat_lt.mp hperiod) hc hm (hpulse.trans (hcycle.symm.add_right _))

/-- A period of 20 ticks, skewed by more than that, in the window from tick 7 on. -/
theorem pwmOut_trigger_cycle_twenty :
    ∃! tick, PwmOutWindow 20 7 tick ∧ PwmOutReports 20 10 25 pwmOutTriggerEventMidPulse tick :=
  ((pwmOut_trigger_cycle 20 10 25 (by decide) (by decide)).2.2 7 (by decide)).2.1

end Rcp
