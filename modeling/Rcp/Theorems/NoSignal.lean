import Rcp.Pwm
import Rcp.Server
import Rcp.Theorems.Codec

/-! A compound-wait request at a PWM_IN endpoint. The server compares octets and knows nothing of the value that
    stands for a missing signal; the endpoint's own comparison never matches on it. The two decide alike except
    where the comparison of the octets holds of that value. -/

namespace Rcp

namespace PwmInCompoundWaitMode

/-- The half of a value that a mode compares. -/
def half (mode : PwmInCompoundWaitMode) (v : PwmValue) : UInt16 :=
  match mode with
  | .periodGe | .periodLe => v.period
  | .dutyGe | .dutyLe => v.activeDuration

/-- Where that half stands in the four octets. -/
def offset : PwmInCompoundWaitMode → Nat
  | .periodGe | .periodLe => 0
  | .dutyGe | .dutyLe => 2

def isGe : PwmInCompoundWaitMode → Bool
  | .periodGe | .dutyGe => true
  | .periodLe | .dutyLe => false

/-- The comparison itself, on a status and a threshold. -/
def holds (mode : PwmInCompoundWaitMode) (status threshold : UInt16) : Bool :=
  if mode.isGe then threshold ≥ status else threshold ≤ status

/-- Of the largest status, GE holds for the largest threshold only, LE for every threshold. -/
theorem holds_noSignal (mode : PwmInCompoundWaitMode) (threshold : UInt16) :
    mode.holds pwmInNoSignal threshold = (!mode.isGe || threshold == pwmInNoSignal) := by
  have hmax : threshold ≤ pwmInNoSignal := by
    rw [UInt16.le_iff_toNat_le]
    exact Nat.le_of_lt_succ threshold.toNat_lt
  have hge : threshold ≥ pwmInNoSignal ↔ threshold = pwmInNoSignal :=
    ⟨fun h => UInt16.le_antisymm hmax h, fun h => h ▸ UInt16.le_refl _⟩
  unfold holds
  cases mode.isGe
  · simp [hmax]
  · simp only [if_true, Bool.not_true, Bool.false_or, Bool.beq_eq_decide_eq]
    exact decide_eq_decide.mpr hge

end PwmInCompoundWaitMode

theorem pwmInCompoundWaitCompare_eq (captured : PwmValue) (mode : PwmInCompoundWaitMode) (threshold : UInt16) :
    pwmInCompoundWaitCompare captured mode threshold =
      if mode.half captured = pwmInNoSignal then false else mode.holds (mode.half captured) threshold := by
  cases mode <;> rfl

theorem be16_putPwmValue (v : PwmValue) : be16 (putPwmValue v) 0 = v.period ∧ be16 (putPwmValue v) 2 = v.activeDuration :=
  ⟨be16_putU16 v.period, be16_putU16 v.activeDuration⟩

/-- The server's comparison of a four-octet target with a PWM_IN status. -/
theorem compoundWaitMatch_pwmIn (captured : PwmValue) {mode : PwmInCompoundWaitMode} {evt : UInt8} {payload : Octets}
    (hevt : evt &&& 0x7 = mode.code) (hlen : payload.length = pwmPayloadLen) :
    Acf.compoundWaitMatch evt payload (putPwmValue captured) =
      mode.holds (mode.half captured) (be16 payload mode.offset) := by
  obtain ⟨hperiod, hduty⟩ := be16_putPwmValue captured
  have hstatus : ¬(putPwmValue captured).length < payload.length := by
    rw [hlen]
    exact Nat.lt_irrefl 4
  have hfour : ¬payload.length < 4 := by
    rw [hlen]
    decide
  rw [Acf.compoundWaitMatch, if_neg hstatus, hevt]
  cases mode <;>
    simp only [PwmInCompoundWaitMode.code, PwmInCompoundWaitMode.holds, PwmInCompoundWaitMode.half,
      PwmInCompoundWaitMode.isGe, PwmInCompoundWaitMode.offset, hperiod, hduty, hfour, if_false, if_true] <;>
    rfl

/-- The server and the endpoint decide a compound wait alike exactly when the compared half is a measurement, or
    the mode is a GE and the threshold is not the value that stands for a missing signal. -/
theorem pwmIn_compoundWait_agrees_iff (slot : Pending) (ctx : TickCtx) (captured : PwmValue)
    (mode : PwmInCompoundWaitMode) (threshold : UInt16) (hkind : slot.kind = .compoundWait)
    (hevt : slot.compoundWaitEvt &&& 0x7 = mode.code) (hlen : slot.compoundWaitTarget.length = pwmPayloadLen)
    (hthreshold : be16 slot.compoundWaitTarget mode.offset = threshold)
    (hstatus : ctx.currentStatus = putPwmValue captured) :
    auxiliaryConditionMet slot ctx = pwmInCompoundWaitCompare captured mode threshold ↔
      mode.half captured ≠ pwmInNoSignal ∨ (mode.isGe = true ∧ threshold ≠ pwmInNoSignal) := by
  have hserver : auxiliaryConditionMet slot ctx = mode.holds (mode.half captured) threshold := by
    rw [auxiliaryConditionMet, hkind, hstatus]
    exact (compoundWaitMatch_pwmIn captured hevt hlen).trans (by rw [hthreshold])
  rw [hserver, pwmInCompoundWaitCompare_eq]
  by_cases hsignal : mode.half captured = pwmInNoSignal
  · rw [if_pos hsignal, hsignal, mode.holds_noSignal]
    cases mode.isGe <;> simp
  · rw [if_neg hsignal]
    exact ⟨fun _ => Or.inl hsignal, fun _ => rfl⟩

/-- A compound wait for a duty cycle of at most 100, and a status with a signal. -/
theorem pwmIn_compoundWait_agrees_signal :
    auxiliaryConditionMet { kind := .compoundWait, compoundWaitEvt := 0x0F, compoundWaitTarget := [0, 0, 0, 100] }
        { currentStatus := putPwmValue ⟨1000, 250⟩ } = pwmInCompoundWaitCompare ⟨1000, 250⟩ .dutyLe 100 ↔
      (250 : UInt16) ≠ pwmInNoSignal ∨ (false = true ∧ (100 : UInt16) ≠ pwmInNoSignal) :=
  pwmIn_compoundWait_agrees_iff { kind := .compoundWait, compoundWaitEvt := 0x0F, compoundWaitTarget := [0, 0, 0, 100] }
    { currentStatus := putPwmValue ⟨1000, 250⟩ } ⟨1000, 250⟩ .dutyLe 100 rfl rfl rfl rfl rfl

/-- With no signal, the server takes a wait for a period of at least 5 for met; the endpoint's comparison does
    not. -/
theorem pwmIn_noSignal_matches :
    auxiliaryConditionMet { kind := .compoundWait, compoundWaitEvt := 0x05, compoundWaitTarget := [0, 5, 0, 0] }
        { currentStatus := putPwmValue ⟨pwmInNoSignal, pwmInNoSignal⟩ } = true ∧
      pwmInCompoundWaitCompare ⟨pwmInNoSignal, pwmInNoSignal⟩ .periodLe 5 = false := by
  decide

end Rcp
