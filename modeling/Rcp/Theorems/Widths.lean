import Rcp.I2c
import Rcp.Lib.History
import Rcp.Theorems.EpBlocks
import Rcp.Uart

/-! The settings that a setter checks and a configuration write does not: the number of bits of a UART character and
    the mode of an I2C bus. A run keeps them valid exactly when its writes carry valid octets for them. -/

namespace Rcp
open Lib

/-- A write that is accepted and addresses an offset carries a valid octet for it. -/
def CarriesValid {γ : Type} (blk : EpBlock γ) (k : Nat) (valid : UInt8 → Bool) (payload : Octets) : Prop :=
  Accepts blk payload → ∀ v, reconfigOctet payload k = some v → valid v = true

theorem getD_valid_iff {valid : UInt8 → Bool} {carried : Option UInt8} {old : UInt8} (h : valid old = true) :
    valid (carried.getD old) = true ↔ ∀ v, carried = some v → valid v = true := by
  cases carried with
  | none => simp [h]
  | some v => simp

/-! ### UART -/

/-- A setter is called, or a configuration write arrives. -/
inductive UartCall where
  | setBaudRate (baudRate : UInt32) (state : LifecycleState) (writer : FieldWriterCtx)
  | setFrameFormat (nrBits : UInt8) (parity : UartParity) (stopBits : UartStopBits) (state : LifecycleState)
      (writer : FieldWriterCtx)
  | setRxBufferSize (rxBufferSize : UInt16) (state : LifecycleState) (writer : FieldWriterCtx)
  | setTimeout (timeoutMs : UInt32) (state : LifecycleState) (writer : FieldWriterCtx)
  | setTrigger (trigger : UartTrigger) (state : LifecycleState) (writer : FieldWriterCtx)
  | applyReconfig (payload : Octets)
deriving DecidableEq

namespace UartFunctionalCfg

def after (cfg : UartFunctionalCfg) : UartCall → UartFunctionalCfg
  | .setBaudRate baudRate state writer => (cfg.setBaudRate state writer baudRate).2
  | .setFrameFormat nrBits parity stopBits state writer => (cfg.setFrameFormat state writer nrBits parity stopBits).2
  | .setRxBufferSize rxBufferSize state writer => (cfg.setRxBufferSize state writer rxBufferSize).2
  | .setTimeout timeoutMs state writer => (cfg.setTimeout state writer timeoutMs).2
  | .setTrigger trigger state writer => (cfg.setTrigger state writer trigger).2
  | .applyReconfig payload => (uartApplyReconfig cfg payload).2

/-- The configuration after a run from `init`. -/
def run (calls : List UartCall) : UartFunctionalCfg := calls.foldl after init

/-- A write leaves the octet it carries for the register, whatever it is. -/
theorem nrBits_applyReconfig {payload : Octets} (h : Accepts uartBlock payload) (cfg : UartFunctionalCfg) :
    (uartApplyReconfig cfg payload).2.uartNrBits = (reconfigOctet payload uartRegNrBits).getD cfg.uartNrBits := by
  have hparse (block : Octets) : (uartBlock.parse cfg block).uartNrBits = block.at uartRegNrBits := rfl
  have hrender : Octets.at (uartBlock.render cfg) uartRegNrBits = cfg.uartNrBits := rfl
  have hwritable : uartBlock.readOnly uartRegNrBits = false := rfl
  rw [uartApplyReconfig, epApplyReconfig_accepted h]
  change (uartBlock.parse cfg (uartBlock.patched cfg _ _)).uartNrBits = _
  rw [hparse, at_patched _ _ _ (by decide) hwritable, hrender]

/-- One call from a state with a valid number of bits. -/
theorem nrBits_after_iff (cfg : UartFunctionalCfg) (c : UartCall) (h : uartNrBitsValid cfg.uartNrBits = true) :
    uartNrBitsValid (cfg.after c).uartNrBits = true ↔
      ∀ payload, c = .applyReconfig payload → CarriesValid uartBlock uartRegNrBits uartNrBitsValid payload := by
  let P : UartFunctionalCfg → Prop := fun cfg => uartNrBitsValid cfg.uartNrBits = true
  cases c with
  | setBaudRate baudRate state writer => exact iff_of_true (epSetField_field (P := P) state writer h h) (by simp)
  | setRxBufferSize size state writer => exact iff_of_true (epSetField_field (P := P) state writer h h) (by simp)
  | setTimeout timeoutMs state writer => exact iff_of_true (epSetField_field (P := P) state writer h h) (by simp)
  | setTrigger trigger state writer => exact iff_of_true (epSetField_field (P := P) state writer h h) (by simp)
  | setFrameFormat nrBits parity stopBits state writer =>
    refine iff_of_true ?_ (by simp)
    simp only [after, setFrameFormat]
    split
    · exact h
    · rename_i hvalid
      exact epSetField_field (P := P) state writer h (by simpa [P] using hvalid)
  | applyReconfig payload =>
    simp only [after, UartCall.applyReconfig.injEq, forall_eq']
    by_cases hacc : Accepts uartBlock payload
    · rw [nrBits_applyReconfig hacc, getD_valid_iff h]
      exact ⟨fun hv _ => hv, fun hv => hv hacc⟩
    · obtain ⟨e, he⟩ := epApplyReconfig_refused hacc cfg
      rw [uartApplyReconfig, he]
      exact iff_of_true h fun hacc' => absurd hacc' hacc

end UartFunctionalCfg

/-- The mask of the transferred octets is empty for a width the setter refuses, and for no other. -/
theorem uartBitPadMask_eq_zero_iff (nrBits : UInt8) : uartBitPadMask nrBits = 0 ↔ uartNrBitsValid nrBits = false := by
  have hall : ∀ n : Fin 256, uartBitPadMask (.ofFin n) = 0 ↔ uartNrBitsValid (.ofFin n) = false := by
    decide +kernel
  exact hall nrBits.toFin

/-! ### I2C -/

/-- The setter is called, or a configuration write arrives. -/
inductive I2cCall where
  | setMode (mode : UInt8) (state : LifecycleState) (writer : FieldWriterCtx)
  | applyReconfig (payload : Octets)
deriving DecidableEq

namespace I2cFunctionalCfg

def after (cfg : I2cFunctionalCfg) : I2cCall → I2cFunctionalCfg
  | .setMode mode state writer => (cfg.setMode state writer mode).2
  | .applyReconfig payload => (i2cApplyReconfig cfg payload).2

/-- The configuration after a run from `init`. -/
def run (calls : List I2cCall) : I2cFunctionalCfg := calls.foldl after init

theorem mode_applyReconfig {payload : Octets} (h : Accepts i2cBlock payload) (cfg : I2cFunctionalCfg) :
    (i2cApplyReconfig cfg payload).2.i2cMode = (reconfigOctet payload i2cRegMode).getD cfg.i2cMode := by
  have hparse (block : Octets) : (i2cBlock.parse cfg block).i2cMode = block.at i2cRegMode := rfl
  have hrender : Octets.at (i2cBlock.render cfg) i2cRegMode = cfg.i2cMode := rfl
  have hwritable : i2cBlock.readOnly i2cRegMode = false := rfl
  rw [i2cApplyReconfig, epApplyReconfig_accepted h]
  change (i2cBlock.parse cfg (i2cBlock.patched cfg _ _)).i2cMode = _
  rw [hparse, at_patched _ _ _ (by decide) hwritable, hrender]

/-- One call from a state with a valid mode. -/
theorem mode_after_iff (cfg : I2cFunctionalCfg) (c : I2cCall) (h : i2cModeValid cfg.i2cMode = true) :
    i2cModeValid (cfg.after c).i2cMode = true ↔
      ∀ payload, c = .applyReconfig payload → CarriesValid i2cBlock i2cRegMode i2cModeValid payload := by
  cases c with
  | setMode mode state writer =>
    refine iff_of_true ?_ (by simp)
    simp only [after, setMode]
    split
    · exact h
    · rename_i hvalid
      exact epSetField_field (P := fun cfg : I2cFunctionalCfg => i2cModeValid cfg.i2cMode = true) state writer h (by simpa using hvalid)
  | applyReconfig payload =>
    simp only [after, I2cCall.applyReconfig.injEq, forall_eq']
    by_cases hacc : Accepts i2cBlock payload
    · rw [mode_applyReconfig hacc, getD_valid_iff h]
      exact ⟨fun hv _ => hv, fun hv => hv hacc⟩
    · obtain ⟨e, he⟩ := epApplyReconfig_refused hacc cfg
      rw [i2cApplyReconfig, he]
      exact iff_of_true h fun hacc' => absurd hacc' hacc

end I2cFunctionalCfg

/-! ### Runs -/

/-- In a run of setters and configuration writes the settings stay valid, in every state of it, exactly when every
    accepted write that addresses the octet of the setting carries a valid one. -/
theorem settings_valid_iff (uartCalls : List UartCall) (i2cCalls : List I2cCall) :
    ((∀ before, before <+: uartCalls → uartNrBitsValid (UartFunctionalCfg.run before).uartNrBits = true) ↔
      ∀ payload, UartCall.applyReconfig payload ∈ uartCalls →
        CarriesValid uartBlock uartRegNrBits uartNrBitsValid payload) ∧
    ((∀ before, before <+: i2cCalls → i2cModeValid (I2cFunctionalCfg.run before).i2cMode = true) ↔
      ∀ payload, I2cCall.applyReconfig payload ∈ i2cCalls →
        CarriesValid i2cBlock i2cRegMode i2cModeValid payload) := by
  constructor
  · refine (forall_prefix_iff (P := fun cfg : UartFunctionalCfg => uartNrBitsValid cfg.uartNrBits = true)
      (by decide) UartFunctionalCfg.nrBits_after_iff uartCalls).trans ?_
    exact ⟨fun h payload hmem => h _ hmem payload rfl, fun h c hmem payload hc => h payload (hc ▸ hmem)⟩
  · refine (forall_prefix_iff (P := fun cfg : I2cFunctionalCfg => i2cModeValid cfg.i2cMode = true)
      (by decide) I2cFunctionalCfg.mode_after_iff i2cCalls).trans ?_
    exact ⟨fun h payload hmem => h _ hmem payload rfl, fun h c hmem payload hc => h payload (hc ▸ hmem)⟩

/-- A write of nine bits to octet 8 is accepted, and transferred octets are then cut to nothing; a write of 255 to the
    mode of an I2C bus is accepted. -/
theorem settings_written_invalid :
    (uartApplyReconfig .init [0, 8, 9]).1 = none ∧
      uartNrBitsValid (UartFunctionalCfg.run [.applyReconfig [0, 8, 9]]).uartNrBits = false ∧
      uartApplyBitPadding [0x55] (UartFunctionalCfg.run [.applyReconfig [0, 8, 9]]).uartNrBits = [0] ∧
      (i2cApplyReconfig .init [0, 9, 0xFF]).1 = none ∧
      i2cModeValid (I2cFunctionalCfg.run [.applyReconfig [0, 9, 0xFF]]).i2cMode = false := by
  decide

end Rcp
