import Mathlib.Data.UInt

/-! Power modes (`power.h`, `power.c`): the transitions between them, the handshake that makes the start after a sleep a
    hot one, and the gate in front of standby and sleep. -/

namespace Rcp

/-- `rcp_pwrmode_t`. -/
inductive PwrMode where
  | normal | standby | sleep | unpowered
deriving DecidableEq, Repr

/-- `rcp_pwrmode_errc_t` without its success value. -/
inductive PwrModeErrc where
  | invalidTransition | entryRefused
deriving DecidableEq, Repr

/-- `rcp_pwrmode_start_kind_t`. -/
inductive StartKind where
  | hot | cold
deriving DecidableEq, Repr

/-- `rcp_pwrmode_transition`: the mode after it and the kind of start. -/
def pwrmodeTransition (mode target : PwrMode) : Except PwrModeErrc (PwrMode × StartKind) :=
  if mode = target then .ok (target, .hot)
  else if (mode = .normal ∧ target = .standby) ∨ (mode = .standby ∧ target = .normal) then .ok (target, .hot)
  else if (mode = .normal ∧ target = .sleep) ∨ (mode = .standby ∧ target = .sleep) then .ok (target, .cold)
  else if target = .unpowered ∧ (mode = .normal ∨ mode = .standby ∨ mode = .sleep) then .ok (target, .cold)
  else if mode = .unpowered ∧ target = .normal then .ok (target, .cold)
  else .error .invalidTransition

/-! ### Waking from sleep -/

/-- `rcp_pwrmode_wake_path_t`. -/
inductive WakePath where
  | viaPin | viaNetwork
deriving DecidableEq, Repr

/-- `rcp_pwrmode_hotstart_required`. -/
def pwrmodeHotstartRequired (_path : WakePath) : Bool := true

/-- `rcp_pwrmode_handshake_step_t`. -/
inductive HandshakeStep where
  | notStarted | ifaceReenabled | echoed | complete | failed
deriving DecidableEq, Repr

/-- `rcp_pwrmode_handshake_t`. -/
structure Handshake where
  step : HandshakeStep := .notStarted
  wakeupAttempts : UInt32 := 0
  wakeupRepeatLimit : UInt32 := 0
deriving DecidableEq, Repr

namespace Handshake

/-- `rcp_pwrmode_handshake_init`. -/
def init (repeatLimit : UInt32) : Handshake := { wakeupRepeatLimit := repeatLimit }

/-- `rcp_pwrmode_handshake_iface_reenabled`. -/
def ifaceReenabled (hs : Handshake) (networkAvailable : Bool) : Bool × Handshake :=
  if hs.step ≠ .notStarted then (false, hs)
  else if !networkAvailable then (false, hs)
  else (true, { hs with step := .ifaceReenabled })

/-- `rcp_pwrmode_handshake_wakeup_attempt`. -/
def wakeupAttempt (hs : Handshake) (echoed : Bool) : Bool × Handshake :=
  if hs.step ≠ .ifaceReenabled then (false, hs)
  else
    let hs := { hs with wakeupAttempts := hs.wakeupAttempts + 1 }
    if echoed then (true, { hs with step := .echoed })
    else if hs.wakeupAttempts ≥ hs.wakeupRepeatLimit then (false, { hs with step := .failed })
    else (true, hs)

/-- `rcp_pwrmode_handshake_resume_queues`. -/
def resumeQueues (hs : Handshake) : Bool × Handshake :=
  if hs.step ≠ .echoed then (false, hs) else (true, { hs with step := .complete })

/-- `rcp_pwrmode_handshake_is_complete`. -/
def isComplete (hs : Handshake) : Bool := hs.step == .complete

end Handshake

/-- `rcp_pwrmode_wake_from_sleep`; `handshake` is `none` for a null pointer. -/
def pwrmodeWakeFromSleep (mode : PwrMode) (path : WakePath) (handshake : Option Handshake) :
    Except PwrModeErrc (PwrMode × StartKind) :=
  if mode ≠ .sleep then .error .invalidTransition
  else if !pwrmodeHotstartRequired path then .ok (.normal, .hot)
  else if handshake.any Handshake.isComplete then .ok (.normal, .hot)
  else .ok (.normal, .cold)

/-! ### The gate of standby and sleep -/

/-- `rcp_pwrmode_entry_result_t`. -/
inductive EntryResult where
  | ok | refused
deriving DecidableEq, Repr

/-- `rcp_pwrmode_entry_gate_t`. -/
structure EntryGate where
  wupStatusClear : Bool
  endpointIdle : Bool
  responseQueueEmpty : Bool
deriving DecidableEq, Repr

/-- `rcp_pwrmode_check_entry`; `gate` is `none` for a null pointer. -/
def pwrmodeCheckEntry (gate : Option EntryGate) : EntryResult :=
  match gate with
  | none => .refused
  | some gate =>
    if !gate.wupStatusClear || !gate.endpointIdle || !gate.responseQueueEmpty then .refused else .ok

end Rcp
