import Mathlib.Data.UInt

/-! The debounce filter of a GPIO pin (`ep_gpio.c`): a value is put out once it has been sampled often enough in
    succession. -/

namespace Rcp

/-- `rcp_ep_gpio_debounce_state_t`. -/
structure DebounceState where
  hasSettled : Bool
  settledValue : Bool
  hasCandidate : Bool
  candidateValue : Bool
  consecutiveCount : UInt8
deriving DecidableEq, Repr

/-- What `rcp_ep_gpio_debounce_sample` returns, with its `out_changed`. -/
structure DebounceSample where
  value : Bool
  changed : Bool
deriving DecidableEq, Repr

namespace DebounceState

/-- `rcp_ep_gpio_debounce_state_init`. -/
def init : DebounceState where
  hasSettled := false
  settledValue := false
  hasCandidate := false
  candidateValue := false
  consecutiveCount := 0

/-- The counting of `rcp_ep_gpio_debounce_sample`: another value than that of the run starts a new one. -/
def count (s : DebounceState) (rawValue : Bool) : DebounceState :=
  if !s.hasCandidate || s.candidateValue != rawValue then
    { s with hasCandidate := true, candidateValue := rawValue, consecutiveCount := 1 }
  else if s.consecutiveCount < 0xFF then { s with consecutiveCount := s.consecutiveCount + 1 } else s

/-- `rcp_ep_gpio_debounce_sample`. -/
def sample (s : DebounceState) (rawValue : Bool) (n : UInt8) : DebounceSample × DebounceState :=
  let prevSettled := s.hasSettled && s.settledValue
  if n = 0 then
    let changed := s.hasSettled && prevSettled != rawValue
    let s := { s with hasCandidate := false, hasSettled := true, settledValue := rawValue }
    ({ value := s.settledValue, changed }, s)
  else
    let s := s.count rawValue
    let settles := s.consecutiveCount ≥ n && (!s.hasSettled || s.settledValue != s.candidateValue)
    let changed := settles && s.hasSettled
    let s := if settles then { s with hasSettled := true, settledValue := s.candidateValue } else s
    ({ value := if s.hasSettled then s.settledValue else false, changed }, s)

end DebounceState
end Rcp
