import Rcp.E2e

/-! The watchdog keeper (`watchdog.c`): the streams it watches, when each was kicked last, and the subscribers it tells
    when a verdict changes.

    The keeper's thread evaluates the streams one by one, each against the time at which its cycle began, and the kicks
    of other threads come in between. A run is therefore a sequence of evaluations of single streams and of calls, each
    with the time it sees; it ends with `rcp_watchdog_keeper_close`, which waits for the thread. Subscribers are known
    by what they were registered with. -/

namespace Rcp

/-- `RCP_WATCHDOG_MAX_STREAMS`. -/
def watchdogMaxStreams : Nat := 16
/-- `RCP_WATCHDOG_MAX_CALLBACKS`. -/
def watchdogMaxCallbacks : Nat := 16

/-- `rcp_watchdog_stream_cfg_t`. -/
structure WatchdogStreamCfg where
  streamId : UInt64
  rxWdEnable : Bool
  rxWdTimeoutMs : UInt32
  rxWdSafestateEnable : Bool
  rxWdInfoEnable : Bool
deriving DecidableEq, Repr

/-- `rcp_watchdog_event_t`. -/
structure WatchdogEvent where
  streamId : UInt64
  result : WdResult
deriving DecidableEq, Repr

/-- The all-false verdict of `memset`. -/
def WdResult.zero : WdResult := { overflowed := false, enterSafeState := false, notify := false }

/-- `stream_state_t` of `watchdog.c`. -/
structure WatchdogState where
  cfg : WatchdogStreamCfg
  lastKickMs : UInt64
  lastResult : WdResult
deriving DecidableEq, Repr

/-- `rcp_watchdog_keeper_t`, with the length its stream table has from the beginning. -/
structure WatchdogKeeper (κ : Type) where
  states : List WatchdogState
  callbacks : List κ := []
deriving DecidableEq, Repr

/-- The verdict on a stream kicked last at `lastKickMs`. -/
def WatchdogStreamCfg.verdict (cfg : WatchdogStreamCfg) (lastKickMs nowMs : UInt64) : WdResult :=
  let elapsed := if nowMs ≥ lastKickMs then nowMs - lastKickMs else 0
  e2eWdEvaluate cfg.rxWdEnable cfg.rxWdTimeoutMs cfg.rxWdSafestateEnable cfg.rxWdInfoEnable elapsed

namespace WatchdogKeeper
variable {κ : Type}

/-- `find_state`. -/
def findState (k : WatchdogKeeper κ) (streamId : UInt64) : Option Nat :=
  k.states.findIdx? (·.cfg.streamId == streamId)

/-- `evaluate_stream` on the stream in place `i`: the calls of the subscribers. -/
def evaluateStream (k : WatchdogKeeper κ) (i : Nat) (nowMs : UInt64) : List (κ × WatchdogEvent) × WatchdogKeeper κ :=
  match k.states[i]? with
  | none => ([], k)
  | some st =>
    let result := st.cfg.verdict st.lastKickMs nowMs
    if result = st.lastResult then ([], k) else
    (k.callbacks.map fun cb => (cb, { streamId := st.cfg.streamId, result }),
      { k with states := k.states.set i { st with lastResult := result } })

/-- `evaluate_all`. -/
def evaluateAll (k : WatchdogKeeper κ) (nowMs : UInt64) : List (κ × WatchdogEvent) × WatchdogKeeper κ :=
  (List.range k.states.length).foldl
    (fun acc i =>
      let (calls, k) := acc.2.evaluateStream i nowMs
      (acc.1 ++ calls, k)) ([], k)

/-- `rcp_watchdog_keeper_new`, before its thread runs. Every stream has its verdict by then. -/
def new (streams : List WatchdogStreamCfg) (nowMs : UInt64) : Option (WatchdogKeeper κ) :=
  if streams.length > watchdogMaxStreams then none else
  some (evaluateAll
    { states := streams.map fun cfg => { cfg, lastKickMs := nowMs, lastResult := .zero } } nowMs).2

/-- `rcp_watchdog_keeper_kick`. -/
def kick (k : WatchdogKeeper κ) (streamId nowMs : UInt64) : Bool × WatchdogKeeper κ :=
  match k.findState streamId with
  | none => (false, k)
  | some i => (true, { k with states := k.states.modify i fun st => { st with lastKickMs := nowMs } })

/-- `rcp_watchdog_keeper_status`. -/
def status (k : WatchdogKeeper κ) (streamId : UInt64) : WdResult :=
  match (k.findState streamId).bind fun i => k.states[i]? with
  | none => .zero
  | some st => st.lastResult

/-- `rcp_watchdog_keeper_subscribe`. -/
def subscribe (k : WatchdogKeeper κ) (cb : κ) : Bool × WatchdogKeeper κ :=
  if k.callbacks.length = watchdogMaxCallbacks then (false, k) else
  (true, { k with callbacks := k.callbacks ++ [cb] })

end WatchdogKeeper

/-- What happens to a keeper, with the times at which it happens. -/
inductive WatchdogOp (κ : Type) where
  | evaluate (i : Nat) (nowMs : UInt64)
  | kick (streamId nowMs : UInt64)
  | subscribe (cb : κ)
deriving DecidableEq, Repr

namespace WatchdogKeeper
variable {κ : Type}

/-- One operation, with the calls of the subscribers it makes. -/
def step (k : WatchdogKeeper κ) : WatchdogOp κ → List (κ × WatchdogEvent) × WatchdogKeeper κ
  | .evaluate i nowMs => k.evaluateStream i nowMs
  | .kick streamId nowMs => ([], (k.kick streamId nowMs).2)
  | .subscribe cb => ([], (k.subscribe cb).2)

/-- A run, with all the calls it makes. -/
def run (k : WatchdogKeeper κ) : List (WatchdogOp κ) → List (κ × WatchdogEvent) × WatchdogKeeper κ
  | [] => ([], k)
  | op :: ops =>
    let (calls, k) := k.step op
    let (more, k) := run k ops
    (calls ++ more, k)

end WatchdogKeeper
end Rcp
