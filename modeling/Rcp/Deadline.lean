import Rcp.Octets
import Mathlib.Logic.Function.Basic

/-! The deadline monitor (`deadline.c`), critical section by critical section.

    A heartbeat, an overflow notification and a check each decide under the monitor's mutex whether to report a change,
    let the mutex go, and take it again in `emit` to note the change and tell the subscribers. Other threads come in
    between. A report stands for the calls of all subscribers. -/

namespace Rcp

/-- `RCP_DEADLINE_MAX_STREAMS`. -/
def deadlineMaxStreams : Nat := 16

/-- `rcp_deadline_stream_cfg_t`. -/
structure DeadlineStreamCfg where
  streamId : UInt64
  deadlineMs : UInt64
deriving DecidableEq, Repr

/-- `stream_watch_t`. -/
structure StreamWatch where
  streamId : UInt64
  deadlineMs : UInt64
  lastSignalMs : UInt64
  alive : Bool := false
  everReported : Bool := false
deriving DecidableEq, Repr

/-- A stream at the start of its monitor. -/
def DeadlineStreamCfg.watch (cfg : DeadlineStreamCfg) (defaultDeadlineMs nowMs : UInt64) : StreamWatch where
  streamId := cfg.streamId
  deadlineMs := if cfg.deadlineMs ≠ 0 then cfg.deadlineMs else defaultDeadlineMs
  lastSignalMs := nowMs

/-- What a thread has decided to report: that the stream in place `place` is alive, or is not. -/
structure LivenessReport where
  place : Nat
  alive : Bool
deriving DecidableEq, Repr

/-- `rcp_deadline_monitor_t`, with what each thread has decided and not reported yet. -/
structure DeadlineMonitor where
  states : List StreamWatch
  decided : Nat → Option LivenessReport := fun _ => none

/-- The critical sections, each of a thread. -/
inductive DeadlineOp where
  | heartbeat (thread : Nat) (streamId nowMs : UInt64)
  | notifyOverflow (thread : Nat) (streamId : UInt64)
  | check (thread place : Nat) (nowMs : UInt64)
  | emit (thread : Nat)
deriving DecidableEq, Repr

namespace DeadlineMonitor

/-- `rcp_deadline_monitor_new`. -/
def new (defaultDeadlineMs : UInt64) (streams : List DeadlineStreamCfg) (nowMs : UInt64) : Option DeadlineMonitor :=
  if streams.length > deadlineMaxStreams then none else
  some { states := streams.map fun cfg => cfg.watch defaultDeadlineMs nowMs }

/-- `find_state`. -/
def findState (m : DeadlineMonitor) (streamId : UInt64) : Option Nat := m.states.findIdx? (·.streamId == streamId)

/-- `rcp_deadline_monitor_alive`. -/
def alive (m : DeadlineMonitor) (streamId : UInt64) : Bool :=
  match (m.findState streamId).bind fun i => m.states[i]? with
  | none => false
  | some st => st.alive

/-- The thread keeps what it has decided for its next section. -/
def resolve (m : DeadlineMonitor) (thread : Nat) (report : Option LivenessReport) : DeadlineMonitor :=
  { m with decided := Function.update m.decided thread report }

/-- The first section of `rcp_deadline_monitor_heartbeat`. -/
def heartbeat (m : DeadlineMonitor) (thread : Nat) (streamId nowMs : UInt64) : DeadlineMonitor :=
  match m.findState streamId with
  | none => m
  | some i =>
    match m.states[i]? with
    | none => m
    | some st =>
      let m := { m with states := m.states.set i { st with lastSignalMs := nowMs } }
      m.resolve thread (if !st.alive then some { place := i, alive := true } else none)

/-- The first section of `rcp_deadline_monitor_notify_overflow`. -/
def notifyOverflow (m : DeadlineMonitor) (thread : Nat) (streamId : UInt64) : DeadlineMonitor :=
  match m.findState streamId with
  | none => m
  | some i =>
    match m.states[i]? with
    | none => m
    | some st => m.resolve thread (if st.alive || !st.everReported then some { place := i, alive := false } else none)

/-- The section of `check_deadlines` for one stream. -/
def check (m : DeadlineMonitor) (thread place : Nat) (nowMs : UInt64) : DeadlineMonitor :=
  match m.states[place]? with
  | none => m
  | some st =>
    let elapsed := if nowMs ≥ st.lastSignalMs then nowMs - st.lastSignalMs else 0
    m.resolve thread
      (if elapsed ≥ st.deadlineMs && (st.alive || !st.everReported) then some { place, alive := false } else none)

/-- `emit`. -/
def emit (m : DeadlineMonitor) (thread : Nat) (report : LivenessReport) : DeadlineMonitor :=
  { (m.resolve thread none) with
    states := m.states.modify report.place fun st => { st with alive := report.alive, everReported := true } }

/-- One section, with what it reports. A thread that has decided to report does that next, and only then. -/
def step (m : DeadlineMonitor) : DeadlineOp → Option (List LivenessReport × DeadlineMonitor)
  | .heartbeat thread streamId nowMs =>
    if (m.decided thread).isSome then none else some ([], m.heartbeat thread streamId nowMs)
  | .notifyOverflow thread streamId =>
    if (m.decided thread).isSome then none else some ([], m.notifyOverflow thread streamId)
  | .check thread place nowMs =>
    if (m.decided thread).isSome then none else some ([], m.check thread place nowMs)
  | .emit thread =>
    match m.decided thread with
    | none => none
    | some report => some ([report], m.emit thread report)

/-- A run, with all its reports. -/
def run (m : DeadlineMonitor) : List DeadlineOp → Option (List LivenessReport × DeadlineMonitor)
  | [] => some ([], m)
  | op :: ops => do
    let (reports, m) ← m.step op
    let (more, m) ← run m ops
    return (reports ++ more, m)

end DeadlineMonitor
end Rcp
