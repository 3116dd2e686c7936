import Rcp.Lifecycle

/-! The abstract lifecycle: the variables and actions of `tla/LifecycleStateMachine.tla`, under its names. -/

namespace Rcp
namespace LifecycleSpec

/-- `LockStates`. -/
inductive FieldLock where
  | unlocked | locked
deriving DecidableEq, Repr

/-- `vars`. -/
structure Vars where
  state : LifecycleState
  hwCfgConsistent : Bool
  rcpCfgConsistent : Bool
  fieldLock : FieldLock
deriving DecidableEq, Repr

variable (v v' : Vars)

def Init : Prop := v.state = .hwUnconfigured ∧ v.fieldLock = .unlocked

def ReviseHwConsistency : Prop := ∃ verdict, v' = { v with hwCfgConsistent := verdict }

def ReviseRcpConsistency : Prop := ∃ verdict, v' = { v with rcpCfgConsistent := verdict }

def PromoteToHwConfigured : Prop :=
  v.state = .hwUnconfigured ∧ v.hwCfgConsistent = true ∧ v' = { v with state := .hwConfigured }

def PromoteToRcpConfigured : Prop :=
  v.state = .hwConfigured ∧ v.rcpCfgConsistent = true ∧ v' = { v with state := .rcpConfigured, fieldLock := .locked }

def DemoteToHwUnconfigured : Prop := v.state = .hwConfigured ∧ v' = { v with state := .hwUnconfigured }

def FullReset : Prop := v.state = .rcpConfigured ∧ v' = { v with state := .hwUnconfigured, fieldLock := .unlocked }

/-- The consistency verdicts may change at any time. -/
def Revise : Prop := ReviseHwConsistency v v' ∨ ReviseRcpConsistency v v'

def Next : Prop :=
  Revise v v' ∨ PromoteToHwConfigured v v' ∨ PromoteToRcpConfigured v v' ∨ DemoteToHwUnconfigured v v' ∨ FullReset v v'

/-- The arrow the specification has not: RCP_CONFIGURED back to HW_CONFIGURED, where the fields are open again. -/
def DemoteToHwConfigured : Prop :=
  v.state = .rcpConfigured ∧ v' = { v with state := .hwConfigured, fieldLock := .unlocked }

/-- `Next` with that arrow. -/
def NextOrDemote : Prop := Next v v' ∨ DemoteToHwConfigured v v'

end LifecycleSpec
end Rcp
