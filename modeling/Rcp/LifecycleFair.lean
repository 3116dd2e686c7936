import Rcp.Lib.Temporal
import Rcp.LifecycleRun
import Rcp.LifecycleSpec

/-! The liveness half of `tla/LifecycleStateMachine.tla`, and the endless runs of the code that it is about. -/

namespace Rcp

/-! ### The specification -/

namespace LifecycleSpec

abbrev Spec (b : Nat → Vars) : Prop := Lib.Behavior Init Next b

structure FairSpec (b : Nat → Vars) : Prop where
  spec : Spec b
  promoteHw : Lib.WeaklyFair PromoteToHwConfigured b
  promoteRcp : Lib.StronglyFair PromoteToRcpConfigured b

def InputsEventuallyConsistent (b : Nat → Vars) : Prop :=
  Lib.EventuallyAlways (fun v => v.hwCfgConsistent = true ∧ v.rcpCfgConsistent = true) b

end LifecycleSpec

/-! ### The code -/

/-- A server's lifecycle, with the configuration its checks look at next. -/
structure LifecycleServer where
  state : LifecycleState := .hwUnconfigured
  snap : Option PlausibilitySnapshot

/-- A change of the configuration, or one call of `rcp_lifecycle_transition`. -/
inductive LifecycleOp where
  | configure (snap : Option PlausibilitySnapshot)
  | transition (target : LifecycleState) (writer : WriterCtx) (allOtherEpsIdle : Bool)

namespace LifecycleServer

def step (s : LifecycleServer) : LifecycleOp → LifecycleServer
  | .configure snap => { s with snap }
  | .transition target writer allOtherEpsIdle =>
    { s with state := lifecycleStep s.state { target, snap := s.snap, writer, allOtherEpsIdle } }

/-- The server after each number of calls of an endless run that starts with the configuration `snap`. -/
def states (snap : Option PlausibilitySnapshot) (ops : Nat → LifecycleOp) : Nat → LifecycleServer
  | 0 => { snap }
  | n + 1 => (states snap ops n).step (ops n)

end LifecycleServer
end Rcp
