import Rcp.FieldLock

/-! Runs of `rcp_lifecycle_transition` from HW_UNCONFIGURED, with any arguments. -/

namespace Rcp

/-- The arguments of one call. -/
structure TransitionCall where
  target : LifecycleState
  snap : Option PlausibilitySnapshot
  writer : WriterCtx
  allOtherEpsIdle : Bool

/-- One call: what it answers, and `*state` afterwards. -/
def lifecycleCall (state : LifecycleState) (c : TransitionCall) : Except LifecycleErrc Unit × LifecycleState :=
  match lifecycleTransition state c.target c.snap c.writer c.allOtherEpsIdle with
  | .error e => (.error e, state)
  | .ok state => (.ok (), state)

/-- `*state` after one call. -/
def lifecycleStep (state : LifecycleState) (c : TransitionCall) : LifecycleState := (lifecycleCall state c).2

/-- `*state` after a sequence of calls. -/
def lifecycleRun (calls : List TransitionCall) : LifecycleState := calls.foldl lifecycleStep .hwUnconfigured

/-- The writers that may advance the lifecycle. -/
def WriterCtx.Authorized (writer : WriterCtx) : Prop :=
  writer.viaDiscoveryStream = true ∨ writer.viaRootClientEp0 = true ∨ writer.viaValidStreamAssociation = true

end Rcp
