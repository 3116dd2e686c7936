import Rcp.LifecycleSpec
import Rcp.Theorems.Configured
import Mathlib.Logic.Relation

/-! The lifecycle code against its specification. The code has one arrow more: the demotion from RCP_CONFIGURED to
    HW_CONFIGURED, which opens the locked fields without a reset. -/

namespace Rcp
open LifecycleSpec

/-- No writer may write a FUNCTIONAL_W_STAR field. -/
def WStarLocked (state : LifecycleState) : Prop := ∀ writer, lifecycleFieldWritable state .functionalWStar writer = false

theorem wStarLocked_iff {state : LifecycleState} : WStarLocked state ↔ state = .rcpConfigured := by
  constructor
  · intro h
    have hroot := h { viaRootClientEp0 := true }
    cases state with
    | hwUnconfigured => cases hroot
    | hwConfigured => cases hroot
    | rcpConfigured => rfl
  · rintro rfl writer
    rfl

instance (state : LifecycleState) : Decidable (WStarLocked state) := decidable_of_iff _ wStarLocked_iff.symm

/-- The specification's variables for a state and the verdicts on a configuration. -/
def lifecycleVars (state : LifecycleState) (hwCfgConsistent rcpCfgConsistent : Bool) : Vars :=
  { state, hwCfgConsistent, rcpCfgConsistent, fieldLock := if WStarLocked state then .locked else .unlocked }

/-- The variables when the checks see the given snapshot. -/
def checkedVars (state : LifecycleState) (snap : Option PlausibilitySnapshot) : Vars :=
  lifecycleVars state (lifecycleCheckHwCfg snap).isOk (lifecycleCheckRcpCfg snap).isOk

/-- Each change of state in a run is a step of the specification, after the verdicts of earlier configurations have
    been revised into those on the snapshot supplied now. -/
def RefinesSpec (next : Vars → Vars → Prop) : Prop :=
  (∀ hw rcp, Init (lifecycleVars (lifecycleRun []) hw rcp)) ∧
  ∀ calls c, lifecycleRun (calls ++ [c]) ≠ lifecycleRun calls → ∀ hw rcp,
    Relation.ReflTransGen Revise (lifecycleVars (lifecycleRun calls) hw rcp) (checkedVars (lifecycleRun calls) c.snap) ∧
      next (checkedVars (lifecycleRun calls) c.snap) (checkedVars (lifecycleRun (calls ++ [c])) c.snap)

theorem revise_verdicts (state : LifecycleState) (hw rcp hw' rcp' : Bool) :
    Relation.ReflTransGen Revise (lifecycleVars state hw rcp) (lifecycleVars state hw' rcp') := by
  have hfirst : Revise (lifecycleVars state hw rcp) (lifecycleVars state hw' rcp) := Or.inl ⟨hw', rfl⟩
  have hsecond : Revise (lifecycleVars state hw' rcp) (lifecycleVars state hw' rcp') := Or.inr ⟨rcp', rfl⟩
  exact .tail (.single hfirst) hsecond

/-- Each move of the code is one action. -/
theorem LifecycleMove.nextOrDemote {c : TransitionCall} {state state' : LifecycleState} (h : LifecycleMove c state state') :
    NextOrDemote (checkedVars state c.snap) (checkedVars state' c.snap) := by
  cases h with
  | promoteHw hcheck =>
    have hverdict : (lifecycleCheckHwCfg c.snap).isOk = true := by rw [hcheck]; rfl
    exact Or.inl (Or.inr (Or.inl ⟨rfl, hverdict, rfl⟩))
  | promoteRcp _ hcheck =>
    have hverdict : (lifecycleCheckRcpCfg c.snap).isOk = true := by rw [hcheck]; rfl
    exact Or.inl (Or.inr (Or.inr (Or.inl ⟨rfl, hverdict, rfl⟩)))
  | demote => exact Or.inr ⟨rfl, rfl⟩
  | reset => exact Or.inl (Or.inr (Or.inr (Or.inr (Or.inl ⟨rfl, rfl⟩))))
  | fullReset => exact Or.inl (Or.inr (Or.inr (Or.inr (Or.inr ⟨rfl, rfl⟩))))

theorem lifecycleRun_concat (calls : List TransitionCall) (c : TransitionCall) :
    lifecycleRun (calls ++ [c]) = lifecycleStep (lifecycleRun calls) c := List.foldl_concat ..

theorem lifecycleRun_move {calls : List TransitionCall} {c : TransitionCall}
    (h : lifecycleRun (calls ++ [c]) ≠ lifecycleRun calls) :
    LifecycleMove c (lifecycleRun calls) (lifecycleRun (calls ++ [c])) := by
  rw [lifecycleRun_concat] at h ⊢
  rcases lifecycleStep_cases (lifecycleRun calls) c with hstay | hmove
  · exact absurd hstay h
  · exact hmove

/-- What unlocks the FUNCTIONAL_W_STAR fields: a reset to HW_UNCONFIGURED, or the demotion to HW_CONFIGURED by the
    root client, or over a valid association, with every other endpoint idle. -/
def Unlocks (c : TransitionCall) (state' : LifecycleState) : Prop :=
  state' = .hwUnconfigured ∨ state' = .hwConfigured ∧ c.allOtherEpsIdle = true ∧
    (c.writer.viaRootClientEp0 = true ∨ c.writer.viaValidStreamAssociation = true)

/-- The lifecycle code refines its specification with the demotion to HW_CONFIGURED added. -/
theorem lifecycle_refines_spec :
    RefinesSpec NextOrDemote ∧
    ∀ calls c, WStarLocked (lifecycleRun calls) → ¬WStarLocked (lifecycleRun (calls ++ [c])) →
      Unlocks c (lifecycleRun (calls ++ [c])) := by
  refine ⟨⟨fun hw rcp => ⟨rfl, rfl⟩, fun calls c hne hw rcp => ⟨?_, ?_⟩⟩, fun calls c hlocked hopen => ?_⟩
  · exact revise_verdicts _ _ _ _ _
  · exact (lifecycleRun_move hne).nextOrDemote
  · have hne : lifecycleRun (calls ++ [c]) ≠ lifecycleRun calls := fun h => hopen (h ▸ hlocked)
    have hmove := lifecycleRun_move hne
    rw [wStarLocked_iff.mp hlocked] at hmove
    generalize lifecycleRun (calls ++ [c]) = state at hmove ⊢
    cases hmove with
    | demote hwriter hidle => exact Or.inr ⟨rfl, hidle, hwriter⟩
    | fullReset => exact Or.inl rfl

/-- The demotion is no step of the specification, and it unlocks the fields without a reset. -/
theorem demotion_not_in_spec :
    ¬RefinesSpec Next ∧
    ¬∀ calls c, WStarLocked (lifecycleRun calls) → ¬WStarLocked (lifecycleRun (calls ++ [c])) →
      lifecycleRun (calls ++ [c]) = .hwUnconfigured := by
  let demote : TransitionCall :=
    { target := .hwConfigured, snap := none, writer := { viaRootClientEp0 := true }, allOtherEpsIdle := true }
  have hfrom : lifecycleRun (reconfiguredCalls.take 2) = .rcpConfigured := by decide
  have hto : lifecycleRun (reconfiguredCalls.take 2 ++ [demote]) = .hwConfigured := by decide
  constructor
  · rintro ⟨-, hstep⟩
    obtain ⟨-, hnext⟩ := hstep (reconfiguredCalls.take 2) demote (by rw [hfrom, hto]; decide) false false
    rw [hfrom, hto] at hnext
    rcases hnext with (⟨verdict, h⟩ | ⟨verdict, h⟩) | ⟨h, -⟩ | ⟨h, -⟩ | ⟨h, -⟩ | ⟨-, h⟩
    · cases congrArg Vars.state h
    · cases congrArg Vars.state h
    · cases h
    · cases h
    · cases h
    · cases congrArg Vars.state h
  · intro hunlock
    have h := hunlock (reconfiguredCalls.take 2) demote (by decide) (by decide)
    rw [hto] at h
    cases h

/-! ### The specification's own properties -/

/-- `NoSkipConfiguration`. -/
theorem nextOrDemote_noSkip {v v' : Vars} (h : NextOrDemote v v') (hfrom : v.state = .hwUnconfigured) :
    v'.state ≠ .rcpConfigured := by
  rcases h with ((⟨_, rfl⟩ | ⟨_, rfl⟩) | ⟨-, -, rfl⟩ | ⟨hs, -⟩ | ⟨hs, -⟩ | ⟨hs, -⟩) | ⟨hs, -⟩
  · simp [hfrom]
  · simp [hfrom]
  · simp
  · simp [hfrom] at hs
  · simp [hfrom] at hs
  · simp [hfrom] at hs
  · simp [hfrom] at hs

/-- `FieldLockMonotonicWhileConfigured`. -/
theorem nextOrDemote_lockMonotonic {v v' : Vars} (h : NextOrDemote v v') (hfrom : v.state = .rcpConfigured)
    (hlock : v.fieldLock = .locked) (hto : v'.state = .rcpConfigured) : v'.fieldLock = .locked := by
  rcases h with ((⟨_, rfl⟩ | ⟨_, rfl⟩) | ⟨hs, -⟩ | ⟨hs, -⟩ | ⟨hs, -⟩ | ⟨-, rfl⟩) | ⟨-, rfl⟩
  · exact hlock
  · exact hlock
  · simp [hfrom] at hs
  · simp [hfrom] at hs
  · simp [hfrom] at hs
  · cases hto
  · cases hto

/-- So no run of the code gets from HW_UNCONFIGURED to RCP_CONFIGURED in one step. -/
theorem lifecycleRun_noSkip (calls : List TransitionCall) (c : TransitionCall)
    (h : lifecycleRun calls = .hwUnconfigured) : lifecycleRun (calls ++ [c]) ≠ .rcpConfigured := by
  by_cases hne : lifecycleRun (calls ++ [c]) = lifecycleRun calls
  · rw [hne, h]
    decide
  · exact nextOrDemote_noSkip (lifecycleRun_move hne).nextOrDemote h

end Rcp
