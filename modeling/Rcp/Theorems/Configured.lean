import Rcp.Lib.History
import Rcp.LifecycleRun

/-! Configured implies checked: what the plausibility checks accept, and which checked snapshot has brought a server
    into the state it is in. -/

namespace Rcp

/-! ### The two checks -/

/-- Every used endpoint is pin-mapped and has a request stream. -/
def HwPlausible (snap : PlausibilitySnapshot) : Prop :=
  ∀ ep ∈ snap.endpoints, ep.epUsed = true → ep.hwPinMapped = true ∧ ep.hasRequestStream = true

/-- Every used endpoint has a stream association; every configured request stream names an existing response stream
    and is referenced by a used and associated endpoint. -/
structure RcpPlausible (snap : PlausibilitySnapshot) : Prop where
  associated : ∀ ep ∈ snap.endpoints, ep.epUsed = true → ep.hasStreamAssoc = true
  responses : ∀ rs ∈ snap.requestStreams, rs.configured = true →
    rs.hasResponseStream = true ∧ rs.responseStreamIndex < snap.responseStreamCount
  referenced : ∀ i rs, snap.requestStreams[i]? = some rs → rs.configured = true →
    ∃ ep ∈ snap.endpoints, ep.epUsed = true ∧ ep.hasStreamAssoc = true ∧ ep.requestStreamIndex = i

theorem lifecycleCheckHwCfg_iff (snap : Option PlausibilitySnapshot) :
    lifecycleCheckHwCfg snap = .ok () ↔ ∃ s, snap = some s ∧ HwPlausible s := by
  cases snap with
  | none => simp [lifecycleCheckHwCfg]
  | some snap =>
    have hall : (snap.endpoints.all fun ep => !ep.epUsed || (ep.hwPinMapped && ep.hasRequestStream)) = true ↔
        HwPlausible snap := by
      rw [List.all_eq_true]
      refine forall₂_congr fun ep _ => ?_
      cases ep.epUsed <;> simp
    unfold lifecycleCheckHwCfg
    dsimp only
    by_cases h : HwPlausible snap
    · rw [if_pos (hall.mpr h)]
      exact ⟨fun _ => ⟨snap, rfl, h⟩, fun _ => rfl⟩
    · rw [if_neg fun h' => h (hall.mp h')]
      constructor
      · rintro ⟨⟩
      · rintro ⟨s, hs, hp⟩
        exact absurd (Option.some.inj hs ▸ hp) h

theorem requestStreamsConsistent_iff (snap : PlausibilitySnapshot) :
    requestStreamsConsistent snap = true ↔
      (∀ rs ∈ snap.requestStreams, rs.configured = true →
        rs.hasResponseStream = true ∧ rs.responseStreamIndex < snap.responseStreamCount) ∧
      ∀ i rs, snap.requestStreams[i]? = some rs → rs.configured = true →
        ∃ ep ∈ snap.endpoints, ep.epUsed = true ∧ ep.hasStreamAssoc = true ∧ ep.requestStreamIndex = i := by
  unfold requestStreamsConsistent
  rw [List.all_eq_true]
  have hrow : ∀ (rs : RequestStreamPlausibility) (i : Nat), (!rs.configured ||
      (rs.hasResponseStream && decide (rs.responseStreamIndex < snap.responseStreamCount) &&
        snap.endpoints.any fun ep => ep.epUsed && ep.hasStreamAssoc && ep.requestStreamIndex == i)) = true ↔
      (rs.configured = true → rs.hasResponseStream = true ∧ rs.responseStreamIndex < snap.responseStreamCount) ∧
      (rs.configured = true →
        ∃ ep ∈ snap.endpoints, ep.epUsed = true ∧ ep.hasStreamAssoc = true ∧ ep.requestStreamIndex = i) := by
    intro rs i
    cases rs.configured <;> simp [and_assoc]
  constructor
  · intro h
    refine ⟨fun rs hrs => ?_, fun i rs hrs => ?_⟩
    · obtain ⟨i, hi⟩ := List.mem_iff_getElem?.mp hrs
      exact ((hrow rs i).mp (h (rs, i) (List.mem_zipIdx_iff_getElem?.mpr hi))).1
    · exact ((hrow rs i).mp (h (rs, i) (List.mem_zipIdx_iff_getElem?.mpr hrs))).2
  · rintro ⟨hresponses, hreferenced⟩ ⟨rs, i⟩ hmem
    have hi := List.mem_zipIdx_iff_getElem?.mp hmem
    exact (hrow rs i).mpr ⟨hresponses rs (List.mem_of_getElem? hi), hreferenced i rs hi⟩

theorem lifecycleCheckRcpCfg_iff (snap : Option PlausibilitySnapshot) :
    lifecycleCheckRcpCfg snap = .ok () ↔ ∃ s, snap = some s ∧ RcpPlausible s := by
  cases snap with
  | none => simp [lifecycleCheckRcpCfg]
  | some snap =>
    have hall : ((snap.endpoints.all fun ep => !ep.epUsed || ep.hasStreamAssoc) && requestStreamsConsistent snap) = true ↔
        RcpPlausible snap := by
      rw [Bool.and_eq_true, List.all_eq_true, requestStreamsConsistent_iff]
      constructor
      · rintro ⟨hassoc, hresponses, hreferenced⟩
        refine ⟨fun ep hep hu => ?_, hresponses, hreferenced⟩
        have := hassoc ep hep
        rwa [hu] at this
      · intro h
        refine ⟨fun ep hep => ?_, h.responses, h.referenced⟩
        cases hu : ep.epUsed with
        | false => rfl
        | true => exact h.associated ep hep hu
    unfold lifecycleCheckRcpCfg
    dsimp only
    by_cases h : RcpPlausible snap
    · rw [if_pos (hall.mpr h)]
      exact ⟨fun _ => ⟨snap, rfl, h⟩, fun _ => rfl⟩
    · rw [if_neg fun h' => h (hall.mp h')]
      constructor
      · rintro ⟨⟩
      · rintro ⟨s, hs, hp⟩
        exact absurd (Option.some.inj hs ▸ hp) h

/-! ### One call -/

/-- Everything a call that changes the state can have done. -/
inductive LifecycleMove (c : TransitionCall) : LifecycleState → LifecycleState → Prop
  | promoteHw (h : lifecycleCheckHwCfg c.snap = .ok ()) : LifecycleMove c .hwUnconfigured .hwConfigured
  | promoteRcp (ha : c.writer.Authorized) (h : lifecycleCheckRcpCfg c.snap = .ok ()) :
      LifecycleMove c .hwConfigured .rcpConfigured
  | demote (ha : c.writer.viaRootClientEp0 = true ∨ c.writer.viaValidStreamAssociation = true)
      (hi : c.allOtherEpsIdle = true) : LifecycleMove c .rcpConfigured .hwConfigured
  | reset (ha : c.writer.Authorized) (hi : c.allOtherEpsIdle = true) : LifecycleMove c .hwConfigured .hwUnconfigured
  | fullReset (ha : c.writer.viaRootClientEp0 = true) (hi : c.allOtherEpsIdle = true) :
      LifecycleMove c .rcpConfigured .hwUnconfigured

theorem authorized_iff (writer : WriterCtx) :
    (writer.viaDiscoveryStream || writer.viaRootClientEp0 || writer.viaValidStreamAssociation) = true ↔
      writer.Authorized := by
  simp [WriterCtx.Authorized, or_assoc]

theorem map_ok {check : Except LifecycleErrc Unit} {target state : LifecycleState}
    (h : check.map (fun _ => target) = .ok state) : check = .ok () ∧ state = target := by
  cases check with
  | error e => cases h
  | ok => exact ⟨rfl, (Except.ok.inj h).symm⟩

/-- A guard passed: the refusal was not the answer. -/
theorem ok_of_guard {guard : Bool} {e : LifecycleErrc} {r : Except LifecycleErrc LifecycleState} {state : LifecycleState}
    (h : (if !guard then .error e else r) = .ok state) : guard = true ∧ r = .ok state := by
  cases guard with
  | false => cases h
  | true => exact ⟨rfl, h⟩

/-- A transition that succeeds stays where it is or is one of the moves. -/
theorem lifecycleTransition_ok {state state' : LifecycleState} {c : TransitionCall}
    (h : lifecycleTransition state c.target c.snap c.writer c.allOtherEpsIdle = .ok state') :
    state' = state ∨ LifecycleMove c state state' := by
  unfold lifecycleTransition at h
  dsimp only at h
  split at h
  · exact Or.inl (Except.ok.inj h).symm
  right
  split at h
  · rename_i htarget hne
    obtain ⟨hcheck, rfl⟩ := map_ok h
    rw [htarget]
    exact .promoteHw hcheck
  · rename_i htarget hne
    obtain ⟨hauth, h⟩ := ok_of_guard h
    obtain ⟨hcheck, rfl⟩ := map_ok h
    rw [htarget]
    exact .promoteRcp ((authorized_iff _).mp hauth) hcheck
  · rename_i htarget hne
    rw [← Bool.not_or] at h
    obtain ⟨hauth, h⟩ := ok_of_guard h
    obtain ⟨hidle, h⟩ := ok_of_guard h
    obtain rfl := Except.ok.inj h
    rw [htarget]
    exact .demote (Bool.or_eq_true_iff.mp hauth) hidle
  · rename_i htarget hne
    obtain ⟨hauth, h⟩ := ok_of_guard h
    obtain ⟨hidle, h⟩ := ok_of_guard h
    obtain rfl := Except.ok.inj h
    rw [htarget]
    exact .reset ((authorized_iff _).mp hauth) hidle
  · rename_i htarget hne
    obtain ⟨hauth, h⟩ := ok_of_guard h
    obtain ⟨hidle, h⟩ := ok_of_guard h
    obtain rfl := Except.ok.inj h
    rw [htarget]
    exact .fullReset hauth hidle
  · cases h

/-- One call stays or moves; an error stays. -/
theorem lifecycleStep_cases (state : LifecycleState) (c : TransitionCall) :
    lifecycleStep state c = state ∨ LifecycleMove c state (lifecycleStep state c) := by
  unfold lifecycleStep lifecycleCall
  cases h : lifecycleTransition state c.target c.snap c.writer c.allOtherEpsIdle with
  | error e => exact Or.inl rfl
  | ok state' => exact lifecycleTransition_ok h

/-! ### Whole runs -/

/-- The last call of the run that led from outside `P` into it; the run has stayed in `P` since. -/
structure LastEntry (P : LifecycleState → Prop) (calls : List TransitionCall) (before : List TransitionCall)
    (c : TransitionCall) (after : List TransitionCall) : Prop where
  cut : calls = before ++ c :: after
  entered : ¬P (lifecycleRun before) ∧ P (lifecycleRun (before ++ [c]))
  stayed : ∀ l, l <+: after → P (lifecycleRun (before ++ c :: l))

theorem exists_lastEntry {P : LifecycleState → Prop} (hinit : ¬P .hwUnconfigured) {calls : List TransitionCall}
    (h : P (lifecycleRun calls)) : ∃ before c after, LastEntry P calls before c after := by
  obtain ⟨before, c, after, hcut, hout, hin⟩ := Lib.exists_last_entry hinit calls h
  exact ⟨before, c, after, hcut, ⟨hout, hin [] (List.nil_prefix)⟩, hin⟩

theorem LastEntry.move {P : LifecycleState → Prop} {calls before after : List TransitionCall} {c : TransitionCall}
    (h : LastEntry P calls before c after) :
    LifecycleMove c (lifecycleRun before) (lifecycleRun (before ++ [c])) := by
  obtain ⟨hout, hin⟩ := h.entered
  have hstep : lifecycleRun (before ++ [c]) = lifecycleStep (lifecycleRun before) c := List.foldl_concat ..
  rw [hstep] at hin ⊢
  rcases lifecycleStep_cases (lifecycleRun before) c with hstay | hmove
  · rw [hstay] at hin
    exact absurd hin hout
  · exact hmove

/-- The last step into RCP_CONFIGURED was made by an authorized writer with a plausible snapshot. -/
theorem lastEntry_rcpConfigured {calls before after : List TransitionCall} {c : TransitionCall}
    (h : LastEntry (· = .rcpConfigured) calls before c after) :
    c.writer.Authorized ∧ ∃ snap, c.snap = some snap ∧ RcpPlausible snap := by
  have hmove := h.move
  rw [h.entered.2] at hmove
  generalize lifecycleRun before = state at hmove
  cases hmove with
  | promoteRcp ha hcheck => exact ⟨ha, (lifecycleCheckRcpCfg_iff _).mp hcheck⟩

/-- The last step out of HW_UNCONFIGURED went to HW_CONFIGURED and was made with a plausible snapshot. -/
theorem lastEntry_hwConfigured {calls before after : List TransitionCall} {c : TransitionCall}
    (h : LastEntry (· ≠ .hwUnconfigured) calls before c after) :
    lifecycleRun (before ++ [c]) = .hwConfigured ∧ ∃ snap, c.snap = some snap ∧ HwPlausible snap := by
  have hmove := h.move
  rw [not_not.mp h.entered.1] at hmove
  generalize lifecycleRun (before ++ [c]) = state at hmove ⊢
  cases hmove with
  | promoteHw hcheck => exact ⟨rfl, (lifecycleCheckHwCfg_iff _).mp hcheck⟩

/-- Configured implies checked: the history of every run names the checked snapshots it rests on, the checks accept
    exactly the plausible ones, and a call that fails leaves the state alone. -/
theorem configured_implies_checked :
    (∀ calls, lifecycleRun calls = .rcpConfigured → ∃ before c after,
      LastEntry (· = .rcpConfigured) calls before c after ∧ c.writer.Authorized ∧
        ∃ snap, c.snap = some snap ∧ RcpPlausible snap) ∧
    (∀ calls, lifecycleRun calls ≠ .hwUnconfigured → ∃ before c after,
      LastEntry (· ≠ .hwUnconfigured) calls before c after ∧ lifecycleRun (before ++ [c]) = .hwConfigured ∧
        ∃ snap, c.snap = some snap ∧ HwPlausible snap) ∧
    (∀ snap, lifecycleCheckHwCfg snap = .ok () ↔ ∃ s, snap = some s ∧ HwPlausible s) ∧
    (∀ snap, lifecycleCheckRcpCfg snap = .ok () ↔ ∃ s, snap = some s ∧ RcpPlausible s) ∧
    ∀ state c, (lifecycleCall state c).1 ≠ .ok () → (lifecycleCall state c).2 = state := by
  refine ⟨fun calls h => ?_, fun calls h => ?_, lifecycleCheckHwCfg_iff, lifecycleCheckRcpCfg_iff, fun state c h => ?_⟩
  · obtain ⟨before, c, after, hlast⟩ := exists_lastEntry (P := (· = .rcpConfigured)) (by decide) h
    exact ⟨before, c, after, hlast, lastEntry_rcpConfigured hlast⟩
  · obtain ⟨before, c, after, hlast⟩ := exists_lastEntry (P := (· ≠ .hwUnconfigured)) (fun hne => hne rfl) h
    exact ⟨before, c, after, hlast, lastEntry_hwConfigured hlast⟩
  · unfold lifecycleCall at h ⊢
    cases hr : lifecycleTransition state c.target c.snap c.writer c.allOtherEpsIdle with
    | error e => rfl
    | ok state' =>
      rw [hr] at h
      exact absurd rfl h

/-- A server that is brought into service, demoted and configured again with another snapshot. -/
def reconfiguredCalls : List TransitionCall :=
  [{ target := .hwConfigured, snap := some {}, writer := {}, allOtherEpsIdle := false },
   { target := .rcpConfigured, snap := some {}, writer := { viaDiscoveryStream := true }, allOtherEpsIdle := false },
   { target := .hwConfigured, snap := none, writer := { viaRootClientEp0 := true }, allOtherEpsIdle := true },
   { target := .rcpConfigured, snap := some { responseStreamCount := 1 }, writer := { viaRootClientEp0 := true },
     allOtherEpsIdle := false }]

theorem configured_implies_checked_reconfigured : ∃ before c after,
    LastEntry (· = .rcpConfigured) reconfiguredCalls before c after ∧ c.writer.Authorized ∧
      ∃ snap, c.snap = some snap ∧ RcpPlausible snap :=
  configured_implies_checked.1 reconfiguredCalls (by decide)

end Rcp
