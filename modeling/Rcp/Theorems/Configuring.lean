import Rcp.LifecycleFair
import Rcp.Theorems.LifecycleRefinement

/-! When a server gets configured: `EventuallyRcpConfigured` of the specification, and of the code through the runs of
    the specification that its runs are. -/

namespace Rcp

/-! ### The specification -/

namespace LifecycleSpec
variable {v v' : Vars} {b : Nat → Vars}

/-- Only the promotion leaves HW_UNCONFIGURED. -/
theorem Next.hwUnconfigured (h : Next v v') (hv : v.state = .hwUnconfigured) (hnot : ¬PromoteToHwConfigured v v') :
    v'.state = .hwUnconfigured := by
  rcases h with (⟨_, rfl⟩ | ⟨_, rfl⟩) | h | ⟨hv', -⟩ | ⟨hv', -⟩ | ⟨hv', -⟩
  · exact hv
  · exact hv
  · exact absurd h hnot
  · cases hv.symm.trans hv'
  · cases hv.symm.trans hv'
  · cases hv.symm.trans hv'

/-- `EventuallyRcpConfigured`. -/
theorem FairSpec.eventually (h : FairSpec b) (hinputs : InputsEventuallyConsistent b) :
    ∃ n, (b n).state = .rcpConfigured := by
  obtain ⟨n, hconsistent⟩ := hinputs
  have hrcp : ∀ m, n ≤ m → (b m).state = .hwConfigured → Lib.Enabled PromoteToRcpConfigured (b m) :=
    fun m hm hs => ⟨_, hs, (hconsistent m hm).2, rfl⟩
  by_contra hnever
  obtain ⟨m, -, -, -, hm⟩ := h.promoteRcp.taken (n := n) fun m hm => by
    cases hs : (b m).state with
    | rcpConfigured => exact absurd ⟨m, hs⟩ hnever
    | hwConfigured => exact ⟨m, le_rfl, hrcp m hm hs⟩
    | hwUnconfigured =>
      obtain ⟨k, hk, -, -, hstep⟩ := h.promoteHw.taken (P := fun v => v.state = .hwUnconfigured) hs
        (fun k hk hs => ⟨_, hs, (hconsistent k (hm.trans hk)).1, rfl⟩) fun k _ hs hnot => by
          rcases h.spec.step k with hnext | hstay
          · exact hnext.hwUnconfigured hs hnot
          · rw [hstay]
            exact hs
      refine ⟨k + 1, hk.trans k.le_succ, hrcp (k + 1) (hm.trans (hk.trans k.le_succ)) ?_⟩
      rw [hstep]
  exact hnever ⟨m + 1, by rw [hm]⟩

end LifecycleSpec

/-! ### One call in the terms of the specification -/

namespace LifecycleServer
open LifecycleSpec
variable {s : LifecycleServer} {snap : Option PlausibilitySnapshot} {ops : Nat → LifecycleOp}

/-- What the specification sees of a server. -/
def view (s : LifecycleServer) : Vars := checkedVars s.state s.snap

/-- The way back from RCP_CONFIGURED that the specification does not have. -/
def Demotes (s s' : LifecycleServer) : Prop := s.state = .rcpConfigured ∧ s'.state = .hwConfigured

/-- Between two states of the server the specification revises the verdict on the hardware. -/
def between (s s' : LifecycleServer) : Vars := { s.view with hwCfgConsistent := s'.view.hwCfgConsistent }

theorem isOk_iff {check : Except LifecycleErrc Unit} : check.isOk = true ↔ check = .ok () := by
  cases check with
  | error e => exact iff_of_false nofun nofun
  | ok u => exact iff_of_true rfl rfl

theorem step_transition (s : LifecycleServer) (target : LifecycleState) (writer : WriterCtx) (allOtherEpsIdle : Bool) :
    s.step (.transition target writer allOtherEpsIdle) = s ∨
      LifecycleMove { target, snap := s.snap, writer, allOtherEpsIdle } s.state
        (s.step (.transition target writer allOtherEpsIdle)).state := by
  rcases lifecycleStep_cases s.state { target, snap := s.snap, writer, allOtherEpsIdle } with h | h
  · left
    show ({ s with state := lifecycleStep s.state _ } : LifecycleServer) = s
    rw [h]
  · exact .inr h

/-- A call takes one step of the specification after the revision, or none, unless it demotes. -/
theorem step_view (s : LifecycleServer) (op : LifecycleOp) :
    Next (s.between (s.step op)) (s.step op).view ∨ (s.step op).view = s.between (s.step op) ∨ Demotes s (s.step op) := by
  cases op with
  | configure snap => exact .inl (.inl (.inr ⟨_, rfl⟩))
  | transition target writer allOtherEpsIdle =>
    rcases s.step_transition target writer allOtherEpsIdle with h | h
    · rw [h]
      exact .inr (.inl rfl)
    · -- A transition leaves the configuration alone, so there is nothing to revise.
      rcases h.nextOrDemote with hnext | ⟨hfrom, hto⟩
      · exact .inl hnext
      · exact .inr (.inr ⟨hfrom, congrArg Vars.state hto⟩)

/-! ### Which runs are runs of the specification -/

/-- The run of the specification that shows the states of the server one after the other, each call as the revision and
    one more step. -/
def shown (states : Nat → LifecycleServer) (k : Nat) : Vars :=
  if k % 2 = 0 then (states (k / 2)).view else (states (k / 2)).between (states (k / 2 + 1))

theorem shown_even (states : Nat → LifecycleServer) (n : Nat) : shown states (2 * n) = (states n).view := by
  unfold shown
  rw [if_pos (Nat.mul_mod_right 2 n), Nat.mul_div_cancel_left n Nat.two_pos]

theorem shown_odd (states : Nat → LifecycleServer) (n : Nat) :
    shown states (2 * n + 1) = (states n).between (states (n + 1)) := by
  have hhalf : (2 * n + 1) / 2 = n := by omega
  unfold shown
  rw [if_neg (by omega), hhalf]

theorem forall_even_odd {P : Nat → Prop} (heven : ∀ n, P (2 * n)) (hodd : ∀ n, P (2 * n + 1)) (k : Nat) : P k := by
  rcases Nat.even_or_odd' k with ⟨n, rfl | rfl⟩
  · exact heven n
  · exact hodd n

theorem spec_shown (h : ∀ n, ¬Demotes (states snap ops n) (states snap ops (n + 1))) : Spec (shown (states snap ops)) := by
  refine ⟨⟨rfl, rfl⟩, forall_even_odd (fun n => ?_) fun n => ?_⟩
  · rw [shown_even, shown_odd]
    exact .inl (.inl (.inl ⟨_, rfl⟩))
  · rw [shown_odd, show 2 * n + 1 + 1 = 2 * (n + 1) from rfl, shown_even]
    rcases (states snap ops n).step_view (ops n) with hnext | hstay | hdemotes
    · exact .inl hnext
    · exact .inr hstay
    · exact absurd hdemotes (h n)

/-! ### Getting configured -/

/-- A call that brings the server from HW_UNCONFIGURED to HW_CONFIGURED. -/
def PromotesHw (s s' : LifecycleServer) : Prop :=
  s.state = .hwUnconfigured ∧ s'.state = .hwConfigured ∧
    ∃ writer allOtherEpsIdle, s' = s.step (.transition .hwConfigured writer allOtherEpsIdle)

/-- A call that brings the server from HW_CONFIGURED to RCP_CONFIGURED. -/
def PromotesRcp (s s' : LifecycleServer) : Prop :=
  s.state = .hwConfigured ∧ s'.state = .rcpConfigured ∧
    ∃ writer allOtherEpsIdle, s' = s.step (.transition .rcpConfigured writer allOtherEpsIdle)

theorem enabled_promotesHw (hs : s.state = .hwUnconfigured) (hcheck : lifecycleCheckHwCfg s.snap = .ok ()) :
    Lib.Enabled PromotesHw s := by
  refine ⟨s.step (.transition .hwConfigured {} false), hs, ?_, {}, false, rfl⟩
  show lifecycleStep s.state _ = _
  unfold lifecycleStep lifecycleCall lifecycleTransition
  rw [hs]
  dsimp only
  rw [hcheck]
  rfl

theorem enabled_promotesRcp (hs : s.state = .hwConfigured) (hcheck : lifecycleCheckRcpCfg s.snap = .ok ()) :
    Lib.Enabled PromotesRcp s := by
  refine ⟨s.step (.transition .rcpConfigured { viaRootClientEp0 := true } false), hs, ?_, _, _, rfl⟩
  show lifecycleStep s.state _ = _
  unfold lifecycleStep lifecycleCall lifecycleTransition
  rw [hs]
  dsimp only
  rw [hcheck]
  rfl

theorem PromotesHw.spec {s' : LifecycleServer} (h : PromotesHw s s') : PromoteToHwConfigured (s.between s') s'.view := by
  obtain ⟨hfrom, hto, writer, allOtherEpsIdle, rfl⟩ := h
  rcases s.step_transition .hwConfigured writer allOtherEpsIdle with hstay | hmove
  · rw [hstay, hfrom] at hto
    cases hto
  · refine ⟨hfrom, ?_, ?_⟩
    · rw [hfrom, hto] at hmove
      cases hmove with
      | promoteHw hcheck => exact isOk_iff.mpr hcheck
    · unfold between view
      rw [hto, hfrom]
      rfl

theorem PromotesRcp.spec {s' : LifecycleServer} (h : PromotesRcp s s') : PromoteToRcpConfigured (s.between s') s'.view := by
  obtain ⟨hfrom, hto, writer, allOtherEpsIdle, rfl⟩ := h
  rcases s.step_transition .rcpConfigured writer allOtherEpsIdle with hstay | hmove
  · rw [hstay, hfrom] at hto
    cases hto
  · refine ⟨hfrom, ?_, ?_⟩
    · rw [hfrom, hto] at hmove
      cases hmove with
      | promoteRcp _ hcheck => exact isOk_iff.mpr hcheck
    · unfold between view
      rw [hto]
      rfl

/-- Fairness to the two calls is fairness to the two actions. -/
theorem fairSpec_shown (hnever : ∀ n, ¬Demotes (states snap ops n) (states snap ops (n + 1)))
    (hhw : Lib.WeaklyFair PromotesHw (states snap ops)) (hrcp : Lib.StronglyFair PromotesRcp (states snap ops)) :
    FairSpec (shown (states snap ops)) := by
  have hstep : ∀ n, shown (states snap ops) (2 * n + 1 + 1) = (states snap ops (n + 1)).view :=
    fun n => shown_even (states snap ops) (n + 1)
  refine ⟨spec_shown hnever, fun n henabled => ?_, fun henabled n => ?_⟩
  · obtain ⟨m, hm, hpromotes⟩ := hhw n fun m hm => by
      obtain ⟨_, hs, hcheck, -⟩ := henabled (2 * m) (hm.trans (Nat.le_mul_of_pos_left m Nat.two_pos))
      rw [shown_even] at hs hcheck
      exact enabled_promotesHw hs (isOk_iff.mp hcheck)
    refine ⟨2 * m + 1, hm.trans (by omega), ?_⟩
    rw [hstep, shown_odd]
    exact hpromotes.spec
  · obtain ⟨m, hm, hpromotes⟩ := hrcp (fun n => by
      obtain ⟨k, hk, henabled⟩ := henabled (2 * n)
      rcases Nat.even_or_odd' k with ⟨m, rfl | rfl⟩
      · rw [shown_even] at henabled
        obtain ⟨_, hs, hcheck, -⟩ := henabled
        exact ⟨m, by omega, enabled_promotesRcp hs (isOk_iff.mp hcheck)⟩
      · rw [shown_odd] at henabled
        obtain ⟨_, hs, hcheck, -⟩ := henabled
        exact ⟨m, by omega, enabled_promotesRcp hs (isOk_iff.mp hcheck)⟩) n
    refine ⟨2 * m + 1, hm.trans (by omega), ?_⟩
    rw [hstep, shown_odd]
    exact hpromotes.spec

/-- A server whose configuration is consistent from some call on gets configured, if HW_CONFIGURED is asked for
    whenever it stays within reach and RCP_CONFIGURED whenever it keeps coming within reach. -/
theorem eventually_configured (snap : Option PlausibilitySnapshot) (ops : Nat → LifecycleOp)
    (hconsistent : Lib.EventuallyAlways
      (fun s => lifecycleCheckHwCfg s.snap = .ok () ∧ lifecycleCheckRcpCfg s.snap = .ok ()) (states snap ops))
    (hhw : Lib.WeaklyFair PromotesHw (states snap ops)) (hrcp : Lib.StronglyFair PromotesRcp (states snap ops)) :
    ∃ n, (states snap ops n).state = .rcpConfigured := by
  by_contra hnever
  have hfair := fairSpec_shown (fun n hdemotes => hnever ⟨n, hdemotes.1⟩) hhw hrcp
  obtain ⟨n, hconsistent⟩ := hconsistent
  have hverdicts : ∀ m, n ≤ m →
      (states snap ops m).view.hwCfgConsistent = true ∧ (states snap ops m).view.rcpCfgConsistent = true :=
    fun m hm => (hconsistent m hm).imp isOk_iff.mpr isOk_iff.mpr
  have hinputs : InputsEventuallyConsistent (shown (states snap ops)) := by
    refine ⟨2 * n, fun k hk => ?_⟩
    rcases Nat.even_or_odd' k with ⟨m, rfl | rfl⟩
    · rw [shown_even]
      exact hverdicts m (by omega)
    · rw [shown_odd]
      exact ⟨(hverdicts (m + 1) (by omega)).1, (hverdicts m (by omega)).2⟩
  obtain ⟨k, hk⟩ := hfair.eventually hinputs
  rcases Nat.even_or_odd' k with ⟨m, rfl | rfl⟩
  · rw [shown_even] at hk
    exact hnever ⟨m, hk⟩
  · rw [shown_odd] at hk
    exact hnever ⟨m, hk⟩

/-- A server that is configured at once and left alone. -/
def configuredOnce : Nat → LifecycleOp
  | 0 => .transition .hwConfigured {} false
  | 1 => .transition .rcpConfigured { viaRootClientEp0 := true } false
  | _ => .configure (some {})

theorem configuredOnce_settled (n : Nat) :
    states (some {}) configuredOnce (n + 2) = { state := .rcpConfigured, snap := some {} } := by
  induction n with
  | zero => rfl
  | succ n ih => exact congrArg (step · (.configure (some {}))) ih

theorem eventually_configured_once : ∃ n, (states (some {}) configuredOnce n).state = .rcpConfigured := by
  have hsettled : ∀ m, 2 ≤ m → states (some {}) configuredOnce m = { state := .rcpConfigured, snap := some {} } :=
    fun m hm => Nat.sub_add_cancel hm ▸ configuredOnce_settled (m - 2)
  refine eventually_configured (some {}) configuredOnce ⟨2, fun m hm => ?_⟩ (fun n henabled => ?_) fun henabled n => ?_
  · rw [hsettled m hm]
    exact ⟨rfl, rfl⟩
  · obtain ⟨_, hs, -⟩ := henabled (max n 2) (Nat.le_max_left n 2)
    rw [hsettled _ (Nat.le_max_right n 2)] at hs
    cases hs
  · obtain ⟨m, hm, _, hs, -⟩ := henabled 2
    rw [hsettled m hm] at hs
    cases hs

/-- A server that is taken back to HW_UNCONFIGURED each time it gets to HW_CONFIGURED. -/
def backAndForth (n : Nat) : LifecycleOp :=
  if n % 2 = 0 then .transition .hwConfigured {} false
  else .transition .hwUnconfigured { viaRootClientEp0 := true } true

theorem backAndForth_states (n : Nat) :
    states (some {}) backAndForth (2 * n) = { snap := some {} } ∧
      states (some {}) backAndForth (2 * n + 1) = { state := .hwConfigured, snap := some {} } := by
  have hup : ∀ n, backAndForth (2 * n) = .transition .hwConfigured {} false := fun n => if_pos (Nat.mul_mod_right 2 n)
  have hdown : ∀ n, backAndForth (2 * n + 1) = .transition .hwUnconfigured { viaRootClientEp0 := true } true :=
    fun n => if_neg (by omega)
  induction n with
  | zero => exact ⟨rfl, rfl⟩
  | succ n ih =>
    have heven : states (some {}) backAndForth (2 * (n + 1)) = { snap := some {} } := by
      show (states (some {}) backAndForth (2 * n + 1)).step (backAndForth (2 * n + 1)) = _
      rw [ih.2, hdown]
      rfl
    refine ⟨heven, ?_⟩
    show (states (some {}) backAndForth (2 * (n + 1))).step (backAndForth (2 * (n + 1))) = _
    rw [heven, hup]
    rfl

/-- To ask for RCP_CONFIGURED only when it stays within reach is not enough: the configuration is consistent all along,
    both calls are made whenever they stay possible, and the server never gets configured. -/
theorem weak_fairness_not_enough :
    Lib.WeaklyFair PromotesHw (states (some {}) backAndForth) ∧
      Lib.WeaklyFair PromotesRcp (states (some {}) backAndForth) ∧
      ∀ n, (states (some {}) backAndForth n).snap = some {} ∧ (states (some {}) backAndForth n).state ≠ .rcpConfigured := by
  refine ⟨fun n henabled => ?_, fun n henabled => ?_, forall_even_odd (fun n => ?_) fun n => ?_⟩
  · obtain ⟨_, hs, -⟩ := henabled (2 * n + 1) (by omega)
    rw [(backAndForth_states n).2] at hs
    cases hs
  · obtain ⟨_, hs, -⟩ := henabled (2 * n) (by omega)
    rw [(backAndForth_states n).1] at hs
    cases hs
  · rw [(backAndForth_states n).1]
    exact ⟨rfl, nofun⟩
  · rw [(backAndForth_states n).2]
    exact ⟨rfl, nofun⟩

end LifecycleServer
end Rcp
