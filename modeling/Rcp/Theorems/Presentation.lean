import Rcp.Theorems.Lifetime
import Rcp.Theorems.Select

/-! Presentation times: the instant a wire timestamp stands for, when the gate built on it opens, and what the gate
    means for a stored request. -/

namespace Rcp

/-! ### The instant a wire timestamp stands for -/

/-- How far the instant with the low 32 bits of `wireTs` closest to `referenceNow` is ahead of it. -/
def presentationOffset (wireTs : UInt32) (referenceNow : UInt64) : Int :=
  let ahead : Int := wireTs.toNat - (referenceNow.toNat % 2 ^ 32 : Nat)
  if ahead > 2 ^ 31 then ahead - 2 ^ 32 else if ahead < -2 ^ 31 then ahead + 2 ^ 32 else ahead

theorem presentationOffset_bounds (wireTs : UInt32) (referenceNow : UInt64) :
    -2 ^ 31 ≤ presentationOffset wireTs referenceNow ∧ presentationOffset wireTs referenceNow ≤ 2 ^ 31 := by
  have := wireTs.toNat_lt
  unfold presentationOffset
  dsimp only
  split
  · omega
  split
  · omega
  · omega

theorem presentationOffset_mod (wireTs : UInt32) (referenceNow : UInt64) :
    ((referenceNow.toNat : Int) + presentationOffset wireTs referenceNow) % 2 ^ 32 = wireTs.toNat := by
  have := wireTs.toNat_lt
  unfold presentationOffset
  dsimp only
  split
  · omega
  split
  · omega
  · omega

theorem getLsbD_periodMask (j : Nat) : (4294967295#64).getLsbD j = decide (j < 32) := by
  have hbits : (4294967295#64).getLsbD j = (decide (j < 64) && Nat.testBit (2 ^ 32 - 1) j) := BitVec.getLsbD_ofNat ..
  rw [hbits, Nat.testBit_two_pow_sub_one]
  grind

/-- The reference with its low 32 bits cleared. -/
theorem clearPeriod_eq (referenceNow : UInt64) :
    referenceNow &&& ~~~((1 : UInt64) <<< 32 - 1) = (referenceNow >>> 32) <<< 32 := by
  rw [show (1 : UInt64) <<< 32 - 1 = 4294967295 from rfl]
  apply UInt64.toBitVec_inj.mp
  apply BitVec.eq_of_getLsbD_eq
  intro i hi
  simp only [UInt64.toBitVec_and, UInt64.toBitVec_not, UInt64.toBitVec_shiftLeft, UInt64.toBitVec_shiftRight,
    UInt64.toBitVec_ofNat, BitVec.shiftLeft_eq', BitVec.ushiftRight_eq', BitVec.getLsbD_and, BitVec.getLsbD_not,
    BitVec.getLsbD_shiftLeft, BitVec.getLsbD_ushiftRight, getLsbD_periodMask]
  grind

theorem toNat_candidate (wireTs : UInt32) (referenceNow : UInt64) :
    ((referenceNow &&& ~~~((1 : UInt64) <<< 32 - 1)) ||| wireTs.toUInt64).toNat =
      referenceNow.toNat / 2 ^ 32 * 2 ^ 32 + wireTs.toNat := by
  have hw := wireTs.toNat_lt
  have hr := referenceNow.toNat_lt
  have hshift : ((referenceNow >>> 32) <<< 32).toNat = (referenceNow.toNat / 2 ^ 32) <<< 32 := by
    have h32 : (32 : UInt64).toNat % 64 = 32 := rfl
    rw [UInt64.toNat_shiftLeft, UInt64.toNat_shiftRight, h32, Nat.shiftRight_eq_div_pow, Nat.shiftLeft_eq,
      Nat.mod_eq_of_lt (by omega)]
  rw [clearPeriod_eq, UInt64.toNat_or, hshift, UInt32.toNat_toUInt64, ← Nat.shiftLeft_add_eq_or_of_lt hw,
    Nat.shiftLeft_eq]

/-- `rcp_avtp_extend_timestamp` finds that instant, up to the wrap of 64 bits. -/
theorem avtpExtendTimestamp_eq (wireTs : UInt32) (referenceNow : UInt64) :
    ((avtpExtendTimestamp wireTs referenceNow).toNat : Int) =
      ((referenceNow.toNat : Int) + presentationOffset wireTs referenceNow) % 2 ^ 64 := by
  have hw := wireTs.toNat_lt
  have hr := referenceNow.toNat_lt
  have hcandidate := toNat_candidate wireTs referenceNow
  have hperiod : ((1 : UInt64) <<< 32).toNat = 2 ^ 32 := rfl
  have hhalf : ((1 : UInt64) <<< 32 / 2).toNat = 2 ^ 31 := rfl
  unfold avtpExtendTimestamp presentationOffset
  dsimp only
  generalize (referenceNow &&& ~~~((1 : UInt64) <<< 32 - 1)) ||| wireTs.toUInt64 = candidate at hcandidate ⊢
  generalize (1 : UInt64) <<< 32 / 2 = half at hhalf ⊢
  generalize (1 : UInt64) <<< 32 = period at hperiod ⊢
  simp only [gt_iff_lt, UInt64.lt_iff_toNat_lt, UInt64.toNat_sub, hhalf]
  have hc := candidate.toNat_lt
  split
  · rw [UInt64.toNat_sub, hperiod]
    split
    · omega
    split
    · omega
    · omega
  split
  · rw [UInt64.toNat_add, hperiod]
    split
    · omega
    split
    · omega
    · omega
  · split
    · omega
    split
    · omega
    · omega

theorem avtpExtendTimestamp_mod (wireTs : UInt32) (referenceNow : UInt64) :
    (avtpExtendTimestamp wireTs referenceNow).toNat % 2 ^ 32 = wireTs.toNat := by
  have heq := avtpExtendTimestamp_eq wireTs referenceNow
  have hmod := presentationOffset_mod wireTs referenceNow
  omega

/-! ### When the gate opens -/

theorem timedForwardDelta_eq (presentationTime now : UInt64) :
    ((timedForwardDelta presentationTime now).toNat : Int) = ((presentationTime.toNat : Int) - now.toNat) % 2 ^ 48 := by
  have hp := presentationTime.toNat_lt
  have hn := now.toNat_lt
  have hmask : timedPresentationTimeMax.toNat = 2 ^ 48 - 1 := rfl
  rw [timedForwardDelta, UInt64.toNat_and, hmask, Nat.and_two_pow_sub_one_eq_mod, UInt64.toNat_sub]
  omega

/-- Before the gate has wrapped, `rcp_timed_due` compares the time that has gone by with the offset. -/
theorem timedDue_iff (wireTs : UInt32) (referenceNow : UInt64) {elapsed : Nat} (h : elapsed < 2 ^ 47 - 2 ^ 31) :
    timedDue (avtpExtendTimestamp wireTs referenceNow) (referenceNow + UInt64.ofNat elapsed) = true ↔
      presentationOffset wireTs referenceNow ≤ elapsed := by
  have hdelta := timedForwardDelta_eq (avtpExtendTimestamp wireTs referenceNow) (referenceNow + UInt64.ofNat elapsed)
  have heq := avtpExtendTimestamp_eq wireTs referenceNow
  have hbounds := presentationOffset_bounds wireTs referenceNow
  have helapsed : (UInt64.ofNat elapsed).toNat = elapsed := UInt64.toNat_ofNat_of_lt' (by rw [UInt64.size]; omega)
  have hhalf : (timedPresentationTimeModulus / 2).toNat = 2 ^ 47 := rfl
  have hzero : (0 : UInt64).toNat = 0 := rfl
  rw [UInt64.toNat_add, helapsed] at hdelta
  simp only [timedDue, timedInThePast, Bool.or_eq_true, beq_iff_eq, decide_eq_true_eq, gt_iff_lt,
    UInt64.lt_iff_toNat_lt, hhalf, ← UInt64.toNat_inj, hzero]
  omega

/-! ### The gate of a stored request -/

namespace Pending

/-- The request without its presentation gate: what is left of its execution condition is its own. -/
def ungated (slot : Pending) : Pending := { slot with hasPresentationGate := false }

/-- `b` is of the same kind as `a`, behind the same gate. -/
structure SameGate (a b : Pending) : Prop where
  kind : b.kind = a.kind
  requestType : b.requestType = a.requestType
  gated : b.hasPresentationGate = a.hasPresentationGate
  ns : b.presentationGateNs = a.presentationGateNs

theorem SameRequest.sameGate {a b : Pending} (h : SameRequest a b) : SameGate a b := by
  rw [h]
  exact ⟨rfl, rfl, rfl, rfl⟩

theorem completed_sameGate {slot : Pending} {now : UInt32} (h : (slot.completed now).inUse = true) :
    SameGate slot (slot.completed now) := by
  unfold completed at *
  cases hn : slot.repeatCount? with
  | none =>
    rw [hn] at h
    cases h
  | some n =>
    rw [hn] at h
    dsimp only at h ⊢
    split
    · exact ⟨rfl, rfl, rfl, rfl⟩
    split
    · simp_all
    · unfold setRepeatCount
      split <;> exact ⟨rfl, rfl, rfl, rfl⟩

end Pending

/-- The gate is a condition like the others of `is_due`, and takes no part in them. -/
theorem isDue_gated (slot : Pending) (epEnable : Bool) (ctx : TickCtx) :
    (isDue slot epEnable ctx).1 = (presentationGateOpen slot ctx && (isDue slot.ungated epEnable ctx).1) := by
  by_cases hgate : presentationGateOpen slot ctx = true
  · rw [hgate, Bool.true_and]
    by_cases hopen : GatesOpen slot epEnable ctx
    · have hopen' : GatesOpen slot.ungated epEnable ctx := ⟨hopen.enabled, hopen.mayExecute, rfl⟩
      rw [isDue_of_open hopen, isDue_of_open hopen']
      simp only [apply_ite Prod.fst]
      rfl
    · have hopen' : ¬GatesOpen slot.ungated epEnable ctx := fun h => hopen ⟨h.enabled, h.mayExecute, hgate⟩
      rw [isDue_of_closed hopen, isDue_of_closed hopen']
  · rw [isDue_of_closed fun h => hgate h.presentation]
    simp [hgate]

namespace Endpoint
variable {ep : Endpoint} {i : SlotIx}

theorem admits_gate {ep' : Endpoint} {frame : Octets} {now : UInt32} {gate : UInt64} {r : AdmitResult}
    (h : Admits ep frame now true gate r ep') (hindex : r.index = some i) :
    (ep'.pending i).hasPresentationGate = true ∧ (ep'.pending i).presentationGateNs = gate ∧
      ((ep'.pending i).kind = .standard → (ep'.pending i).requestType = 0) := by
  cases h with
  | refused hr hnone => simp [hnone] at hindex
  | submitted htv hr => cases htv
  | burned hi hr hd => simp [hr.2] at hindex
  | gated hi htv hk hr =>
    obtain rfl := Option.some.inj (hr.2.1.symm.trans hindex)
    rw [storeAt_pending, Function.update_self]
    refine ⟨rfl, rfl, fun hkind => ?_⟩
    rcases hk with ⟨-, hzero⟩ | ⟨hcancel, -⟩
    · exact hzero
    · cases hcancel.symm.trans hkind
  | stored hi hk hd hr =>
    obtain rfl := Option.some.inj (hr.2.1.symm.trans hindex)
    rw [storeAt_pending, Function.update_self]
    refine ⟨rfl, rfl, fun hkind => ?_⟩
    have hdecoded := decodeCondition_decoded hd
    exact absurd (hdecoded.kind.symm.trans hkind) hdecoded.notStandard

/-- As long as the request stays, so does its gate. -/
theorem stays_gate (ops : List EndpointOp) {ep : Endpoint} (hu : (ep.pending i).inUse = true) (hstays : Stays i ep ops) :
    ((ep.run ops).pending i).inUse = true ∧ Pending.SameGate (ep.pending i) ((ep.run ops).pending i) := by
  induction ops generalizing ep with
  | nil => exact ⟨hu, rfl, rfl, rfl, rfl⟩
  | cons op ops ih =>
    obtain ⟨hnext, hstays⟩ := hstays
    obtain ⟨huse, hgate⟩ := ih hnext hstays
    have hstep : Pending.SameGate (ep.pending i) ((ep.step op).pending i) := by
      rw [step_pending op (.inl hu)] at hnext ⊢
      cases hop : op.completes i with
      | true =>
        obtain ⟨ctx, -, hslot⟩ := slotAfter_completes hu hop
        rw [hslot] at hnext ⊢
        exact Pending.completed_sameGate hnext
      | false =>
        rcases slotAfter_cases ep hop with hsame | ⟨-, hzero⟩
        · exact hsame.sameGate
        · rw [hzero] at hnext
          cases hnext
    exact ⟨huse, hgate.kind.trans hstep.kind, hgate.requestType.trans hstep.requestType,
      hgate.gated.trans hstep.gated, hgate.ns.trans hstep.ns⟩

/-- A standard request has no condition of its own. -/
theorem isDue_ungated_standard {slot : Pending} (hkind : slot.kind = .standard) (htype : slot.requestType = 0)
    (epEnable : Bool) (ctx : TickCtx) : (isDue slot.ungated epEnable ctx).1 = true := by
  have hopen : GatesOpen slot.ungated epEnable ctx := by
    refine ⟨fun hk => ?_, ?_, rfl⟩
    · rw [show slot.ungated.kind = .standard from hkind] at hk
      cases hk
    · rw [show slot.ungated.requestType = 0 from htype]
      rfl
  have hkind' : slot.ungated.kind = .standard := hkind
  have htimer : ∀ s : Pending, s.kind = .standard → timerExpired s ctx = true := by
    intro s hs
    simp [timerExpired, auxiliaryConditionMet, delayExpired, hs]
  rw [isDue_of_open hopen]
  split
  · exact htimer _ hkind'
  split
  · exact htimer _ hkind'
  · rename_i hstart
    simp [startConditionHolds, hkind'] at hstart

/-- The gate of a request that was stored under a TSCF header opens with its presentation time. -/
theorem gate_iff {wireTs : UInt32} {referenceNow : UInt64} {frame : Octets} {now : UInt32} {ops : List EndpointOp}
    {ctx : TickCtx} {elapsed : Nat}
    (hindex : (ep.admitWithAck frame now true wireTs referenceNow).1.index = some i)
    (hstays : Stays i (ep.admitWithAck frame now true wireTs referenceNow).2 ops)
    (hnow : ctx.gptpNow = referenceNow + UInt64.ofNat elapsed) (helapsed : elapsed < 2 ^ 47 - 2 ^ 31) :
    (((ep.admitWithAck frame now true wireTs referenceNow).2.run ops).pending i).inUse = true ∧
    (presentationGateOpen (((ep.admitWithAck frame now true wireTs referenceNow).2.run ops).pending i) ctx = true ↔
      ctx.gptpLocked = true ∧ presentationOffset wireTs referenceNow ≤ elapsed) ∧
    ((((ep.admitWithAck frame now true wireTs referenceNow).2.run ops).pending i).kind = .standard →
      (((ep.admitWithAck frame now true wireTs referenceNow).2.run ops).pending i).requestType = 0) := by
  have hadmits := admitWithAck_admits ep frame now true wireTs referenceNow
  obtain ⟨hgated, hns, hstandard⟩ := admits_gate hadmits hindex
  obtain ⟨huse, hsame⟩ := stays_gate ops (admits_index hadmits hindex).2 hstays
  refine ⟨huse, ?_, fun hkind => ?_⟩
  · rw [presentationGateOpen, hsame.gated, hgated, hsame.ns, hns, hnow, if_pos rfl, Bool.not_true, Bool.false_or,
      Bool.and_eq_true, timedDue_iff wireTs referenceNow helapsed]
  · rw [hsame.requestType]
    exact hstandard (hsame.kind.symm.trans hkind)

end Endpoint

/-- The instant a wire timestamp stands for lies within half a period of the reference, and the gate built on it opens
    exactly with it. A stored request behind the gate is due when gPTP is locked, its time has come and its own
    condition holds, and then a request is selected that does not come after it. -/
theorem presentation_exact (wireTs : UInt32) (referenceNow : UInt64) :
    ∃ d : Int, -2 ^ 31 ≤ d ∧ d ≤ 2 ^ 31 ∧
      (avtpExtendTimestamp wireTs referenceNow).toNat % 2 ^ 32 = wireTs.toNat ∧
      ((avtpExtendTimestamp wireTs referenceNow).toNat : Int) = ((referenceNow.toNat : Int) + d) % 2 ^ 64 ∧
      (∀ elapsed : Nat, elapsed < 2 ^ 47 - 2 ^ 31 →
        (timedDue (avtpExtendTimestamp wireTs referenceNow) (referenceNow + UInt64.ofNat elapsed) = true ↔
          d ≤ elapsed)) ∧
      ∀ (ep : Endpoint) (frame : Octets) (now : UInt32) (i : SlotIx) (ops : List EndpointOp) (ctx : TickCtx)
        (elapsed : Nat),
        (ep.admitWithAck frame now true wireTs referenceNow).1.index = some i →
        Endpoint.Stays i (ep.admitWithAck frame now true wireTs referenceNow).2 ops →
        ctx.gptpNow = referenceNow + UInt64.ofNat elapsed → elapsed < 2 ^ 47 - 2 ^ 31 →
        let ep' := (ep.admitWithAck frame now true wireTs referenceNow).2.run ops
        (ep'.due ctx i = true ↔
          ctx.gptpLocked = true ∧ d ≤ elapsed ∧ (isDue (ep'.pending i).ungated ep'.epEnable ctx).1 = true) ∧
        ((ep'.pending i).kind = .standard → (isDue (ep'.pending i).ungated ep'.epEnable ctx).1 = true) ∧
        ((ep'.selectDue ctx).1 = some i → ep'.due ctx i = true) ∧
        (ep'.due ctx i = true →
          ∃ j, (ep'.selectDue ctx).1 = some j ∧ ¬schedCompare (ep'.pending i).entry (ep'.pending j).entry < 0) := by
  obtain ⟨hlow, hhigh⟩ := presentationOffset_bounds wireTs referenceNow
  refine ⟨presentationOffset wireTs referenceNow, hlow, hhigh, avtpExtendTimestamp_mod wireTs referenceNow,
    avtpExtendTimestamp_eq wireTs referenceNow, fun elapsed h => timedDue_iff wireTs referenceNow h, ?_⟩
  intro ep frame now i ops ctx elapsed hindex hstays hnow helapsed ep'
  obtain ⟨huse, hgate, hstandard⟩ := Endpoint.gate_iff hindex hstays hnow helapsed
  refine ⟨?_, fun hkind => ?_, fun h => (Endpoint.selectDue_minimal h).1, fun hdue => ?_⟩
  · rw [Endpoint.due, huse, Bool.true_and, isDue_gated, Bool.and_eq_true, hgate, and_assoc]
  · exact Endpoint.isDue_ungated_standard hkind (hstandard hkind) _ _
  · cases hselect : (ep'.selectDue ctx).1 with
    | none =>
      rw [Endpoint.selectDue_none.mp hselect i] at hdue
      cases hdue
    | some j => exact ⟨j, rfl, (Endpoint.selectDue_minimal hselect).2 i hdue⟩

/-- A request whose time is now is selected now. -/
theorem presentation_exact_now :
    ∃ j, (((Endpoint.init true).admitWithAck [] 0 true 0 0).2.selectDue { gptpLocked := true }).1 = some j := by
  obtain ⟨d, -, -, -, -, hdue, hrun⟩ := presentation_exact 0 0
  have hd : d ≤ 0 := (hdue 0 (by decide)).mp (by decide)
  obtain ⟨hiff, hstandard, -, hselect⟩ := hrun (Endpoint.init true) [] 0 0 [] { gptpLocked := true } 0
    (by decide +kernel) trivial rfl (by decide)
  obtain ⟨j, hj, -⟩ := hselect (hiff.mpr ⟨rfl, hd, hstandard (by decide +kernel)⟩)
  exact ⟨j, hj⟩

/-- A request that is behind its time does not run while gPTP is not locked, nor while another one comes first. -/
theorem presentation_not_at_once :
    (¬∀ (ep : Endpoint) (frame : Octets) (now wireTs : UInt32) (referenceNow : UInt64) (i : SlotIx)
      (ops : List EndpointOp) (ctx : TickCtx) (elapsed : Nat),
      (ep.admitWithAck frame now true wireTs referenceNow).1.index = some i →
      Endpoint.Stays i (ep.admitWithAck frame now true wireTs referenceNow).2 ops →
      ctx.gptpNow = referenceNow + UInt64.ofNat elapsed → elapsed < 2 ^ 47 - 2 ^ 31 →
      presentationOffset wireTs referenceNow ≤ elapsed →
      (((ep.admitWithAck frame now true wireTs referenceNow).2.run ops).selectDue ctx).1 = some i) ∧
    ¬∀ (ep : Endpoint) (frame : Octets) (now wireTs : UInt32) (referenceNow : UInt64) (i : SlotIx)
      (ops : List EndpointOp) (ctx : TickCtx) (elapsed : Nat),
      (ep.admitWithAck frame now true wireTs referenceNow).1.index = some i →
      Endpoint.Stays i (ep.admitWithAck frame now true wireTs referenceNow).2 ops →
      ctx.gptpNow = referenceNow + UInt64.ofNat elapsed → elapsed < 2 ^ 47 - 2 ^ 31 → ctx.gptpLocked = true →
      presentationOffset wireTs referenceNow ≤ elapsed →
      (((ep.admitWithAck frame now true wireTs referenceNow).2.run ops).selectDue ctx).1 = some i := by
  refine ⟨fun h => ?_, fun h => ?_⟩
  · exact absurd (h (Endpoint.init true) [] 0 0 0 0 [] {} 0 (by decide +kernel) trivial rfl (by decide) (by decide))
      (by decide +kernel)
  · exact absurd (h ((Endpoint.init true).admitWithAck [] 0 true 0 0).2 [] 0 0 0 1 [] { gptpLocked := true } 0
      (by decide +kernel) trivial rfl (by decide) rfl (by decide)) (by decide +kernel)

end Rcp
