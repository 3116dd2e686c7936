import Rcp.Theorems.StoreInv

/-! The life of a stored request: from its admission on it stays in its slot, repetition by repetition,
    until its last completion or a cancellation takes it out. -/

namespace Rcp

/-! ### What a call leaves of a request -/

namespace Pending

/-- `b` is `a` up to the runtime bookkeeping of its timer, its occurrence counter and its predecessor. -/
def SameRequest (a b : Pending) : Prop :=
  b = { a with
    armed := b.armed, armedAt := b.armedAt, triggeredRuntime := b.triggeredRuntime,
    predecessorDone := b.predecessorDone }

variable {a b : Pending}

theorem SameRequest.refl (a : Pending) : SameRequest a a := rfl

theorem SameRequest.repeatCount? (h : SameRequest a b) : b.repeatCount? = a.repeatCount? := by
  rw [h]
  rfl

theorem SameRequest.inUse (h : SameRequest a b) : b.inUse = a.inUse := by
  rw [h]

theorem swept_sameRequest (slot : Pending) (epEnable : Bool) (ctx : TickCtx) :
    SameRequest slot (slot.swept epEnable ctx) := by
  unfold swept
  split
  · rcases isDue_slot_cases slot epEnable ctx with h | ⟨-, -, -, h⟩ <;> rw [h] <;> rfl
  · rfl

theorem notified_sameRequest (slot : Pending) (sourceEp signalNr : UInt8) :
    SameRequest slot (slot.notified sourceEp signalNr) := by
  unfold notified
  split <;> rfl

theorem predecessorFinished_sameRequest (slot : Pending) (now : UInt32) :
    SameRequest slot (slot.predecessorFinished now) := by
  unfold predecessorFinished
  split <;> rfl

/-- A purge clears a slot or leaves it. -/
theorem purged_cases (drop : Pending → Bool) (slot : Pending) :
    Endpoint.purged drop slot = .zero ∨ Endpoint.purged drop slot = slot := by
  unfold Endpoint.purged
  split
  · exact Or.inl rfl
  · exact Or.inr rfl

end Pending

namespace Endpoint
variable {ep : Endpoint} {i j : SlotIx} {op : EndpointOp}

/-- A call that does not complete slot `i` clears it, which only a cancellation does, or keeps its request. -/
theorem slotAfter_cases (ep : Endpoint) (hop : op.completes i = false) :
    Pending.SameRequest (ep.pending i) (ep.slotAfter i op) ∨ op.isCancel = true ∧ ep.slotAfter i op = .zero := by
  have hpurge : ∀ drop, Pending.SameRequest (ep.pending i) (purged drop (ep.pending i)) ∨
      true = true ∧ purged drop (ep.pending i) = .zero := by
    intro drop
    rcases Pending.purged_cases drop (ep.pending i) with h | h
    · exact Or.inr ⟨rfl, h⟩
    · exact Or.inl (by rw [h]; rfl)
  cases op with
  | selectDue ctx => exact Or.inl (Pending.swept_sameRequest _ _ _)
  | complete index ctx =>
    have hne : i.val ≠ index := by
      rintro rfl
      simp [EndpointOp.completes] at hop
    exact Or.inl (by simp [slotAfter, hne, Pending.SameRequest.refl])
  | notifyTrigger sourceEp signalNr => exact Or.inl (Pending.notified_sameRequest _ _ _)
  | chainPredecessorDone index now =>
    left
    simp only [slotAfter]
    split
    · exact Pending.predecessorFinished_sameRequest _ _
    · exact .refl _
  | cancelAll =>
    simp only [slotAfter]
    exact hpurge _
  | cancelSingle clearTransactionNum state =>
    simp only [slotAfter]
    split
    · exact Or.inr ⟨rfl, rfl⟩
    · exact Or.inl (.refl _)
  | cancelNonSafestate =>
    simp only [slotAfter]
    exact hpurge _
  | watchdogPurge =>
    simp only [slotAfter]
    exact hpurge _
  | cancelChainFrom chainGroup minPosition =>
    simp only [slotAfter]
    split
    · exact Or.inl (.refl _)
    · exact hpurge _
  | admitWithAck frame now tv avtpTimestamp gptpReferenceNow => exact Or.inl (.refl _)
  | submit frame => exact Or.inl (.refl _)
  | setEnable enable => exact Or.inl (.refl _)
  | setAdmissionSuspended suspended => exact Or.inl (.refl _)
  | drainOne => exact Or.inl (.refl _)

/-- A completion of slot `i` is what `completed` says. -/
theorem slotAfter_completes (hu : (ep.pending i).inUse = true) (hop : op.completes i = true) :
    ∃ ctx, op = .complete i ctx ∧ ep.slotAfter i op = (ep.pending i).completed ctx.now := by
  cases op with
  | complete index ctx =>
    obtain rfl : index = i.val := by simpa [EndpointOp.completes] using hop
    exact ⟨ctx, rfl, by simp [slotAfter, hu]⟩
  | _ => cases hop

/-- A completion changes no slot but its own. -/
theorem complete_other {index : Nat} (ctx : TickCtx) (hj : j.val ≠ index) :
    (ep.complete index ctx).2.1.pending j = ep.pending j := by
  have h : (ep.step (.complete index ctx)).pending j = ep.slotAfter j (.complete index ctx) :=
    step_pending _ (.inr rfl)
  simpa [step, slotAfter, hj] using h

/-! ### Counting executions -/

/-- The number of times the request in slot `i` is completed during the calls, until it leaves the store. -/
def executions (i : SlotIx) : Endpoint → List EndpointOp → Nat
  | _, [] => 0
  | ep, op :: ops =>
    (if op.completes i then 1 else 0) +
    (if ((ep.step op).pending i).inUse then executions i (ep.step op) ops else 0)

/-- The request in slot `i` is in the store during all the calls. -/
def Stays (i : SlotIx) : Endpoint → List EndpointOp → Prop
  | _, [] => True
  | ep, op :: ops => ((ep.step op).pending i).inUse = true ∧ Stays i (ep.step op) ops

/-- No cancellation and no purge takes the request in slot `i` out of the store. -/
def Uncancelled (i : SlotIx) : Endpoint → List EndpointOp → Prop
  | _, [] => True
  | ep, op :: ops =>
    (op.isCancel = true → ((ep.step op).pending i).inUse = true) ∧
    (((ep.step op).pending i).inUse = true → Uncancelled i (ep.step op) ops)

instance decidableStays (i : SlotIx) : ∀ (ep : Endpoint) (ops : List EndpointOp), Decidable (Stays i ep ops)
  | _, [] => isTrue trivial
  | ep, op :: ops =>
    have := decidableStays i (ep.step op) ops
    inferInstanceAs (Decidable (_ ∧ _))

instance decidableUncancelled (i : SlotIx) :
    ∀ (ep : Endpoint) (ops : List EndpointOp), Decidable (Uncancelled i ep ops)
  | _, [] => isTrue trivial
  | ep, op :: ops =>
    have := decidableUncancelled i (ep.step op) ops
    inferInstanceAs (Decidable ((_ → _) ∧ (_ → _)))

/-- A call that does not complete slot `i` keeps an uncancelled request in it. -/
theorem step_kept (hu : (ep.pending i).inUse = true) (hop : op.completes i = false)
    (hc : op.isCancel = true → ((ep.step op).pending i).inUse = true) :
    Pending.SameRequest (ep.pending i) ((ep.step op).pending i) ∧ ((ep.step op).pending i).inUse = true := by
  have hslot := step_pending op (.inl hu)
  rcases slotAfter_cases ep hop with h | ⟨hcancel, h⟩
  · rw [hslot]
    exact ⟨h, h.inUse.trans hu⟩
  · have := hc hcancel
    rw [hslot, h] at this
    cases this

theorem completed_infinite {slot : Pending} (now : UInt32) (hn : slot.repeatCount? = some repeatInfinite) :
    slot.completed now = slot.rearm now := by
  simp [Pending.completed, hn]

theorem completed_last {slot : Pending} (now : UInt32) (hn : slot.repeatCount? = some 0 ∨ slot.repeatCount? = none) :
    slot.completed now = .zero := by
  rcases hn with hn | hn <;> simp [Pending.completed, hn]
  intro h
  cases h

theorem completed_again {slot : Pending} {n : UInt16} (now : UInt32) (hn : slot.repeatCount? = some n)
    (hinf : n ≠ repeatInfinite) (hzero : n ≠ 0) : slot.completed now = (slot.setRepeatCount (n - 1)).rearm now := by
  simp [Pending.completed, hn, hinf, hzero]

theorem repeatCount?_rearm (slot : Pending) (now : UInt32) : (slot.rearm now).repeatCount? = slot.repeatCount? := rfl

theorem repeatCount?_setRepeatCount {slot : Pending} {n : UInt16} (hn : slot.repeatCount? = some n) (m : UInt16) :
    (slot.setRepeatCount m).repeatCount? = some m := by
  unfold Pending.repeatCount? at hn
  unfold Pending.setRepeatCount
  cases hk : slot.kind <;> simp_all [Pending.repeatCount?]

/-- A request with the infinite repeat_count never leaves. -/
theorem stays_infinite (ops : List EndpointOp) : ∀ {ep : Endpoint}, (ep.pending i).inUse = true →
    (ep.pending i).repeatCount? = some repeatInfinite → Uncancelled i ep ops → Stays i ep ops := by
  induction ops with
  | nil => intros; trivial
  | cons op ops ih =>
    intro ep hu hn hunc
    have hslot := step_pending op (.inl hu)
    cases hop : op.completes i with
    | false =>
      obtain ⟨hsame, hu'⟩ := step_kept hu hop hunc.1
      exact ⟨hu', ih hu' (hsame.repeatCount?.trans hn) (hunc.2 hu')⟩
    | true =>
      obtain ⟨ctx, rfl, hcomp⟩ := slotAfter_completes hu hop
      rw [completed_infinite ctx.now hn] at hcomp
      have hu' : ((ep.step (.complete i ctx)).pending i).inUse = true := by rw [hslot, hcomp]; exact hu
      have hn' : ((ep.step (.complete i ctx)).pending i).repeatCount? = some repeatInfinite := by
        rw [hslot, hcomp, repeatCount?_rearm, hn]
      exact ⟨hu', ih hu' hn' (hunc.2 hu')⟩

/-- The executions a request has left before it is released, if that number is finite. -/
def remaining (slot : Pending) : Nat :=
  match slot.repeatCount? with
  | none => 1
  | some n => n.toNat + 1

theorem remaining_pos (slot : Pending) : 0 < remaining slot := by
  unfold remaining
  split <;> omega

/-- One completion uses up one of the executions left; the last one releases the slot. -/
theorem remaining_completed {slot : Pending} (now : UInt32) (hu : slot.inUse = true)
    (hinf : slot.repeatCount? ≠ some repeatInfinite) :
    (remaining slot = 1 ∧ slot.completed now = .zero) ∨
    ((slot.completed now).inUse = true ∧ (slot.completed now).repeatCount? ≠ some repeatInfinite ∧
      remaining slot = remaining (slot.completed now) + 1) := by
  cases hn : slot.repeatCount? with
  | none => exact Or.inl ⟨by simp [remaining, hn], completed_last now (.inr hn)⟩
  | some n =>
    by_cases hzero : n = 0
    · subst hzero
      exact Or.inl ⟨by simp [remaining, hn], completed_last now (.inl hn)⟩
    · right
      have hne : n ≠ repeatInfinite := fun h => hinf (by rw [hn, h])
      rw [completed_again now hn hne hzero]
      have hrep := (repeatCount?_rearm (slot.setRepeatCount (n - 1)) now).trans (repeatCount?_setRepeatCount hn (n - 1))
      have hpos : 0 < n.toNat := by
        rw [← UInt16.toNat_inj] at hzero
        simp at hzero
        omega
      have hpred : (n - 1).toNat = n.toNat - 1 := by
        rw [UInt16.toNat_sub_of_le]
        · rfl
        · rw [UInt16.le_iff_toNat_le]
          exact hpos
      refine ⟨by simpa using hu, ?_, ?_⟩
      · rw [hrep]
        intro h
        have := congrArg UInt16.toNat (Option.some.inj h)
        have hlt := n.toNat_lt
        simp [hpred, repeatInfinite] at this
        omega
      · simp only [remaining, hn, hrep, hpred]
        omega

/-- A request with a finite repeat_count, or with none, leaves exactly at its last execution. -/
theorem stays_iff (ops : List EndpointOp) : ∀ {ep : Endpoint}, (ep.pending i).inUse = true →
    (ep.pending i).repeatCount? ≠ some repeatInfinite → Uncancelled i ep ops →
    executions i ep ops ≤ remaining (ep.pending i) ∧
    (Stays i ep ops ↔ executions i ep ops < remaining (ep.pending i)) := by
  induction ops with
  | nil =>
    intro ep hu hinf hunc
    simpa [executions, Stays] using remaining_pos (ep.pending i)
  | cons op ops ih =>
    intro ep hu hinf hunc
    have hslot := step_pending op (.inl hu)
    cases hop : op.completes i with
    | false =>
      obtain ⟨hsame, hu'⟩ := step_kept hu hop hunc.1
      have hrep := hsame.repeatCount?
      have hrem : remaining ((ep.step op).pending i) = remaining (ep.pending i) := by simp [remaining, hrep]
      have := ih hu' (by rwa [hrep]) (hunc.2 hu')
      simpa [executions, Stays, hop, hu', hrem] using this
    | true =>
      obtain ⟨ctx, rfl, hcomp⟩ := slotAfter_completes hu hop
      rcases remaining_completed ctx.now hu hinf with ⟨hone, hzero⟩ | ⟨hu', hinf', hrem⟩
      · have hgone : ((ep.step (.complete i ctx)).pending i).inUse = false := by rw [hslot, hcomp, hzero]; rfl
        simp [executions, Stays, hop, hgone, hone]
      · rw [← hcomp, ← hslot] at hu' hinf' hrem
        have := ih hu' hinf' (hunc.2 hu')
        simp only [executions, Stays, hop, hu', hrem, ↓reduceIte, true_and]
        exact ⟨by omega, this.2.trans (by omega)⟩

/-! ### The repetition count -/

/-- The slot an admission reports is in use afterwards. -/
theorem admits_index {ep' : Endpoint} {frame : Octets} {now : UInt32} {tv : Bool} {gate : UInt64} {r : AdmitResult}
    (h : Admits ep frame now tv gate r ep') (hindex : r.index = some i) :
    ep.firstFree = some i ∧ (ep'.pending i).inUse = true := by
  cases h with
  | refused hr hnone => simp [hnone] at hindex
  | submitted htv hr => simp [hr] at hindex
  | burned hi hr hd => simp [hr.2] at hindex
  | gated hi htv hk hr =>
    obtain rfl := Option.some.inj (hr.2.1.symm.trans hindex)
    exact ⟨hi, by simp [gatedSlot, Pending.claimed]⟩
  | stored hi hk hd hr =>
    obtain rfl := Option.some.inj (hr.2.1.symm.trans hindex)
    exact ⟨hi, by simpa [conditionalSlot, Pending.claimed] using (decodeCondition_decoded hd).inUse⟩

/-- An admitted request that is never cancelled or purged leaves the store exactly at its last execution:
    the (r+1)-th for a repeat_count r other than the infinite one, which never leaves; the first for the kinds
    without a repeat_count. A completion changes no other entry. -/
theorem repetition_exact {ep ep₀ : Endpoint} {frame : Octets} {now : UInt32} {tv : Bool} {avtpTimestamp : UInt32}
    {gptpReferenceNow : UInt64} {res : AdmitResult} {i : SlotIx}
    (hadm : ep.admitWithAck frame now tv avtpTimestamp gptpReferenceNow = (res, ep₀)) (hindex : res.index = some i)
    (ops : List EndpointOp) (hunc : Uncancelled i ep₀ ops) :
    (∀ r, (ep₀.pending i).repeatCount? = some r → r ≠ repeatInfinite →
      executions i ep₀ ops ≤ r.toNat + 1 ∧ (¬Stays i ep₀ ops ↔ executions i ep₀ ops = r.toNat + 1)) ∧
    ((ep₀.pending i).repeatCount? = some repeatInfinite → Stays i ep₀ ops) ∧
    ((ep₀.pending i).repeatCount? = none →
      executions i ep₀ ops ≤ 1 ∧ (¬Stays i ep₀ ops ↔ executions i ep₀ ops = 1)) ∧
    (∀ (ep : Endpoint) (index : Nat) (ctx : TickCtx) (j : SlotIx), j.val ≠ index →
      (ep.complete index ctx).2.1.pending j = ep.pending j) := by
  have hadmits := admitWithAck_admits ep frame now tv avtpTimestamp gptpReferenceNow
  rw [hadm] at hadmits
  have hu : (ep₀.pending i).inUse = true := (admits_index hadmits hindex).2
  refine ⟨fun r hr hinf => ?_, fun hr => stays_infinite ops hu hr hunc, fun hr => ?_,
    fun ep index ctx j hj => complete_other ctx hj⟩
  · have hrem : remaining (ep₀.pending i) = r.toNat + 1 := by simp [remaining, hr]
    obtain ⟨hle, hiff⟩ := stays_iff ops hu (by rw [hr]; simpa using hinf) hunc
    rw [hrem] at hle hiff
    exact ⟨hle, (not_congr hiff).trans (by omega)⟩
  · have hrem : remaining (ep₀.pending i) = 1 := by simp [remaining, hr]
    obtain ⟨hle, hiff⟩ := stays_iff ops hu (by rw [hr]; simp) hunc
    rw [hrem] at hle hiff
    exact ⟨hle, (not_congr hiff).trans (by omega)⟩

/-- A compound request on sequencer 0 with repeat_count 1. -/
def compoundTwiceFrame : Octets := [0x1A, 0x04, 0x00, 0x01, 0x00, 0x07, 0x80, 0x00, 0x0F, 1, 0, 0, 0, 0, 0, 1]

/-- A request with repeat_count 1 is completed twice and then gone. -/
theorem repetition_exact_twice :
    Uncancelled 0 ((Endpoint.init true).admitWithAck compoundTwiceFrame 0 false 0 0).2
      [.complete 0 {}, .complete 0 {}, .complete 0 {}] ∧
    ¬Stays 0 ((Endpoint.init true).admitWithAck compoundTwiceFrame 0 false 0 0).2
      [.complete 0 {}, .complete 0 {}, .complete 0 {}] := by
  refine ⟨by decide, ?_⟩
  have hadm := (Prod.mk.eta (p := (Endpoint.init true).admitWithAck compoundTwiceFrame 0 false 0 0)).symm
  obtain ⟨hfinite, -⟩ := repetition_exact (i := 0) hadm (by decide)
    [.complete 0 {}, .complete 0 {}, .complete 0 {}] (by decide)
  exact (hfinite 1 (by decide) (by decide)).2.mpr (by decide)

end Endpoint
end Rcp
