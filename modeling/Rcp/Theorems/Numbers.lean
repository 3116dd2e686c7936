import Rcp.Theorems.StoreRuns

/-! The transaction number a slot is searched by, against the one in the header of the frame it holds. The
    conditional kinds copy it when they are decoded; what the presentation gate stores never gets one. -/

namespace Rcp

/-- The transaction number in the header of the stored frame. -/
def Pending.headerNum (slot : Pending) : UInt8 := (Acf.unpackHeader slot.frame).transactionNum

/-- The same frame under the same number. -/
structure Pending.SameNumber (a b : Pending) : Prop where
  frame : b.frame = a.frame
  number : b.transactionNum = a.transactionNum

theorem Pending.SameRequest.sameNumber {a b : Pending} (h : SameRequest a b) : SameNumber a b := by
  constructor <;> rw [h]

theorem Pending.completed_sameNumber {slot : Pending} {now : UInt32} (h : (slot.completed now).inUse = true) :
    SameNumber slot (slot.completed now) := by
  have hset : ∀ n, (slot.setRepeatCount n).frame = slot.frame ∧
      (slot.setRepeatCount n).transactionNum = slot.transactionNum := by
    intro n
    unfold setRepeatCount
    split <;> exact ⟨rfl, rfl⟩
  unfold completed at *
  split
  · simp_all [Pending.zero]
  · split
    · exact ⟨rfl, rfl⟩
    split
    · simp_all [Pending.zero]
    · exact ⟨(hset _).1, (hset _).2⟩

namespace Endpoint
variable {ep : Endpoint} {i : SlotIx}

/-- The presentation gate stores this frame: it comes under a timestamp, and it is a standard request or a
    cancellation. -/
def gateStores (ep : Endpoint) (frame : Octets) (tv : Bool) : Bool :=
  tv && !ep.admissionSuspended && !(decide (frame.length ≥ 8) && !Acf.headerIsRequest (Acf.unpackHeader frame)) &&
    ep.firstFree.isSome &&
    match compoundPeekRequestType frame with
    | .error _ => true
    | .ok requestType =>
      schedClassify true requestType == .standard || schedClassify true requestType == .cancellation

/-- The requests the gate stores in this step carry transaction number 0. -/
def ZeroGated (ep : Endpoint) : StoreOp → Prop
  | .call (.admitWithAck frame _ tv _ _) =>
    ep.gateStores frame tv = true → (Acf.unpackHeader frame).transactionNum = 0
  | _ => True

/-- ... in every step of the run. -/
def ZeroGatedRun : Endpoint → List StoreOp → Prop
  | _, [] => True
  | ep, op :: ops => ep.ZeroGated op ∧ ZeroGatedRun (ep.storeStep op) ops

/-! ### What the gate stores -/

theorem admitUnderTscfGate_full (h : ep.firstFree = none) (frame : Octets) (now : UInt32) (gate : UInt64)
    (kind : SchedKind) (requestType : UInt8) :
    ep.admitUnderTscfGate frame now gate kind requestType = ({ outcome := .rejected }, ep) := by
  unfold admitUnderTscfGate claimSlot
  generalize ep.firstFree = found at h
  subst h
  rfl

theorem admitUnderTscfGate_free (h : ep.firstFree = some i) (frame : Octets) (now : UInt32) (gate : UInt64)
    (kind : SchedKind) (requestType : UInt8) :
    ep.admitUnderTscfGate frame now gate kind requestType =
      ({ outcome := .pending, index := some i, ack := buildStoreAck frame },
        ep.storeAt i (gatedSlot ep.nextSequence frame now gate kind requestType)) := by
  unfold admitUnderTscfGate claimSlot
  generalize ep.firstFree = found at h
  subst h
  simp only [claimAt_pending_self]
  rfl

/-- A slot that holds `frame` under the number 0. -/
structure Unnumbered (frame : Octets) (slot : Pending) : Prop where
  inUse : slot.inUse = true
  stored : slot.frame = frame
  number : slot.transactionNum = 0

theorem gatedSlot_unnumbered (sequence : UInt64) (frame : Octets) (now : UInt32) (gate : UInt64) (kind : SchedKind)
    (requestType : UInt8) : Unnumbered frame (gatedSlot sequence frame now gate kind requestType) := ⟨rfl, rfl, rfl⟩

/-- What the gate stores goes to the first free slot, under the number 0. -/
theorem admitWithAck_gateStores {frame : Octets} {tv : Bool} (h : ep.gateStores frame tv = true) (now : UInt32)
    (avtpTimestamp : UInt32) (gptpReferenceNow : UInt64) :
    ∃ i slot, ep.firstFree = some i ∧ Unnumbered frame slot ∧
      (ep.admitWithAck frame now tv avtpTimestamp gptpReferenceNow).2 = ep.storeAt i slot := by
  unfold gateStores at h
  simp only [Bool.and_eq_true, Bool.not_eq_true'] at h
  obtain ⟨⟨⟨⟨rfl, hsus⟩, hreq⟩, hfree⟩, hkind⟩ := h
  obtain ⟨i, hi⟩ := Option.isSome_iff_exists.mp hfree
  have hgate : ∀ gate kind requestType, ∃ i slot, ep.firstFree = some i ∧ Unnumbered frame slot ∧
      (ep.admitUnderTscfGate frame now gate kind requestType).2 = ep.storeAt i slot := by
    intro gate kind requestType
    rw [admitUnderTscfGate_free hi frame now gate kind requestType]
    exact ⟨i, _, hi, gatedSlot_unnumbered _ _ _ _ _ _, rfl⟩
  unfold admitWithAck
  rw [if_neg (by simp [hsus]), if_neg (by simpa using hreq)]
  cases hpeek : compoundPeekRequestType frame with
  | error err =>
    simp only [admitStandard, if_true]
    exact hgate _ _ _
  | ok requestType =>
    simp only [hpeek, Bool.or_eq_true, beq_iff_eq] at hkind
    rcases hkind with hkind | hkind
    · simp only [hkind, admitStandard, if_true]
      exact hgate _ _ _
    · simp only [hkind, if_true]
      exact hgate _ _ _

theorem admitStandard_ungated {frame : Octets} {now : UInt32} {tv : Bool} {gate : UInt64}
    (h : tv = true → ep.firstFree = none) : (ep.admitStandard frame now tv gate).2.pending = ep.pending := by
  unfold admitStandard
  cases tv with
  | true => rw [if_pos rfl, admitUnderTscfGate_full (h rfl)]
  | false =>
    obtain ⟨queue, hq⟩ := submit_endpoint ep frame
    rcases hsub : ep.submit frame with ⟨executeNow, ack, ep'⟩
    rw [hsub] at hq
    obtain rfl : ep' = { ep with queue := queue } := hq
    cases executeNow <;> rfl

/-- A conditional request that is stored has been decoded, and its number with it. -/
theorem admitConditional_numbered {frame : Octets} {now : UInt32} {tv : Bool} {gate : UInt64} {kind : SchedKind}
    {requestType : UInt8} (hu : ((ep.admitConditional frame now tv gate kind requestType).2.pending i).inUse = true) :
    (ep.admitConditional frame now tv gate kind requestType).2.pending i = ep.pending i ∨
    ((ep.admitConditional frame now tv gate kind requestType).2.pending i).transactionNum =
      ((ep.admitConditional frame now tv gate kind requestType).2.pending i).headerNum := by
  unfold admitConditional claimSlot at hu ⊢
  cases hfree : ep.firstFree with
  | none => exact Or.inl rfl
  | some k =>
    simp only [hfree, claimAt_pending_self] at hu ⊢
    cases hd : decodeCondition frame { Pending.claimed ep.nextSequence with kind := kind, requestType := requestType } with
    | error err =>
      simp only [hd] at hu ⊢
      rw [← burnAt, burnAt_pending] at hu ⊢
      by_cases hik : i = k
      · subst hik
        simp [Pending.zero] at hu
      · exact Or.inl (Function.update_of_ne hik _ _)
    | ok slot =>
      simp only [hd] at hu ⊢
      rw [← storeAt, storeAt_pending] at hu ⊢
      by_cases hik : i = k
      · subst hik
        rw [Function.update_self]
        exact Or.inr (decodeCondition_decoded hd).transactionNum
      · exact Or.inl (Function.update_of_ne hik _ _)

/-- An admission that is not the gate's leaves a slot alone, or numbers it. -/
theorem admitWithAck_numbered {frame : Octets} {tv : Bool} (h : ep.gateStores frame tv = false) (now : UInt32)
    (avtpTimestamp : UInt32) (gptpReferenceNow : UInt64)
    (hu : ((ep.admitWithAck frame now tv avtpTimestamp gptpReferenceNow).2.pending i).inUse = true) :
    (ep.admitWithAck frame now tv avtpTimestamp gptpReferenceNow).2.pending i = ep.pending i ∨
    ((ep.admitWithAck frame now tv avtpTimestamp gptpReferenceNow).2.pending i).transactionNum =
      ((ep.admitWithAck frame now tv avtpTimestamp gptpReferenceNow).2.pending i).headerNum := by
  unfold gateStores at h
  unfold admitWithAck at hu ⊢
  generalize (if tv then avtpExtendTimestamp avtpTimestamp gptpReferenceNow else 0) = gate at hu ⊢
  dsimp only at hu ⊢
  by_cases hsus : ep.admissionSuspended = true
  · rw [if_pos hsus]
    exact Or.inl rfl
  by_cases hreq : frame.length ≥ 8 ∧ (!Acf.headerIsRequest (Acf.unpackHeader frame)) = true
  · rw [if_neg hsus, if_pos hreq]
    exact Or.inl rfl
  -- Neither check refuses the frame, so the gate passes over it for want of a timestamp or of a free slot.
  have hfull : tv = true → (match compoundPeekRequestType frame with
      | .error _ => true
      | .ok requestType =>
        schedClassify true requestType == .standard || schedClassify true requestType == .cancellation) = true →
      ep.firstFree = none := by
    rintro rfl hkind
    rw [hkind] at h
    have hreq' : (decide (frame.length ≥ 8) && !Acf.headerIsRequest (Acf.unpackHeader frame)) = false := by
      simpa using hreq
    have hsus' : ep.admissionSuspended = false := by simpa using hsus
    rw [hreq', hsus'] at h
    simpa using h
  rw [if_neg hsus, if_neg hreq] at hu ⊢
  cases hpeek : compoundPeekRequestType frame with
  | error err =>
    rw [hpeek] at hfull
    exact Or.inl (congrFun (admitStandard_ungated fun htv => hfull htv rfl) i)
  | ok requestType =>
    simp only [hpeek] at hu hfull ⊢
    cases hkind : schedClassify true requestType with
    | standard =>
      rw [hkind] at hfull
      exact Or.inl (congrFun (admitStandard_ungated fun htv => hfull htv rfl) i)
    | cancellation =>
      rw [hkind] at hfull
      cases tv with
      | false => exact Or.inl rfl
      | true => exact Or.inl (by simp only [if_true, admitUnderTscfGate_full (hfull rfl rfl)])
    | chained | compoundWait | compound | timed | triggered =>
      simp only [hkind] at hu ⊢
      exact admitConditional_numbered hu

/-! ### Whole runs -/

/-- What a call that is no admission leaves in a slot is the request that was there, or its next repetition. -/
theorem step_inUse_cases {op : EndpointOp} (hop : op.isAdmit = false) (hu : ((ep.step op).pending i).inUse = true) :
    Pending.SameRequest (ep.pending i) ((ep.step op).pending i) ∨
    (ep.pending i).inUse = true ∧ ∃ now, (ep.step op).pending i = (ep.pending i).completed now := by
  rw [step_pending op (.inr hop)] at hu ⊢
  by_cases hcomp : op.completes i = true
  · by_cases hold : (ep.pending i).inUse = true
    · obtain ⟨ctx, -, hslot⟩ := slotAfter_completes hold hcomp
      exact Or.inr ⟨hold, ctx.now, hslot⟩
    · cases op with
      | complete index ctx =>
        rw [slotAfter, if_neg (fun h => hold h.2)]
        exact Or.inl rfl
      | _ => cases hcomp
  · rcases slotAfter_cases ep (by simpa using hcomp) with hsame | ⟨-, hzero⟩
    · exact Or.inl hsame
    · rw [hzero] at hu
      cases hu

/-- ... under its number. -/
theorem step_sameNumber {op : EndpointOp} (hop : op.isAdmit = false) (hu : ((ep.step op).pending i).inUse = true) :
    (ep.pending i).inUse = true ∧ Pending.SameNumber (ep.pending i) ((ep.step op).pending i) := by
  rcases step_inUse_cases hop hu with hsame | ⟨hold, now, hslot⟩
  · exact ⟨hsame.inUse.symm.trans hu, hsame.sameNumber⟩
  · rw [hslot] at hu ⊢
    exact ⟨hold, Pending.completed_sameNumber hu⟩

/-- Every stored request is searched by the number in its header. -/
def Numbered (ep : Endpoint) : Prop := ∀ i, (ep.pending i).inUse = true → (ep.pending i).transactionNum = (ep.pending i).headerNum

theorem Numbered.of_sameNumber {ep' : Endpoint} (h : ep.Numbered) (hu : (ep.pending i).inUse = true)
    (hs : Pending.SameNumber (ep.pending i) (ep'.pending i)) :
    (ep'.pending i).transactionNum = (ep'.pending i).headerNum := by
  rw [hs.number, h i hu, Pending.headerNum, Pending.headerNum, hs.frame]

theorem Numbered.storeStep (h : ep.Numbered) {op : StoreOp} (hop : ep.ZeroGated op) : (ep.storeStep op).Numbered := by
  intro i hu
  cases op with
  | tag k chainGroup chainPosition =>
    have hslot : (ep.pending i).inUse = true ∧
        Pending.SameNumber (ep.pending i) ((ep.storeStep (.tag k chainGroup chainPosition)).pending i) := by
      simp only [Endpoint.storeStep, setSlot_pending] at hu ⊢
      by_cases hik : i = k
      · subst hik
        rw [Function.update_self] at hu ⊢
        exact ⟨hu, rfl, rfl⟩
      · rw [Function.update_of_ne hik] at hu ⊢
        exact ⟨hu, rfl, rfl⟩
    exact h.of_sameNumber hslot.1 hslot.2
  | call op =>
    by_cases hadmit : op.isAdmit = false
    · obtain ⟨hold, hs⟩ := step_sameNumber hadmit hu
      exact h.of_sameNumber hold hs
    cases op with
    | admitWithAck frame now tv avtpTimestamp gptpReferenceNow =>
      cases hg : ep.gateStores frame tv with
      | true =>
        obtain ⟨k, slot, -, hslot, heq⟩ := admitWithAck_gateStores hg now avtpTimestamp gptpReferenceNow
        simp only [Endpoint.storeStep, step, heq, storeAt_pending] at hu ⊢
        by_cases hik : i = k
        · subst hik
          rw [Function.update_self, hslot.number, Pending.headerNum, hslot.stored]
          exact (hop hg).symm
        · rw [Function.update_of_ne hik] at hu ⊢
          exact h i hu
      | false =>
        rcases admitWithAck_numbered hg now avtpTimestamp gptpReferenceNow hu with hsame | hnum
        · simp only [Endpoint.storeStep, step] at hu ⊢
          rw [hsame] at hu ⊢
          exact h i hu
        · exact hnum
    | _ => exact absurd rfl hadmit

/-- A store that is numbered after the gate has stored a request has stored it under 0. -/
theorem Numbered.zeroGated {op : StoreOp} (h : (ep.storeStep op).Numbered) : ep.ZeroGated op := by
  cases op with
  | tag => trivial
  | call op =>
    cases op with
    | admitWithAck frame now tv avtpTimestamp gptpReferenceNow =>
      intro hg
      obtain ⟨k, slot, -, hslot, heq⟩ := admitWithAck_gateStores hg now avtpTimestamp gptpReferenceNow
      have hk := h k
      simp only [Endpoint.storeStep, step, heq, storeAt_pending, Function.update_self] at hk
      have hnum := hk hslot.inUse
      rw [hslot.number, Pending.headerNum, hslot.stored] at hnum
      exact hnum.symm
    | _ => trivial

/-- Each stored request is searched by the number in its header, and so a cancellation by number finds a request
    exactly when one carries that number, and then removes one that does and no other. -/
structure Addressed (ep : Endpoint) : Prop where
  cached : ep.Numbered
  notFound : ∀ t, (ep.cancelSingle t .queued).1 = .notFound ↔
    ∀ i, (ep.pending i).inUse = true → (ep.pending i).headerNum ≠ t
  removes : ∀ t, (ep.cancelSingle t .queued).1 ≠ .notFound → ∃ i, (ep.pending i).inUse = true ∧
    (ep.pending i).headerNum = t ∧ (ep.cancelSingle t .queued).2.pending = Function.update ep.pending i .zero

theorem cancelSingle_notFound (ep : Endpoint) (t : UInt8) :
    (ep.cancelSingle t .queued).1 = .notFound ↔ ep.findTransaction t = none := by
  unfold cancelSingle cancelAttempt cancelIsCancellable
  cases ep.findTransaction t <;> simp

theorem findTransaction_eq_none {t : UInt8} :
    ep.findTransaction t = none ↔ ∀ i, (ep.pending i).inUse = true → (ep.pending i).transactionNum ≠ t := by
  unfold findTransaction
  rw [Fin.find?_eq_none_iff]
  simp

theorem Numbered.addressed (h : ep.Numbered) : ep.Addressed where
  cached := h
  notFound t := by
    rw [cancelSingle_notFound, findTransaction_eq_none]
    constructor
    · intro hnone i hu
      rw [← h i hu]
      exact hnone i hu
    · intro hnone i hu
      rw [h i hu]
      exact hnone i hu
  removes t hfound := by
    rw [ne_eq, cancelSingle_notFound] at hfound
    obtain ⟨i, hi⟩ := Option.ne_none_iff_exists'.mp hfound
    obtain ⟨⟨hu, hnum⟩, -⟩ := findTransaction_eq_some.mp hi
    refine ⟨i, hu, (h i hu).symm.trans hnum, ?_⟩
    rw [cancelSingle_endpoint, hi]
    rfl

theorem addressed_run_iff (ops : List StoreOp) : ∀ {ep : Endpoint}, ep.Numbered →
    ((∀ pre, pre <+: ops → (ep.storeRun pre).Addressed) ↔ ep.ZeroGatedRun ops) := by
  induction ops with
  | nil =>
    intro ep h
    simp only [List.prefix_nil, forall_eq, ZeroGatedRun, iff_true]
    exact h.addressed
  | cons op ops ih =>
    intro ep h
    constructor
    · intro hall
      have hop : ep.ZeroGated op := by
        have hone := hall [op] (by simp)
        exact hone.cached.zeroGated
      refine ⟨hop, (ih (h.storeStep hop)).mp fun pre hpre => ?_⟩
      exact hall (op :: pre) (List.cons_prefix_cons.mpr ⟨rfl, hpre⟩)
    · rintro ⟨hop, hrest⟩ pre hpre
      rcases List.prefix_cons_iff.mp hpre with rfl | ⟨pre', rfl, hpre'⟩
      · exact h.addressed
      · exact (ih (h.storeStep hop)).mpr hrest pre' hpre'

/-- In every run of a store, cancellation by number addresses the request that carries the number in every state
    reached if and only if every request the presentation gate stores carries number 0. -/
theorem cancel_addresses_iff (epEnable : Bool) (ops : List StoreOp) :
    (∀ pre, pre <+: ops → ((init epEnable).storeRun pre).Addressed) ↔ (init epEnable).ZeroGatedRun ops :=
  addressed_run_iff ops fun i hu => absurd hu (by simp [init_free epEnable i])

/-- A read request with transaction number 7. -/
def standard7 : Octets := [0x1C, 0x02, 0x00, 0x01, 0x00, 0x07, 0x00, 0x00]

/-- It is stored under a presentation time, and nothing is found under its number. -/
theorem gated_not_addressed :
    ¬∀ (epEnable : Bool) (ops : List StoreOp) (t : UInt8),
      (((init epEnable).storeRun ops).cancelSingle t .queued).1 = .notFound ↔
        ∀ i, (((init epEnable).storeRun ops).pending i).inUse = true →
          (((init epEnable).storeRun ops).pending i).headerNum ≠ t := by
  intro h
  have hnone := (h true [.call (.admitWithAck standard7 0 true 1000 0)] 7).mp (by decide +kernel) 0 (by decide +kernel)
  exact hnone (by decide +kernel)

end Endpoint
end Rcp
