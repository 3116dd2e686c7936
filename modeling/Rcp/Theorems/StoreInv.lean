import Rcp.Theorems.Store

/-! The representation invariant of the conditional-request store: the count, the sequence numbers, the
    cleared slots, and what a kind says about the rest of its slot. Every call keeps it, with one proviso:
    `next_sequence` is 64 bits wide, so a run of 2^64 admissions brings old sequence numbers back. -/

namespace Rcp

/-- What the invariant says about one slot. -/
structure Pending.WellFormed (slot : Pending) : Prop where
  zero : slot.inUse = false → slot = .zero
  kind : slot.inUse = true →
    slot.kind = .standard ∧ slot.requestType = 0 ∨ slot.kind = schedClassify true slot.requestType
  gate : slot.inUse = true → slot.kind = .standard ∨ slot.kind = .cancellation → slot.hasPresentationGate = true
  evt : slot.inUse = true → slot.kind = .compoundWait → slot.compoundWaitEvt &&& 0x7 ≠ Acf.compoundWaitModeReserved

/-- The representation invariant of an endpoint's store. -/
structure Endpoint.WellFormed (ep : Endpoint) : Prop where
  count : ep.pendingCount = Lib.slotCount (fun slot : Pending => slot.inUse = true) ep.pending
  distinct : ∀ i j, (ep.pending i).inUse = true → (ep.pending j).inUse = true →
    (ep.pending i).sequence = (ep.pending j).sequence → i = j
  below : ∀ i, (ep.pending i).inUse = true → (ep.pending i).sequence < ep.nextSequence
  slots : ∀ i, (ep.pending i).WellFormed

/-! ### Slots -/

namespace Pending

/-- A change to a slot that the invariant does not see. -/
structure SameCore (a b : Pending) : Prop where
  inUse : b.inUse = a.inUse
  kind : b.kind = a.kind
  requestType : b.requestType = a.requestType
  sequence : b.sequence = a.sequence
  hasPresentationGate : b.hasPresentationGate = a.hasPresentationGate
  compoundWaitEvt : b.compoundWaitEvt = a.compoundWaitEvt
  free : a.inUse = false → b = a

variable {a b : Pending}

theorem SameCore.refl (a : Pending) : SameCore a a := ⟨rfl, rfl, rfl, rfl, rfl, rfl, fun _ => rfl⟩

theorem WellFormed.of_same (h : a.WellFormed) (hs : SameCore a b) : b.WellFormed where
  zero hb := by
    have ha : a.inUse = false := hs.inUse ▸ hb
    rw [hs.free ha, h.zero ha]
  kind hb := by
    rw [hs.kind, hs.requestType]
    exact h.kind (hs.inUse ▸ hb)
  gate hb hk := by
    rw [hs.kind] at hk
    rw [hs.hasPresentationGate]
    exact h.gate (hs.inUse ▸ hb) hk
  evt hb hk := by
    rw [hs.kind] at hk
    rw [hs.compoundWaitEvt]
    exact h.evt (hs.inUse ▸ hb) hk

theorem zero_wellFormed : Pending.zero.WellFormed where
  zero _ := rfl
  kind h := by cases h
  gate h := by cases h
  evt h := by cases h

theorem swept_same (slot : Pending) (epEnable : Bool) (ctx : TickCtx) : SameCore slot (slot.swept epEnable ctx) := by
  unfold swept
  split
  · rename_i hu
    rcases isDue_slot_cases slot epEnable ctx with h | ⟨-, -, -, h⟩
    · rw [h]
      exact .refl slot
    · rw [h]
      exact ⟨rfl, rfl, rfl, rfl, rfl, rfl, fun hf => by simp [hu] at hf⟩
  · exact .refl slot

theorem notified_same (slot : Pending) (sourceEp signalNr : UInt8) :
    SameCore slot (slot.notified sourceEp signalNr) := by
  unfold notified
  split
  · rename_i h
    exact ⟨rfl, rfl, rfl, rfl, rfl, rfl, fun hf => by simp [h.1] at hf⟩
  · exact .refl slot

theorem predecessorFinished_same (slot : Pending) (now : UInt32) : SameCore slot (slot.predecessorFinished now) := by
  unfold predecessorFinished
  split
  · rename_i h
    exact ⟨rfl, rfl, rfl, rfl, rfl, rfl, fun hf => by simp [h.1] at hf⟩
  · exact .refl slot

theorem setRepeatCount_rearm_same {slot : Pending} (hu : slot.inUse = true) (n : UInt16) (now : UInt32) :
    SameCore slot ((slot.setRepeatCount n).rearm now) := by
  unfold setRepeatCount
  split <;> exact ⟨rfl, rfl, rfl, rfl, rfl, rfl, fun hf => by simp [hu] at hf⟩

theorem completed_same {slot : Pending} {now : UInt32} (hu : slot.inUse = true)
    (hc : (slot.completed now).inUse = true) : SameCore slot (slot.completed now) := by
  unfold completed at hc ⊢
  cases hn : slot.repeatCount? with
  | none => simp [hn] at hc
  | some n =>
    simp only [hn] at hc ⊢
    by_cases hinf : n = repeatInfinite
    · rw [if_pos hinf]
      exact ⟨rfl, rfl, rfl, rfl, rfl, rfl, fun hf => by simp [hu] at hf⟩
    · by_cases hzero : n = 0
      · rw [if_neg hinf, if_pos hzero] at hc
        cases hc
      · rw [if_neg hinf, if_neg hzero]
        exact setRepeatCount_rearm_same hu _ _

end Pending

/-! ### Admitted slots -/

/-- What decoding makes of a claimed slot: it leaves what the claim and the classification set, records the
    transaction number of the frame, and accepts no reserved comparison mode. -/
structure Decoded (frame : Octets) (slot slot' : Pending) : Prop where
  inUse : slot'.inUse = slot.inUse
  kind : slot'.kind = slot.kind
  requestType : slot'.requestType = slot.requestType
  sequence : slot'.sequence = slot.sequence
  armed : slot'.armed = slot.armed
  predecessorDone : slot'.predecessorDone = slot.predecessorDone
  chainGroup : slot'.chainGroup = slot.chainGroup
  chainPosition : slot'.chainPosition = slot.chainPosition
  transactionNum : slot'.transactionNum = (Acf.unpackHeader frame).transactionNum
  notStandard : slot.kind ≠ .standard
  notCancellation : slot.kind ≠ .cancellation
  evt : slot.kind = .compoundWait → slot'.compoundWaitEvt &&& 0x7 ≠ Acf.compoundWaitModeReserved
  started : slot.kind = .triggered → slot'.triggeredRuntime.occurrenceCount = 0

theorem decodeRepurposed_info {frame : Octets} {hdr : Acf.GbbHeader} {payload : Octets}
    (h : decodeRepurposed frame = .ok (hdr, payload)) : hdr.info = Acf.unpackHeader frame := by
  unfold decodeRepurposed Acf.decodeGbb at h
  dsimp only at h
  split at h
  · cases h
  rename_i hdec
  split at h
  · cases h
  cases h
  repeat' split at hdec
  all_goals cases hdec
  rfl

theorem compoundDecodeRequest_transactionNum {frame : Octets} {r : CompoundRequest}
    (h : compoundDecodeRequest frame = .ok r) : r.transactionNum = (Acf.unpackHeader frame).transactionNum := by
  unfold compoundDecodeRequest at h
  split at h
  · cases h
  rename_i hdec
  dsimp only at h
  split at h
  · cases h
  cases h
  rw [decodeRepurposed_info hdec]

theorem triggeredDecodeRequest_transactionNum {frame : Octets} {r : TriggeredRequest}
    (h : triggeredDecodeRequest frame = .ok r) : r.transactionNum = (Acf.unpackHeader frame).transactionNum := by
  unfold triggeredDecodeRequest at h
  split at h
  · cases h
  rename_i hdec
  dsimp only at h
  split at h
  · cases h
  cases h
  rw [decodeRepurposed_info hdec]

theorem timedDecodeRequest_transactionNum {frame : Octets} {r : TimedRequest}
    (h : timedDecodeRequest frame = .ok r) : r.transactionNum = (Acf.unpackHeader frame).transactionNum := by
  unfold timedDecodeRequest at h
  split at h
  · cases h
  rename_i hdec
  repeat' split at h
  all_goals cases h
  rw [decodeRepurposed_info hdec]

theorem chainedDecodeMember_transactionNum {frame : Octets} {r : ChainedMember}
    (h : chainedDecodeMember frame = .ok r) : r.transactionNum = (Acf.unpackHeader frame).transactionNum := by
  unfold chainedDecodeMember at h
  split at h
  · cases h
  rename_i hdec
  repeat' split at h
  all_goals cases h
  rw [decodeRepurposed_info hdec]

theorem decodeCondition_decoded {frame : Octets} {slot slot' : Pending} (h : decodeCondition frame slot = .ok slot') :
    Decoded frame slot slot' := by
  unfold decodeCondition at h
  cases hk : slot.kind <;> simp only [hk] at h
  case standard => cases h
  case cancellation => cases h
  case chained =>
    split at h
    · cases h
    rename_i hdec
    cases h
    constructor <;> simp [hk, chainedDecodeMember_transactionNum hdec]
  case compound =>
    split at h
    · cases h
    rename_i hdec
    cases h
    constructor <;> simp [hk, compoundDecodeRequest_transactionNum hdec]
  case compoundWait =>
    split at h
    · cases h
    rename_i hdec
    split at h
    · cases h
    rename_i hevt
    cases h
    constructor <;> simp [hk, compoundDecodeRequest_transactionNum hdec]
    simpa [Acf.compoundWaitEvtValid] using hevt
  case timed =>
    split at h
    · cases h
    rename_i hdec
    cases h
    constructor <;> simp [hk, timedDecodeRequest_transactionNum hdec]
  case triggered =>
    split at h
    · cases h
    rename_i hdec
    cases h
    constructor <;> simp [hk, triggeredDecodeRequest_transactionNum hdec, triggeredRuntimeEnterStarted]

namespace Endpoint
variable {ep ep' : Endpoint} {i : SlotIx}

theorem gatedSlot_wellFormed {sequence : UInt64} {frame : Octets} {now : UInt32} {gate : UInt64} {kind : SchedKind}
    {requestType : UInt8}
    (hk : kind = .standard ∧ requestType = 0 ∨ kind = .cancellation ∧ schedClassify true requestType = kind) :
    (gatedSlot sequence frame now gate kind requestType).WellFormed where
  zero h := by cases h
  kind _ := hk.imp_right fun h => h.2.symm
  gate _ _ := rfl
  evt _ hw := by
    rcases hk with ⟨hk, -⟩ | ⟨hk, -⟩ <;> rw [hk] at hw <;> cases hw

theorem conditionalSlot_wellFormed {sequence : UInt64} {slot : Pending} {frame : Octets} {now : UInt32} {tv : Bool}
    {gate : UInt64} {kind : SchedKind} {requestType : UInt8} (hk : schedClassify true requestType = kind)
    (hd : decodeCondition frame { Pending.claimed sequence with kind := kind, requestType := requestType } = .ok slot) :
    (conditionalSlot slot frame now tv gate).WellFormed := by
  have hdec := decodeCondition_decoded hd
  refine ⟨fun hf => ?_, fun _ => Or.inr ?_, fun _ hsc => ?_, fun _ hw => ?_⟩
  · exact absurd (hdec.inUse.symm.trans hf) (by simp [Pending.claimed])
  · rw [show (conditionalSlot slot frame now tv gate).requestType = requestType from hdec.requestType, hk]
    exact hdec.kind
  · rcases hsc with h | h
    · exact absurd (hdec.kind.symm.trans h) hdec.notStandard
    · exact absurd (hdec.kind.symm.trans h) hdec.notCancellation
  · exact hdec.evt (hdec.kind.symm.trans hw)

/-! ### Steps -/

namespace WellFormed

theorem init (epEnable : Bool) : (Endpoint.init epEnable).WellFormed where
  count := by simp [Endpoint.init, Lib.slotCount]
  distinct i j h := by cases h
  below i h := by cases h
  slots _ := Pending.zero_wellFormed

/-- The invariant reads nothing but the store, its count and the sequence counter. -/
theorem of_same (h : ep.WellFormed) (hs : ∀ i, Pending.SameCore (ep.pending i) (ep'.pending i))
    (hc : ep'.pendingCount = ep.pendingCount) (hn : ep'.nextSequence = ep.nextSequence) : ep'.WellFormed where
  count := by
    rw [hc, h.count]
    exact Lib.slotCount_congr fun i => by rw [(hs i).inUse]
  distinct i j hi hj hij := by
    rw [(hs i).inUse] at hi
    rw [(hs j).inUse] at hj
    rw [(hs i).sequence, (hs j).sequence] at hij
    exact h.distinct i j hi hj hij
  below i hi := by
    rw [(hs i).sequence, hn]
    exact h.below i ((hs i).inUse ▸ hi)
  slots i := (h.slots i).of_same (hs i)

theorem release (h : ep.WellFormed) (hu : (ep.pending i).inUse = true) : (ep.releaseSlot i).WellFormed := by
  have hback : ∀ j, ((ep.releaseSlot i).pending j).inUse = true →
      (ep.releaseSlot i).pending j = ep.pending j := by
    intro j hj
    by_cases hji : j = i
    · subst hji
      simp at hj
    · simp [hji]
  refine ⟨?_, fun j k hj hk hjk => ?_, fun j hj => ?_, fun j => ?_⟩
  · have hcount := Lib.slotCount_update_clear (q := fun slot : Pending => slot.inUse = true) (t := ep.pending) (i := i)
      (a := .zero) hu (by simp)
    have := h.count
    simp only [releaseSlot]
    omega
  · rw [hback j hj, hback k hk] at hjk
    exact h.distinct j k (hback j hj ▸ hj) (hback k hk ▸ hk) hjk
  · rw [hback j hj]
    exact h.below j (hback j hj ▸ hj)
  · by_cases hji : j = i
    · subst hji
      simpa using Pending.zero_wellFormed
    · simpa [hji] using h.slots j

theorem lt_next {n : UInt64} (hn : n.toNat + 1 < 2 ^ 64) : n < n + 1 := by
  rw [UInt64.lt_iff_toNat_lt, UInt64.toNat_add]
  simp only [UInt64.reduceToNat]
  omega

theorem store (h : ep.WellFormed) (hi : ep.firstFree = some i) (hn : ep.nextSequence.toNat + 1 < 2 ^ 64)
    {slot : Pending} (hslot : slot.WellFormed) (hu : slot.inUse = true) (hseq : slot.sequence = ep.nextSequence) :
    (ep.storeAt i slot).WellFormed := by
  have hfree := firstFree_free hi
  refine ⟨?_, fun j k hj hk hjk => ?_, fun j hj => ?_, fun j => ?_⟩
  · have hcount := Lib.slotCount_update_fill (q := fun slot : Pending => slot.inUse = true) (t := ep.pending) (i := i)
      (a := slot) (by simp [hfree]) hu
    rw [storeAt_pending, storeAt_pendingCount, hcount, h.count]
  · rw [storeAt_pending] at hj hk hjk
    by_cases hji : j = i <;> by_cases hki : k = i
    · rw [hji, hki]
    · -- The new sequence number is above every old one.
      subst hji
      rw [Function.update_of_ne hki] at hk hjk
      have := h.below k hk
      rw [Function.update_self, hseq] at hjk
      exact absurd (hjk ▸ this) (UInt64.lt_irrefl _)
    · subst hki
      rw [Function.update_of_ne hji] at hj hjk
      have := h.below j hj
      rw [Function.update_self, hseq] at hjk
      exact absurd (hjk ▸ this) (UInt64.lt_irrefl _)
    · rw [Function.update_of_ne hji] at hj hjk
      rw [Function.update_of_ne hki] at hk hjk
      exact h.distinct j k hj hk hjk
  · rw [storeAt_pending] at hj ⊢
    rw [storeAt_nextSequence]
    by_cases hji : j = i
    · subst hji
      rw [Function.update_self, hseq]
      exact lt_next hn
    · rw [Function.update_of_ne hji] at hj ⊢
      exact UInt64.lt_trans (h.below j hj) (lt_next hn)
  · rw [storeAt_pending]
    by_cases hji : j = i
    · subst hji
      rwa [Function.update_self]
    · rw [Function.update_of_ne hji]
      exact h.slots j

theorem burnAt_eq (h : ep.WellFormed) (hi : ep.firstFree = some i) :
    (ep.burnAt i).pending = ep.pending := by
  rw [burnAt_pending, Function.update_eq_self_iff, (h.slots i).zero (firstFree_free hi)]

theorem burn (h : ep.WellFormed) (hi : ep.firstFree = some i) (hn : ep.nextSequence.toNat + 1 < 2 ^ 64) :
    (ep.burnAt i).WellFormed := by
  have hp := h.burnAt_eq hi
  refine ⟨by rw [hp]; exact h.count, by rw [hp]; exact h.distinct, fun j hj => ?_, by rw [hp]; exact h.slots⟩
  rw [hp] at hj ⊢
  exact UInt64.lt_trans (h.below j hj) (lt_next hn)

theorem purge (h : ep.WellFormed) (drop : Pending → Bool) : (ep.releaseWhere drop).2.WellFormed :=
  releaseWhere_induction drop h fun _ _ h hu => h.release hu

theorem admits {frame : Octets} {now : UInt32} {tv : Bool} {gate : UInt64} {r : AdmitResult} (h : ep.WellFormed)
    (hn : ep.nextSequence.toNat + 1 < 2 ^ 64) (ha : Admits ep frame now tv gate r ep') : ep'.WellFormed := by
  cases ha with
  | refused hr hindex => exact h
  | submitted htv hr =>
    obtain ⟨queue, hq⟩ := submit_endpoint ep frame
    rw [hq]
    exact h.of_same (fun _ => .refl _) rfl rfl
  | burned hi hr hd => exact h.burn hi hn
  | gated hi htv hk hr => exact h.store hi hn (gatedSlot_wellFormed hk) rfl rfl
  | stored hi hk hd hr =>
    have hdec := decodeCondition_decoded hd
    exact h.store hi hn (conditionalSlot_wellFormed hk hd) hdec.inUse hdec.sequence

/-- Every call keeps the invariant; an admission needs a sequence number that has not been used yet. -/
theorem step (h : ep.WellFormed) (op : EndpointOp)
    (hn : op.isAdmit = true → ep.nextSequence.toNat + 1 < 2 ^ 64) : (ep.step op).WellFormed := by
  cases op with
  | admitWithAck frame now tv avtpTimestamp gptpReferenceNow =>
    exact h.admits (hn rfl) (admitWithAck_admits ep frame now tv avtpTimestamp gptpReferenceNow)
  | submit frame =>
    obtain ⟨queue, hq⟩ := submit_endpoint ep frame
    simp only [Endpoint.step, hq]
    exact h.of_same (fun _ => .refl _) rfl rfl
  | setEnable enable => exact h.of_same (fun _ => .refl _) rfl rfl
  | setAdmissionSuspended suspended => exact h.of_same (fun _ => .refl _) rfl rfl
  | drainOne =>
    obtain ⟨queue, hq⟩ := drainOne_endpoint ep
    simp only [Endpoint.step, hq]
    exact h.of_same (fun _ => .refl _) rfl rfl
  | selectDue ctx =>
    simp only [Endpoint.step, selectDue_endpoint]
    exact h.of_same (fun i => Pending.swept_same _ _ _) rfl rfl
  | complete index ctx =>
    simp only [Endpoint.step]
    by_cases hf : ∀ k : SlotIx, k.val = index → (ep.pending k).inUse = false
    · rwa [complete_of_free ctx hf]
    · simp only [not_forall, Bool.not_eq_false] at hf
      obtain ⟨k, rfl, hu⟩ := hf
      rw [complete_endpoint ctx hu]
      split
      · rename_i hc
        refine h.of_same (fun j => ?_) rfl rfl
        by_cases hjk : j = k
        · subst hjk
          simpa using Pending.completed_same hu hc
        · simpa [hjk] using Pending.SameCore.refl _
      · exact h.release hu
  | notifyTrigger sourceEp signalNr =>
    simp only [Endpoint.step, notifyTrigger_endpoint]
    exact h.of_same (fun i => Pending.notified_same _ _ _) rfl rfl
  | chainPredecessorDone index now =>
    simp only [Endpoint.step, chainPredecessorDone_endpoint]
    refine h.of_same (fun i => ?_) rfl rfl
    dsimp only [withPending_pending]
    split
    · exact Pending.predecessorFinished_same _ _
    · exact .refl _
  | cancelAll => exact h.purge _
  | cancelSingle clearTransactionNum state =>
    simp only [Endpoint.step, cancelSingle_endpoint]
    cases hfind : ep.findTransaction clearTransactionNum with
    | none => exact h
    | some k =>
      dsimp only
      split
      · exact h.release (findTransaction_eq_some.mp hfind).1.1
      · exact h
  | cancelNonSafestate => exact h.purge _
  | watchdogPurge => exact h.purge _
  | cancelChainFrom chainGroup minPosition =>
    simp only [Endpoint.step, cancelChainFrom]
    split
    · exact h
    · exact h.purge _

end WellFormed

/-! ### Runs -/

theorem releaseWhere_nextSequence (drop : Pending → Bool) : (ep.releaseWhere drop).2.nextSequence = ep.nextSequence :=
  releaseWhere_induction (Q := fun ep' => ep'.nextSequence = ep.nextSequence) drop rfl fun _ _ h _ => h

theorem admits_nextSequence {frame : Octets} {now : UInt32} {tv : Bool} {gate : UInt64} {r : AdmitResult}
    (ha : Admits ep frame now tv gate r ep') :
    ep'.nextSequence = ep.nextSequence ∨ ep'.nextSequence = ep.nextSequence + 1 := by
  cases ha with
  | refused hr hindex => exact Or.inl rfl
  | submitted htv hr =>
    obtain ⟨queue, hq⟩ := submit_endpoint ep frame
    exact Or.inl (by rw [hq])
  | burned hi hr hd => exact Or.inr rfl
  | gated hi htv hk hr => exact Or.inr rfl
  | stored hi hk hd hr => exact Or.inr rfl

/-- Only an admission uses up a sequence number. -/
theorem step_nextSequence (ep : Endpoint) (op : EndpointOp) :
    (ep.step op).nextSequence = ep.nextSequence ∨
    (op.isAdmit = true ∧ (ep.step op).nextSequence = ep.nextSequence + 1) := by
  cases op with
  | admitWithAck frame now tv avtpTimestamp gptpReferenceNow =>
    exact (admits_nextSequence (admitWithAck_admits ep frame now tv avtpTimestamp gptpReferenceNow)).imp_right
      fun h => ⟨rfl, h⟩
  | submit frame =>
    obtain ⟨queue, hq⟩ := submit_endpoint ep frame
    exact Or.inl (by simp [Endpoint.step, hq])
  | setEnable enable => exact Or.inl rfl
  | setAdmissionSuspended suspended => exact Or.inl rfl
  | drainOne =>
    obtain ⟨queue, hq⟩ := drainOne_endpoint ep
    exact Or.inl (by simp [Endpoint.step, hq])
  | selectDue ctx => exact Or.inl (by simp [Endpoint.step, selectDue_endpoint])
  | complete index ctx =>
    left
    simp only [Endpoint.step]
    by_cases hf : ∀ k : SlotIx, k.val = index → (ep.pending k).inUse = false
    · rw [complete_of_free ctx hf]
    · simp only [not_forall, Bool.not_eq_false] at hf
      obtain ⟨k, rfl, hu⟩ := hf
      rw [complete_endpoint ctx hu]
      split <;> rfl
  | notifyTrigger sourceEp signalNr => exact Or.inl (by simp [Endpoint.step, notifyTrigger_endpoint])
  | chainPredecessorDone index now => exact Or.inl (by simp [Endpoint.step, chainPredecessorDone_endpoint])
  | cancelAll => exact Or.inl (releaseWhere_nextSequence _)
  | cancelSingle clearTransactionNum state =>
    left
    simp only [Endpoint.step, cancelSingle_endpoint]
    cases ep.findTransaction clearTransactionNum with
    | none => rfl
    | some k =>
      dsimp only
      split <;> rfl
  | cancelNonSafestate =>
    left
    simp only [Endpoint.step, cancelNonSafestate, purgeNonSafety, releaseWhere_nextSequence]
  | watchdogPurge =>
    left
    simp only [Endpoint.step, watchdogPurge, purgeNonSafety, releaseWhere_nextSequence]
  | cancelChainFrom chainGroup minPosition =>
    left
    simp only [Endpoint.step, cancelChainFrom]
    split
    · rfl
    · exact releaseWhere_nextSequence _

theorem toNat_next_le {n : UInt64} : (n + 1).toNat ≤ n.toNat + 1 := by
  rw [UInt64.toNat_add]
  exact Nat.mod_le _ _

/-- A run keeps the invariant as long as its admissions do not use up the sequence numbers. -/
theorem WellFormed.run (h : ep.WellFormed) (ops : List EndpointOp)
    (hn : ep.nextSequence.toNat + ops.countP EndpointOp.isAdmit < 2 ^ 64) : (ep.run ops).WellFormed := by
  induction ops generalizing ep with
  | nil => exact h
  | cons op ops ih =>
    rw [List.countP_cons] at hn
    refine ih (h.step op fun hop => ?_) ?_
    · rw [if_pos hop] at hn
      omega
    · rcases step_nextSequence ep op with hnext | ⟨hop, hnext⟩
      · rw [hnext]
        omega
      · rw [hnext]
        rw [if_pos hop] at hn
        have := toNat_next_le (n := ep.nextSequence)
        omega

/-- From a fresh endpoint, every run with fewer than 2^64 admissions reaches only well-formed stores. -/
theorem run_init_wellFormed (epEnable : Bool) (ops : List EndpointOp)
    (hn : ops.countP EndpointOp.isAdmit < 2 ^ 64) : ((Endpoint.init epEnable).run ops).WellFormed := by
  refine (WellFormed.init epEnable).run ops ?_
  have hzero : (Endpoint.init epEnable).nextSequence.toNat = 0 := rfl
  rw [hzero, Nat.zero_add]
  exact hn

/-! ### The sequence counter wraps -/

/-- A compound-wait request with the reserved comparison mode: its slot is claimed and released again. -/
def reservedWaitFrame : Octets := [0x1A, 0x04, 0x00, 0x01, 0x30, 0x00, 0x80, 0x00, 0x0B, 0, 0, 0, 0, 0, 0, 0]

/-- A timed request for presentation time 0. -/
def timedFrame : Octets := [0x1A, 0x04, 0x00, 0x01, 0x00, 0x07, 0x80, 0x00, 0x0A, 0, 0, 0, 0, 0, 0, 0]

def admitReservedWait : EndpointOp := .admitWithAck reservedWaitFrame 0 false 0 0
def admitTimed : EndpointOp := .admitWithAck timedFrame 0 false 0 0

theorem run_init_wellFormed_timed :
    [admitTimed].countP EndpointOp.isAdmit < 2 ^ 64 ∧ ((Endpoint.init true).run [admitTimed]).WellFormed :=
  ⟨by decide, run_init_wellFormed true [admitTimed] (by decide)⟩

theorem decodeCondition_reservedWait (sequence : UInt64) :
    decodeCondition reservedWaitFrame
      { Pending.claimed sequence with kind := .compoundWait, requestType := RequestType.compoundWait } =
      .error .unsupportedCmd := rfl

theorem step_admitReservedWait (hs : ep.admissionSuspended = false) (hi : ep.firstFree = some i) :
    ep.step admitReservedWait = ep.burnAt i := by
  have hreq : ¬(reservedWaitFrame.length ≥ 8 ∧ (!Acf.headerIsRequest (Acf.unpackHeader reservedWaitFrame)) = true) := by
    decide
  have hpeek : compoundPeekRequestType reservedWaitFrame = .ok RequestType.compoundWait := rfl
  have hkind : schedClassify true RequestType.compoundWait = .compoundWait := by decide
  change (ep.admitWithAck reservedWaitFrame 0 false 0 0).2 = ep.burnAt i
  unfold admitWithAck
  rw [hs, hpeek]
  simp only [Bool.false_eq_true, if_false, if_neg hreq, hkind]
  unfold admitConditional claimSlot
  rw [hi]
  simp only [claimAt_pending_self, decodeCondition_reservedWait]
  rfl

theorem burnAt_of_zero (hz : ep.pending i = .zero) :
    ep.burnAt i = { ep with nextSequence := ep.nextSequence + 1 } := by
  have hp : (ep.burnAt i).pending = ep.pending := by rw [burnAt_pending, ← hz, Function.update_eq_self]
  rw [show ep.burnAt i = { ep with pending := (ep.burnAt i).pending, nextSequence := ep.nextSequence + 1 } from rfl, hp]

/-- `n` such admissions leave the store as it is and move the sequence counter on by `n`. -/
theorem run_admitReservedWait (hs : ep.admissionSuspended = false) (hi : ep.firstFree = some i)
    (hz : ep.pending i = .zero) (n : Nat) :
    ep.run (List.replicate n admitReservedWait) = { ep with nextSequence := ep.nextSequence + UInt64.ofNat n } := by
  induction n generalizing ep with
  | zero => simp
  | succ n ih =>
    rw [List.replicate_succ, run_cons, step_admitReservedWait hs hi, burnAt_of_zero hz,
      @ih { ep with nextSequence := ep.nextSequence + 1 } hs hi hz]
    simp [UInt64.add_assoc, UInt64.add_comm]

/-- One stored request and 2^64 - 1 rejected ones: the counter is back at 0 under the request that has 0. -/
def wrapOps : List EndpointOp := admitTimed :: List.replicate (2 ^ 64 - 1) admitReservedWait

theorem run_wrapOps :
    (Endpoint.init true).run wrapOps = { (Endpoint.init true).step admitTimed with nextSequence := 0 } := by
  have hs : ((Endpoint.init true).step admitTimed).admissionSuspended = false := by decide
  have hi : ((Endpoint.init true).step admitTimed).firstFree = some 1 := by decide
  have hz : ((Endpoint.init true).step admitTimed).pending 1 = .zero := by decide
  have hnext : ((Endpoint.init true).step admitTimed).nextSequence = 1 := by decide
  have hsum : (1 : UInt64) + UInt64.ofNat (2 ^ 64 - 1) = 0 := by decide
  rw [wrapOps, run_cons, run_admitReservedWait hs hi hz, hnext, hsum]

/-- After 2^64 admissions a stored sequence number is no longer below the counter. -/
theorem wrapOps_not_wellFormed : ¬∀ epEnable ops, ((Endpoint.init epEnable).run ops).WellFormed := by
  intro h
  have hrun := h true wrapOps
  rw [run_wrapOps] at hrun
  exact absurd (hrun.below 0 (by decide)) (by decide)

end Endpoint
end Rcp
