import Rcp.Theorems.Cleared
import Rcp.Theorems.Numbers
import Rcp.Theorems.Responses
import Rcp.Theorems.Unadmission

/-! A cancellation that waits for its presentation time in the store it is going to sweep, against the same
    cancellation applied at once. -/

namespace Rcp

namespace Endpoint
variable {ep : Endpoint} {i j : SlotIx} {D D' : SlotIx → Bool}

/-! ### What a cancellation takes out -/

/-- `j` is at or behind the position of `k` in the chain of `k`. -/
def behind (ep : Endpoint) (k j : SlotIx) : Bool :=
  decide ((ep.pending k).chainGroup ≠ 0) && (ep.pending j).chainGroup == (ep.pending k).chainGroup &&
    cancelChainShouldCascade (ep.pending j).chainPosition (ep.pending k).chainPosition

/-- What a clear-single of number `t` takes out: the request it finds, and its chained successors. -/
def singleSet (ep : Endpoint) (t : UInt8) (j : SlotIx) : Bool :=
  match ep.findTransaction t with
  | none => false
  | some k => j == k || ep.behind k j

/-- The slots a cancellation takes out of the store it is applied to. -/
def cancelSet (ep : Endpoint) (requestType : UInt8) (request : Octets) (j : SlotIx) : Bool :=
  if requestType = RequestType.clearAll then true else
  if requestType = RequestType.clearNonSafestate then !e2eWatchdogPurgeShouldKeep (ep.pending j).requestType else
  if requestType = RequestType.clearSingle then
    match cancelDecodeClearSingle request with
    | .error _ => false
    | .ok (_, targetTn, _) => ep.singleSet targetTn j
  else false

theorem cancelSingle_queued (ep : Endpoint) (t : UInt8) :
    ep.cancelSingle t .queued =
      match ep.findTransaction t with
      | none => (.notFound, ep)
      | some k => (.canceled, ep.releaseSlot k) := by
  unfold cancelSingle cancelAttempt cancelIsCancellable
  cases ep.findTransaction t <;> rfl

theorem applyClearSingle_eq (ep : Endpoint) (byteBusId : ByteBusId) (t tn : UInt8) :
    MockServer.applyClearSingle ep byteBusId t tn =
      (if ep.findTransaction t = none then Acf.buildErrorResponse byteBusId tn .requestNotFound else none,
        ep.cleared (ep.singleSet t)) := by
  unfold MockServer.applyClearSingle singleSet
  rw [cancelSingle_queued]
  cases hfind : ep.findTransaction t with
  | none => simp [cleared_none]
  | some k =>
    obtain ⟨⟨hu, -⟩, -⟩ := findTransaction_eq_some.mp hfind
    simp only [Option.map_some, Option.getD_some, reduceCtorEq, if_false, Prod.mk.injEq, true_and]
    unfold cancelChainFrom
    by_cases hgroup : (ep.pending k).chainGroup = 0
    · rw [if_pos hgroup, releaseSlot_eq_cleared hu]
      refine cleared_congr fun j _ => ?_
      simp [behind, hgroup]
    · rw [if_neg hgroup, releaseWhere_eq_cleared, releaseSlot_eq_cleared hu, cleared_cleared]
      refine cleared_congr fun j hj => ?_
      by_cases hjk : j = k
      · simp [hjk]
      · have hslot : (ep.cleared fun j => j == k).pending j = ep.pending j :=
          cleared_kept (by rw [cleared_inUse, hj, beq_eq_false_iff_ne.mpr hjk]; rfl)
        simp only [hslot, behind, hgroup, ne_eq, not_false_eq_true, decide_true, Bool.true_and]

theorem applyCancellation_eq (ep : Endpoint) (requestType : UInt8) (request : Octets) (byteBusId : ByteBusId) :
    (MockServer.applyCancellation ep requestType request byteBusId).2 = ep.cleared (ep.cancelSet requestType request) := by
  unfold MockServer.applyCancellation cancelSet
  by_cases hall : requestType = RequestType.clearAll
  · simp only [if_pos hall, cancelAll, releaseWhere_eq_cleared]
  by_cases hnon : requestType = RequestType.clearNonSafestate
  · simp only [if_neg hall, if_pos hnon, cancelNonSafestate, purgeNonSafety, releaseWhere_eq_cleared]
  by_cases hsingle : requestType = RequestType.clearSingle
  · simp only [if_neg hall, if_neg hnon, if_pos hsingle]
    cases cancelDecodeClearSingle request with
    | error err => exact ep.cleared_none.symm
    | ok r =>
      obtain ⟨bus, t, tn⟩ := r
      exact congrArg Prod.snd (applyClearSingle_eq ep byteBusId t tn)
  · simp only [if_neg hall, if_neg hnon, if_neg hsingle]
    exact ep.cleared_none.symm

/-- A clear-single that decodes and finds nothing is the only cancellation with a response. -/
theorem applyCancellation_response (ep : Endpoint) (requestType : UInt8) (request : Octets) (byteBusId : ByteBusId) :
    (MockServer.applyCancellation ep requestType request byteBusId).1 =
      if requestType = RequestType.clearSingle then
        match cancelDecodeClearSingle request with
        | .error _ => none
        | .ok (_, t, tn) =>
          if ep.findTransaction t = none then Acf.buildErrorResponse byteBusId tn .requestNotFound else none
      else none := by
  unfold MockServer.applyCancellation
  by_cases hall : requestType = RequestType.clearAll
  · simp [hall, RequestType.clearAll, RequestType.clearSingle]
  by_cases hnon : requestType = RequestType.clearNonSafestate
  · simp [hnon, RequestType.clearAll, RequestType.clearNonSafestate, RequestType.clearSingle]
  by_cases hsingle : requestType = RequestType.clearSingle
  · simp only [if_neg hall, if_neg hnon, if_pos hsingle]
    cases cancelDecodeClearSingle request with
    | error err => rfl
    | ok r =>
      obtain ⟨bus, t, tn⟩ := r
      exact congrArg Prod.fst (applyClearSingle_eq ep byteBusId t tn)
  · simp only [if_neg hall, if_neg hnon, if_neg hsingle]

/-! ### A cancellation in the store it sweeps -/

theorem complete_cancellation (ctx : TickCtx) (hk : (ep.pending i).inUse = true → (ep.pending i).kind = .cancellation) :
    (ep.complete i ctx).2.1 = ep.cleared fun j => j == i := by
  cases hu : (ep.pending i).inUse with
  | true =>
    have hdone : (ep.pending i).completed ctx.now = .zero := by
      simp [Pending.completed, Pending.repeatCount?, hk hu]
    rw [complete_endpoint ctx hu, hdone, releaseSlot_eq_cleared hu]
    rfl
  | false =>
    rw [complete_of_free ctx fun k hki => by rw [Fin.ext hki, hu]]
    refine (ep.cleared_none.symm.trans (cleared_congr fun j hj => ?_))
    have hji : j ≠ i := by
      rintro rfl
      rw [hu] at hj
      cases hj
    exact (beq_eq_false_iff_ne.mpr hji).symm

theorem cleared_other (hu : (ep.pending j).inUse = true) (hji : j ≠ i) :
    (ep.cleared fun k => k == i).pending j = ep.pending j :=
  cleared_kept (by rw [cleared_inUse, hu, beq_eq_false_iff_ne.mpr hji]; rfl)

theorem cleared_inUse_iff : ((ep.cleared fun k => k == i).pending j).inUse = true ↔
    (ep.pending j).inUse = true ∧ j ≠ i := by
  rw [cleared_inUse]
  simp

theorem findTransaction_cleared_none {t : UInt8} (h : ep.findTransaction t = none) (i : SlotIx) :
    (ep.cleared fun k => k == i).findTransaction t = none := by
  rw [findTransaction_eq_none] at h ⊢
  intro j hj
  obtain ⟨hu, hji⟩ := cleared_inUse_iff.mp hj
  rw [cleared_other hu hji]
  exact h j hu

theorem findTransaction_cleared_some {t : UInt8} {k : SlotIx} (h : ep.findTransaction t = some k) (hki : k ≠ i) :
    (ep.cleared fun k => k == i).findTransaction t = some k := by
  obtain ⟨⟨hu, hnum⟩, hfirst⟩ := findTransaction_eq_some.mp h
  refine findTransaction_eq_some.mpr ⟨⟨cleared_inUse_iff.mpr ⟨hu, hki⟩, ?_⟩, fun j hjk hj => ?_⟩
  · rw [cleared_other hu hki, hnum]
  · obtain ⟨huj, hji⟩ := cleared_inUse_iff.mp hj
    rw [cleared_other huj hji]
    exact hfirst j hjk huj

theorem behind_cleared {k : SlotIx} (hk : (ep.pending k).inUse = true) (hki : k ≠ i) (hj : (ep.pending j).inUse = true)
    (hji : j ≠ i) : (ep.cleared fun k => k == i).behind k j = ep.behind k j := by
  simp only [behind, cleared_other hk hki, cleared_other hj hji]

theorem behind_trans {k : SlotIx} (hik : ep.behind i k = true) (hkj : ep.behind k j = true) : ep.behind i j = true := by
  simp only [behind, cancelChainShouldCascade, Bool.and_eq_true, decide_eq_true_eq, beq_iff_eq] at *
  obtain ⟨⟨hne, hgroup⟩, hpos⟩ := hik
  obtain ⟨⟨-, hgroup'⟩, hpos'⟩ := hkj
  exact ⟨⟨hne, hgroup'.trans hgroup⟩, UInt8.le_trans hpos hpos'⟩

/-- When the clear-single of number `t` in slot `i` does the same as one that is not in the store; `suppressed`
    says whether an error response of the immediate one would be suppressed.

    The search may find the clear-single itself. Then the two agree only where the request it should have found is
    one of its own chained successors, or where there is none and nothing is answered anyway. -/
def SelfSafe (ep : Endpoint) (i : SlotIx) (t : UInt8) (suppressed : Bool) : Prop :=
  if ep.findTransaction t = some i then
    match (ep.releaseSlot i).findTransaction t with
    | none => suppressed = true ∧ ∀ j, (ep.pending j).inUse = true → j ≠ i → ep.behind i j = false
    | some k => ep.behind i k = true ∧
        ∀ j, (ep.pending j).inUse = true → j ≠ i → ep.behind i j = true → j = k ∨ ep.behind k j = true
  else ep.findTransaction t = none → suppressed = false

/-- The answer of the clear-single, with the suppression of the immediate path. -/
def singleResponse (ep : Endpoint) (byteBusId : ByteBusId) (t tn : UInt8) (suppressed : Bool) : Option Octets :=
  if ep.findTransaction t = none ∧ suppressed = false then Acf.buildErrorResponse byteBusId tn .requestNotFound else none

theorem singleResponse_eq_iff {ep' : Endpoint} {byteBusId : ByteBusId} {t tn : UInt8} {suppressed suppressed' : Bool} :
    ep.singleResponse byteBusId t tn suppressed = ep'.singleResponse byteBusId t tn suppressed' ↔
      ((ep.findTransaction t = none ∧ suppressed = false) ↔ (ep'.findTransaction t = none ∧ suppressed' = false)) := by
  obtain ⟨response, hresponse, -⟩ := Acf.buildErrorResponse_responds byteBusId tn .requestNotFound
  unfold singleResponse
  rw [hresponse]
  by_cases h : ep.findTransaction t = none ∧ suppressed = false <;>
    by_cases h' : ep'.findTransaction t = none ∧ suppressed' = false <;> simp [h, h']

theorem selfSafe_iff (hi : (ep.pending i).inUse = true) (byteBusId : ByteBusId) (t tn : UInt8) (suppressed : Bool) :
    ((∀ j, (ep.pending j).inUse = true → j ≠ i → ep.singleSet t j = (ep.cleared fun k => k == i).singleSet t j) ∧
      ep.singleResponse byteBusId t tn false =
        (ep.cleared fun k => k == i).singleResponse byteBusId t tn suppressed) ↔ ep.SelfSafe i t suppressed := by
  rw [singleResponse_eq_iff]
  unfold SelfSafe singleSet
  rw [releaseSlot_eq_cleared hi]
  cases hfind : ep.findTransaction t with
  | none =>
    rw [findTransaction_cleared_none hfind i]
    simp
  | some k =>
    by_cases hki : k = i
    · subst hki
      simp only [if_true]
      cases hnext : (ep.cleared fun j => j == k).findTransaction t with
      | none =>
        simp only [reduceCtorEq, false_and, false_iff, true_and, Bool.not_eq_false, and_comm (a := suppressed = true)]
        refine and_congr_left fun _ => forall_congr' fun j => ?_
        refine imp_congr_right fun _ => imp_congr_right fun hjk => ?_
        rw [beq_eq_false_iff_ne.mpr hjk, Bool.false_or]
      | some l =>
        obtain ⟨⟨hl, -⟩, -⟩ := findTransaction_eq_some.mp hnext
        obtain ⟨hul, hlk⟩ := cleared_inUse_iff.mp hl
        simp only [reduceCtorEq, false_and, and_true]
        constructor
        · intro h
          have hkl := h l hul hlk
          rw [beq_eq_false_iff_ne.mpr hlk, Bool.false_or, beq_self_eq_true, Bool.true_or] at hkl
          refine ⟨hkl, fun j hj hjk hbehind => ?_⟩
          have hset := h j hj hjk
          rw [hbehind, Bool.or_true, behind_cleared hul hlk hj hjk] at hset
          simpa using hset.symm
        · rintro ⟨hkl, hrest⟩ j hj hjk
          rw [beq_eq_false_iff_ne.mpr hjk, Bool.false_or, behind_cleared hul hlk hj hjk]
          rw [Bool.eq_iff_iff, Bool.or_eq_true, beq_iff_eq]
          constructor
          · exact hrest j hj hjk
          · rintro (rfl | hlj)
            · exact hkl
            · exact behind_trans hkl hlj
    · rw [findTransaction_cleared_some hfind hki]
      have hne : some k ≠ some i := fun h => hki (Option.some.inj h)
      obtain ⟨⟨huk, -⟩, -⟩ := findTransaction_eq_some.mp hfind
      simp only [if_neg hne, reduceCtorEq, false_and, false_implies, iff_true, and_true, iff_self]
      intro j hj hji
      rw [behind_cleared huk hki hj hji]

/-- Nothing of this depends on the bookkeeping of the timers. -/
theorem selfSafe_congr {ep' : Endpoint} (h : ∀ j, Pending.SameRequest (ep.pending j) (ep'.pending j)) (i : SlotIx)
    (t : UInt8) (suppressed : Bool) : ep'.SelfSafe i t suppressed ↔ ep.SelfSafe i t suppressed := by
  have hfind : ∀ {a b : Endpoint}, (∀ j, Pending.SameRequest (a.pending j) (b.pending j)) →
      b.findTransaction t = a.findTransaction t := by
    intro a b hab
    unfold findTransaction
    congr 1
    funext j
    rw [hab j]
  have hbehind : ∀ k j, ep'.behind k j = ep.behind k j := by
    intro k j
    unfold behind
    rw [h k, h j]
  have hrelease : ∀ j, Pending.SameRequest ((ep.releaseSlot i).pending j) ((ep'.releaseSlot i).pending j) := by
    intro j
    by_cases hji : j = i
    · subst hji
      simp [Pending.SameRequest.refl]
    · simpa [hji] using h j
  have hinUse : ∀ j, (ep'.pending j).inUse = (ep.pending j).inUse := fun j => (h j).inUse
  unfold SelfSafe
  simp only [hfind h, hfind hrelease, hbehind, hinUse]

theorem selectDue_sameRequest (ep : Endpoint) (ctx : TickCtx) (j : SlotIx) :
    Pending.SameRequest (ep.pending j) ((ep.selectDue ctx).2.pending j) := by
  rw [selectDue_endpoint]
  exact Pending.swept_sameRequest _ _ _

/-! ### What the gate has stored -/

/-- `slot` holds a cancellation, under its own opcode. -/
structure HoldsCancellation (slot : Pending) : Prop where
  peek : compoundPeekRequestType slot.frame = .ok slot.requestType
  opcode : schedClassify true slot.requestType = .cancellation
  request : ¬(slot.frame.length ≥ 8 ∧ (!Acf.headerIsRequest (Acf.unpackHeader slot.frame)) = true)

/-- Only the gate stores cancellations, and it stores them as they came. -/
theorem admitWithAck_holdsCancellation {frame : Octets} {now : UInt32} {tv : Bool} {avtpTimestamp : UInt32}
    {gptpReferenceNow : UInt64}
    (hu : ((ep.admitWithAck frame now tv avtpTimestamp gptpReferenceNow).2.pending i).inUse = true)
    (hk : ((ep.admitWithAck frame now tv avtpTimestamp gptpReferenceNow).2.pending i).kind = .cancellation) :
    (ep.admitWithAck frame now tv avtpTimestamp gptpReferenceNow).2.pending i = ep.pending i ∨
    HoldsCancellation ((ep.admitWithAck frame now tv avtpTimestamp gptpReferenceNow).2.pending i) := by
  have hgate : ∀ {gate : UInt64} {kind : SchedKind} {requestType : UInt8},
      (ep.admitUnderTscfGate frame now gate kind requestType).2.pending i = ep.pending i ∨
      (ep.admitUnderTscfGate frame now gate kind requestType).2.pending i =
        gatedSlot ep.nextSequence frame now gate kind requestType := by
    intro gate kind requestType
    cases hfree : ep.firstFree with
    | none => exact Or.inl (by rw [admitUnderTscfGate_full hfree])
    | some k =>
      rw [admitUnderTscfGate_free hfree, storeAt_pending]
      by_cases hik : i = k
      · subst hik
        exact Or.inr (Function.update_self ..)
      · exact Or.inl (Function.update_of_ne hik _ _)
  have hstd : ∀ {gate : UInt64}, ((ep.admitStandard frame now tv gate).2.pending i).kind = .cancellation →
      (ep.admitStandard frame now tv gate).2.pending i = ep.pending i := by
    intro gate hk
    cases tv with
    | false => exact congrFun (admitStandard_ungated fun h => by cases h) i
    | true =>
      simp only [admitStandard, if_true] at hk ⊢
      rcases @hgate gate .standard 0 with h | h
      · exact h
      · rw [h] at hk
        cases hk
  have hcond : ∀ {gate : UInt64} {kind : SchedKind} {requestType : UInt8}, kind ≠ .cancellation →
      ((ep.admitConditional frame now tv gate kind requestType).2.pending i).inUse = true →
      ((ep.admitConditional frame now tv gate kind requestType).2.pending i).kind = .cancellation →
      (ep.admitConditional frame now tv gate kind requestType).2.pending i = ep.pending i := by
    intro gate kind requestType hne hu hk
    unfold admitConditional claimSlot at hu hk ⊢
    cases hfree : ep.firstFree with
    | none => rfl
    | some k =>
      simp only [hfree, claimAt_pending_self] at hu hk ⊢
      by_cases hik : i = k
      · subst hik
        split at hu
        · simp at hu
        · rename_i slot hd
          simp only [hd, setSlot_pending, Function.update_self] at hk
          exact absurd ((decodeCondition_decoded hd).kind.symm.trans hk) hne
      · split <;> simp [claimAt, hik]
  unfold admitWithAck at hu hk ⊢
  generalize (if tv then avtpExtendTimestamp avtpTimestamp gptpReferenceNow else 0) = gate at hu hk ⊢
  dsimp only at hu hk ⊢
  by_cases hsus : ep.admissionSuspended = true
  · rw [if_pos hsus]
    exact Or.inl rfl
  by_cases hreq : frame.length ≥ 8 ∧ (!Acf.headerIsRequest (Acf.unpackHeader frame)) = true
  · rw [if_neg hsus, if_pos hreq]
    exact Or.inl rfl
  rw [if_neg hsus, if_neg hreq] at hu hk ⊢
  cases hpeek : compoundPeekRequestType frame with
  | error err =>
    simp only [hpeek] at hk
    exact Or.inl (hstd hk)
  | ok requestType =>
    simp only [hpeek] at hu hk ⊢
    cases hkind : schedClassify true requestType with
    | standard =>
      simp only [hkind] at hk
      exact Or.inl (hstd hk)
    | cancellation =>
      cases tv with
      | false => exact Or.inl rfl
      | true =>
        rcases @hgate gate .cancellation requestType with h | h
        · exact Or.inl h
        · refine Or.inr ?_
          simp only [if_true, h]
          exact ⟨hpeek, hkind, hreq⟩
    | chained | compoundWait | compound | timed | triggered =>
      simp only [hkind] at hu hk
      exact Or.inl (hcond (by simp) hu hk)

/-- Every cancellation in a store a run leads to. -/
theorem Reachable.holdsCancellation (h : ep.Reachable) (hu : (ep.pending i).inUse = true)
    (hk : (ep.pending i).kind = .cancellation) : HoldsCancellation (ep.pending i) := by
  obtain ⟨epEnable, ops, rfl⟩ := h
  -- Induction over the run from its end: the last call has stored the cancellation, or found it there.
  induction ops using List.reverseRecOn with
  | nil => simp [storeRun, init_free epEnable i] at hu
  | append_singleton ops op ih =>
    rw [storeRun_concat] at hu hk ⊢
    generalize (Endpoint.init epEnable).storeRun ops = ep at ih hu hk
    cases op with
    | tag k chainGroup chainPosition =>
      simp only [Endpoint.storeStep, setSlot_pending] at hu hk ⊢
      by_cases hik : i = k
      · subst hik
        rw [Function.update_self] at hu hk ⊢
        obtain ⟨hpeek, hopcode, hrequest⟩ := ih hu hk
        exact ⟨hpeek, hopcode, hrequest⟩
      · rw [Function.update_of_ne hik] at hu hk ⊢
        exact ih hu hk
    | call op =>
      by_cases hadmit : op.isAdmit = true
      · cases op with
        | admitWithAck frame now tv avtpTimestamp gptpReferenceNow =>
          rcases admitWithAck_holdsCancellation hu hk with hsame | hholds
          · simp only [Endpoint.storeStep, Endpoint.step] at hu hk ⊢
            rw [hsame] at hu hk ⊢
            exact ih hu hk
          · exact hholds
        | _ => cases hadmit
      · -- A completed cancellation is gone, so what is left of one has not been completed.
        have hsame : Pending.SameRequest (ep.pending i) ((ep.step op).pending i) := by
          rcases step_inUse_cases (by simpa using hadmit) hu with hsame | ⟨-, now, hslot⟩
          · exact hsame
          · have hu' : ((ep.pending i).completed now).inUse = true := hslot ▸ hu
            have hkind : (ep.pending i).kind = .cancellation := by
              rw [← (Pending.completed_kept hu').kind, ← hslot]
              exact hk
            simp [Pending.completed, Pending.repeatCount?, hkind] at hu'
        have hkind : (ep.pending i).kind = .cancellation := by
          have hk' : ((ep.step op).pending i).kind = .cancellation := hk
          rw [hsame] at hk'
          exact hk'
        have hslot := ih (hsame.inUse.symm.trans hu) hkind
        simp only [Endpoint.storeStep]
        rw [hsame]
        exact ⟨hslot.peek, hslot.opcode, hslot.request⟩

end Endpoint

/-- The decoder of this cancellation opcode accepts the request. -/
def cancelAccepts (requestType : UInt8) (request : Octets) : Bool :=
  if requestType = RequestType.clearAll then (cancelDecodeClearAll request).isOk else
  if requestType = RequestType.clearNonSafestate then (compoundDecodeClearNonSafestate request).isOk else
  if requestType = RequestType.clearSingle then (cancelDecodeClearSingle request).isOk else false

namespace MockServer
variable {σ : Type} {srv : MockServer σ} {e : EndpointIx} {i : SlotIx} {env : Envelope}

/-! ### The immediate path -/

/-- A dispatch under `env` gets as far as the admission to endpoint `e`. -/
structure Delivers (srv : MockServer σ) (env : Envelope) (e : EndpointIx) : Prop where
  accepted : srv.accepts env = .accept
  found : srv.findSlotOnStream env.streamId env.byteBusId = some e
  admits : (srv.endpoints e).queue.admissionSuspended = false

theorem admitWithAck_immediate {ep : Endpoint} {slot : Pending} (hc : Endpoint.HoldsCancellation slot)
    (hs : ep.admissionSuspended = false) (now avtpTimestamp : UInt32) (gptpReferenceNow : UInt64) :
    ep.admitWithAck slot.frame now false avtpTimestamp gptpReferenceNow =
      ({ outcome := .cancellation, requestType := slot.requestType }, ep) := by
  unfold Endpoint.admitWithAck
  rw [if_neg (by simp [hs]), if_neg hc.request]
  simp [hc.peek, hc.opcode]

theorem dispatchAdmit_immediate {slot : Pending} {timing : TscfTiming} (hc : Endpoint.HoldsCancellation slot)
    (hs : (srv.endpoints e).queue.admissionSuspended = false) (htv : timing.tv = false) :
    srv.dispatchAdmit e env timing slot.frame =
      { result := .cancelled,
        response := (applyCancellation (srv.endpoints e).queue slot.requestType slot.frame env.byteBusId).1,
        server := srv.setQueue e
          (applyCancellation (srv.endpoints e).queue slot.requestType slot.frame env.byteBusId).2 } := by
  simp [dispatchAdmit, htv, admitWithAck_immediate hc hs, finishAdmission]

/-- What a dispatch does with a cancellation that comes without a presentation time. -/
theorem dispatch_cancellation {slot : Pending} (hd : srv.Delivers env e) (hc : Endpoint.HoldsCancellation slot) :
    ((srv.dispatch env slot.frame).server.endpoints e).queue =
      (applyCancellation (srv.endpoints e).queue slot.requestType slot.frame env.byteBusId).2 ∧
    (srv.dispatch env slot.frame).response =
      srv.suppressResponsePerStreamCfg env.streamId
        (applyCancellation (srv.endpoints e).queue slot.requestType slot.frame env.byteBusId).1 := by
  have htiming : srv.effectiveTiming env {} = {} := by
    unfold effectiveTiming
    split <;> rfl
  have hinner : srv.dispatchPlainInner env {} slot.frame = srv.dispatchAdmit e env {} slot.frame := by
    simp only [dispatchPlainInner, hd.accepted, hd.found, htiming]
  simp only [dispatch, dispatchPlain, hinner, dispatchAdmit_immediate hc hd.admits, setQueue_self, true_and]
  rfl

/-! ### The deferred path -/

/-- The tick answers what the cancellation answers. -/
theorem tickSlot_cancellation {byteBusId : ByteBusId} {ctx : TickCtx} {response : Option Octets}
    (h : (srv.tickSlot e byteBusId ctx).1 = some (i, response))
    (hk : (((srv.endpoints e).queue.selectDue (srv.tickCtx ctx)).2.pending i).kind = .cancellation) :
    response = (applyCancellation ((srv.endpoints e).queue.selectDue (srv.tickCtx ctx)).2
      (((srv.endpoints e).queue.selectDue (srv.tickCtx ctx)).2.pending i).requestType
      (((srv.endpoints e).queue.selectDue (srv.tickCtx ctx)).2.pending i).frame byteBusId).1 := by
  obtain ⟨hsel, -, -⟩ := tickSlot_executed h
  unfold tickSlot at h
  rw [← tickCtx] at h
  rcases hq : (srv.endpoints e).queue.selectDue (srv.tickCtx ctx) with ⟨found, queue⟩
  rw [hq] at hsel hk
  obtain rfl : found = some i := hsel
  simp only [hq, if_pos hk] at h
  exact (Prod.mk.inj (Option.some.inj h)).2.symm

/-- The tick takes out what the cancellation takes out, and the cancellation itself. -/
theorem tickSlot_cancellation_store {byteBusId : ByteBusId} {ctx : TickCtx} {response : Option Octets}
    (h : (srv.tickSlot e byteBusId ctx).1 = some (i, response)) (hkind : (srv.slot e i).kind = .cancellation) :
    (srv.tickSlot e byteBusId ctx).2.endpoints =
      (srv.setQueue e (((srv.endpoints e).queue.selectDue (srv.tickCtx ctx)).2.cleared fun j =>
        ((srv.endpoints e).queue.selectDue (srv.tickCtx ctx)).2.cancelSet (srv.slot e i).requestType
          (srv.slot e i).frame j || j == i)).endpoints := by
  obtain ⟨-, hend, -⟩ := tickSlot_executed h
  have hsame := Endpoint.selectDue_sameRequest (srv.endpoints e).queue (srv.tickCtx ctx) i
  generalize ((srv.endpoints e).queue.selectDue (srv.tickCtx ctx)).2 = queue at *
  have hkind' : (queue.pending i).kind = .cancellation := by rw [hsame]; exact hkind
  have htype : (queue.pending i).requestType = (srv.slot e i).requestType := by rw [hsame]; rfl
  have hframe : (queue.pending i).frame = (srv.slot e i).frame := by rw [hsame]; rfl
  rw [hend, executedQueue, if_pos hkind', htype, hframe, Endpoint.applyCancellation_eq,
    Endpoint.complete_cancellation _ fun hu => by rw [Endpoint.cleared_kept hu, hkind'], Endpoint.cleared_cleared]

/-- The server as the tick finds it when it executes slot `i`, but with the slot empty. -/
def withoutEntry (srv : MockServer σ) (e : EndpointIx) (i : SlotIx) (ctx : TickCtx) : MockServer σ :=
  srv.setQueue e (((srv.endpoints e).queue.selectDue (srv.tickCtx ctx)).2.releaseSlot i)

/-- The two paths agree on the store they leave and on the response. -/
def DeferralAgrees (srv : MockServer σ) (scope : Scope) (env : Envelope) (ctx : TickCtx) (e : EndpointIx) (i : SlotIx)
    (response : Option Octets) : Prop :=
  ((srv.tickScoped scope env.byteBusId ctx).2.endpoints e).queue =
    (((srv.withoutEntry e i ctx).dispatch env (srv.slot e i).frame).server.endpoints e).queue ∧
  response = ((srv.withoutEntry e i ctx).dispatch env (srv.slot e i).frame).response

/-- A clear-single must not find itself, and its error response must not be suppressed. -/
def DeferralSafe (srv : MockServer σ) (env : Envelope) (e : EndpointIx) (i : SlotIx) : Prop :=
  (srv.slot e i).requestType = RequestType.clearSingle → ∀ bus t tn,
    cancelDecodeClearSingle (srv.slot e i).frame = .ok (bus, t, tn) →
      (srv.endpoints e).queue.SelfSafe i t (srv.respSuppressed env.streamId)

theorem singleResponse_suppressed {ep : Endpoint} {byteBusId : ByteBusId} {t tn : UInt8} (streamId : UInt64) :
    srv.suppressResponsePerStreamCfg streamId
      (if ep.findTransaction t = none then Acf.buildErrorResponse byteBusId tn .requestNotFound else none) =
    ep.singleResponse byteBusId t tn (srv.respSuppressed streamId) := by
  unfold Endpoint.singleResponse
  by_cases h : ep.findTransaction t = none
  · rw [if_pos h, suppress_response (Acf.buildErrorResponse_responds _ _ _) (by simp)]
    cases srv.respSuppressed streamId <;> simp [h]
  · simp [h]

/-- The two paths agree if what they take out, but for the cancellation itself, and what they answer agrees. -/
theorem deferralAgrees_iff_sets {scope : Scope} {ctx : TickCtx} {response : Option Octets}
    (hlookup : srv.lookup scope env.byteBusId = some e)
    (htick : (srv.tickScoped scope env.byteBusId ctx).1 = some (i, response))
    (hc : Endpoint.HoldsCancellation (srv.slot e i)) (hkind : (srv.slot e i).kind = .cancellation)
    (hd : srv.Delivers env e) :
    srv.DeferralAgrees scope env ctx e i response ↔
      (∀ j, (srv.slot e j).inUse = true → j ≠ i →
        ((srv.endpoints e).queue.selectDue (srv.tickCtx ctx)).2.cancelSet (srv.slot e i).requestType
          (srv.slot e i).frame j =
        (((srv.endpoints e).queue.selectDue (srv.tickCtx ctx)).2.cleared fun k => k == i).cancelSet
          (srv.slot e i).requestType (srv.slot e i).frame j) ∧
      (applyCancellation ((srv.endpoints e).queue.selectDue (srv.tickCtx ctx)).2 (srv.slot e i).requestType
          (srv.slot e i).frame env.byteBusId).1 =
        srv.suppressResponsePerStreamCfg env.streamId
          (applyCancellation (((srv.endpoints e).queue.selectDue (srv.tickCtx ctx)).2.cleared fun k => k == i)
            (srv.slot e i).requestType (srv.slot e i).frame env.byteBusId).1 := by
  unfold DeferralAgrees
  rw [tickScoped_eq, hlookup] at htick ⊢
  dsimp only at htick ⊢
  obtain ⟨hsel, -, -⟩ := tickSlot_executed htick
  have hend := tickSlot_cancellation_store htick hkind
  have hresp := @tickSlot_cancellation σ srv e i env.byteBusId ctx response htick
  have hwithout : srv.withoutEntry e i ctx =
      srv.setQueue e (((srv.endpoints e).queue.selectDue (srv.tickCtx ctx)).2.releaseSlot i) := rfl
  have hin : (srv.slot e i).inUse = true := Endpoint.due_inUse (Endpoint.selectDue_minimal hsel).1
  have hsame : ∀ j, Pending.SameRequest (srv.slot e j)
      (((srv.endpoints e).queue.selectDue (srv.tickCtx ctx)).2.pending j) := Endpoint.selectDue_sameRequest _ _
  have hadmits : ((srv.endpoints e).queue.selectDue (srv.tickCtx ctx)).2.admissionSuspended = false := by
    rw [Endpoint.selectDue_endpoint]
    exact hd.admits
  generalize ((srv.endpoints e).queue.selectDue (srv.tickCtx ctx)).2 = queue at *
  -- From here on only the swept store matters, and the slot in it is the one that was there.
  have hkind' : (queue.pending i).kind = .cancellation := by rw [hsame i]; exact hkind
  have htype : (queue.pending i).requestType = (srv.slot e i).requestType := by rw [hsame i]
  have hframe : (queue.pending i).frame = (srv.slot e i).frame := by rw [hsame i]
  have hin' : (queue.pending i).inUse = true := (hsame i).inUse.trans hin
  have hdelivers : (srv.setQueue e (queue.releaseSlot i)).Delivers env e := by
    refine ⟨hd.accepted, ((SameTable.setQueue srv e _).findSlotOnStream _ _).trans hd.found, ?_⟩
    rw [setQueue_self]
    exact hadmits
  obtain ⟨hstore, hanswer⟩ := dispatch_cancellation hdelivers hc
  rw [setQueue_self, Endpoint.releaseSlot_eq_cleared hin'] at hstore hanswer
  rw [hwithout, hend, setQueue_self, Endpoint.releaseSlot_eq_cleared hin', hstore, hanswer, hresp hkind', htype, hframe,
    Endpoint.applyCancellation_eq, Endpoint.cleared_cleared]
  refine and_congr ⟨fun heq j hj hji => ?_, fun hsets => Endpoint.cleared_congr fun j hj => ?_⟩ Iff.rfl
  · have hset := Endpoint.cleared_inj heq ((hsame j).inUse.trans hj)
    rw [beq_eq_false_iff_ne.mpr hji, Bool.or_false, Bool.false_or] at hset
    exact hset
  · by_cases hji : j = i
    · subst hji
      rw [beq_self_eq_true, Bool.or_true, Bool.true_or]
    · rw [beq_eq_false_iff_ne.mpr hji, Bool.or_false, Bool.false_or]
      exact hsets j ((hsame j).inUse.symm.trans hj) hji

/-- What agrees for one cancellation and one store. -/
theorem cancelSet_agrees_iff {ep : Endpoint} (hin : (ep.pending i).inUse = true) (requestType : UInt8) (frame : Octets)
    (byteBusId : ByteBusId) (streamId : UInt64) :
    ((∀ j, (ep.pending j).inUse = true → j ≠ i →
        ep.cancelSet requestType frame j = (ep.cleared fun k => k == i).cancelSet requestType frame j) ∧
      (applyCancellation ep requestType frame byteBusId).1 =
        srv.suppressResponsePerStreamCfg streamId
          (applyCancellation (ep.cleared fun k => k == i) requestType frame byteBusId).1) ↔
    (requestType = RequestType.clearSingle → ∀ bus t tn, cancelDecodeClearSingle frame = .ok (bus, t, tn) →
      ep.SelfSafe i t (srv.respSuppressed streamId)) := by
  simp only [Endpoint.applyCancellation_response]
  by_cases hsingle : requestType = RequestType.clearSingle
  · have hall : requestType ≠ RequestType.clearAll := by rw [hsingle]; decide
    have hnon : requestType ≠ RequestType.clearNonSafestate := by rw [hsingle]; decide
    simp only [Endpoint.cancelSet, if_neg hall, if_neg hnon, if_pos hsingle]
    cases hdec : cancelDecodeClearSingle frame with
    | error err => simp
    | ok r =>
      obtain ⟨bus, t, tn⟩ := r
      have hplain : (if ep.findTransaction t = none then Acf.buildErrorResponse byteBusId tn .requestNotFound else none) =
          ep.singleResponse byteBusId t tn false := by
        simp [Endpoint.singleResponse]
      dsimp only
      rw [hplain, singleResponse_suppressed, Endpoint.selfSafe_iff hin byteBusId t tn (srv.respSuppressed streamId)]
      constructor
      · rintro h - bus' t' tn' heq
        cases heq
        exact h
      · exact fun h => h hsingle bus t tn rfl
  · simp only [if_neg hsingle, suppressResponsePerStreamCfg_none, and_true]
    refine iff_of_true (fun j hj hji => ?_) fun h => absurd h hsingle
    simp only [Endpoint.cancelSet, if_neg hsingle, Endpoint.cleared_other hj hji]

/-- In every reachable server, a cancellation that a tick applies at its presentation time leaves the store and gives
    the response that the same cancellation without a presentation time would, on the same store without its entry, if
    and only if it is no clear-single that finds itself, or whose error response the stream suppresses. -/
theorem deferred_cancellation_iff (world : σ) (ops : List (MockOp σ)) (scope : Scope) (env : Envelope) (ctx : TickCtx)
    (e : EndpointIx) (i : SlotIx) (response : Option Octets)
    (hlookup : ((new world).run ops).lookup scope env.byteBusId = some e)
    (htick : (((new world).run ops).tickScoped scope env.byteBusId ctx).1 = some (i, response))
    (hkind : (((new world).run ops).slot e i).kind = .cancellation) (hd : ((new world).run ops).Delivers env e) :
    ((new world).run ops).DeferralAgrees scope env ctx e i response ↔ ((new world).run ops).DeferralSafe env e i := by
  have hreach := run_reachable world ops e
  generalize (new world).run ops = srv at *
  have hin : (srv.slot e i).inUse = true := by
    have htick' := htick
    rw [tickScoped_eq, hlookup] at htick'
    exact Endpoint.due_inUse (Endpoint.selectDue_minimal (tickSlot_executed htick').1).1
  have hc := hreach.holdsCancellation hin hkind
  have hsame := Endpoint.selectDue_sameRequest (srv.endpoints e).queue (srv.tickCtx ctx)
  rw [deferralAgrees_iff_sets hlookup htick hc hkind hd, DeferralSafe]
  simp only [← Endpoint.selfSafe_congr hsame]
  rw [← cancelSet_agrees_iff ((hsame i).inUse.trans hin) _ _ env.byteBusId env.streamId]
  have hinUse : ∀ j, (srv.slot e j).inUse =
      (((srv.endpoints e).queue.selectDue (srv.tickCtx ctx)).2.pending j).inUse := fun j => (hsame j).inUse.symm
  simp only [hinUse]

/-- A TSCF frame for bus 1 on stream 9, at a server with time synchronisation. -/
def bus1Tscf : Envelope :=
  { byteBusId := 1, avtpSubtype := avtpSubtypeTscf, acfMsgType := Acf.msgTypeGbb, timeSyncSupported := true,
    streamId := 9 }

/-- A clear-single of the given number, deferred to presentation time 0, with a triggered request pending. -/
def deferredClearSingle (target : UInt8) : List (MockOp Unit) :=
  bringUp ++
    [.call (.dispatchTscf bus1Tscf { tv := true } false (cancelEncodeClearSingle 1 target 5)),
     .call (.dispatch (bus1 Acf.msgTypeGbb) triggered7)]

/-- The tick at which it is due. -/
def dueTick : TickCtx := { gptpLocked := true }

theorem deferred_cancellation_iff_seven :
    ((new ()).run (deferredClearSingle 7)).DeferralAgrees none (bus1 Acf.msgTypeGbb) dueTick 0 0 none := by
  refine (deferred_cancellation_iff () (deferredClearSingle 7) none (bus1 Acf.msgTypeGbb) dueTick 0 0 none
    (by decide +kernel) (by decide +kernel) (by decide +kernel)
    ⟨by decide +kernel, by decide +kernel, by decide +kernel⟩).mpr ?_
  rintro - bus t tn hdec
  have hseven : cancelDecodeClearSingle (((new ()).run (deferredClearSingle 7)).slot 0 0).frame = .ok (1, 7, 5) := by
    decide +kernel
  cases hdec.symm.trans hseven
  unfold Endpoint.SelfSafe
  rw [if_neg (by decide +kernel)]
  exact fun hnone => absurd hnone (by decide +kernel)

/-- A clear-single of number 0 finds itself and reports nothing; at once, it reports that there is no such request. -/
theorem deferred_finds_itself :
    ¬∀ (ops : List (MockOp Unit)) (scope : Scope) (env : Envelope) (ctx : TickCtx) (e : EndpointIx) (i : SlotIx)
        (response : Option Octets),
      ((new ()).run ops).lookup scope env.byteBusId = some e →
      (((new ()).run ops).tickScoped scope env.byteBusId ctx).1 = some (i, response) →
      (((new ()).run ops).slot e i).kind = .cancellation →
      cancelAccepts (((new ()).run ops).slot e i).requestType (((new ()).run ops).slot e i).frame = true →
      ((new ()).run ops).Delivers env e → ((new ()).run ops).DeferralAgrees scope env ctx e i response := by
  intro h
  have hagree := h (deferredClearSingle 0) none (bus1 Acf.msgTypeGbb) dueTick 0 0 none (by decide +kernel)
    (by decide +kernel) (by decide +kernel) (by decide +kernel)
    ⟨by decide +kernel, by decide +kernel, by decide +kernel⟩
  exact absurd hagree.2 (by decide +kernel)

end MockServer
end Rcp
