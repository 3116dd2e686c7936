import Rcp.EndpointTurns
import Rcp.Theorems.Kept
import Rcp.Theorems.NoEarly
import Rcp.Theorems.Select
import Mathlib.Algebra.Order.BigOperators.Group.Finset

/-! How long a request can be due without being executed. Among requests of one kind nobody is overtaken by a younger
    one, so a request waits for the executions its elders have left, and for requests that rank above it. -/

namespace Rcp

/-! ### What a call leaves of a stored request -/

/-- `b` is the request in `a`, with no more executions left. -/
structure Pending.NoMore (a b : Pending) : Prop where
  kind : b.kind = a.kind
  sequence : b.sequence = a.sequence
  remaining : Endpoint.remaining b ≤ Endpoint.remaining a
  finite : a.repeatCount? ≠ some repeatInfinite → b.repeatCount? ≠ some repeatInfinite

namespace Pending
variable {a b : Pending}

theorem SameRequest.noMore (h : SameRequest a b) : NoMore a b := by
  have hcount := h.repeatCount?
  have hremaining : Endpoint.remaining b = Endpoint.remaining a := by
    unfold Endpoint.remaining
    rw [hcount]
  refine ⟨?_, ?_, hremaining.le, fun hfinite => by rwa [hcount]⟩
  · rw [h]
  · rw [h]

theorem completed_noMore {slot : Pending} {now : UInt32} (hu : slot.inUse = true)
    (hc : (slot.completed now).inUse = true) : NoMore slot (slot.completed now) := by
  have hsame := completed_same hu hc
  by_cases hinf : slot.repeatCount? = some repeatInfinite
  · have hcount : (slot.completed now).repeatCount? = slot.repeatCount? := by
      rw [Endpoint.completed_infinite now hinf, Endpoint.repeatCount?_rearm]
    refine ⟨hsame.kind, hsame.sequence, ?_, fun hfinite => absurd hinf hfinite⟩
    unfold Endpoint.remaining
    rw [hcount]
  · rcases Endpoint.remaining_completed now hu hinf with ⟨-, hzero⟩ | ⟨-, hfinite, hremaining⟩
    · rw [hzero] at hc
      cases hc
    · exact ⟨hsame.kind, hsame.sequence, by omega, fun _ => hfinite⟩

end Pending

namespace Endpoint
variable {ep ep' : Endpoint} {i j k : SlotIx} {op : EndpointOp} {ctx : TickCtx}

theorem admits_sequence {frame : Octets} {now : UInt32} {tv : Bool} {gate : UInt64} {r : AdmitResult}
    (h : Admits ep frame now tv gate r ep') (hindex : r.index = some i) : (ep'.pending i).sequence = ep.nextSequence := by
  cases h with
  | refused _ hnone =>
    rw [hnone] at hindex
    cases hindex
  | submitted _ hr =>
    rw [hr] at hindex
    cases hindex
  | burned _ hr =>
    rw [hr.2] at hindex
    cases hindex
  | gated _ _ _ hr =>
    obtain rfl := Option.some.inj (hr.2.1.symm.trans hindex)
    rw [storeAt_pending, Function.update_self]
    rfl
  | stored _ _ hd hr =>
    obtain rfl := Option.some.inj (hr.2.1.symm.trans hindex)
    rw [storeAt_pending, Function.update_self]
    exact (decodeCondition_decoded hd).sequence

/-- A request that is in the store after a call has been there before it, or has just been admitted. -/
theorem step_slot (ep : Endpoint) (op : EndpointOp) (hu : ((ep.step op).pending j).inUse = true) :
    ((ep.pending j).inUse = true ∧ Pending.NoMore (ep.pending j) ((ep.step op).pending j)) ∨
      ((ep.step op).pending j).sequence = ep.nextSequence := by
  cases hbefore : (ep.pending j).inUse with
  | true =>
    left
    have hslot := step_pending op (.inl hbefore)
    rw [hslot] at hu ⊢
    refine ⟨rfl, ?_⟩
    cases hop : op.completes j with
    | false =>
      rcases slotAfter_cases ep hop with hsame | ⟨-, hzero⟩
      · exact hsame.noMore
      · rw [hzero] at hu
        cases hu
    | true =>
      obtain ⟨ctx, -, hcompleted⟩ := slotAfter_completes hbefore hop
      rw [hcompleted] at hu ⊢
      exact Pending.completed_noMore hbefore hu
  | false =>
    right
    have hevent := epochEvent_of_filled hbefore hu
    cases op with
    | admitWithAck frame now tv avtpTimestamp gptpReferenceNow =>
      exact admits_sequence (admitWithAck_admits ep frame now tv avtpTimestamp gptpReferenceNow) hevent
    | complete index ctx =>
      obtain ⟨-, hused⟩ := hevent
      rw [hbefore] at hused
      cases hused
    | _ => exact hevent.elim

/-! ### What is ahead of a request -/

/-- The request in slot `j` is of the kind of the one in slot `i`, and older. -/
def Ahead (ep : Endpoint) (i j : SlotIx) : Prop :=
  (ep.pending j).inUse = true ∧ (ep.pending j).kind = (ep.pending i).kind ∧
    (ep.pending j).sequence < (ep.pending i).sequence

instance decidableAhead (ep : Endpoint) (i j : SlotIx) : Decidable (ep.Ahead i j) :=
  inferInstanceAs (Decidable (_ ∧ _ ∧ _))

/-- The executions that the requests ahead of slot `i` have left between them. -/
def ahead (ep : Endpoint) (i : SlotIx) : Nat := ∑ j, if ep.Ahead i j then remaining (ep.pending j) else 0

/-- A store in which the request in slot `i` waits behind requests that all come to an end. -/
structure Waits (ep : Endpoint) (i : SlotIx) : Prop where
  wellFormed : ep.WellFormed
  stored : (ep.pending i).inUse = true
  finite : ∀ j, ep.Ahead i j → (ep.pending j).repeatCount? ≠ some repeatInfinite

/-- Nothing gets ahead of a stored request. -/
theorem Waits.ahead_before (h : ep.Waits i) (hop : op.completes i = false)
    (hu : ((ep.step op).pending i).inUse = true) (hj : (ep.step op).Ahead i j) :
    ep.Ahead i j ∧ Pending.NoMore (ep.pending j) ((ep.step op).pending j) := by
  obtain ⟨huj, hkind, hlt⟩ := hj
  have hsame : Pending.SameRequest (ep.pending i) ((ep.step op).pending i) := by
    rw [step_pending op (.inl h.stored)] at hu ⊢
    rcases slotAfter_cases ep hop with hsame | ⟨-, hzero⟩
    · exact hsame
    · rw [hzero] at hu
      cases hu
  rw [hsame.noMore.sequence] at hlt
  rw [hsame.noMore.kind] at hkind
  rcases ep.step_slot op huj with ⟨hbefore, hmore⟩ | hnew
  · exact ⟨⟨hbefore, hmore.kind.symm.trans hkind, hmore.sequence ▸ hlt⟩, hmore⟩
  · rw [hnew] at hlt
    exact absurd (UInt64.lt_trans hlt (h.wellFormed.below i h.stored)) (UInt64.lt_irrefl _)

theorem Waits.step (h : ep.Waits i) (op : EndpointOp) (hop : op.completes i = false) (hu : ((ep.step op).pending i).inUse = true)
    (hn : op.isAdmit = true → ep.nextSequence.toNat + 1 < 2 ^ 64) :
    (ep.step op).Waits i ∧ (ep.step op).ahead i ≤ ep.ahead i := by
  refine ⟨⟨h.wellFormed.step op hn, hu, fun j hj => ?_⟩, Finset.sum_le_sum fun j _ => ?_⟩
  · obtain ⟨hbefore, hmore⟩ := h.ahead_before hop hu hj
    exact hmore.finite (h.finite j hbefore)
  · by_cases hj : (ep.step op).Ahead i j
    · obtain ⟨hbefore, hmore⟩ := h.ahead_before hop hu hj
      rw [if_pos hj, if_pos hbefore]
      exact hmore.remaining
    · rw [if_neg hj]
      exact Nat.zero_le _

/-- The completion of a request that is ahead brings the one in slot `i` closer. -/
theorem Waits.complete_ahead (h : ep.Waits i) (hk : ep.Ahead i k) (ctx : TickCtx) :
    (ep.step (.complete k ctx)).Waits i ∧ (ep.step (.complete k ctx)).ahead i < ep.ahead i := by
  have hne : i ≠ k := by
    rintro rfl
    exact UInt64.lt_irrefl _ hk.2.2
  have hop : EndpointOp.completes i (.complete k ctx) = false :=
    beq_eq_false_iff_ne.mpr fun hval => hne (Fin.ext hval.symm)
  have hother : (ep.step (.complete k ctx)).pending i = ep.pending i := complete_other ctx fun hval => hne (Fin.ext hval)
  have hu : ((ep.step (.complete k ctx)).pending i).inUse = true := by rw [hother, h.stored]
  obtain ⟨hwaits, -⟩ := h.step _ hop hu fun hnew => by cases hnew
  refine ⟨hwaits, Finset.sum_lt_sum (fun j _ => ?_) ⟨k, Finset.mem_univ k, ?_⟩⟩
  · by_cases hj : (ep.step (.complete k ctx)).Ahead i j
    · obtain ⟨hbefore, hmore⟩ := h.ahead_before hop hu hj
      rw [if_pos hj, if_pos hbefore]
      exact hmore.remaining
    · rw [if_neg hj]
      exact Nat.zero_le _
  · rw [if_pos hk]
    by_cases hj : (ep.step (.complete k ctx)).Ahead i k
    · have hslot : (ep.step (.complete k ctx)).pending k = (ep.pending k).completed ctx.now := by
        have hcompletes : EndpointOp.completes k (.complete k ctx) = true := beq_self_eq_true _
        obtain ⟨ctx', hctx, hslot⟩ := slotAfter_completes hk.1 hcompletes
        rw [step_pending _ (.inl hk.1), hslot, (EndpointOp.complete.inj hctx).2]
      rw [if_pos hj]
      rcases remaining_completed ctx.now hk.1 (h.finite k hk) with ⟨-, hzero⟩ | ⟨-, -, hremaining⟩
      · rw [Ahead, hslot, hzero] at hj
        cases hj.1
      · rw [hslot, hremaining]
        exact Nat.lt_succ_self _
    · rw [if_neg hj]
      exact remaining_pos _

/-- A request that does not repeat has fewer executions ahead than there are requests in the store. -/
theorem Waits.ahead_lt (h : ep.Waits i) (hone : (ep.pending i).repeatCount? = none) : ep.ahead i < ep.pendingCount := by
  have hremaining : ∀ j, ep.Ahead i j → remaining (ep.pending j) = 1 := by
    rintro j ⟨-, hkind, -⟩
    have hnone : (ep.pending j).repeatCount? = none := by
      unfold Pending.repeatCount? at hone ⊢
      rw [hkind]
      cases hk : (ep.pending i).kind <;> rw [hk] at hone <;> first | rfl | cases hone
    unfold remaining
    rw [hnone]
  have hcard : ep.ahead i = (Finset.univ.filter fun j => ep.Ahead i j).card := by
    rw [Finset.card_filter]
    refine Finset.sum_congr rfl fun j _ => ?_
    by_cases hj : ep.Ahead i j
    · rw [if_pos hj, if_pos hj, hremaining j hj]
    · rw [if_neg hj, if_neg hj]
  rw [hcard, h.wellFormed.count]
  refine Finset.card_lt_card (Finset.ssubset_iff_of_subset ?_ |>.mpr ⟨i, ?_, ?_⟩)
  · exact Finset.monotone_filter_right _ fun j _ hj => hj.1
  · exact Finset.mem_filter.mpr ⟨Finset.mem_univ i, h.stored⟩
  · exact fun hi => UInt64.lt_irrefl _ (Finset.mem_filter.mp hi).2.2.2

/-! ### Waiting -/

theorem schedKindRank_injective {a b : SchedKind} (h : schedKindRank a = schedKindRank b) : a = b := by
  cases a <;> cases b <;> first | rfl | exact absurd h (by decide)

/-- What is executed in the place of a due request, if nothing that ranks above it is due, is ahead of it. -/
theorem Waits.overtaken (h : ep.Waits i) (hdue : ep.due ctx i = true)
    (hrank : ∀ j, ep.due ctx j = true → schedKindRank (ep.pending j).kind ≤ schedKindRank (ep.pending i).kind)
    (hk : (ep.selectDue ctx).1 = some k) (hne : k ≠ i) : ep.Ahead i k := by
  obtain ⟨hduek, hmin⟩ := selectDue_minimal hk
  have hkey := not_lt.mp fun hlt => hmin i hdue (schedCompare_neg.mpr hlt)
  have hle := UInt8.le_iff_toNat_le.mp (hrank k hduek)
  have hki := schedKindRank_le (ep.pending i).kind
  unfold SchedEntry.key at hkey
  rw [Prod.Lex.toLex_le_toLex] at hkey
  have hu := due_inUse hduek
  rcases hkey with hlt | ⟨heq, hseq⟩
  · simp only [Pending.entry] at hlt
    omega
  · simp only [Pending.entry] at heq hseq
    have hkk := schedKindRank_le (ep.pending k).kind
    refine ⟨hu, schedKindRank_injective (UInt8.toNat_inj.mp (by omega)), UInt64.lt_iff_toNat_lt.mpr ?_⟩
    refine lt_of_le_of_ne hseq fun hsame => hne ?_
    exact h.wellFormed.distinct k i hu h.stored (UInt64.toNat_inj.mp hsame)

theorem tick_keeps (ep : Endpoint) (ctx : TickCtx) : Keeps ep (ep.tick ctx).2 := by
  have hselected := Keeps.selectDue ep ctx
  unfold tick
  rcases hsel : ep.selectDue ctx with ⟨_ | k, queue⟩
  · rwa [hsel] at hselected
  · rw [hsel] at hselected
    exact hselected.trans (Keeps.complete queue k ctx)

/-- What happens around the request in slot `i` until it is executed: calls that leave it in the store, and ticks at
    which it is due and nothing that ranks above it is. -/
def Contends (i : SlotIx) : Endpoint → List EndpointTurn → Prop
  | _, [] => True
  | ep, .call op :: turns =>
    op.completes i = false ∧ ((ep.step op).pending i).inUse = true ∧ Contends i (ep.step op) turns
  | ep, .tick ctx :: turns =>
    ep.due ctx i = true ∧
      (∀ j, ep.due ctx j = true → schedKindRank (ep.pending j).kind ≤ schedKindRank (ep.pending i).kind) ∧
      ((ep.tick ctx).1 ≠ some i → Contends i (ep.tick ctx).2 turns)

/-- One of the ticks executes the request in slot `i`. -/
def Executed (i : SlotIx) : Endpoint → List EndpointTurn → Prop
  | _, [] => False
  | ep, .call op :: turns => Executed i (ep.step op) turns
  | ep, .tick ctx :: turns => (ep.tick ctx).1 = some i ∨ Executed i (ep.tick ctx).2 turns

/-- A tick at which another request is executed brings the one in slot `i` closer. -/
theorem Waits.tick (h : ep.Waits i) (hdue : ep.due ctx i = true)
    (hrank : ∀ j, ep.due ctx j = true → schedKindRank (ep.pending j).kind ≤ schedKindRank (ep.pending i).kind)
    (hother : (ep.tick ctx).1 ≠ some i) :
    (ep.tick ctx).2.Waits i ∧ (ep.tick ctx).2.ahead i < ep.ahead i ∧ (ep.tick ctx).2.nextSequence = ep.nextSequence := by
  cases hsel : (ep.selectDue ctx).1 with
  | none =>
    rw [selectDue_none.mp hsel i] at hdue
    cases hdue
  | some k =>
    have htick : ep.tick ctx = (some k, (ep.step (.selectDue ctx)).step (.complete k ctx)) := by
      have hpair : ep.selectDue ctx = (some k, (ep.selectDue ctx).2) := by rw [← hsel]
      unfold Endpoint.tick
      rw [hpair]
      rfl
    rw [htick] at hother ⊢
    have hne : k ≠ i := fun hki => hother (congrArg some hki)
    have hk := h.overtaken hdue hrank hsel hne
    have hlooks : ∀ j, EndpointOp.completes j (.selectDue ctx) = false := fun _ => rfl
    have hsame : ∀ j, Pending.SameRequest (ep.pending j) ((ep.step (.selectDue ctx)).pending j) := by
      intro j
      rw [step_pending _ (.inr rfl)]
      rcases slotAfter_cases ep (hlooks j) with hsame | ⟨hcancel, -⟩
      · exact hsame
      · cases hcancel
    have hselected := h.step (.selectDue ctx) rfl ((hsame i).inUse.trans h.stored) fun hnew => by cases hnew
    have hk' : (ep.step (.selectDue ctx)).Ahead i k :=
      ⟨(hsame k).inUse.trans hk.1, by rw [(hsame k).noMore.kind, (hsame i).noMore.kind, hk.2.1],
        by rw [(hsame k).noMore.sequence, (hsame i).noMore.sequence]; exact hk.2.2⟩
    obtain ⟨hwaits, hlt⟩ := hselected.1.complete_ahead hk' ctx
    refine ⟨hwaits, hlt.trans_le hselected.2, ?_⟩
    rcases step_nextSequence (ep.step (.selectDue ctx)) (.complete k ctx) with hnext | ⟨hnew, -⟩
    · rcases step_nextSequence ep (.selectDue ctx) with hnext' | ⟨hnew, -⟩
      · exact hnext.trans hnext'
      · cases hnew
    · cases hnew

/-- A request that is due at every tick, with nothing due that ranks above it, is executed as soon as there have been
    more ticks than the older requests of its kind had executions left, whatever else is admitted in between. -/
theorem executed_within (h : ep.Waits i) (turns : List EndpointTurn)
    (hn : ep.nextSequence.toNat + turns.countP EndpointTurn.isAdmit < 2 ^ 64) (hcontends : Contends i ep turns)
    (hmany : ep.ahead i < turns.countP EndpointTurn.isTick) : Executed i ep turns := by
  induction turns generalizing ep with
  | nil => exact absurd hmany (Nat.not_lt_zero _)
  | cons turn turns ih =>
    rw [List.countP_cons] at hn hmany
    cases turn with
    | call op =>
      obtain ⟨hop, hu, hrest⟩ := hcontends
      rw [show EndpointTurn.isTick (.call op) = false from rfl, if_neg Bool.false_ne_true, Nat.add_zero] at hmany
      rw [show EndpointTurn.isAdmit (.call op) = op.isAdmit from rfl] at hn
      obtain ⟨hwaits, hle⟩ := h.step op hop hu fun hnew => by
        rw [if_pos hnew] at hn
        omega
      refine ih hwaits ?_ hrest (hle.trans_lt hmany)
      rcases step_nextSequence ep op with hnext | ⟨hnew, hnext⟩
      · rw [hnext]
        omega
      · rw [if_pos hnew] at hn
        have := toNat_next_le (n := ep.nextSequence)
        rw [hnext]
        omega
    | tick ctx =>
      obtain ⟨hdue, hrank, hrest⟩ := hcontends
      rw [show EndpointTurn.isTick (.tick ctx) = true from rfl, if_pos rfl] at hmany
      rw [show EndpointTurn.isAdmit (.tick ctx) = false from rfl, if_neg Bool.false_ne_true, Nat.add_zero] at hn
      by_cases hthis : (ep.tick ctx).1 = some i
      · exact .inl hthis
      · obtain ⟨hwaits, hlt, hnext⟩ := h.tick hdue hrank hthis
        exact .inr (ih hwaits (hnext ▸ hn) (hrest hthis) (by omega))

/-- An endpoint with two timed requests; the one in slot 1 is the younger. -/
def twoAdmitted : Endpoint := (Endpoint.init true).run [admitTimed, admitTimed]

set_option maxRecDepth 4000 in
theorem twoAdmitted_timed (hu : (twoAdmitted.pending j).inUse = true) : (twoAdmitted.pending j).kind = .timed := by
  have hall : ((List.finRange serverMaxPending).all fun j =>
      !(twoAdmitted.pending j).inUse || (twoAdmitted.pending j).kind == .timed) = true := rfl
  have hj := List.all_eq_true.mp hall j (List.mem_finRange j)
  rw [hu] at hj
  exact beq_iff_eq.mp hj

theorem twoAdmitted_waits : twoAdmitted.Waits 1 where
  wellFormed := run_init_wellFormed true [admitTimed, admitTimed] (by decide)
  stored := rfl
  finite j hj := by
    have hkind := twoAdmitted_timed hj.1
    unfold Pending.repeatCount?
    rw [hkind]
    nofun

theorem executed_within_two :
    Executed 1 twoAdmitted [.tick { gptpNow := 5, gptpLocked := true }, .tick { gptpNow := 5, gptpLocked := true }] := by
  refine executed_within twoAdmitted_waits _ (by decide) ⟨rfl, fun j hdue => ?_, fun _ => ⟨rfl, fun j hdue => ?_, ?_⟩⟩
    (twoAdmitted_waits.ahead_lt rfl)
  · rw [twoAdmitted_timed (due_inUse hdue)]
    exact UInt8.le_refl _
  · obtain ⟨hu, hkept⟩ := tick_keeps twoAdmitted _ j (due_inUse hdue)
    rw [hkept.kind, twoAdmitted_timed hu]
    exact UInt8.le_refl _
  · exact fun h => absurd rfl h

end Endpoint

/-- The tick of the mock server does this to the store of the endpoint, unless it executes a cancellation. -/
theorem MockServer.tickSlot_tick {σ : Type} (srv : MockServer σ) (e : EndpointIx) (byteBusId : ByteBusId) (ctx : TickCtx)
    (hkind : ∀ i, ((srv.endpoints e).queue.selectDue (srv.tickCtx ctx)).1 = some i →
      (((srv.endpoints e).queue.selectDue (srv.tickCtx ctx)).2.pending i).kind ≠ .cancellation) :
    ((srv.tickSlot e byteBusId ctx).1.map Prod.fst, ((srv.tickSlot e byteBusId ctx).2.endpoints e).queue) =
      (srv.endpoints e).queue.tick (srv.tickCtx ctx) := by
  cases hexecuted : (srv.tickSlot e byteBusId ctx).1 with
  | none =>
    unfold tickSlot at hexecuted ⊢
    rw [← tickCtx] at hexecuted ⊢
    unfold Endpoint.tick
    rcases hsel : (srv.endpoints e).queue.selectDue (srv.tickCtx ctx) with ⟨_ | index, queue⟩
    · simp only [hsel, setQueue_self, Option.map_none]
    · simp only [hsel] at hexecuted
      cases hexecuted
  | some executed =>
    obtain ⟨i, response⟩ := executed
    obtain ⟨hsel, hendpoints, -⟩ := tickSlot_executed hexecuted
    have hpair : (srv.endpoints e).queue.selectDue (srv.tickCtx ctx) =
        (some i, ((srv.endpoints e).queue.selectDue (srv.tickCtx ctx)).2) := by rw [← hsel]
    rw [hendpoints, setQueue_self, executedQueue, if_neg (hkind i hsel)]
    unfold Endpoint.tick
    rw [hpair]
    rfl

end Rcp
