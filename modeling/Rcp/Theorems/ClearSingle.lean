import Rcp.Theorems.Provenance

/-! The scope of a clear-single request: it takes its target out of the store, and the members of the target's
    chain behind it. The server tells chains apart by their `chain_group`, which is an index into a frame. -/

namespace Rcp

/-! ### Clearing one request -/

namespace Endpoint

theorem cancelSingle_found {ep : Endpoint} {tn : UInt8} {r : SlotIx} (hr : ep.findTransaction tn = some r) :
    ep.cancelSingle tn .queued = (.canceled, ep.releaseSlot r) := by
  unfold cancelSingle
  rw [hr]
  rfl

/-- A clear-single takes out its target and what shares the target's group at its position or behind. -/
theorem applyClearSingle_pending {queue : Endpoint} {byteBusId : ByteBusId} {targetTn tn : UInt8} {r j : SlotIx}
    (hr : queue.findTransaction targetTn = some r) (hj : j ≠ r) :
    (MockServer.applyClearSingle queue byteBusId targetTn tn).2.pending j = queue.pending j ∨
      (queue.pending r).chainGroup ≠ 0 ∧ (queue.pending j).chainGroup = (queue.pending r).chainGroup ∧
        (queue.pending r).chainPosition ≤ (queue.pending j).chainPosition := by
  unfold MockServer.applyClearSingle
  simp only [cancelSingle_found hr, hr, Option.map_some, Option.getD_some]
  unfold cancelChainFrom
  split
  · exact Or.inl (by simp [hj])
  · rename_i hgroup
    rw [releaseWhere_pending]
    simp only [releaseSlot_pending, Function.update_of_ne hj, purged]
    split
    · rename_i hdrop
      simp only [Bool.and_eq_true, beq_iff_eq, cancelChainShouldCascade, decide_eq_true_eq] at hdrop
      exact Or.inr ⟨hgroup, hdrop.2.1, hdrop.2.2⟩
    · exact Or.inl rfl

/-- The target is gone. -/
theorem applyClearSingle_target {queue : Endpoint} {byteBusId : ByteBusId} {targetTn tn : UInt8} {r : SlotIx}
    (hr : queue.findTransaction targetTn = some r) :
    ((MockServer.applyClearSingle queue byteBusId targetTn tn).2.pending r).inUse = false := by
  unfold MockServer.applyClearSingle
  simp only [cancelSingle_found hr, hr, Option.map_some, Option.getD_some]
  have hrel := Released.cancelChainFrom (queue.releaseSlot r) (queue.pending r).chainGroup (queue.pending r).chainPosition
  rcases hrel r with h | h <;> rw [h] <;> simp

/-- The selection of a tick does not change which request a transaction number leads to. -/
theorem selectDue_findTransaction (ep : Endpoint) (ctx : TickCtx) (tn : UInt8) :
    (ep.selectDue ctx).2.findTransaction tn = ep.findTransaction tn := by
  unfold findTransaction
  congr 1
  funext i
  rw [selectDue_endpoint, withPending_pending]
  rw [Pending.swept_sameRequest (ep.pending i) ep.epEnable ctx]

end Endpoint

namespace Tracked
variable {σ : Type} {t : Tracked σ}

/-- The request in slot `j` came from the same frame as the one in slot `r`, from the same chain of it, and behind
    it. -/
def Succeeds (t : Tracked σ) (e : EndpointIx) (r j : SlotIx) : Prop :=
  ∃ p q, t.From e r p ∧ t.From e j q ∧ q.frame = p.frame ∧ q.chainGroup = p.chainGroup ∧ p.member < q.member

/-- Requests of one endpoint with the same `chain_group` came from the same chain of the same frame. -/
def GroupsApart (t : Tracked σ) : Prop :=
  ∀ e i j, t.InUse e i → t.InUse e j → (t.server.slot e i).chainGroup ≠ 0 →
    (t.server.slot e i).chainGroup = (t.server.slot e j).chainGroup →
    ∃ p q, t.From e i p ∧ t.From e j q ∧ p.frame = q.frame ∧ p.chainGroup = q.chainGroup

end Tracked

/-- A clear-single that cancels the request in slot `r` takes nothing else out of the stores than the chained
    successors of that request, and its own slot if it has waited in one. -/
def Visit.ClearsOnly {σ : Type} : Visit σ → Prop
  | .call t c _ => ∀ e request byteBusId targetTn tn r,
    t.server.findSlotOnStream c.env.streamId c.env.byteBusId = some e → (t.server.call c).result = .cancelled →
    t.server.delivered c = some request → compoundPeekRequestType request = .ok RequestType.clearSingle →
    cancelDecodeClearSingle request = .ok (byteBusId, targetTn, tn) →
    (t.server.endpoints e).queue.findTransaction targetTn = some r →
    ((t.server.call c).server.slot e r).inUse = false ∧
    ∀ e' j, t.InUse e' j → ((t.server.call c).server.slot e' j).inUse = true ∨ e' = e ∧ (j = r ∨ t.Succeeds e r j)
  | .tick t scope byteBusId ctx => ∀ e i response byteBusId' targetTn tn r,
    t.server.lookup scope byteBusId = some e → (t.server.tickScoped scope byteBusId ctx).1 = some (i, response) →
    (t.server.slot e i).kind = .cancellation → (t.server.slot e i).requestType = RequestType.clearSingle →
    cancelDecodeClearSingle (t.server.slot e i).frame = .ok (byteBusId', targetTn, tn) →
    (t.server.endpoints e).queue.findTransaction targetTn = some r →
    ((t.server.tickScoped scope byteBusId ctx).2.slot e r).inUse = false ∧
    ∀ e' j, t.InUse e' j → ((t.server.tickScoped scope byteBusId ctx).2.slot e' j).inUse = true ∨
      e' = e ∧ (j = i ∨ j = r ∨ t.Succeeds e r j)

/-- When a frame member is stored, no request of another frame on its endpoint carries the `chain_group` it gets,
    and `next_sequence` of the endpoint has not wrapped. -/
def Visit.GroupFree {σ : Type} : Visit σ → Prop
  | .call t c (some p) => (t.server.call c).result = .pending →
    ∀ e ∈ t.server.findSlotOnStream c.env.streamId c.env.byteBusId, ∀ j, t.InUse e j →
    (t.server.slot e j).sequence < (t.server.endpoints e).queue.nextSequence ∧
    (p.chainGroup ≠ 0 → (t.server.slot e j).chainGroup = p.chainGroup → ∃ q, t.From e j q ∧ q.frame = p.frame)
  | _ => True

instance {σ : Type} (v : Visit σ) : Decidable v.GroupFree :=
  match v with
  | .call _ _ (some _) => inferInstanceAs (Decidable (_ → _))
  | .call _ _ none | .tick .. => isTrue trivial

/-! ### The invariant -/

namespace Tracked
variable {σ : Type} {t : Tracked σ} {l lv : FrameLoop}

/-- The places of the stored requests: those of the current frame are behind the loop, no two are the same, and
    positions in a chain follow the order of the members. A request with a group has it from its place. -/
structure Placed (t : Tracked σ) (l : FrameLoop) : Prop where
  group_le : l.chainGroup.toNat ≤ l.index
  position_le : l.chainPosition ≤ l.index
  position_small : ∀ {e i p}, t.From e i p → p.chainPosition ≤ mockMaxFrameMembers
  behind : ∀ {e i p}, t.From e i p → p.frame < t.frames ∨
    p.frame = t.frames ∧ p.member < l.index ∧ p.chainGroup.toNat ≤ l.index ∧
      (p.chainGroup = l.chainGroup → p.chainPosition ≤ l.chainPosition)
  unique : ∀ {e i p e' j q}, t.From e i p → t.From e' j q → p.frame = q.frame → p.member = q.member → e = e' ∧ i = j
  ordered : ∀ {e i p e' j q}, t.From e i p → t.From e' j q → p.frame = q.frame → p.chainGroup = q.chainGroup →
    p.member < q.member → p.chainPosition < q.chainPosition
  tagged : ∀ {e i}, t.InUse e i → (t.server.slot e i).chainGroup ≠ 0 → ∃ p, t.From e i p ∧
    (t.server.slot e i).chainGroup = p.chainGroup ∧ (t.server.slot e i).chainPosition = UInt8.ofNat p.chainPosition
  apart : ∀ {e i p j q}, t.From e i p → t.From e j q → (t.server.slot e i).chainGroup ≠ 0 →
    (t.server.slot e i).chainGroup = (t.server.slot e j).chainGroup → p.frame = q.frame

/-- The slots after a member has been dispatched and tagged: an old one is untouched, and a filled one has got
    its group, or none if the member was not answered PENDING. -/
theorem callMember_cases {c : DispatchCall} (hfree : (Visit.call t c (some (lv.place t.frames))).GroupFree)
    {e : EndpointIx} {i : SlotIx} (hu : (t.callMember c lv).InUse e i) :
    (t.InUse e i ∧ (t.callMember c lv).server.slot e i = t.server.slot e i ∧
      (t.callMember c lv).origin e i = t.origin e i) ∨
    (t.server.findSlotOnStream c.env.streamId c.env.byteBusId = some e ∧
      (t.server.endpoints e).queue.firstFree = some i ∧ (t.callMember c lv).From e i (lv.place t.frames) ∧
      (((t.callMember c lv).server.slot e i).chainGroup = 0 ∨ (t.server.call c).result = .pending ∧
        ((t.callMember c lv).server.slot e i).chainGroup = lv.chainGroup ∧
        ((t.callMember c lv).server.slot e i).chainPosition = UInt8.ofNat lv.chainPosition)) := by
  have hcall : ((t.server.call c).server.slot e i).inUse = true := by
    obtain ⟨hin, -⟩ := MockServer.tagMember_slot (t.server.call c).server c.env.streamId c.env.byteBusId lv
      (t.server.call c).result e i
    exact hin.symm.trans hu
  have horigin : (t.callMember c lv).origin = t.noteOrigin c (some (lv.place t.frames)) := rfl
  -- Only the slot that the call has filled is tagged.
  have htag : (t.server.call c).result = .pending → ∃ e' i',
      t.server.findSlotOnStream c.env.streamId c.env.byteBusId = some e' ∧
      (t.server.endpoints e').queue.firstFree = some i' ∧
      (t.callMember c lv).server.slot e i =
        if e = e' ∧ i = i' then ((t.server.call c).server.slot e i).tagged lv.chainGroup lv.chainPosition
        else (t.server.call c).server.slot e i := by
    intro hp
    obtain ⟨e', i', slot, request, hfind, hfirst, hfresh, hset⟩ := MockServer.call_pending hp
    refine ⟨e', i', hfind, hfirst, ?_⟩
    have hlast : lastPendingIndex ((t.server.call c).server.endpoints e').queue = some i' := by
      rw [hset.endpoints, MockServer.setQueue_self]
      exact MockServer.lastPendingIndex_storeAt hfresh.inUse hfresh.sequence fun j hj => (hfree hp e' hfind j hj).1
    have hfind' : (t.server.call c).server.findSlotOnStream c.env.streamId c.env.byteBusId = some e' :=
      (hset.table.findSlotOnStream _ _).trans hfind
    simp only [callMember, MockServer.tagMember, hp, if_true, hfind']
    by_cases he : e = e'
    · subst he
      rw [MockServer.slot, MockServer.setQueue_self, MockServer.tagLastPending_pending, hlast, MockServer.slot]
      simp only [Option.some.injEq, true_and, eq_comm]
    · rw [MockServer.slot, MockServer.setQueue_other _ he, if_neg (fun h => he h.1), MockServer.slot]
  have hkeep : (t.server.call c).result ≠ .pending →
      (t.callMember c lv).server.slot e i = (t.server.call c).server.slot e i := by
    intro hp
    simp only [callMember, MockServer.tagMember, hp, if_false]
  rcases t.noteOrigin_cases c (some (lv.place t.frames)) hcall with ⟨hold, hslot, ho⟩ | ⟨hnew, hfilled, ho⟩
  · refine Or.inl ⟨hold, ?_, by rw [horigin, ho]⟩
    by_cases hp : (t.server.call c).result = .pending
    · obtain ⟨e', i', hfind, hfirst, htagged⟩ := htag hp
      rw [htagged, if_neg, hslot]
      rintro ⟨rfl, rfl⟩
      have hfree' := Endpoint.firstFree_free hfirst
      have hold' : ((t.server.endpoints e).queue.pending i).inUse = true := hold
      rw [hfree'] at hold'
      cases hold'
    · rw [hkeep hp, hslot]
  · refine Or.inr ⟨hfilled.found, hfilled.free, ⟨hu, _, by rw [horigin, ho], rfl⟩, ?_⟩
    by_cases hp : (t.server.call c).result = .pending
    · obtain ⟨e', i', hfind, hfirst, htagged⟩ := htag hp
      obtain rfl := Option.some.inj (hfind.symm.trans hfilled.found)
      obtain rfl := Option.some.inj (hfirst.symm.trans hfilled.free)
      rw [if_pos ⟨rfl, rfl⟩] at htagged
      rw [htagged]
      exact Or.inr ⟨hp, rfl, rfl⟩
    · obtain ⟨request, -, hfresh⟩ := hfilled.fresh
      rw [hkeep hp]
      exact Or.inl hfresh.chainGroup

/-- The invariant passes to a state whose requests and loop variables are old ones. -/
theorem Placed.of_old {t' : Tracked σ} {l' : FrameLoop} (h : t.Placed l) (hframes : t'.frames = t.frames)
    (hold : ∀ {e i p}, t'.From e i p → t.From e i p)
    (htag : ∀ {e i}, t'.InUse e i → (t'.server.slot e i).chainGroup ≠ 0 → t.InUse e i ∧
      t'.origin e i = t.origin e i ∧ (t'.server.slot e i).chainGroup = (t.server.slot e i).chainGroup ∧
      (t'.server.slot e i).chainPosition = (t.server.slot e i).chainPosition)
    (hindex : l.index ≤ l'.index) (hgroup : l'.chainGroup = l.chainGroup) (hpos : l'.chainPosition = l.chainPosition) :
    t'.Placed l' where
  group_le := by
    rw [hgroup]
    exact h.group_le.trans hindex
  position_le := by
    rw [hpos]
    exact h.position_le.trans hindex
  position_small hp := h.position_small (hold hp)
  behind hp := by
    rw [hframes, hgroup, hpos]
    exact (h.behind (hold hp)).imp id fun ⟨hf, hm, hg, hc⟩ => ⟨hf, hm.trans_le hindex, hg.trans hindex, hc⟩
  unique hp hq := h.unique (hold hp) (hold hq)
  ordered hp hq := h.ordered (hold hp) (hold hq)
  tagged := by
    intro e i hu hne
    obtain ⟨hu', horigin, hg, hc⟩ := htag hu hne
    rw [hg] at hne
    obtain ⟨p, ⟨-, a, ha, hap⟩, hpg, hpp⟩ := h.tagged hu' hne
    exact ⟨p, ⟨hu, a, horigin.trans ha, hap⟩, hg.trans hpg, hc.trans hpp⟩
  apart := by
    intro e i p j q hp hq hne heq
    obtain ⟨-, -, hgi, -⟩ := htag hp.1 hne
    obtain ⟨-, -, hgj, -⟩ := htag hq.1 (by rw [← heq]; exact hne)
    rw [hgi] at hne heq
    rw [hgj] at heq
    exact h.apart (hold hp) (hold hq) hne heq

theorem Placed.keep (h : t.Placed l) {srv : MockServer σ} (hk : t.server.Keeps srv) (clock : UInt32) :
    Placed { t with server := srv, clock := clock } l := by
  refine h.of_old rfl ?_ ?_ le_rfl rfl rfl
  · rintro e i p ⟨hu, a, ha, hap⟩
    exact ⟨(hk e i hu).1, a, ha, hap⟩
  · intro e i hu _
    obtain ⟨hu', hkept⟩ := hk e i hu
    exact ⟨hu', rfl, hkept.chainGroup, hkept.chainPosition⟩

/-- A request dispatched on its own has no place and no group. -/
theorem Placed.call (h : t.Placed l) (c : DispatchCall) : (t.call c).Placed l := by
  refine h.of_old rfl ?_ ?_ le_rfl rfl rfl
  · rintro e i p ⟨hu, a, ha, hap⟩
    rcases t.noteOrigin_cases c none hu with ⟨hold, -, ho⟩ | ⟨-, -, ho⟩
    · exact ⟨hold, a, ho.symm.trans ha, hap⟩
    · obtain rfl := Option.some.inj (ho.symm.trans ha)
      cases hap
  · intro e i hu hne
    rcases t.noteOrigin_cases c none hu with ⟨hold, hslot, ho⟩ | ⟨-, hfilled, -⟩
    · exact ⟨hold, ho, congrArg _ hslot, congrArg _ hslot⟩
    · obtain ⟨request, -, hfresh⟩ := hfilled.fresh
      exact absurd hfresh.chainGroup hne

theorem Placed.close (h : t.Placed l) : Placed { t with frames := t.frames + 1 } {} where
  group_le := le_rfl
  position_le := le_rfl
  position_small hp := h.position_small hp
  behind hp := by
    left
    have := h.behind hp
    dsimp only
    omega
  unique := h.unique
  ordered := h.ordered
  tagged := h.tagged
  apart := h.apart

/-- The group a turn gives out is no lower than the one before, and equal only within a chain. -/
theorem enters_group (hl : l.index < mockMaxFrameMembers) (henters : l.Enters lv) :
    lv.chainGroup = l.chainGroup ∧ lv.chainPosition = l.chainPosition + 1 ∨
      lv.chainGroup.toNat = l.index + 1 ∧ lv.chainPosition = 0 := by
  rcases henters.chain with h | ⟨hg, hp⟩
  · exact Or.inl h
  · refine Or.inr ⟨?_, hp⟩
    rw [hg, UInt32.toNat_add, UInt32.toNat_ofNat']
    have : mockMaxFrameMembers = 32 := rfl
    have hone : (1 : UInt32).toNat = 1 := rfl
    omega

theorem Placed.skip (h : t.Placed l) (hl : l.index < mockMaxFrameMembers) (henters : l.Enters lv ∨ lv = l)
    (out : FrameMemberResult) (prevErrored : Bool) : t.Placed (lv.finish out prevErrored) := by
  rcases henters with henters | rfl
  · have hg := h.group_le
    have hpos := h.position_le
    have hindex : (lv.finish out prevErrored).index = l.index + 1 := congrArg (· + 1) henters.index
    have hgroup : (lv.finish out prevErrored).chainGroup = lv.chainGroup := rfl
    have hposition : (lv.finish out prevErrored).chainPosition = lv.chainPosition := rfl
    refine { h with group_le := ?_, position_le := ?_, behind := ?_ }
    · rw [hindex, hgroup]
      rcases enters_group hl henters with ⟨h1, -⟩ | ⟨h1, -⟩
      · rw [h1]
        omega
      · omega
    · rw [hindex, hposition]
      rcases enters_group hl henters with ⟨-, h1⟩ | ⟨-, h1⟩ <;> omega
    · intro e i p hp
      rw [hindex, hgroup, hposition]
      refine (h.behind hp).imp id fun ⟨hf, hm, hpg, hc⟩ => ⟨hf, by omega, by omega, fun heq => ?_⟩
      rcases enters_group hl henters with ⟨h1, h2⟩ | ⟨h1, -⟩
      · have := hc (heq.trans h1)
        omega
      · rw [heq] at hpg
        omega
  · exact h.of_old rfl id (fun hu _ => ⟨hu, rfl, rfl, rfl⟩) (Nat.le_succ _) rfl rfl

/-- A turn of the loop adds at most one place, the one of its member. -/
theorem Placed.turn (h : t.Placed l) {c : DispatchCall} (hl : l.index < mockMaxFrameMembers) (henters : l.Enters lv)
    (hfree : (Visit.call t c (some (lv.place t.frames))).GroupFree) (out : FrameMemberResult) (prevErrored : Bool) :
    (t.callMember c lv).Placed (lv.finish out prevErrored) := by
  have hs := h.skip hl (Or.inl henters) out prevErrored
  have hmember : (lv.place t.frames).member = l.index := henters.index
  have hindex : (lv.finish out prevErrored).index = l.index + 1 := congrArg (· + 1) henters.index
  have hbehind : ∀ {e i p}, t.From e i p → p.frame < t.frames ∨ p.frame = t.frames ∧ p.member < l.index :=
    fun hp => (h.behind hp).imp id fun hp => ⟨hp.1, hp.2.1⟩
  -- A place is an old one, or the one of the member, in the slot that was filled.
  have hcases : ∀ {e i p}, (t.callMember c lv).From e i p →
      t.From e i p ∧ (t.callMember c lv).server.slot e i = t.server.slot e i ∨
      p = lv.place t.frames ∧ t.server.findSlotOnStream c.env.streamId c.env.byteBusId = some e ∧
        (t.server.endpoints e).queue.firstFree = some i ∧
        (((t.callMember c lv).server.slot e i).chainGroup ≠ 0 → (t.server.call c).result = .pending ∧
          ((t.callMember c lv).server.slot e i).chainGroup = lv.chainGroup) := by
    rintro e i p ⟨hu, a, ha, hap⟩
    rcases callMember_cases hfree hu with ⟨hold, hslot, ho⟩ | ⟨hfind, hfirst, hplace, hgroup⟩
    · exact Or.inl ⟨⟨hold, a, ho.symm.trans ha, hap⟩, hslot⟩
    · exact Or.inr ⟨From.unique ⟨hu, a, ha, hap⟩ hplace, hfind, hfirst,
        fun hne => hgroup.elim (absurd · hne) fun hg => ⟨hg.1, hg.2.1⟩⟩
  refine ⟨hs.group_le, hs.position_le, ?_, ?_, ?_, ?_, ?_, ?_⟩
  · intro e i p hp
    rcases hcases hp with ⟨hold, -⟩ | ⟨rfl, -⟩
    · exact h.position_small hold
    · have := hs.position_le
      rw [hindex] at this
      exact this.trans hl
  · intro e i p hp
    rcases hcases hp with ⟨hold, -⟩ | ⟨rfl, -⟩
    · exact hs.behind hold
    · exact Or.inr ⟨rfl, by rw [hmember, hindex]; omega, hs.group_le, fun _ => le_rfl⟩
  · intro e i p e' j q hp hq hframe hm
    rcases hcases hp with ⟨hp, -⟩ | ⟨rfl, hfind, hfirst, -⟩ <;> rcases hcases hq with ⟨hq, -⟩ | ⟨rfl, hfind', hfirst', -⟩
    · exact h.unique hp hq hframe hm
    · have hframe' : p.frame = t.frames := hframe
      have := hbehind hp
      omega
    · have hframe' : t.frames = q.frame := hframe
      have := hbehind hq
      omega
    · obtain rfl := Option.some.inj (hfind.symm.trans hfind')
      exact ⟨rfl, Option.some.inj (hfirst.symm.trans hfirst')⟩
  · intro e i p e' j q hp hq hframe hgroup hm
    rcases hcases hp with ⟨hp, -⟩ | ⟨rfl, -⟩ <;> rcases hcases hq with ⟨hq, -⟩ | ⟨rfl, -⟩
    · exact h.ordered hp hq hframe hgroup hm
    · rcases h.behind hp with hlt | ⟨-, -, hle, hc⟩
      · exact absurd hframe hlt.ne
      have hgroup' : p.chainGroup = lv.chainGroup := hgroup
      have hposition : (lv.place t.frames).chainPosition = lv.chainPosition := rfl
      rcases enters_group hl henters with ⟨h1, h2⟩ | ⟨h1, -⟩
      · have := hc (hgroup'.trans h1)
        omega
      · rw [hgroup'] at hle
        omega
    · have hframe' : t.frames = q.frame := hframe
      have := hbehind hq
      omega
    · exact absurd hm (lt_irrefl _)
  · intro e i hu hne
    rcases callMember_cases hfree hu with ⟨hold, hslot, ho⟩ | ⟨-, -, hplace, hgroup⟩
    · rw [hslot] at hne ⊢
      obtain ⟨p, ⟨-, a, ha, hap⟩, hpg, hpp⟩ := h.tagged hold hne
      exact ⟨p, ⟨hu, a, ho.trans ha, hap⟩, hpg, hpp⟩
    · rcases hgroup with hzero | ⟨-, hg, hpos⟩
      · exact absurd hzero hne
      · exact ⟨_, hplace, hg, hpos⟩
  · intro e i p j q hp hq hne heq
    rcases hcases hp with ⟨hp, hslot⟩ | ⟨rfl, hfind, hfirst, hg⟩ <;>
      rcases hcases hq with ⟨hq, hslot'⟩ | ⟨rfl, hfind', hfirst', hg'⟩
    · rw [hslot] at hne heq
      rw [hslot'] at heq
      exact h.apart hp hq hne heq
    · obtain ⟨hpending, hgroup⟩ := hg' (by rw [← heq]; exact hne)
      rw [hgroup, hslot] at heq
      rw [hslot] at hne
      obtain ⟨q', hq', hframe⟩ := (hfree hpending e hfind' i hp.1).2 (by rwa [heq] at hne) heq
      rw [hp.unique hq']
      exact hframe
    · obtain ⟨hpending, hgroup⟩ := hg hne
      rw [hgroup, hslot'] at heq
      obtain ⟨q', hq', hframe⟩ := (hfree hpending e hfind j hq.1).2 (by rwa [hgroup] at hne) heq.symm
      rw [hq.unique hq']
      exact hframe.symm
    · rfl

theorem placed_invariant : Invariant (@Placed σ) Visit.GroupFree where
  keep _ clock h hk := h.keep hk clock
  call c h _ := h.call c
  turn _ out prevErrored h hl henters _ hfree := h.turn hl henters hfree out prevErrored
  skip out prevErrored h hl henters := h.skip hl henters out prevErrored
  close h := h.close

theorem placed_new (world : σ) : (new world).Placed {} where
  group_le := le_rfl
  position_le := le_rfl
  position_small hp := absurd hp.1 (new_free _ _ _)
  behind hp := absurd hp.1 (new_free _ _ _)
  unique hp := absurd hp.1 (new_free _ _ _)
  ordered hp := absurd hp.1 (new_free _ _ _)
  tagged hu := absurd hu (new_free _ _ _)
  apart hp := absurd hp.1 (new_free _ _ _)

/-! ### The scope of a clear-single -/

/-- What a clear-single takes out besides its target are the target's chained successors. -/
theorem Placed.succeeds (h : t.Placed l) {e : EndpointIx} {r j : SlotIx} (hr : t.InUse e r) (hj : t.InUse e j)
    (hjr : j ≠ r) (hgroup : (t.server.slot e r).chainGroup ≠ 0)
    (hsame : (t.server.slot e j).chainGroup = (t.server.slot e r).chainGroup)
    (hpos : (t.server.slot e r).chainPosition ≤ (t.server.slot e j).chainPosition) : t.Succeeds e r j := by
  obtain ⟨p, hp, hpg, hpp⟩ := h.tagged hr hgroup
  obtain ⟨q, hq, hqg, hqp⟩ := h.tagged hj (by rwa [hsame])
  have hframe : p.frame = q.frame := h.apart hp hq hgroup hsame.symm
  have hpq : p.chainGroup = q.chainGroup := by rw [← hpg, ← hqg, hsame]
  refine ⟨p, q, hp, hq, hframe.symm, hpq.symm, ?_⟩
  have hne : p.member ≠ q.member := fun hm => hjr (h.unique hp hq hframe hm).2.symm
  by_contra hge
  have hlt := h.ordered hq hp hframe.symm hpq.symm (by omega)
  have hsmall : p.chainPosition ≤ 32 := h.position_small hp
  rw [hpp, hqp, UInt8.le_iff_toNat_le, UInt8.toNat_ofNat', UInt8.toNat_ofNat'] at hpos
  omega

theorem applyCancellation_clearSingle {queue : Endpoint} {request : Octets} {byteBusId byteBusId' : ByteBusId}
    {targetTn tn : UInt8} (h : cancelDecodeClearSingle request = .ok (byteBusId', targetTn, tn)) :
    MockServer.applyCancellation queue RequestType.clearSingle request byteBusId =
      MockServer.applyClearSingle queue byteBusId targetTn tn := by
  unfold MockServer.applyCancellation
  rw [if_neg (by decide), if_neg (by decide), if_pos rfl, h]

theorem Placed.call_clearsOnly (h : t.Placed l) (c : DispatchCall) (place : Option FramePlace) :
    (Visit.call t c place).ClearsOnly := by
  intro e request byteBusId targetTn tn r hfind hresult hdelivered hpeek hdecode hr
  obtain ⟨e', requestType, request', hfind', hreq, hpeek', hset⟩ := MockServer.call_cancelled hresult
  obtain rfl := Option.some.inj (hfind'.symm.trans hfind)
  obtain rfl := hreq request hdelivered
  obtain rfl := Except.ok.inj (hpeek'.symm.trans hpeek)
  rw [applyCancellation_clearSingle hdecode] at hset
  have hused : t.InUse e' r := (Endpoint.findTransaction_eq_some.mp hr).1.1
  refine ⟨by rw [hset.slot_self]; exact Endpoint.applyClearSingle_target hr, ?_⟩
  intro e'' j hj
  by_cases he : e'' = e'
  · subst he
    by_cases hjr : j = r
    · exact Or.inr ⟨rfl, Or.inl hjr⟩
    rcases Endpoint.applyClearSingle_pending hr hjr with hkept | ⟨hgroup, hsame, hpos⟩
    · left
      rw [hset.slot_self, hkept]
      exact hj
    · exact Or.inr ⟨rfl, Or.inr (h.succeeds hused hj hjr hgroup hsame hpos)⟩
  · left
    rw [hset.slot_other he]
    exact hj

theorem Placed.tick_clearsOnly (h : t.Placed l) (scope : Scope) (byteBusId : ByteBusId) (ctx : TickCtx) :
    (Visit.tick t scope byteBusId ctx).ClearsOnly := by
  intro e i response byteBusId' targetTn tn r hlookup htick hkind htype hdecode hr
  rw [MockServer.tickScoped_eq, hlookup] at htick ⊢
  dsimp only at htick ⊢
  obtain ⟨-, hendpoints, -⟩ := MockServer.tickSlot_executed htick
  have hused : t.InUse e r := (Endpoint.findTransaction_eq_some.mp hr).1.1
  -- The selection leaves the request, its target and its chain as they were.
  have hswept : ∀ j, Pending.SameRequest (t.server.slot e j)
      (((t.server.endpoints e).queue.selectDue (t.server.tickCtx ctx)).2.pending j) := by
    intro j
    rw [Endpoint.selectDue_endpoint, Endpoint.withPending_pending]
    exact Pending.swept_sameRequest _ _ _
  have hr' := (Endpoint.selectDue_findTransaction (t.server.endpoints e).queue (t.server.tickCtx ctx) targetTn).trans hr
  have hexec : MockServer.executedQueue ((t.server.endpoints e).queue.selectDue (t.server.tickCtx ctx)).2 i byteBusId =
      (MockServer.applyClearSingle ((t.server.endpoints e).queue.selectDue (t.server.tickCtx ctx)).2 byteBusId
        targetTn tn).2 := by
    unfold MockServer.executedQueue
    rw [hswept i, if_pos hkind]
    dsimp only
    rw [htype, applyCancellation_clearSingle hdecode]
  rw [hexec] at hendpoints
  generalize ((t.server.endpoints e).queue.selectDue (t.server.tickCtx ctx)).2 = queue at hendpoints hswept hr'
  generalize (t.server.tickSlot e byteBusId ctx).2 = srv at hendpoints ⊢
  have hself : ∀ j, srv.slot e j = ((MockServer.applyClearSingle queue byteBusId targetTn tn).2.complete i
      (t.server.tickCtx ctx)).2.1.pending j := by
    intro j
    rw [MockServer.slot, hendpoints, MockServer.setQueue_self]
  have hgone : ((MockServer.applyClearSingle queue byteBusId targetTn tn).2.pending r).inUse = false :=
    Endpoint.applyClearSingle_target hr'
  constructor
  · rw [hself]
    by_contra hstays
    obtain ⟨hstays', -⟩ := Endpoint.Keeps.complete _ i (t.server.tickCtx ctx) r (by simpa using hstays)
    rw [hgone] at hstays'
    cases hstays'
  · intro e' j hj
    by_cases he : e' = e
    · subst he
      by_cases hji : j = i
      · exact Or.inr ⟨rfl, Or.inl hji⟩
      by_cases hjr : j = r
      · exact Or.inr ⟨rfl, Or.inr (Or.inl hjr)⟩
      have hval : j.val ≠ i.val := fun hval => hji (Fin.ext hval)
      rcases Endpoint.applyClearSingle_pending hr' hjr with hkept | ⟨hgroup, hsame, hpos⟩
      · left
        rw [hself, Endpoint.complete_other _ hval, hkept, (hswept j).inUse]
        exact hj
      · rw [hswept r, hswept j] at hsame hpos
        rw [hswept r] at hgroup
        exact Or.inr ⟨rfl, Or.inr (Or.inr (h.succeeds hused hj hjr hgroup hsame hpos))⟩
    · left
      rw [MockServer.slot, hendpoints, MockServer.setQueue_other _ he]
      exact hj

theorem Placed.groupsApart (h : t.Placed l) : t.GroupsApart := by
  intro e i j hi hj hne heq
  obtain ⟨p, hp, hpg, -⟩ := h.tagged hi hne
  obtain ⟨q, hq, hqg, -⟩ := h.tagged hj (by rwa [← heq])
  exact ⟨p, q, hp, hq, h.apart hp hq hne heq, by rw [← hpg, ← hqg, heq]⟩

/-- In a run in which every member that is stored finds its `chain_group` free, the groups tell the chains apart,
    and a clear-single takes out its target and the target's chained successors only. -/
theorem clear_single_scope (world : σ) (ops : List (MockOp σ)) (h : ∀ v ∈ (new world).visits ops, v.GroupFree) :
    ∀ v ∈ (new world).visits ops, v.state.GroupsApart ∧ v.ClearsOnly := by
  intro v hv
  obtain ⟨-, hvisits⟩ := placed_invariant.run ops (placed_new world) h
  obtain ⟨l, hplaced⟩ := hvisits v hv
  refine ⟨hplaced.groupsApart, ?_⟩
  cases v with
  | call t c place => exact hplaced.call_clearsOnly c place
  | tick t scope byteBusId ctx => exact hplaced.tick_clearsOnly scope byteBusId ctx

/-! ### One chain, and two frames -/

open MockServer (bringUp bus1 stream9 triggered7 chainedAbort)

/-- A clear-single for the request with transaction number 7. -/
def clear7 : Octets := [0x1A, 0x04, 0x00, 0x01, 0x00, 0x09, 0x80, 0x00, 0x07, 0, 0, 7, 0, 0, 0, 0]
/-- A triggered request with transaction number 8. -/
def triggered8 : Octets := [0x1A, 0x04, 0x00, 0x01, 0x00, 0x08, 0x80, 0x00, 0x0E, 2, 3, 0, 0, 0, 0, 0]

def storeFrame (frame : Octets) : MockOp Unit := .dispatchFrame .plain stream9 frame 32
def clearCall : DispatchCall := .dispatch (bus1 Acf.msgTypeGbb) clear7

theorem clear_single_scope_one_chain :
    (∀ v ∈ (new ()).visits (bringUp ++ [storeFrame (triggered7 ++ chainedAbort), .call clearCall]), v.GroupFree) ∧
    ∀ v ∈ (new ()).visits (bringUp ++ [storeFrame (triggered7 ++ chainedAbort), .call clearCall]),
      v.state.GroupsApart ∧ v.ClearsOnly :=
  ⟨by decide +kernel, clear_single_scope () _ (by decide +kernel)⟩

/-- Two frames of one triggered request each. Both requests are the first members of their frames. -/
def twoFrames : List (MockOp Unit) := bringUp ++ [storeFrame triggered7, storeFrame triggered8]

/-- Clearing the request of the first frame takes out the request of the second one too. -/
theorem twoFrames_cleared_together : ¬∀ (ops : List (MockOp Unit)), ∀ v ∈ (new ()).visits ops, v.ClearsOnly := by
  intro h
  have hv : Visit.call ((new ()).run twoFrames) clearCall none ∈ (new ()).visits (twoFrames ++ [.call clearCall]) := by
    rw [visits_append]
    exact List.mem_append_right _ (List.mem_singleton_self _)
  obtain ⟨-, honly⟩ := h _ _ hv 0 clear7 1 7 9 0 (by decide +kernel) (by decide +kernel) rfl (by decide +kernel)
    (by decide +kernel) (by decide +kernel)
  have hused : ((new ()).run twoFrames).InUse 0 1 := by decide +kernel
  have hgone : ((((new ()).run twoFrames).server.call clearCall).server.slot 0 1).inUse = false := by decide +kernel
  have hframe : (((new ()).run twoFrames).place 0 0).map (·.frame) = some 0 := by decide +kernel
  have hframe' : (((new ()).run twoFrames).place 0 1).map (·.frame) = some 1 := by decide +kernel
  rcases honly 0 1 hused with hstays | ⟨-, hr | ⟨p, q, hp, hq, hsame, -, -⟩⟩
  · rw [hgone] at hstays
    cases hstays
  · exact absurd hr (by decide)
  · rw [from_iff_place.mp hp] at hframe
    rw [from_iff_place.mp hq] at hframe'
    simp only [Option.map_some, Option.some.injEq] at hframe hframe'
    omega

end Tracked
end Rcp
