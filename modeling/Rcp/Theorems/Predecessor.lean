import Rcp.Theorems.Provenance

/-! The order of a chain: a chained request and its predecessor in the frame. The frame loop tells the store that
    the predecessor is done, at time 0, as soon as the chained request is in it. -/

namespace Rcp

/-- The chain_exec_delay of a request that is delivered as a chained one. -/
def MockServer.chainExecDelayOf {σ : Type} (srv : MockServer σ) (c : DispatchCall) : Option UInt16 :=
  (srv.delivered c).bind fun request => (chainedDecodeMember request).toOption.map (·.chainExecDelay)

/-- The predecessor was answered for good when the member was dispatched: it was neither stored nor queued. -/
def FramePlace.PredecessorAnswered (p : FramePlace) : Prop :=
  p.predecessor ≠ some .pending ∧ p.predecessor ≠ some .queued

instance (p : FramePlace) : Decidable p.PredecessorAnswered := inferInstanceAs (Decidable (_ ∧ _))

namespace Tracked
variable {σ : Type} {t : Tracked σ} {l lv : FrameLoop}

/-- The request before place `p` in its frame is in no store. -/
def PredecessorGone (t : Tracked σ) (p : FramePlace) : Prop :=
  ∀ e j q, t.From e j q → ¬(q.frame = p.frame ∧ q.member + 1 = p.member)

instance (t : Tracked σ) (p : FramePlace) : Decidable (t.PredecessorGone p) :=
  decidable_of_iff (∀ e j, ∀ q ∈ t.place e j, ¬(q.frame = p.frame ∧ q.member + 1 = p.member))
    (by simp only [PredecessorGone, from_iff_place, Option.mem_def])

/-- If the tick selects a chained request that is not the first of its frame, its predecessor is in no store any
    more, and chain_exec_delay ticks have gone by since the predecessor finished. A predecessor that was answered
    for good finished in the frame of its successor, so at the tick that was the latest then. -/
def RunsAfterPredecessor (t : Tracked σ) (scope : Scope) (byteBusId : ByteBusId) (ctx : TickCtx) : Prop :=
  ∀ e i response a p, t.server.lookup scope byteBusId = some e →
    (t.server.tickScoped scope byteBusId ctx).1 = some (i, response) → (t.server.slot e i).kind = .chained →
    t.origin e i = some a → a.place = some p → p.member ≠ 0 →
    t.PredecessorGone p ∧ p.PredecessorAnswered ∧
      (t.server.slot e i).chainExecDelay.toNat ≤ (ctx.now - a.clock).toNat

end Tracked

/-- When a chained member is stored, its predecessor is finished, and the time is 0 or there is no delay. -/
def Visit.PredecessorDone {σ : Type} : Visit σ → Prop
  | .call t c (some p) => (t.server.call c).result = .pending → p.member ≠ 0 →
    ∀ delay ∈ t.server.chainExecDelayOf c,
      t.PredecessorGone p ∧ p.PredecessorAnswered ∧ (t.clock = 0 ∨ delay = 0)
  | _ => True

instance {σ : Type} (v : Visit σ) : Decidable v.PredecessorDone :=
  match v with
  | .call t c (some p) =>
    -- One delay at most: this instance must not be the one that tries every number.
    letI : Decidable (∀ delay ∈ t.server.chainExecDelayOf c,
        t.PredecessorGone p ∧ p.PredecessorAnswered ∧ (t.clock = 0 ∨ delay = 0)) := Option.decidableForallMem _
    inferInstanceAs (Decidable (_ → _ → ∀ delay ∈ t.server.chainExecDelayOf c,
      t.PredecessorGone p ∧ p.PredecessorAnswered ∧ (t.clock = 0 ∨ delay = 0)))
  | .call _ _ none | .tick .. => isTrue trivial

namespace Tracked
variable {σ : Type} {t : Tracked σ} {l lv : FrameLoop}

/-- What `PredecessorDone` gives as long as the request is stored. -/
structure Sequential (t : Tracked σ) (l : FrameLoop) : Prop where
  behind : ∀ {e i p}, t.From e i p → p.frame < t.frames ∨ p.frame = t.frames ∧ p.member < l.index
  timer : ∀ {e i}, t.InUse e i → (t.server.slot e i).kind = .chained → (t.server.slot e i).armedAt = 0
  after : ∀ {e i a p}, t.InUse e i → t.origin e i = some a → a.place = some p →
    (t.server.slot e i).kind = .chained → p.member ≠ 0 →
    t.PredecessorGone p ∧ p.PredecessorAnswered ∧ (a.clock = 0 ∨ (t.server.slot e i).chainExecDelay = 0)

/-- Nothing is stored that was not stored before, with the same origin. -/
theorem Sequential.of_old {t' : Tracked σ} {l' : FrameLoop} (h : t.Sequential l) (horigin : t'.origin = t.origin)
    (hold : ∀ {e i}, t'.InUse e i →
      t.InUse e i ∧ Pending.Continues (t.server.slot e i) (t'.server.slot e i))
    (hloop : t.frames = t'.frames ∧ l.index ≤ l'.index ∨ t.frames < t'.frames) : t'.Sequential l' := by
  have hfrom : ∀ {e i p}, t'.From e i p → t.From e i p := by
    rintro e i p ⟨hu, a, ha, hap⟩
    rw [horigin] at ha
    exact ⟨(hold hu).1, a, ha, hap⟩
  refine ⟨?_, ?_, ?_⟩
  · intro e i p hp
    have := h.behind (hfrom hp)
    omega
  · intro e i hu hk
    obtain ⟨hu', hcont⟩ := hold hu
    rw [hcont.kind] at hk
    exact hcont.armedAt hk (h.timer hu' hk)
  · intro e i a p hu ha hap hk hm
    obtain ⟨hu', hcont⟩ := hold hu
    rw [horigin] at ha
    rw [hcont.kind] at hk
    obtain ⟨hgone, hans, hdelay⟩ := h.after hu' ha hap hk hm
    exact ⟨fun e' j q hq => hgone e' j q (hfrom hq), hans, hdelay.imp id hcont.chainExecDelay.trans⟩

/-- The chain_exec_delay of a slot filled with a chained request is the delivered one. -/
theorem filled_chained {srv : MockServer σ} {c : DispatchCall} {result : DispatchResult} {e : EndpointIx} {i : SlotIx}
    {slot : Pending} (h : srv.Filled c result e i slot) (hd : (srv.delivered c).isSome) (hk : slot.kind = .chained) :
    result = .pending ∧ srv.chainExecDelayOf c = some slot.chainExecDelay := by
  obtain ⟨request, hreq, hfresh⟩ := h.fresh
  obtain ⟨m, hm, hdelay⟩ := hfresh.chained hk
  obtain ⟨r, hr⟩ := Option.isSome_iff_exists.mp hd
  obtain rfl := hreq r hr
  refine ⟨?_, by simp [MockServer.chainExecDelayOf, hr, hm, hdelay, Except.toOption]⟩
  rcases h.answer with ⟨hp, -⟩ | ⟨-, hne⟩
  · exact hp
  · exact absurd hk hne

/-- A dispatch that notes `place`, and whatever is done to the request it has stored. -/
theorem Sequential.dispatch {l' : FrameLoop} {c : DispatchCall} {place : Option FramePlace} {srv : MockServer σ}
    (h : t.Sequential l)
    (hsrv : ∀ e i, (srv.slot e i).inUse = ((t.server.call c).server.slot e i).inUse ∧
      Pending.Continues ((t.server.call c).server.slot e i) (srv.slot e i))
    (hplace : ∀ p, place = some p → p.frame = t.frames ∧ p.member = l.index ∧ l.index < l'.index ∧
      (t.server.delivered c).isSome ∧ (Visit.call t c (some p)).PredecessorDone)
    (hloop : l.index ≤ l'.index) :
    Sequential { t with server := srv, origin := t.noteOrigin c place } l' := by
  -- A request is an old one, or it is at the place just noted.
  have hfrom : ∀ {e i p}, Tracked.From { t with server := srv, origin := t.noteOrigin c place } e i p →
      t.From e i p ∨ place = some p := by
    rintro e i p ⟨hu, a, ha, hap⟩
    rcases t.noteOrigin_cases c place ((hsrv e i).1.symm.trans hu) with ⟨hu', -, ho⟩ | ⟨-, -, ho⟩
    · exact Or.inl ⟨hu', a, ho.symm.trans ha, hap⟩
    · obtain rfl := Option.some.inj (ho.symm.trans ha)
      exact Or.inr hap
  refine ⟨?_, ?_, ?_⟩
  · intro e i p hp
    rcases hfrom hp with hold | hnew
    · exact (h.behind hold).imp id fun hb => ⟨hb.1, hb.2.trans_le hloop⟩
    · obtain ⟨hf, hm, hlt, -⟩ := hplace p hnew
      exact Or.inr ⟨hf, by rw [hm]; exact hlt⟩
  · intro e i hu hk
    obtain ⟨hin, hcont⟩ := hsrv e i
    have hk' := hcont.kind.symm.trans hk
    refine hcont.armedAt hk' ?_
    rcases t.noteOrigin_cases c place (hin.symm.trans hu) with ⟨hu', hslot, -⟩ | ⟨-, hfilled, -⟩
    · rw [hslot] at hk' ⊢
      exact h.timer hu' hk'
    · obtain ⟨request, -, hfresh⟩ := hfilled.fresh
      exact hfresh.armedAt
  · intro e i a p hu ha hap hk hm
    obtain ⟨hin, hcont⟩ := hsrv e i
    have hk' := hcont.kind.symm.trans hk
    rcases t.noteOrigin_cases c place (hin.symm.trans hu) with ⟨hu', hslot, ho⟩ | ⟨-, hfilled, ho⟩
    · rw [hslot] at hk' hcont
      have ha' := ho.symm.trans ha
      obtain ⟨hgone, hans, hdelay⟩ := h.after hu' ha' hap hk' hm
      refine ⟨?_, hans, hdelay.imp id hcont.chainExecDelay.trans⟩
      intro e' j q hq
      rcases hfrom hq with hold | hnew
      · exact hgone e' j q hold
      -- The new member is behind `p` in its frame, not before it.
      · obtain ⟨hf, hmem, -, -⟩ := hplace q hnew
        have := h.behind ⟨hu', a, ha', hap⟩
        rintro ⟨hframe, hsucc⟩
        omega
    · obtain rfl := Option.some.inj (ho.symm.trans ha)
      obtain ⟨hf, hmem, -, hdelivered, hdone⟩ := hplace p hap
      obtain ⟨hpending, hdelay⟩ := filled_chained hfilled hdelivered hk'
      obtain ⟨hgone, hans, hclock⟩ := hdone hpending hm _ hdelay
      refine ⟨?_, hans, hclock.imp id hcont.chainExecDelay.trans⟩
      intro e' j q hq
      rcases hfrom hq with hold | hnew
      · exact hgone e' j q hold
      · obtain rfl := Option.some.inj (hnew.symm.trans hap)
        rintro ⟨-, hsucc⟩
        omega

theorem sequential_invariant : Invariant (@Sequential σ) Visit.PredecessorDone where
  keep _ _ h hk :=
    h.of_old rfl (fun hu => ⟨(hk _ _ hu).1, (hk _ _ hu).2.toContinues⟩) (Or.inl ⟨rfl, le_rfl⟩)
  call c h _ :=
    h.dispatch (fun e i => ⟨rfl, (Pending.Kept.refl _).toContinues⟩) (fun p hp => nomatch hp) le_rfl
  turn c out prevErrored h _ henters hdelivered hP := by
    have hindex : (FrameLoop.finish _ out prevErrored).index = _ + 1 := congrArg (· + 1) henters.index
    refine h.dispatch (fun e i => MockServer.tagMember_slot _ _ _ _ _ e i) ?_ (by rw [hindex]; omega)
    intro p hp
    obtain rfl := Option.some.inj hp
    exact ⟨rfl, henters.index, by rw [hindex]; omega, hdelivered, hP⟩
  skip out prevErrored h _ henters := by
    refine h.of_old rfl (fun hu => ⟨hu, (Pending.Kept.refl _).toContinues⟩) (Or.inl ⟨rfl, ?_⟩)
    rcases henters with henters | rfl
    · have hindex : (FrameLoop.finish _ out prevErrored).index = _ + 1 := congrArg (· + 1) henters.index
      rw [hindex]
      omega
    · exact Nat.le_succ _
  close h := h.of_old rfl (fun hu => ⟨hu, (Pending.Kept.refl _).toContinues⟩) (Or.inr (Nat.lt_succ_self _))

theorem sequential_new (world : σ) : (new world).Sequential {} where
  behind hp := absurd hp.1 (new_free _ _ _)
  timer hu := absurd hu (new_free _ _ _)
  after hu := absurd hu (new_free _ _ _)

/-! ### Selecting a chained request -/

/-- A due chained request has waited for its delay, counted from its timer origin. -/
theorem due_chained {ep : Endpoint} {ctx : TickCtx} {i : SlotIx} (h : ep.due ctx i = true)
    (hk : (ep.pending i).kind = .chained) :
    (ep.pending i).chainExecDelay.toNat ≤ (ctx.now - (ep.pending i).armedAt).toNat := by
  unfold Endpoint.due at h
  obtain ⟨-, -, htimer⟩ := isDue_due (Bool.and_eq_true_iff.mp h).2
  have hslot : (isDue (ep.pending i) ep.epEnable ctx).2.kind = .chained ∧
      (isDue (ep.pending i) ep.epEnable ctx).2.chainExecDelay = (ep.pending i).chainExecDelay ∧
      (isDue (ep.pending i) ep.epEnable ctx).2.armedAt = (ep.pending i).armedAt := by
    rcases isDue_slot_cases (ep.pending i) ep.epEnable ctx with h | ⟨-, -, -, h⟩ <;> rw [h]
    · exact ⟨hk, rfl, rfl⟩
    · exact ⟨hk, rfl, by simp [Pending.arm, hk]⟩
  obtain ⟨hkind, hdelay, harmed⟩ := hslot
  have hexpired := (Bool.and_eq_true_iff.mp htimer).2
  unfold delayExpired at hexpired
  rw [hkind, hdelay, harmed] at hexpired
  have hle := of_decide_eq_true hexpired
  simpa [UInt32.le_iff_toNat_le] using hle

/-- In a run in which every chained member that is stored has a finished predecessor, and comes at time 0 or has no
    delay, no tick selects one ahead of its predecessor or of its delay. -/
theorem chained_runs_after_predecessor (world : σ) (ops : List (MockOp σ)) (scope : Scope) (byteBusId : ByteBusId)
    (ctx : TickCtx) (h : ∀ v ∈ (new world).visits ops, v.PredecessorDone) :
    ((new world).run ops).RunsAfterPredecessor scope byteBusId ctx := by
  obtain ⟨hseq, -⟩ := sequential_invariant.run ops (sequential_new world) h
  generalize (new world).run ops = t at hseq ⊢
  intro e i response a p hlookup htick hk ha hap hm
  rw [MockServer.tickScoped_eq, hlookup] at htick
  obtain ⟨hsel, -, -⟩ := MockServer.tickSlot_executed htick
  have hdue := (Endpoint.selectDue_minimal hsel).1
  have hu : t.InUse e i := Endpoint.due_inUse hdue
  obtain ⟨hgone, hans, hdelay⟩ := hseq.after hu ha hap hk hm
  refine ⟨hgone, hans, ?_⟩
  rcases hdelay with hzero | hzero
  · have hle := due_chained hdue hk
    rw [hzero, ← hseq.timer hu hk]
    exact hle
  · rw [hzero]
    exact Nat.zero_le _

open MockServer (bringUp stream9 writeTo chainedAbort)

def serveFrame (frame : Octets) : List (MockOp Unit) := bringUp ++ [.dispatchFrame .plain stream9 frame 32]

/-- The predecessor is a write that is executed at once; the tick selects the chained request. -/
theorem chained_runs_after_predecessor_write :
    (((new ()).run (serveFrame (writeTo 1 ++ chainedAbort))).server.tickScoped none 1
      { now := 5, endpointIdle := true }).1 = some (0, none) ∧
    ((new ()).run (serveFrame (writeTo 1 ++ chainedAbort))).RunsAfterPredecessor none 1
      { now := 5, endpointIdle := true } :=
  ⟨by decide +kernel, chained_runs_after_predecessor () _ none 1 _ (by decide +kernel)⟩

/-- A triggered request that waits for one occurrence. -/
def triggeredOnce : Octets := [0x1A, 0x04, 0x00, 0x01, 0x00, 0x07, 0x80, 0x00, 0x0E, 2, 3, 1, 0, 0, 0, 0]

/-- The tick selects the chained request while the triggered one before it in the frame waits in slot 0. -/
theorem chained_runs_ahead :
    ¬∀ (ops : List (MockOp Unit)) (scope : Scope) (byteBusId : ByteBusId) (ctx : TickCtx),
      ((new ()).run ops).RunsAfterPredecessor scope byteBusId ctx := by
  intro h
  have hplace : (((new ()).run (serveFrame (triggeredOnce ++ chainedAbort))).place 0 0).map
      (fun q => (q.frame, q.member)) = some (0, 0) := by decide +kernel
  have hplace' : ((((new ()).run (serveFrame (triggeredOnce ++ chainedAbort))).origin 0 1).bind (·.place)).map
      (fun p => (p.frame, p.member)) = some (0, 1) := by decide +kernel
  obtain ⟨q, hq, hq0⟩ := Option.map_eq_some_iff.mp hplace
  obtain ⟨p, hp, hp1⟩ := Option.map_eq_some_iff.mp hplace'
  obtain ⟨a, ha, hap⟩ := Option.bind_eq_some_iff.mp hp
  simp only [Prod.mk.injEq] at hq0 hp1
  obtain ⟨hgone, -⟩ := h (serveFrame (triggeredOnce ++ chainedAbort)) none 1 { endpointIdle := true } 0 1 none a p
    (by decide +kernel) (by decide +kernel) (by decide +kernel) ha hap (by omega)
  exact hgone 0 0 q (from_iff_place.mpr hq) ⟨by omega, by omega⟩

end Tracked
end Rcp
