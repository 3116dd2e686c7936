import Rcp.Theorems.Addressing
import Rcp.Theorems.SeqGate
import Rcp.Theorems.Unadmission
import Mathlib.Data.Fintype.Prod

/-! The safe-state broadcast: which endpoints it reaches, what it leaves in their stores and what it counts. The
    table of endpoint bindings ends at its first row with index 0. -/

namespace Rcp

/-! ### The buses of a stream -/

theorem foldl_epIdMapBuses (requestStreamIndex : UInt8) (entries : List EpIdMapEntry) :
    ∀ found : List ByteBusId, found.Nodup →
      let buses := entries.foldl (fun found e =>
        if e.requestStreamIndex ≠ requestStreamIndex ∨ e.byteBusId ∈ found then found else found ++ [e.byteBusId]) found
      buses.Nodup ∧ buses.length ≤ found.length + entries.length ∧
        ∀ b, b ∈ buses ↔ b ∈ found ∨ ∃ e ∈ entries, e.requestStreamIndex = requestStreamIndex ∧ e.byteBusId = b := by
  induction entries with
  | nil =>
    intro found hfound
    exact ⟨hfound, by simp, by simp⟩
  | cons e entries ih =>
    intro found hfound
    rw [List.foldl_cons]
    split
    · rename_i hskip
      obtain ⟨hnodup, hlen, hmem⟩ := ih found hfound
      refine ⟨hnodup, by simp only [List.length_cons]; omega, fun b => ?_⟩
      rw [hmem]
      constructor
      · rintro (h | ⟨e', he', h⟩)
        · exact Or.inl h
        · exact Or.inr ⟨e', List.mem_cons_of_mem e he', h⟩
      · rintro (h | ⟨e', he', hidx, hb⟩)
        · exact Or.inl h
        · rcases List.mem_cons.mp he' with rfl | he'
          · rcases hskip with hskip | hskip
            · exact absurd hidx hskip
            · exact Or.inl (hb ▸ hskip)
          · exact Or.inr ⟨e', he', hidx, hb⟩
    · rename_i hnew
      rw [not_or, not_not] at hnew
      have hfound' : (found ++ [e.byteBusId]).Nodup := by
        rw [List.nodup_append]
        refine ⟨hfound, List.nodup_singleton _, ?_⟩
        rintro a ha b hb rfl
        exact hnew.2 (List.mem_singleton.mp hb ▸ ha)
      obtain ⟨hnodup, hlen, hmem⟩ := ih _ hfound'
      refine ⟨hnodup, ?_, fun b => ?_⟩
      · rw [List.length_append, List.length_singleton] at hlen
        rw [List.length_cons]
        omega
      rw [hmem, List.mem_append, List.mem_singleton]
      constructor
      · rintro ((h | rfl) | ⟨e', he', h⟩)
        · exact Or.inl h
        · exact Or.inr ⟨e, List.mem_cons_self .., hnew.1, rfl⟩
        · exact Or.inr ⟨e', List.mem_cons_of_mem e he', h⟩
      · rintro (h | ⟨e', he', hidx, hb⟩)
        · exact Or.inl (Or.inl h)
        · rcases List.mem_cons.mp he' with rfl | he'
          · exact Or.inl (Or.inr hb.symm)
          · exact Or.inr ⟨e', he', hidx, hb⟩

/-- The projection lists each bus of the stream, and no bus twice. -/
theorem epIdMapByteBusIdsForStream_spec (entries : List EpIdMapEntry) (requestStreamIndex : UInt8) :
    (epIdMapByteBusIdsForStream entries requestStreamIndex).Nodup ∧
    (epIdMapByteBusIdsForStream entries requestStreamIndex).length ≤ entries.length ∧
    ∀ b, b ∈ epIdMapByteBusIdsForStream entries requestStreamIndex ↔
      ∃ e ∈ entries, e.requestStreamIndex = requestStreamIndex ∧ e.byteBusId = b := by
  obtain ⟨hnodup, hlen, hmem⟩ := foldl_epIdMapBuses requestStreamIndex entries [] List.nodup_nil
  refine ⟨hnodup, ?_, fun b => ?_⟩
  · rwa [List.length_nil, Nat.zero_add] at hlen
  · refine (hmem b).trans ⟨?_, Or.inr⟩
    rintro (h | h)
    · cases h
    · exact h

/-! ### What a broadcast removes -/

namespace MockServer
variable {σ : Type} {srv srv' srv'' : MockServer σ} {e : EndpointIx}

/-- The slots that are in use in `srv` and no longer in `srv'`. -/
def removed (srv srv' : MockServer σ) : Finset (EndpointIx × SlotIx) :=
  Finset.univ.filter fun p => (srv.slot p.1 p.2).inUse = true ∧ (srv'.slot p.1 p.2).inUse = false

theorem Purges.slot (h : Purges srv srv') (e : EndpointIx) (i : SlotIx) :
    srv'.slot e i = srv.slot e i ∨ srv'.slot e i = .zero := h.released e i

theorem removed_self (srv : MockServer σ) : srv.removed srv = ∅ := by
  refine Finset.filter_eq_empty_iff.mpr ?_
  rintro p - ⟨hu, hu'⟩
  rw [hu] at hu'
  cases hu'

/-- What two purges remove one after the other. -/
theorem removed_card_trans (h : Purges srv srv') (h' : Purges srv' srv'') :
    (srv.removed srv'').card = (srv.removed srv').card + (srv'.removed srv'').card := by
  have hdisj : Disjoint (srv.removed srv') (srv'.removed srv'') := by
    refine Finset.disjoint_filter.mpr ?_
    rintro p - ⟨-, hfree⟩ ⟨hu, -⟩
    rw [hfree] at hu
    cases hu
  rw [← Finset.card_union_of_disjoint hdisj]
  refine congrArg Finset.card (Finset.ext fun p => ?_)
  simp only [removed, Finset.mem_union, Finset.mem_filter, Finset.mem_univ, true_and]
  rcases h.slot p.1 p.2 with hs | hs <;> rcases h'.slot p.1 p.2 with hs' | hs' <;> rw [hs', hs]
  · cases (srv.slot p.1 p.2).inUse <;> simp
  · cases (srv.slot p.1 p.2).inUse <;> simp [Pending.zero]
  · cases (srv.slot p.1 p.2).inUse <;> simp [Pending.zero]
  · cases (srv.slot p.1 p.2).inUse <;> simp [Pending.zero]

theorem watchdogPurge_slot (srv : MockServer σ) (e e' : EndpointIx) (i : SlotIx) :
    (srv.watchdogPurge (some e)).2.slot e' i =
      if e' = e then Endpoint.purged (fun slot => !RequestType.isSafety slot.requestType) (srv.slot e i)
      else srv.slot e' i := by
  have hpending := Endpoint.releaseWhere_pending (fun slot => !e2eWatchdogPurgeShouldKeep slot.requestType)
    (srv.endpoints e).queue
  rw [slot, slot, slot, watchdogPurge_some]
  by_cases he : e' = e
  · subst he
    rw [if_pos rfl, setQueue_self]
    exact congrFun hpending i
  · rw [if_neg he, setQueue_other _ he]

theorem watchdogPurge_count (srv : MockServer σ) (found : Option EndpointIx) :
    (srv.watchdogPurge found).1 = (srv.removed (srv.watchdogPurge found).2).card := by
  cases found with
  | none => exact (congrArg Finset.card (removed_self srv)).symm
  | some e =>
    have hcount := Endpoint.releaseWhere_count (fun slot => !e2eWatchdogPurgeShouldKeep slot.requestType)
      (srv.endpoints e).queue
    refine hcount.trans ?_
    rw [List.countP_eq_length_filter, ← List.toFinset_card_of_nodup ((List.nodup_finRange _).filter _),
      ← Finset.card_map ⟨fun i => (e, i), fun _ _ h => (Prod.mk.inj h).2⟩]
    refine congrArg Finset.card (Finset.ext fun ⟨e', i⟩ => ?_)
    simp only [removed, Finset.mem_map, List.mem_toFinset, List.mem_filter, List.mem_finRange, true_and,
      Finset.mem_filter, Finset.mem_univ, watchdogPurge_slot]
    by_cases he : e' = e
    · subst he
      rw [if_pos rfl]
      have hdrop : ∀ slot : Pending, slot.inUse = true ∧
          (Endpoint.purged (fun slot => !RequestType.isSafety slot.requestType) slot).inUse = false ↔
          (slot.inUse && !RequestType.isSafety slot.requestType) = true := by
        intro slot
        unfold Endpoint.purged
        cases hu : slot.inUse <;> cases hs : RequestType.isSafety slot.requestType <;> simp [hu, hs, Pending.zero]
      rw [hdrop]
      constructor
      · rintro ⟨j, hj, heq⟩
        obtain ⟨-, rfl⟩ := Prod.mk.inj heq
        exact hj
      · exact fun hi => ⟨i, hi, rfl⟩
    · rw [if_neg he]
      constructor
      · rintro ⟨j, -, heq⟩
        exact absurd (Prod.mk.inj heq).1.symm he
      · rintro ⟨hu, hfree⟩
        rw [hu] at hfree
        cases hfree

/-! ### The endpoints a broadcast reaches -/

/-- The endpoint a row of the bindings of request stream `row` leads to. -/
def boundSlot (srv : MockServer σ) (row : StreamIx) (byteBusId : ByteBusId) : Option EndpointIx :=
  srv.findSlotOnStream (srv.requestStreamCfg.rows row).rxStreamId byteBusId

/-- Some of these rows bind endpoint `e` to request stream `row`. -/
def BoundBy (srv : MockServer σ) (row : StreamIx) (entries : List EpIdMapEntry) (e : EndpointIx) : Prop :=
  ∃ entry ∈ entries, entry.requestStreamIndex = UInt8.ofNat (row.val + 1) ∧ srv.boundSlot row entry.byteBusId = some e

/-- The rows before the first sentinel. -/
def liveRows (srv : MockServer σ) : List EpIdMapEntry := srv.epIdMap.take (epIdMapEffectiveCount srv.epIdMap)

/-- The first sentinel and what comes after it. -/
def deadRows (srv : MockServer σ) : List EpIdMapEntry := srv.epIdMap.drop (epIdMapEffectiveCount srv.epIdMap)

variable {row : StreamIx} {byteBusId : ByteBusId}

theorem toNat_rowIndex (row : StreamIx) : (UInt8.ofNat (row.val + 1)).toNat = row.val + 1 := by
  have hrow : row.val < 64 := row.isLt
  rw [UInt8.toNat_ofNat']
  exact Nat.mod_eq_of_lt (by omega)

theorem safeStateSlot_row (hrow : row.val < srv.requestStreamCfg.count.val) (byteBusId : ByteBusId) :
    srv.safeStateSlot (UInt8.ofNat (row.val + 1)) byteBusId = srv.boundSlot row byteBusId := by
  unfold safeStateSlot boundSlot
  simp only [toNat_rowIndex, Nat.add_sub_cancel]
  rw [dif_pos row.isLt, if_pos (Nat.succ_le_of_lt hrow)]

theorem Purges.boundSlot (h : Purges srv srv') (row : StreamIx) (byteBusId : ByteBusId) :
    srv'.boundSlot row byteBusId = srv.boundSlot row byteBusId := by
  unfold MockServer.boundSlot
  rw [h.streams, h.table.findSlotOnStream]

/-- An endpoint after its non-safety requests have been released. -/
def purgedEndpoint (slot : MockEndpoint σ) : MockEndpoint σ := { slot with queue := slot.queue.watchdogPurge.2 }

theorem purgedEndpoint_idem (slot : MockEndpoint σ) : purgedEndpoint (purgedEndpoint slot) = purgedEndpoint slot := by
  unfold purgedEndpoint
  dsimp only
  rw [Endpoint.watchdogPurge_idem]

theorem watchdogPurge_endpoints (srv : MockServer σ) (found : Option EndpointIx) (e : EndpointIx) :
    (srv.watchdogPurge found).2.endpoints e = if found = some e then purgedEndpoint (srv.endpoints e) else srv.endpoints e := by
  cases found with
  | none => rfl
  | some e' =>
    by_cases he : e = e'
    · subst he
      rw [if_pos rfl, watchdogPurge_some]
      simp [setQueue, setEndpoint, purgedEndpoint]
    · rw [if_neg fun h => he (Option.some.inj h).symm, watchdogPurge_some]
      exact setQueue_other _ he

/-- The turns of the broadcast loop over the given buses. -/
theorem broadcastLoop (hrow : row.val < srv.requestStreamCfg.count.val) (buses : List ByteBusId) (purged : Nat) :
    ∃ srv', buses.foldl
        (fun acc byteBusId =>
          let (purged, srv) := acc
          let (n, srv) := srv.watchdogPurge (srv.safeStateSlot (UInt8.ofNat (row.val + 1)) byteBusId)
          (purged + n, srv)) (purged, srv) = (purged + (srv.removed srv').card, srv') ∧
      Purges srv srv' ∧
      ∀ e, srv'.endpoints e =
        if ∃ b ∈ buses, srv.boundSlot row b = some e then purgedEndpoint (srv.endpoints e) else srv.endpoints e := by
  induction buses generalizing srv purged with
  | nil => exact ⟨srv, by simp [removed_self], .refl srv, by simp⟩
  | cons b buses ih =>
    have hfirst := Purges.watchdogPurge srv (srv.safeStateSlot (UInt8.ofNat (row.val + 1)) b)
    have hn := watchdogPurge_count srv (srv.safeStateSlot (UInt8.ofNat (row.val + 1)) b)
    have hends := watchdogPurge_endpoints srv (srv.safeStateSlot (UInt8.ofNat (row.val + 1)) b)
    generalize hturn : srv.watchdogPurge (srv.safeStateSlot (UInt8.ofNat (row.val + 1)) b) = turn at hfirst hn hends
    obtain ⟨n, srv₁⟩ := turn
    dsimp only at hfirst hn hends
    rw [safeStateSlot_row hrow] at hends
    have hrow₁ : row.val < srv₁.requestStreamCfg.count.val := by rwa [hfirst.streams]
    obtain ⟨srv', hloop, hpurges, hrest⟩ := ih hrow₁ (purged + n)
    refine ⟨srv', ?_, hfirst.trans hpurges, fun e => ?_⟩
    · rw [List.foldl_cons]
      dsimp only
      rw [hturn, hloop, removed_card_trans hfirst hpurges, hn, Nat.add_assoc]
    · rw [hrest e, hends e]
      simp only [hfirst.boundSlot, List.exists_mem_cons_iff]
      by_cases hb : srv.boundSlot row b = some e <;> by_cases hrest : ∃ b ∈ buses, srv.boundSlot row b = some e <;>
        simp [hb, hrest, purgedEndpoint_idem]

/-- What a broadcast for a configured request stream does. -/
theorem broadcastSafeState_spec (hrow : row.val < srv.requestStreamCfg.count.val)
    (hlen : srv.epIdMap.length ≤ epIdMapMaxEntries) :
    ∃ srv', srv.broadcastSafeState (UInt8.ofNat (row.val + 1)) = ((srv.removed srv').card, srv') ∧ Purges srv srv' ∧
      (∀ e, srv.BoundBy row srv.epIdMap e → srv'.endpoints e = purgedEndpoint (srv.endpoints e)) ∧
      ∀ e, ¬srv.BoundBy row srv.epIdMap e → srv'.endpoints e = srv.endpoints e := by
  obtain ⟨-, hbuses, hmem⟩ := epIdMapByteBusIdsForStream_spec srv.epIdMap (UInt8.ofNat (row.val + 1))
  have htake : (epIdMapByteBusIdsForStream srv.epIdMap (UInt8.ofNat (row.val + 1))).take mockMaxEndpoints =
      epIdMapByteBusIdsForStream srv.epIdMap (UInt8.ofNat (row.val + 1)) :=
    List.take_of_length_le (hbuses.trans hlen)
  have hbound : ∀ e, srv.BoundBy row srv.epIdMap e ↔
      ∃ b ∈ epIdMapByteBusIdsForStream srv.epIdMap (UInt8.ofNat (row.val + 1)), srv.boundSlot row b = some e := by
    intro e
    constructor
    · rintro ⟨entry, hentry, hidx, he⟩
      exact ⟨entry.byteBusId, (hmem _).mpr ⟨entry, hentry, hidx, rfl⟩, he⟩
    · rintro ⟨b, hb, he⟩
      obtain ⟨entry, hentry, hidx, rfl⟩ := (hmem b).mp hb
      exact ⟨entry, hentry, hidx, he⟩
  have hindex : UInt8.ofNat (row.val + 1) ≠ 0 := by
    intro h
    have hnat := toNat_rowIndex row
    rw [h] at hnat
    cases hnat
  obtain ⟨srv', hloop, hpurges, hends⟩ := broadcastLoop hrow
    (epIdMapByteBusIdsForStream srv.epIdMap (UInt8.ofNat (row.val + 1))) 0
  refine ⟨srv', ?_, hpurges, fun e he => ?_, fun e he => ?_⟩
  · unfold broadcastSafeState
    rw [if_neg hindex, htake, hloop, Nat.zero_add]
  · rw [hends e, if_pos ((hbound e).mp he)]
  · rw [hends e, if_neg fun h => he ((hbound e).mpr h)]

/-! ### Completeness and scope -/

/-- What the broadcast of request stream `row` is for: it reaches the endpoints bound by live rows and no other, it
    keeps what is tagged as safety, and it counts what it removes. -/
structure CompleteAndScoped (srv : MockServer σ) (row : StreamIx) (purged : Nat) (srv' : MockServer σ) : Prop where
  complete : ∀ e, srv.BoundBy row srv.liveRows e → ∀ i, (srv'.slot e i).inUse = true →
    RequestType.isSafety (srv'.slot e i).requestType = true
  untouched : ∀ e, ¬srv.BoundBy row srv.liveRows e → srv'.endpoints e = srv.endpoints e
  kept : ∀ e i, (srv.slot e i).inUse = true → RequestType.isSafety (srv.slot e i).requestType = true →
    srv'.slot e i = srv.slot e i
  count : purged = (srv.removed srv').card

theorem boundBy_append {l l' : List EpIdMapEntry} :
    srv.BoundBy row (l ++ l') e ↔ srv.BoundBy row l e ∨ srv.BoundBy row l' e := by
  simp only [BoundBy, List.mem_append, or_and_right, exists_or]

theorem boundBy_epIdMap : srv.BoundBy row srv.epIdMap e ↔ srv.BoundBy row srv.liveRows e ∨ srv.BoundBy row srv.deadRows e := by
  rw [← boundBy_append, liveRows, deadRows, List.take_append_drop]

theorem purgedEndpoint_slot (slot : MockEndpoint σ) (i : SlotIx) :
    (purgedEndpoint slot).queue.pending i =
      Endpoint.purged (fun slot => !RequestType.isSafety slot.requestType) (slot.queue.pending i) :=
  congrFun (Endpoint.releaseWhere_pending _ _) i

/-- A purge changes an endpoint exactly if it holds a request that is not tagged as safety. -/
theorem purgedEndpoint_eq_self_iff (slot : MockEndpoint σ) :
    purgedEndpoint slot = slot ↔ ∀ i, (slot.queue.pending i).inUse = true →
      RequestType.isSafety (slot.queue.pending i).requestType = true := by
  constructor
  · intro h i hu
    have hi := purgedEndpoint_slot slot i
    rw [h] at hi
    unfold Endpoint.purged at hi
    cases hs : RequestType.isSafety (slot.queue.pending i).requestType with
    | true => rfl
    | false =>
      simp only [hu, hs, Bool.not_false, Bool.and_self, if_true] at hi
      rw [hi] at hu
      cases hu
  · intro h
    have hqueue : slot.queue.watchdogPurge.2 = slot.queue := by
      rw [Endpoint.watchdogPurge_eq_cleared]
      conv_rhs => rw [← Endpoint.cleared_none slot.queue]
      refine Endpoint.cleared_congr fun j hu => ?_
      simp [e2eWatchdogPurgeShouldKeep, h j hu]
    unfold purgedEndpoint
    rw [hqueue]

/-- A broadcast is complete and scoped exactly if no endpoint that only dead rows bind to the stream holds a request
    that is not tagged as safety: the code reads the rows after the sentinel too. -/
theorem broadcast_complete_and_scoped_iff (srv : MockServer σ) (row : StreamIx)
    (hrow : row.val < srv.requestStreamCfg.count.val) (hlen : srv.epIdMap.length ≤ epIdMapMaxEntries) :
    srv.CompleteAndScoped row (srv.broadcastSafeState (UInt8.ofNat (row.val + 1))).1
        (srv.broadcastSafeState (UInt8.ofNat (row.val + 1))).2 ↔
      ∀ e, srv.BoundBy row srv.deadRows e → ¬srv.BoundBy row srv.liveRows e →
        ∀ i, (srv.slot e i).inUse = true → RequestType.isSafety (srv.slot e i).requestType = true := by
  obtain ⟨srv', hcall, hpurges, hbound, hother⟩ := broadcastSafeState_spec hrow hlen
  rw [hcall]
  dsimp only
  constructor
  · intro h e hdead hlive
    have hsame := h.untouched e hlive
    rw [hbound e (boundBy_epIdMap.mpr (Or.inr hdead))] at hsame
    exact (purgedEndpoint_eq_self_iff _).mp hsame
  · intro h
    refine ⟨fun e hlive i hu => ?_, fun e hlive => ?_, fun e i hu hs => ?_, rfl⟩
    · have hslot := purgedEndpoint_slot (srv.endpoints e) i
      rw [← hbound e (boundBy_epIdMap.mpr (Or.inl hlive))] at hslot
      change srv'.slot e i = _ at hslot
      rw [hslot] at hu ⊢
      unfold Endpoint.purged at hu ⊢
      split at hu
      · cases hu
      · rename_i hkeep
        rw [if_neg hkeep]
        simpa [hu] using hkeep
    · by_cases hdead : srv.BoundBy row srv.deadRows e
      · rw [hbound e (boundBy_epIdMap.mpr (Or.inr hdead))]
        exact (purgedEndpoint_eq_self_iff _).mpr (h e hdead hlive)
      · refine hother e fun hb => ?_
        rcases boundBy_epIdMap.mp hb with hb | hb
        · exact hlive hb
        · exact hdead hb
    · by_cases hb : srv.BoundBy row srv.epIdMap e
      · have hslot := purgedEndpoint_slot (srv.endpoints e) i
        rw [← hbound e hb] at hslot
        refine hslot.trans ?_
        unfold Endpoint.purged
        change (if (srv.slot e i).inUse && !RequestType.isSafety (srv.slot e i).requestType then _ else _) = _
        rw [hs, Bool.not_true, Bool.and_false]
        rfl
      · rw [slot, hother e hb, slot]

/-! ### A table whose binding is live, and one whose binding comes after the sentinel -/

/-- A request pending on bus 1, which the given rows bind to the one configured request stream. -/
def boundServer (entries : List EpIdMapEntry) : MockServer Unit :=
  triggeredPending.run [.setRequestStreamCfg [{ rxStreamId := 7 }], .setEpIdMap entries]

def liveBinding : List EpIdMapEntry := [{ requestStreamIndex := 1, byteBusId := 1 }]
def deadBinding : List EpIdMapEntry := { requestStreamIndex := 0 } :: liveBinding

theorem broadcast_complete_and_scoped_iff_live :
    (boundServer liveBinding).CompleteAndScoped 0 ((boundServer liveBinding).broadcastSafeState 1).1
      ((boundServer liveBinding).broadcastSafeState 1).2 := by
  have hdead : (boundServer liveBinding).deadRows = [] := by decide +kernel
  refine (broadcast_complete_and_scoped_iff (boundServer liveBinding) 0 (by decide +kernel) (by decide +kernel)).mpr ?_
  rintro e ⟨entry, hentry, -⟩
  rw [hdead] at hentry
  cases hentry

/-- The broadcast empties the store of an endpoint that only a row after the sentinel binds. -/
theorem broadcast_reads_dead_rows :
    ¬∀ (ops : List (MockOp Unit)) (row : StreamIx), row.val < ((new ()).run ops).requestStreamCfg.count.val →
      ((new ()).run ops).epIdMap.length ≤ epIdMapMaxEntries →
      ((new ()).run ops).CompleteAndScoped row
        (((new ()).run ops).broadcastSafeState (UInt8.ofNat (row.val + 1))).1
        (((new ()).run ops).broadcastSafeState (UInt8.ofNat (row.val + 1))).2 := by
  intro h
  have hops : (new ()).run (bringUp ++ [.call (.dispatch (bus1 Acf.msgTypeGbb) triggered7),
      .setRequestStreamCfg [{ rxStreamId := 7 }], .setEpIdMap deadBinding]) = boundServer deadBinding := by
    simp [boundServer, triggeredPending, run, List.foldl_append]
  have hcall := h (bringUp ++ [.call (.dispatch (bus1 Acf.msgTypeGbb) triggered7),
    .setRequestStreamCfg [{ rxStreamId := 7 }], .setEpIdMap deadBinding]) 0
  rw [hops] at hcall
  have hlive : (boundServer deadBinding).liveRows = [] := by decide +kernel
  have hsame := (hcall (by decide +kernel) (by decide +kernel)).untouched 0 (by
    rintro ⟨entry, hentry, -⟩
    rw [hlive] at hentry
    cases hentry)
  exact absurd (congrArg (fun slot => (slot.queue.pending 0).inUse) hsame) (by decide +kernel)

end MockServer
end Rcp
