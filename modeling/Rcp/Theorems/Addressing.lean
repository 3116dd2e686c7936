import Rcp.Lib.Registry
import Rcp.Lib.Slots
import Rcp.MockTable

/-! The endpoint table as a registry: each endpoint in use is registered under its byte bus, for one stream or for
    every stream. Registering and removing keep the registry unambiguous. -/

namespace Rcp

/-- Where a slot is registered. -/
def MockEndpoint.address {σ : Type} (slot : MockEndpoint σ) : Option (Lib.Addr ByteBusId UInt64) :=
  if slot.inUse then some ⟨slot.byteBusId, if slot.streamScoped then some slot.streamId else none⟩ else none

namespace MockServer
open Lib

variable {σ : Type} {srv srv' : MockServer σ} {e e' : EndpointIx} {streamId : UInt64} {byteBusId : ByteBusId}

/-- The registry behind the endpoint table. -/
def addresses (srv : MockServer σ) : EndpointIx → Option (Addr ByteBusId UInt64) := fun e => (srv.endpoints e).address

/-- The test of `find_slot_on_stream`. -/
def Matches (srv : MockServer σ) (streamId : UInt64) (byteBusId : ByteBusId) (e : EndpointIx) : Prop :=
  (srv.endpoints e).inUse = true ∧ (srv.endpoints e).byteBusId = byteBusId ∧
    ((srv.endpoints e).streamScoped = true → (srv.endpoints e).streamId = streamId)

theorem matches_iff_covers :
    srv.Matches streamId byteBusId e ↔ ∃ a, srv.addresses e = some a ∧ a.Covers streamId byteBusId := by
  unfold Matches addresses MockEndpoint.address Addr.Covers
  cases (srv.endpoints e).inUse <;> cases (srv.endpoints e).streamScoped <;> simp

theorem findSlotOnStream_matches (h : srv.findSlotOnStream streamId byteBusId = some e) :
    srv.Matches streamId byteBusId e := by
  obtain ⟨htest, -⟩ := Fin.find?_eq_some_iff.mp h
  simp only [Bool.and_eq_true, beq_iff_eq, Bool.or_eq_true, Bool.not_eq_true'] at htest
  obtain ⟨⟨hu, hb⟩, hs⟩ := htest
  refine ⟨hu, hb, fun hscoped => ?_⟩
  rcases hs with hs | hs
  · rw [hscoped] at hs
    cases hs
  · exact hs

theorem findSlotOnStream_eq_none :
    srv.findSlotOnStream streamId byteBusId = none ↔ ∀ e, ¬srv.Matches streamId byteBusId e := by
  unfold MockServer.findSlotOnStream
  rw [Fin.find?_eq_none_iff]
  refine forall_congr' fun e => ?_
  unfold Matches
  cases (srv.endpoints e).inUse <;> cases (srv.endpoints e).streamScoped <;> simp

theorem findSlot_eq_none :
    srv.findSlot byteBusId = none ↔ ∀ e a, srv.addresses e = some a → a.key ≠ byteBusId := by
  unfold MockServer.findSlot
  rw [Fin.find?_eq_none_iff]
  refine forall_congr' fun e => ?_
  unfold addresses MockEndpoint.address
  cases (srv.endpoints e).inUse <;> simp

/-- What holds of the endpoint table between any two calls. -/
structure Addressed (srv : MockServer σ) : Prop where
  unambiguous : Unambiguous srv.addresses
  count : srv.endpointCount = slotCount (·.inUse = true) srv.endpoints

theorem addresses_setEndpoint (srv : MockServer σ) (e : EndpointIx) (slot : MockEndpoint σ) :
    (srv.setEndpoint e slot).addresses = Function.update srv.addresses e slot.address := by
  funext e'
  unfold addresses setEndpoint
  by_cases he : e' = e
  · subst he
    simp
  · simp [he]

namespace Addressed

theorem new (world : σ) : (new world).Addressed where
  unambiguous := .empty
  count := by
    have hfree : ∀ e, ¬((MockServer.new world).endpoints e).inUse = true := fun _ => Bool.false_ne_true
    simp [slotCount, hfree]
    rfl

theorem endpointCount_le (h : srv.Addressed) : srv.endpointCount ≤ mockMaxEndpoints := by
  rw [h.count]
  exact (Finset.card_filter_le _ _).trans (by simp)

/-- The endpoint matching a lookup is the answer, whatever the order of the slots. -/
theorem findSlotOnStream_eq_some (h : srv.Addressed) :
    srv.findSlotOnStream streamId byteBusId = some e ↔ srv.Matches streamId byteBusId e := by
  refine ⟨findSlotOnStream_matches, fun hm => ?_⟩
  cases hfind : srv.findSlotOnStream streamId byteBusId with
  | none => exact absurd hm (findSlotOnStream_eq_none.mp hfind e)
  | some e' =>
    obtain ⟨a, ha, hc⟩ := matches_iff_covers.mp hm
    obtain ⟨a', ha', hc'⟩ := matches_iff_covers.mp (findSlotOnStream_matches hfind)
    rw [h.unambiguous.covers_unique ha' ha hc' hc]

/-- Putting a slot in use at a free place. -/
theorem addSlot (h : srv.Addressed) {slot : MockEndpoint σ} (hu : slot.inUse = true)
    (hnew : ∀ e, Unambiguous (Function.update srv.addresses e slot.address))
    (hok : srv.addSlot slot = .ok srv') : srv'.Addressed := by
  unfold MockServer.addSlot at hok
  split at hok
  · cases hok
  split at hok
  · cases hok
  rename_i e hfree
  obtain ⟨hunused, -⟩ := Fin.find?_eq_some_iff.mp hfree
  cases hok
  refine ⟨?_, ?_⟩
  · have haddr := addresses_setEndpoint srv e slot
    exact haddr ▸ hnew e
  · have hcount := slotCount_update_fill (q := fun s : MockEndpoint σ => s.inUse = true) (t := srv.endpoints) (i := e)
      (a := slot) (by simpa using hunused) hu
    exact (congrArg (· + 1) h.count).trans hcount.symm

theorem addEndpoint (h : srv.Addressed) {epEnable : Bool} {handler : Option (Handler σ)}
    (hok : srv.addEndpoint byteBusId epEnable handler = .ok srv') : srv'.Addressed := by
  unfold MockServer.addEndpoint at hok
  split at hok
  · cases hok
  rename_i hnone
  rw [Option.not_isSome_iff_eq_none] at hnone
  refine h.addSlot rfl (fun e => ?_) hok
  exact h.unambiguous.insert_unscoped e (findSlot_eq_none.mp hnone)

theorem addEndpointOnStream (h : srv.Addressed) {epEnable : Bool} {handler : Option (Handler σ)}
    (hok : srv.addEndpointOnStream streamId byteBusId epEnable handler = .ok srv') : srv'.Addressed := by
  unfold MockServer.addEndpointOnStream at hok
  split at hok
  · cases hok
  rename_i hnone
  rw [Option.not_isSome_iff_eq_none] at hnone
  refine h.addSlot rfl (fun e => ?_) hok
  refine h.unambiguous.insert_scoped e fun j b hb hc => ?_
  exact findSlotOnStream_eq_none.mp hnone j (matches_iff_covers.mpr ⟨b, hb, hc⟩)

/-- Giving a slot another handler moves nothing. -/
theorem setEndpoint (h : srv.Addressed) {slot : MockEndpoint σ} (hsame : slot.address = (srv.endpoints e).address)
    (hu : slot.inUse = (srv.endpoints e).inUse) : (srv.setEndpoint e slot).Addressed where
  unambiguous := by
    rw [addresses_setEndpoint, hsame]
    have hid : Function.update srv.addresses e (srv.endpoints e).address = srv.addresses := Function.update_eq_self e _
    rw [hid]
    exact h.unambiguous
  count := by
    have hcongr : slotCount (fun s : MockEndpoint σ => s.inUse = true) (srv.setEndpoint e slot).endpoints =
        slotCount (fun s : MockEndpoint σ => s.inUse = true) srv.endpoints := by
      refine slotCount_congr fun e' => ?_
      unfold MockServer.setEndpoint
      by_cases he : e' = e
      · subst he
        simp [hu]
      · simp [he]
    exact h.count.trans hcongr.symm

theorem removeSlot (h : srv.Addressed) (hu : (srv.endpoints e).inUse = true) : (srv.removeSlot e).Addressed where
  unambiguous := by
    have haddr := addresses_setEndpoint srv e {}
    exact haddr ▸ h.unambiguous.remove e
  count := by
    have hcount := slotCount_update_clear (q := fun s : MockEndpoint σ => s.inUse = true) (t := srv.endpoints) (i := e)
      (a := {}) hu Bool.false_ne_true
    have hpred : srv.endpointCount - 1 = slotCount (fun s : MockEndpoint σ => s.inUse = true)
        (Function.update srv.endpoints e {}) := by
      rw [h.count]
      omega
    exact hpred

end Addressed

/-- `find_slot` finds the endpoint that has just been added, so the last guard of `add_endpoint_multi_response`
    is never taken. -/
theorem addEndpoint_found {epEnable : Bool} {handler : Option (Handler σ)}
    (hok : srv.addEndpoint byteBusId epEnable handler = .ok srv') : ∃ e, srv'.findSlot byteBusId = some e := by
  unfold MockServer.addEndpoint MockServer.addSlot at hok
  split at hok
  · cases hok
  split at hok
  · cases hok
  split at hok
  · cases hok
  rename_i e _
  cases hok
  rw [← Option.isSome_iff_exists]
  unfold MockServer.findSlot
  rw [Fin.isSome_find?_iff]
  exact ⟨e, by simp [MockServer.setEndpoint]⟩

theorem findSlot_inUse (h : srv.findSlot byteBusId = some e) : (srv.endpoints e).inUse = true := by
  obtain ⟨htest, -⟩ := Fin.find?_eq_some_iff.mp h
  exact (Bool.and_eq_true_iff.mp htest).1

theorem lookup_inUse {scope : Scope} (h : srv.lookup scope byteBusId = some e) : (srv.endpoints e).inUse = true := by
  cases scope with
  | none => exact findSlot_inUse h
  | some streamId => exact (findSlotOnStream_matches h).1

theorem addMultiResponse_cases (srv : MockServer σ) (byteBusId : ByteBusId) (epEnable : Bool) (handler : MultiHandler σ) :
    srv.addMultiResponse byteBusId epEnable handler = (false, srv) ∧
        srv.orElse (srv.addEndpointMultiResponse byteBusId epEnable handler) = srv ∨
      ∃ srv' e, srv.addEndpoint byteBusId epEnable none = .ok srv' ∧
        srv.addMultiResponse byteBusId epEnable handler =
          (true, srv'.setEndpoint e { srv'.endpoints e with multiHandler := some handler }) ∧
        srv.orElse (srv.addEndpointMultiResponse byteBusId epEnable handler) =
          srv'.setEndpoint e { srv'.endpoints e with multiHandler := some handler } := by
  unfold addMultiResponse MockServer.addEndpointMultiResponse
  cases hadd : srv.addEndpoint byteBusId epEnable none with
  | error error => exact Or.inl ⟨rfl, rfl⟩
  | ok srv' =>
    obtain ⟨e, he⟩ := addEndpoint_found hadd
    right
    refine ⟨srv', e, rfl, ?_, ?_⟩
    · simp only [he]
    · simp only [he]
      rfl

/-- A call of the table is the call of the whole server. -/
theorem tableCall_server (srv : MockServer σ) (op : TableOp σ) : (srv.tableCall op).2 = srv.step op.mockOp := by
  cases op with
  | addEndpointMultiResponse byteBusId epEnable handler =>
    rcases addMultiResponse_cases srv byteBusId epEnable handler with ⟨hcall, hstep⟩ | ⟨srv', e, -, hcall, hstep⟩ <;>
      simp only [tableCall, TableOp.mockOp, step, hcall, hstep]
  | addEndpoint | addEndpointOnStream | removeEndpoint => rfl

theorem Addressed.tableCall (h : srv.Addressed) (op : TableOp σ) : (srv.tableCall op).2.Addressed := by
  have horElse : ∀ {r : Except MockErrc (MockServer σ)}, (∀ {srv'}, r = .ok srv' → srv'.Addressed) →
      (srv.orElse r).Addressed := by
    intro r hr
    cases r with
    | error => exact h
    | ok srv' => exact hr rfl
  cases op with
  | addEndpoint byteBusId epEnable handler => exact horElse h.addEndpoint
  | addEndpointOnStream streamId byteBusId epEnable handler => exact horElse h.addEndpointOnStream
  | addEndpointMultiResponse byteBusId epEnable handler =>
    rcases addMultiResponse_cases srv byteBusId epEnable handler with ⟨hcall, -⟩ | ⟨srv', e, hadd, hcall, -⟩ <;>
      simp only [MockServer.tableCall, hcall]
    · exact h
    · exact (h.addEndpoint hadd).setEndpoint rfl rfl
  | removeEndpoint scope byteBusId =>
    simp only [MockServer.tableCall, MockServer.removeEndpoint]
    cases hfind : srv.lookup scope byteBusId with
    | none => exact h
    | some e => exact h.removeSlot (lookup_inUse hfind)

theorem Addressed.tableRun (ops : List (TableOp σ)) : ∀ {srv : MockServer σ}, srv.Addressed → (srv.tableRun ops).Addressed := by
  induction ops with
  | nil => exact fun h => h
  | cons op ops ih => exact fun h => ih (h.tableCall op)

/-- A call that fails has changed nothing. -/
theorem tableCall_failed {op : TableOp σ} (h : (srv.tableCall op).1 = false) : (srv.tableCall op).2 = srv := by
  have horElse : ∀ {r : Except MockErrc (MockServer σ)}, r.isOk = false → srv.orElse r = srv := by
    intro r hr
    cases r with
    | error => rfl
    | ok => cases hr
  cases op with
  | addEndpoint | addEndpointOnStream => exact horElse h
  | addEndpointMultiResponse byteBusId epEnable handler =>
    rcases addMultiResponse_cases srv byteBusId epEnable handler with ⟨hcall, -⟩ | ⟨srv', e, -, hcall, -⟩ <;>
      simp only [tableCall, hcall] at h ⊢
    cases h
  | removeEndpoint scope byteBusId =>
    simp only [tableCall, removeEndpoint] at h ⊢
    cases hfind : srv.lookup scope byteBusId with
    | none => rfl
    | some e =>
      rw [hfind] at h
      cases h

/-- A lookup by stream and bus answers the same endpoint in whatever order the table holds its slots. -/
theorem Addressed.findSlotOnStream_permuted (h : srv.Addressed) (π : Equiv.Perm EndpointIx) (streamId : UInt64)
    (byteBusId : ByteBusId) :
    ({ srv with endpoints := fun e => srv.endpoints (π e) } : MockServer σ).findSlotOnStream streamId byteBusId =
      (srv.findSlotOnStream streamId byteBusId).map π.symm := by
  have hmatches : ∀ e, ({ srv with endpoints := fun e => srv.endpoints (π e) } : MockServer σ).Matches streamId byteBusId e ↔
      srv.Matches streamId byteBusId (π e) := fun _ => Iff.rfl
  cases hperm : ({ srv with endpoints := fun e => srv.endpoints (π e) } : MockServer σ).findSlotOnStream streamId byteBusId with
  | none =>
    have hnone : srv.findSlotOnStream streamId byteBusId = none := by
      refine findSlotOnStream_eq_none.mpr fun e hm => ?_
      have hm' : srv.Matches streamId byteBusId (π (π.symm e)) := by rwa [Equiv.apply_symm_apply]
      exact findSlotOnStream_eq_none.mp hperm (π.symm e) ((hmatches _).mpr hm')
    rw [hnone, Option.map_none]
  | some e =>
    have hm := (hmatches e).mp (findSlotOnStream_matches hperm)
    rw [h.findSlotOnStream_eq_some.mpr hm, Option.map_some, Equiv.symm_apply_apply]

/-- What every user of the endpoint table relies on. -/
structure UniquelyAddressed (srv : MockServer σ) : Prop where
  /-- Two endpoints in use on one byte bus are scoped to two different streams. -/
  apart : ∀ e e', e ≠ e' → (srv.endpoints e).inUse = true → (srv.endpoints e').inUse = true →
    (srv.endpoints e).byteBusId = (srv.endpoints e').byteBusId →
    (srv.endpoints e).streamScoped = true ∧ (srv.endpoints e').streamScoped = true ∧
      (srv.endpoints e).streamId ≠ (srv.endpoints e').streamId
  /-- At most one endpoint matches a stream and a bus, and that one is found. -/
  found : ∀ streamId byteBusId e e', srv.Matches streamId byteBusId e → srv.Matches streamId byteBusId e' →
    e = e' ∧ srv.findSlotOnStream streamId byteBusId = some e
  /-- The slots may be held in any order. -/
  anyOrder : ∀ (π : Equiv.Perm EndpointIx) streamId byteBusId,
    ({ srv with endpoints := fun e => srv.endpoints (π e) } : MockServer σ).findSlotOnStream streamId byteBusId =
      (srv.findSlotOnStream streamId byteBusId).map π.symm
  count : srv.endpointCount = slotCount (·.inUse = true) srv.endpoints
  count_le : srv.endpointCount ≤ mockMaxEndpoints
  /-- A call that fails leaves everything as it was. -/
  failed : ∀ op, (srv.tableCall op).1 = false → (srv.tableCall op).2 = srv

theorem Addressed.uniquelyAddressed (h : srv.Addressed) : srv.UniquelyAddressed where
  apart e e' hne hu hu' hbus := by
    obtain ⟨s, s', hs, hs', hss⟩ := h.unambiguous e e' _ _ (if_pos hu) (if_pos hu') hbus hne
    dsimp only at hs hs'
    split at hs
    · split at hs'
      · rename_i hscoped hscoped'
        cases hs
        cases hs'
        exact ⟨hscoped, hscoped', hss⟩
      · cases hs'
    · cases hs
  found streamId byteBusId e e' hm hm' := by
    have hfound := h.findSlotOnStream_eq_some.mpr hm
    exact ⟨Option.some.inj (hfound.symm.trans (h.findSlotOnStream_eq_some.mpr hm')), hfound⟩
  anyOrder := h.findSlotOnStream_permuted
  count := h.count
  count_le := h.endpointCount_le
  failed _ := tableCall_failed

/-- However endpoints have been registered and removed, their addresses are unambiguous. -/
theorem endpoints_uniquely_addressed (world : σ) (ops : List (TableOp σ)) :
    ((new world).tableRun ops).UniquelyAddressed :=
  ((Addressed.new world).tableRun ops).uniquelyAddressed

end MockServer
end Rcp
