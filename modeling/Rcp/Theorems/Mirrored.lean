import Rcp.MockRegmap
import Rcp.Theorems.Addressing
import Rcp.Theorems.EndpointRows

/-! The general register map and the tables it tells the sizes of. Every call that changes a table also writes its
    register; a new server has one row of the endpoint map that no register tells of. -/

namespace Rcp
open Lib

/-- The octets of a table that the registers advertise. -/
def RegmapGeneral.advertisedLen (map : RegmapGeneral) : Ep0Table → Nat
  | .general => regmapGeneralLen
  | .hwPinMap => 3 * map.svrIoPinCount.toNat
  | .epIdMap => 4 * map.svrEpBytebusIdMapCapacity.toNat
  | .responseQueueCfg => 10 * map.svrResponseStreamCfgCapacity.toNat
  | .requestStreamCfg => 24 * map.svrRequestStreamCfgCapacity.toNat
  | .epGenericCfg => map.svrEpGenericCfgCapacity.toNat
  | .sequencers => 2 * map.svrSequencersMax.toNat
  | .optionalCfg s => (map.optionalCapacity s).toNat

theorem length_regmapGeneral_render (map : RegmapGeneral) : map.render.length = regmapGeneralLen := by
  unfold RegmapGeneral.render
  simp only [List.length_append, putU32_length, putU16_length, List.length_cons, List.length_nil, regmapGeneralLen]

namespace Ep0Tables

/-- The octets of a table that a read is served from: rows beyond the table's bound are not shown. -/
def imageLen (tables : Ep0Tables) : Ep0Table → Nat
  | .general => regmapGeneralLen
  | .hwPinMap => 3 * min hwPinMapMaxEntries tables.hwPinMap.length
  | .epIdMap => 4 * min epIdMapMaxEntries tables.epIdMap.length
  | .responseQueueCfg => 10 * min responseQueueCfgMaxEntries tables.responseQueueCfg.length
  | .requestStreamCfg => 24 * min requestStreamCfgMaxEntries tables.requestStreamCfg.length
  | .epGenericCfg => 12 * min epGenericCfgMaxEntries tables.epGenericCfg.length
  | .sequencers => 2 * min sequencerStateMaxEntries tables.sequencers.count
  | .optionalCfg s => (tables.optionalCfg s).length

theorem length_readImage (tables : Ep0Tables) (ctx : Ep0ReadCtx) (t : Ep0Table) :
    (tables.readImage ctx t).length = tables.imageLen t := by
  cases t with
  | general => exact length_regmapGeneral_render ctx.map
  | hwPinMap => rw [readImage, RowCodec.length_image, List.length_take, imageLen, hwPinMapCodec]
  | epIdMap => rw [readImage, RowCodec.length_image, List.length_take, imageLen, epIdMapCodec]
  | responseQueueCfg => rw [readImage, RowCodec.length_image, List.length_take, imageLen, responseQueueCodec]
  | requestStreamCfg =>
    have hsettles := requestStream_settles ctx.watchdogMsPerTick ctx.requestStreamStatusBlocked
    exact (length_imageOf hsettles.length_shown).trans (congrArg (24 * ·) List.length_take)
  | epGenericCfg =>
    rw [readImage, epGenericCfgRender, flatMap_eq_imageOf, length_imageOf fun _ => EpGenericCfg.length_render,
      List.length_take, imageLen]
  | sequencers =>
    rw [readImage, RowCodec.length_image, List.length_take, imageLen, sequencerCodec]
    rfl
  | optionalCfg s => rfl

end Ep0Tables

theorem RegmapGeneral.optionalCapacity_set (map : RegmapGeneral) (capacity : UInt16) (s s' : OptionalSection) :
    (map.setOptionalCapacity capacity s).optionalCapacity s' = if s' = s then capacity else map.optionalCapacity s' := by
  cases s <;> cases s' <;> rfl

namespace MockRegmapServer

variable {σ : Type} {srv srv' : MockRegmapServer σ}

/-- The registers tell the sizes of the tables. -/
structure Mirrored (srv : MockRegmapServer σ) : Prop where
  ioPinCount : srv.regmap.svrIoPinCount.toNat = srv.hwPinMap.length
  requestStreamCfg : srv.regmap.svrRequestStreamCfgCapacity.toNat = srv.requestStreamCfg.count.val
  responseStreamCfg : srv.regmap.svrResponseStreamCfgCapacity.toNat = srv.responseQueueCfg.length
  epBytebusIdMap : srv.regmap.svrEpBytebusIdMapCapacity.toNat = srv.epIdMap.length
  epGenericCfg : srv.regmap.svrEpGenericCfgCapacity.toNat = 12 * srv.epGenericCfgView.length
  lifecycleState : srv.regmap.svrLifecycleState = srv.state.code
  sequencersMax : srv.regmap.svrSequencersMax.toNat = min 255 srv.sequencers.count
  /-- What a client finds in the advertised octets of a table is the image of its rows, no more and no less. -/
  image : ∀ (ctx : Ep0ReadCtx) (t : Ep0Table),
    (srv.ep0Tables.readImage ctx t).length = srv.regmap.advertisedLen t

/-! ### What every call keeps -/

/-- What holds of the registers and the tables after every call. The endpoint map is left out: no register has told of
    its rows yet in a new server. -/
structure Synced (srv : MockRegmapServer σ) : Prop where
  addressed : srv.toMockServer.Addressed
  ioPinCount : srv.regmap.svrIoPinCount.toNat = srv.hwPinMap.length
  hwPinMap_le : srv.hwPinMap.length ≤ hwPinMapMaxEntries
  requestStreamCfg : srv.regmap.svrRequestStreamCfgCapacity.toNat = srv.requestStreamCfg.count.val
  requestStreamRows : srv.requestStreamRows.length = srv.requestStreamCfg.count.val
  responseStreamCfg : srv.regmap.svrResponseStreamCfgCapacity.toNat = srv.responseQueueCfg.length
  responseQueueCfg_le : srv.responseQueueCfg.length ≤ responseQueueCfgMaxEntries
  epIdMapRows : srv.epIdMapRows.length = srv.epIdMap.length
  epIdMap_le : srv.epIdMap.length ≤ epIdMapMaxEntries
  epGenericCfg : srv.regmap.svrEpGenericCfgCapacity = UInt16.ofNat (srv.endpointCount * 12)
  lifecycleState : srv.regmap.svrLifecycleState = srv.state.code
  sequencersMax : srv.regmap.svrSequencersMax.toNat = min 255 srv.sequencers.count
  optionalCfg : ∀ s, (srv.regmap.optionalCapacity s).toNat = (srv.optionalCfg s).length

theorem slotsInUse_length (h : srv.toMockServer.Addressed) : srv.epGenericCfgView.length = srv.endpointCount := by
  have hfilter : srv.slotsInUse = (List.finRange mockMaxEndpoints).filter fun e => decide ((srv.endpoints e).inUse = true) :=
    List.filter_congr fun e _ => Bool.decide_eq_true.symm
  rw [epGenericCfgView, List.length_map, hfilter, length_filter_finRange (q := fun slot : MockEndpoint σ => slot.inUse = true),
    h.count]

namespace Synced

theorem new (world : σ) : (new world).Synced where
  addressed := .new world
  ioPinCount := rfl
  hwPinMap_le := Nat.zero_le _
  requestStreamCfg := rfl
  requestStreamRows := rfl
  responseStreamCfg := rfl
  responseQueueCfg_le := Nat.zero_le _
  epIdMapRows := rfl
  epIdMap_le := show 1 ≤ 64 by decide
  epGenericCfg := rfl
  lifecycleState := rfl
  sequencersMax := rfl
  optionalCfg s := by cases s <;> rfl

/-- Registering or removing an endpoint changes the endpoint table and its two registers only. -/
theorem endpointsChanged (h : srv.Synced) {server : MockServer σ} {endpoints : EndpointIx → MockEndpoint σ} {count : Nat}
    (hserver : server = { srv.toMockServer with endpoints := endpoints, endpointCount := count })
    (haddressed : server.Addressed) (generic : EndpointIx → EpGenericCfg) :
    ({ srv with toMockServer := server, generic := generic } : MockRegmapServer σ).syncEndpointCount.Synced := by
  subst hserver
  exact
    { h with
      addressed := haddressed
      epGenericCfg := rfl }

theorem setHwPinMap (h : srv.Synced) (entries : List HwPinMapEntry) : (srv.setHwPinMap entries).2.Synced := by
  unfold MockRegmapServer.setHwPinMap
  by_cases hlen : entries.length > hwPinMapMaxEntries
  · rw [if_pos hlen]
    exact h
  rw [if_neg hlen]
  have hle : entries.length ≤ 64 := Nat.le_of_not_gt hlen
  exact
    { h with
      ioPinCount := UInt16.toNat_ofNat_of_lt' (by rw [UInt16.size]; omega)
      hwPinMap_le := hle }

theorem setResponseQueueCfg (h : srv.Synced) (entries : List ResponseQueueCfg) :
    (srv.setResponseQueueCfg entries).2.Synced := by
  unfold MockRegmapServer.setResponseQueueCfg
  by_cases hlen : entries.length > responseQueueCfgMaxEntries
  · rw [if_pos hlen]
    exact h
  rw [if_neg hlen]
  have hle : entries.length ≤ 64 := Nat.le_of_not_gt hlen
  exact
    { h with
      responseStreamCfg := UInt8.toNat_ofNat_of_lt' (by rw [UInt8.size]; omega)
      responseQueueCfg_le := hle }

theorem setRequestStreamCfg (h : srv.Synced) (entries : List RequestStreamRow) :
    (srv.setRequestStreamCfg entries).2.Synced := by
  unfold MockRegmapServer.setRequestStreamCfg MockServer.setRequestStreamCfg RequestStreamTable.set
  have hmap : (entries.map (·.toRequestStreamCfg)).length = entries.length := List.length_map _
  by_cases hlen : (entries.map (·.toRequestStreamCfg)).length ≤ requestStreamCfgMaxEntries
  · rw [dif_pos hlen]
    have hle : entries.length ≤ 64 := hmap ▸ hlen
    exact
      { h with
        addressed := ⟨h.addressed.unambiguous, h.addressed.count⟩
        requestStreamCfg := (UInt8.toNat_ofNat_of_lt' (by rw [UInt8.size]; omega)).trans hmap.symm
        requestStreamRows := hmap.symm }
  · rw [dif_neg hlen]
    exact h

theorem setEpIdMap (h : srv.Synced) (entries : List EpIdMapRow) : (srv.setEpIdMap entries).2.Synced := by
  unfold MockRegmapServer.setEpIdMap MockServer.setEpIdMap
  have hmap : (entries.map (·.toEpIdMapEntry)).length = entries.length := List.length_map _
  by_cases hlen : (entries.map (·.toEpIdMapEntry)).length > epIdMapMaxEntries
  · rw [if_pos hlen]
    exact h
  rw [if_neg hlen]
  exact
    { h with
      addressed := ⟨h.addressed.unambiguous, h.addressed.count⟩
      epIdMapRows := hmap.symm
      epIdMap_le := Nat.le_of_not_gt hlen }

theorem setOptionalCfg (h : srv.Synced) (s : OptionalSection) (data : Octets) : (srv.setOptionalCfg s data).2.Synced := by
  unfold MockRegmapServer.setOptionalCfg
  by_cases hlen : data.length > optionalSubsystemCfgMaxOctets
  · rw [if_pos hlen]
    exact h
  rw [if_neg hlen]
  have hle : data.length ≤ 256 := Nat.le_of_not_gt hlen
  have hcapacity : (UInt16.ofNat data.length).toNat = data.length :=
    UInt16.toNat_ofNat_of_lt' (by rw [UInt16.size]; omega)
  have hoptional : ∀ s', ((srv.regmap.setOptionalCapacity (UInt16.ofNat data.length) s).optionalCapacity s').toNat =
      (Function.update srv.optionalCfg s data s').length := by
    intro s'
    rw [RegmapGeneral.optionalCapacity_set]
    by_cases hs : s' = s
    · subst hs
      rw [if_pos rfl, Function.update_self, hcapacity]
    · rw [if_neg hs, Function.update_of_ne hs]
      exact h.optionalCfg s'
  cases s <;> exact { h with optionalCfg := hoptional }

/-- More sequencers than the register can tell of are told as 255. -/
theorem sequencersMax_toNat (n : Nat) : (if n > 0xFF then (0xFF : UInt8) else UInt8.ofNat n).toNat = min 255 n := by
  by_cases hn : n > 0xFF
  · rw [if_pos hn, Nat.min_eq_left (Nat.le_of_lt hn)]
    rfl
  · rw [if_neg hn, UInt8.toNat_ofNat_of_lt' (by rw [UInt8.size]; omega), Nat.min_eq_right (Nat.le_of_not_gt hn)]

theorem setSequencerCount (h : srv.Synced) (count : UInt16) (allocated : Bool) :
    (srv.setSequencerCount count allocated).2.Synced := by
  unfold MockRegmapServer.setSequencerCount
  by_cases hnew : count = 0 ∨ allocated = true
  · rw [if_pos hnew]
    exact
      { h with
        addressed := ⟨h.addressed.unambiguous, h.addressed.count⟩
        sequencersMax := sequencersMax_toNat _ }
  · rw [if_neg hnew]
    exact
      { h with
        addressed := ⟨h.addressed.unambiguous, h.addressed.count⟩
        sequencersMax := sequencersMax_toNat _ }

theorem transition (h : srv.Synced) (target : LifecycleState) (snap : Option PlausibilitySnapshot) (writer : WriterCtx)
    (allOtherEpsIdle : Bool) : (srv.transition target snap writer allOtherEpsIdle).2.Synced := by
  unfold MockRegmapServer.transition MockServer.transition
  cases lifecycleTransition srv.state target snap writer allOtherEpsIdle with
  | error e => exact { h with lifecycleState := rfl }
  | ok state =>
    exact
      { h with
        addressed := ⟨h.addressed.unambiguous, h.addressed.count⟩
        lifecycleState := rfl }

theorem applyEpGenericCfg (h : srv.Synced) (entries : List EpGenericCfg) : (srv.applyEpGenericCfg entries).2.Synced := by
  unfold MockRegmapServer.applyEpGenericCfg
  split
  · exact h
  · exact { h with }

end Synced

/-! ### Endpoints -/

theorem addSlot_eq_ok {server server' : MockServer σ} {slot : MockEndpoint σ} (h : server.addSlot slot = .ok server') :
    ∃ endpoints count, server' = { server with endpoints := endpoints, endpointCount := count } := by
  unfold MockServer.addSlot at h
  split at h
  · cases h
  split at h
  · cases h
  cases h
  exact ⟨_, _, rfl⟩

theorem addEndpoint_eq_ok {server server' : MockServer σ} {byteBusId : ByteBusId} {epEnable : Bool}
    {handler : Option (Handler σ)} (h : server.addEndpoint byteBusId epEnable handler = .ok server') :
    ∃ endpoints count, server' = { server with endpoints := endpoints, endpointCount := count } := by
  unfold MockServer.addEndpoint at h
  split at h
  · cases h
  exact addSlot_eq_ok h

theorem addEndpointOnStream_eq_ok {server server' : MockServer σ} {streamId : UInt64} {byteBusId : ByteBusId}
    {epEnable : Bool} {handler : Option (Handler σ)}
    (h : server.addEndpointOnStream streamId byteBusId epEnable handler = .ok server') :
    ∃ endpoints count, server' = { server with endpoints := endpoints, endpointCount := count } := by
  unfold MockServer.addEndpointOnStream at h
  split at h
  · cases h
  exact addSlot_eq_ok h

namespace Synced

theorem registered (h : srv.Synced) (epType : UInt8) {r : Except MockErrc (MockServer σ)}
    (hr : ∀ server, r = .ok server → server.Addressed ∧
      ∃ endpoints count, server = { srv.toMockServer with endpoints := endpoints, endpointCount := count }) :
    (srv.registered epType r).2.Synced := by
  cases r with
  | error e => exact h
  | ok server =>
    obtain ⟨haddressed, endpoints, count, hserver⟩ := hr server rfl
    exact h.endpointsChanged hserver haddressed _

theorem addEndpoint (h : srv.Synced) (byteBusId : ByteBusId) (epType : UInt8) (epEnable : Bool)
    (handler : Option (Handler σ)) : (srv.addEndpoint byteBusId epType epEnable handler).2.Synced :=
  h.registered epType fun _ hok => ⟨h.addressed.addEndpoint hok, addEndpoint_eq_ok hok⟩

theorem addEndpointOnStream (h : srv.Synced) (streamId : UInt64) (byteBusId : ByteBusId) (epType : UInt8)
    (epEnable : Bool) (handler : Option (Handler σ)) :
    (srv.addEndpointOnStream streamId byteBusId epType epEnable handler).2.Synced :=
  h.registered epType fun _ hok => ⟨h.addressed.addEndpointOnStream hok, addEndpointOnStream_eq_ok hok⟩

theorem addEndpointMultiResponse (h : srv.Synced) (byteBusId : ByteBusId) (epType : UInt8) (epEnable : Bool)
    (handler : MultiHandler σ) : (srv.addEndpointMultiResponse byteBusId epType epEnable handler).2.Synced := by
  have hadded := h.addEndpoint byteBusId epType epEnable none
  unfold MockRegmapServer.addEndpointMultiResponse
  cases hadd : srv.addEndpoint byteBusId epType epEnable none with
  | mk ok added =>
    rw [hadd] at hadded
    dsimp only
    cases ok with
    | false => exact hadded
    | true =>
      cases hfind : added.findSlot byteBusId with
      | none => exact hadded
      | some e => exact { hadded with addressed := hadded.addressed.setEndpoint rfl rfl }

theorem removeEndpoint (h : srv.Synced) (scope : Scope) (byteBusId : ByteBusId) :
    (srv.removeEndpoint (srv.lookup scope byteBusId)).2.Synced := by
  unfold MockRegmapServer.removeEndpoint
  cases hfind : srv.lookup scope byteBusId with
  | none => exact h
  | some e => exact h.endpointsChanged rfl (h.addressed.removeSlot (MockServer.lookup_inUse hfind)) _

/-- One call keeps the registers and the tables together. -/
theorem step (h : srv.Synced) (op : RegmapOp σ) : (srv.step op).Synced := by
  cases op with
  | addEndpoint byteBusId epType epEnable handler => exact h.addEndpoint byteBusId epType epEnable handler
  | addEndpointOnStream streamId byteBusId epType epEnable handler =>
    exact h.addEndpointOnStream streamId byteBusId epType epEnable handler
  | addEndpointMultiResponse byteBusId epType epEnable handler =>
    exact h.addEndpointMultiResponse byteBusId epType epEnable handler
  | removeEndpoint scope byteBusId => exact h.removeEndpoint scope byteBusId
  | applyEpGenericCfg entries => exact h.applyEpGenericCfg entries
  | setHwPinMap entries => exact h.setHwPinMap entries
  | setRequestStreamCfg entries => exact h.setRequestStreamCfg entries
  | setResponseQueueCfg entries => exact h.setResponseQueueCfg entries
  | setEpIdMap entries => exact h.setEpIdMap entries
  | setOptionalCfg s data => exact h.setOptionalCfg s data
  | setSequencerCount count allocated => exact h.setSequencerCount count allocated
  | transition c => exact h.transition c.target c.snap c.writer c.allOtherEpsIdle

theorem run (ops : List (RegmapOp σ)) : ∀ {srv : MockRegmapServer σ}, srv.Synced → (srv.run ops).Synced := by
  induction ops with
  | nil => exact fun h => h
  | cons op ops ih => exact fun h => ih (h.step op)

end Synced

/-! ### The endpoint map -/

/-- The register tells of every row of the endpoint map. -/
def EpIdMapTold (srv : MockRegmapServer σ) : Prop := srv.regmap.svrEpBytebusIdMapCapacity.toNat = srv.epIdMap.length

/-- The call sets the endpoint map, and is accepted. -/
def SetsEpIdMap (op : RegmapOp σ) : Prop := ∃ entries, op = .setEpIdMap entries ∧ entries.length ≤ epIdMapMaxEntries

/-- Neither the endpoint map nor its register has changed. -/
def EpIdMapKept (srv srv' : MockRegmapServer σ) : Prop :=
  srv'.regmap.svrEpBytebusIdMapCapacity = srv.regmap.svrEpBytebusIdMapCapacity ∧ srv'.epIdMap = srv.epIdMap

theorem EpIdMapKept.told_iff (h : EpIdMapKept srv srv') : srv'.EpIdMapTold ↔ srv.EpIdMapTold := by
  unfold EpIdMapTold
  rw [h.1, h.2]

theorem epIdMapKept_registered (epType : UInt8) {r : Except MockErrc (MockServer σ)}
    (hr : ∀ server, r = .ok server →
      ∃ endpoints count, server = { srv.toMockServer with endpoints := endpoints, endpointCount := count }) :
    EpIdMapKept srv (srv.registered epType r).2 := by
  cases r with
  | error e => exact ⟨rfl, rfl⟩
  | ok server =>
    obtain ⟨endpoints, count, rfl⟩ := hr server rfl
    exact ⟨rfl, rfl⟩

/-- An accepted call that sets the endpoint map writes its register. -/
theorem setEpIdMap_told {entries : List EpIdMapRow} (hlen : entries.length ≤ epIdMapMaxEntries) :
    (srv.setEpIdMap entries).2.EpIdMapTold := by
  have hmap : (entries.map (·.toEpIdMapEntry)).length = entries.length := List.length_map _
  have hle : entries.length ≤ 64 := hlen
  unfold MockRegmapServer.setEpIdMap MockServer.setEpIdMap
  rw [if_neg (by rw [hmap]; exact Nat.not_lt.mpr hlen)]
  exact (UInt8.toNat_ofNat_of_lt' (by rw [UInt8.size]; omega)).trans hmap.symm

/-- Every other call leaves the endpoint map and its register alone. -/
theorem step_epIdMapKept (srv : MockRegmapServer σ) {op : RegmapOp σ} (h : ¬SetsEpIdMap op) :
    EpIdMapKept srv (srv.step op) := by
  cases op with
  | addEndpoint byteBusId epType epEnable handler =>
    exact epIdMapKept_registered epType fun _ hok => addEndpoint_eq_ok hok
  | addEndpointOnStream streamId byteBusId epType epEnable handler =>
    exact epIdMapKept_registered epType fun _ hok => addEndpointOnStream_eq_ok hok
  | addEndpointMultiResponse byteBusId epType epEnable handler =>
    have hkept : EpIdMapKept srv (srv.addEndpoint byteBusId epType epEnable none).2 :=
      epIdMapKept_registered epType fun _ hok => addEndpoint_eq_ok hok
    simp only [step]
    unfold MockRegmapServer.addEndpointMultiResponse
    cases hadd : srv.addEndpoint byteBusId epType epEnable none with
    | mk ok added =>
      rw [hadd] at hkept
      dsimp only
      cases ok with
      | false => exact hkept
      | true =>
        cases hfind : added.findSlot byteBusId with
        | none => exact hkept
        | some e => exact hkept
  | removeEndpoint scope byteBusId =>
    simp only [step]
    unfold MockRegmapServer.removeEndpoint
    cases srv.lookup scope byteBusId with
    | none => exact ⟨rfl, rfl⟩
    | some e => exact ⟨rfl, rfl⟩
  | applyEpGenericCfg entries =>
    simp only [step]
    unfold MockRegmapServer.applyEpGenericCfg
    split <;> exact ⟨rfl, rfl⟩
  | setHwPinMap entries =>
    simp only [step]
    unfold MockRegmapServer.setHwPinMap
    split <;> exact ⟨rfl, rfl⟩
  | setRequestStreamCfg entries =>
    simp only [step]
    unfold MockRegmapServer.setRequestStreamCfg MockServer.setRequestStreamCfg RequestStreamTable.set
    by_cases hlen : (entries.map (·.toRequestStreamCfg)).length ≤ requestStreamCfgMaxEntries
    · rw [dif_pos hlen]
      exact ⟨rfl, rfl⟩
    · rw [dif_neg hlen]
      exact ⟨rfl, rfl⟩
  | setResponseQueueCfg entries =>
    simp only [step]
    unfold MockRegmapServer.setResponseQueueCfg
    split <;> exact ⟨rfl, rfl⟩
  | setEpIdMap entries =>
    have hmap : (entries.map (·.toEpIdMapEntry)).length = entries.length := List.length_map _
    have hlen : ¬entries.length ≤ epIdMapMaxEntries := fun hle => h ⟨entries, rfl, hle⟩
    simp only [step]
    unfold MockRegmapServer.setEpIdMap MockServer.setEpIdMap
    rw [if_pos (by rw [hmap]; exact Nat.lt_of_not_le hlen)]
    exact ⟨rfl, rfl⟩
  | setOptionalCfg s data =>
    simp only [step]
    unfold MockRegmapServer.setOptionalCfg
    split
    · exact ⟨rfl, rfl⟩
    · cases s <;> exact ⟨rfl, rfl⟩
  | setSequencerCount count allocated =>
    simp only [step]
    unfold MockRegmapServer.setSequencerCount
    split <;> exact ⟨rfl, rfl⟩
  | transition c =>
    simp only [step]
    unfold MockRegmapServer.transition MockServer.transition
    cases lifecycleTransition srv.state c.target c.snap c.writer c.allOtherEpsIdle <;> exact ⟨rfl, rfl⟩

theorem step_told_iff (srv : MockRegmapServer σ) (op : RegmapOp σ) :
    (srv.step op).EpIdMapTold ↔ SetsEpIdMap op ∨ srv.EpIdMapTold := by
  by_cases hsets : SetsEpIdMap op
  · obtain ⟨entries, rfl, hlen⟩ := hsets
    exact iff_of_true (setEpIdMap_told hlen) (.inl ⟨entries, rfl, hlen⟩)
  · rw [(step_epIdMapKept srv hsets).told_iff, or_iff_right hsets]

theorem run_told_iff (ops : List (RegmapOp σ)) :
    ∀ srv : MockRegmapServer σ, (srv.run ops).EpIdMapTold ↔ (∃ op ∈ ops, SetsEpIdMap op) ∨ srv.EpIdMapTold := by
  induction ops with
  | nil => exact fun srv => by simp [run]
  | cons op ops ih =>
    intro srv
    rw [run, List.foldl_cons, ← run, ih, step_told_iff, List.exists_mem_cons_iff, or_left_comm, ← or_assoc]

/-! ### The register map -/

/-- The endpoint map is all that is missing. -/
theorem Synced.mirrored_iff (h : srv.Synced) : srv.Mirrored ↔ srv.EpIdMapTold := by
  refine ⟨fun hm => hm.epBytebusIdMap, fun htold => ?_⟩
  have hcount : srv.endpointCount ≤ 64 := h.addressed.endpointCount_le
  have hview := slotsInUse_length h.addressed
  have hgeneric : srv.regmap.svrEpGenericCfgCapacity.toNat = 12 * srv.epGenericCfgView.length := by
    rw [h.epGenericCfg, hview, UInt16.toNat_ofNat_of_lt' (by rw [UInt16.size]; omega), Nat.mul_comm]
  refine
    { ioPinCount := h.ioPinCount
      requestStreamCfg := h.requestStreamCfg
      responseStreamCfg := h.responseStreamCfg
      epBytebusIdMap := htold
      epGenericCfg := hgeneric
      lifecycleState := h.lifecycleState
      sequencersMax := h.sequencersMax
      image := fun ctx t => ?_ }
  rw [Ep0Tables.length_readImage]
  cases t with
  | general => rfl
  | hwPinMap => exact congrArg (3 * ·) ((Nat.min_eq_right h.hwPinMap_le).trans h.ioPinCount.symm)
  | epIdMap =>
    have hle : srv.epIdMapRows.length ≤ epIdMapMaxEntries := h.epIdMapRows ▸ h.epIdMap_le
    exact congrArg (4 * ·) ((Nat.min_eq_right hle).trans (h.epIdMapRows.trans htold.symm))
  | responseQueueCfg =>
    exact congrArg (10 * ·) ((Nat.min_eq_right h.responseQueueCfg_le).trans h.responseStreamCfg.symm)
  | requestStreamCfg =>
    have hle : srv.requestStreamRows.length ≤ requestStreamCfgMaxEntries :=
      h.requestStreamRows ▸ Nat.le_of_lt_succ srv.requestStreamCfg.count.isLt
    exact congrArg (24 * ·) ((Nat.min_eq_right hle).trans (h.requestStreamRows.trans h.requestStreamCfg.symm))
  | epGenericCfg =>
    have hle : srv.epGenericCfgView.length ≤ epGenericCfgMaxEntries := hview ▸ hcount
    exact (congrArg (12 * ·) (Nat.min_eq_right hle)).trans hgeneric.symm
  | sequencers => exact congrArg (2 * ·) h.sequencersMax.symm
  | optionalCfg s => exact (h.optionalCfg s).symm

/-- After any sequence of these calls the registers mirror the tables exactly if one of the calls has set the endpoint
    map. -/
theorem capacities_mirrored_iff (world : σ) (ops : List (RegmapOp σ)) :
    ((new world).run ops).Mirrored ↔ ∃ op ∈ ops, SetsEpIdMap op := by
  rw [((Synced.new world).run ops).mirrored_iff, run_told_iff]
  refine or_iff_left ?_
  exact fun htold => absurd htold (show ¬(0 : Nat) = 1 by decide)

/-- A new server tells of no row of the endpoint map, and has one. -/
theorem new_server_not_mirrored : ¬∀ (ops : List (RegmapOp Unit)), ((new ()).run ops).Mirrored := by
  intro h
  exact absurd (h []).epBytebusIdMap (show ¬(0 : Nat) = 1 by decide)

end MockRegmapServer
end Rcp
