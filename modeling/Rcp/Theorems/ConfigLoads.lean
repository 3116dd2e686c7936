import Rcp.ConfigLoad
import Rcp.Theorems.Manifests
import Rcp.Theorems.Mirrored

/-! From the text of a manifest to the server that it describes: its registers, its pins, and its endpoints up to the
    first that the server has no place for. -/

namespace Rcp
open Lib ManifestText

/-! ### Registering an endpoint -/

namespace MockServer

variable {σ : Type} {srv : MockServer σ} {e : EndpointIx} {byteBusId : ByteBusId}

theorem findSlot_bus (h : srv.findSlot byteBusId = some e) : (srv.endpoints e).byteBusId = byteBusId := by
  obtain ⟨htest, -⟩ := Fin.find?_eq_some_iff.mp h
  exact beq_iff_eq.mp (Bool.and_eq_true_iff.mp htest).2

theorem findSlot_ne_none (hu : (srv.endpoints e).inUse = true) : srv.findSlot (srv.endpoints e).byteBusId ≠ none := by
  intro h
  have hmiss : ((srv.endpoints e).inUse && (srv.endpoints e).byteBusId == (srv.endpoints e).byteBusId) = false :=
    Fin.find?_eq_none_iff.mp h e
  rw [hu, beq_self_eq_true] at hmiss
  cases hmiss

/-- A table with fewer endpoints than slots has a free slot. -/
theorem Addressed.exists_free (h : srv.Addressed) (hroom : srv.endpointCount < mockMaxEndpoints) :
    ∃ e, (Fin.find? fun e => !(srv.endpoints e).inUse) = some e ∧ (srv.endpoints e).inUse = false := by
  cases hfind : Fin.find? fun e => !(srv.endpoints e).inUse with
  | some e =>
    obtain ⟨hfree, -⟩ := Fin.find?_eq_some_iff.mp hfind
    exact ⟨e, rfl, (Bool.not_eq_true' _).mp hfree⟩
  | none =>
    have hall : ∀ e, (srv.endpoints e).inUse = true := by
      intro e
      have hused := Fin.find?_eq_none_iff.mp hfind e
      rwa [Bool.not_eq_false'] at hused
    have hcount : srv.endpointCount = mockMaxEndpoints := by
      rw [h.count, slotCount, Finset.filter_true_of_mem fun e _ => hall e, Finset.card_univ, Fintype.card_fin]
    omega

/-- What `add_endpoint` can answer. -/
theorem Addressed.addEndpoint_cases (h : srv.Addressed) (byteBusId : ByteBusId) (epEnable : Bool)
    (handler : Option (Handler σ)) :
    ((srv.findSlot byteBusId).isSome = true ∧ srv.addEndpoint byteBusId epEnable handler = .error .duplicateBusId) ∨
    (srv.findSlot byteBusId = none ∧ srv.endpointCount = mockMaxEndpoints ∧
      srv.addEndpoint byteBusId epEnable handler = .error .capacity) ∨
    (srv.findSlot byteBusId = none ∧ ∃ e, (Fin.find? fun e => !(srv.endpoints e).inUse) = some e ∧
      (srv.endpoints e).inUse = false ∧
      srv.addEndpoint byteBusId epEnable handler =
        .ok
          { srv.setEndpoint e
              { inUse := true, byteBusId := byteBusId, queue := .init epEnable, handler := handler } with
            endpointCount := srv.endpointCount + 1 }) := by
  unfold MockServer.addEndpoint
  cases hfind : srv.findSlot byteBusId with
  | some e => exact .inl ⟨rfl, rfl⟩
  | none =>
    rw [if_neg (by rw [Option.isSome_none]; exact Bool.false_ne_true)]
    unfold MockServer.addSlot
    by_cases hfull : srv.endpointCount ≥ mockMaxEndpoints
    · rw [if_pos hfull]
      exact .inr (.inl ⟨rfl, Nat.le_antisymm h.endpointCount_le hfull, rfl⟩)
    · rw [if_neg hfull]
      obtain ⟨e, hfree, hunused⟩ := h.exists_free (Nat.lt_of_not_le hfull)
      rw [hfree]
      exact .inr (.inr ⟨rfl, e, rfl, hunused, rfl⟩)

end MockServer

/-! ### Registering the endpoints of a manifest -/

/-- The slot of an endpoint of a manifest, -/
def ConfigEndpoint.slot (σ : Type) (ep : ConfigEndpoint BitVec) : MockEndpoint σ where
  inUse := true
  byteBusId := ep.bus
  queue := .init ep.epEnable

/-- and its registers. -/
def ConfigEndpoint.generic (ep : ConfigEndpoint BitVec) : EpGenericCfg where
  epType := .ofBitVec ep.epType
  epUsed := true

namespace MockRegmapServer

variable {σ : Type} {srv srv₁ srv₂ : MockRegmapServer σ} {ep : ConfigEndpoint BitVec}
  {eps : List (ConfigEndpoint BitVec)}

/-- The endpoints have been registered on buses where nothing was, each in a slot that was free, and nothing else has
    changed. -/
structure Registered (srv srv' : MockRegmapServer σ) (eps : List (ConfigEndpoint BitVec)) : Prop where
  distinct : (eps.map (·.bus)).Nodup
  fresh : ∀ ep ∈ eps, srv.findSlot ep.bus = none
  /-- A request finds each of them, whatever stream it comes on. -/
  found : ∀ ep ∈ eps, ∃ e, (srv.endpoints e).inUse = false ∧ srv'.endpoints e = ep.slot σ ∧
    srv'.generic e = ep.generic ∧ ∀ streamId, srv'.findSlotOnStream streamId ep.bus = some e
  kept : ∀ e, (srv.endpoints e).inUse = true → srv'.endpoints e = srv.endpoints e ∧ srv'.generic e = srv.generic e
  only : ∀ e, (srv'.endpoints e).inUse = true →
    (srv.endpoints e).inUse = true ∨ ∃ ep ∈ eps, srv'.endpoints e = ep.slot σ
  count : srv'.endpointCount = srv.endpointCount + eps.length
  told : srv'.regmap.svrEpCount = if eps.isEmpty then srv.regmap.svrEpCount else UInt16.ofNat srv'.endpointCount
  frame : srv' =
    { srv with
      endpoints := srv'.endpoints
      endpointCount := srv'.endpointCount
      generic := srv'.generic
      regmap :=
        { srv.regmap with
          svrEpCount := srv'.regmap.svrEpCount
          svrEpGenericCfgCapacity := srv'.regmap.svrEpGenericCfgCapacity } }

namespace Registered

theorem nil (srv : MockRegmapServer σ) : Registered srv srv [] where
  distinct := List.nodup_nil
  fresh := nofun
  found := nofun
  kept _ _ := ⟨rfl, rfl⟩
  only _ := .inl
  count := rfl
  told := rfl
  frame := rfl

/-- A bus without an endpoint had none before. -/
theorem findSlot_none (h : Registered srv srv₁ eps) {byteBusId : ByteBusId} (hnone : srv₁.findSlot byteBusId = none) :
    srv.findSlot byteBusId = none := by
  cases hfind : srv.findSlot byteBusId with
  | none => rfl
  | some e =>
    have hsame := (h.kept e (MockServer.findSlot_inUse hfind)).1
    have hu : (srv₁.endpoints e).inUse = true := hsame ▸ MockServer.findSlot_inUse hfind
    have hbus : (srv₁.endpoints e).byteBusId = byteBusId := hsame ▸ MockServer.findSlot_bus hfind
    exact absurd hnone (hbus ▸ MockServer.findSlot_ne_none hu)

theorem cons (h : Registered srv srv₁ [ep]) (hrest : Registered srv₁ srv₂ eps)
    (haddressed : srv₂.toMockServer.Addressed) : Registered srv srv₂ (ep :: eps) := by
  obtain ⟨e, hfree, hslot, hgeneric, -⟩ := h.found ep (List.mem_singleton_self ep)
  have hu : (srv₁.endpoints e).inUse = true := by rw [hslot]; rfl
  obtain ⟨hslot', hgeneric'⟩ := hrest.kept e hu
  refine ⟨?_, fun ep' hmem => ?_, fun ep' hmem => ?_, fun e' hu' => ?_, fun e' hu' => ?_, ?_, ?_, ?_⟩
  · refine List.nodup_cons.mpr ⟨fun hmem => ?_, hrest.distinct⟩
    obtain ⟨ep', hep', hbus⟩ := List.mem_map.mp hmem
    have hnone : srv₁.findSlot (srv₁.endpoints e).byteBusId = none := by
      rw [hslot]
      exact (congrArg srv₁.findSlot hbus).symm.trans (hrest.fresh ep' hep')
    exact MockServer.findSlot_ne_none hu hnone
  · rcases List.mem_cons.mp hmem with rfl | hmem
    · exact h.fresh ep' (List.mem_singleton_self ep')
    · exact h.findSlot_none (hrest.fresh ep' hmem)
  · rcases List.mem_cons.mp hmem with rfl | hmem
    · refine ⟨e, hfree, hslot'.trans hslot, hgeneric'.trans hgeneric, fun streamId => ?_⟩
      refine haddressed.findSlotOnStream_eq_some.mpr ?_
      unfold MockServer.Matches
      rw [hslot', hslot]
      exact ⟨rfl, rfl, nofun⟩
    · obtain ⟨e', hfree', hfound⟩ := hrest.found ep' hmem
      refine ⟨e', ?_, hfound⟩
      by_contra hused
      rw [Bool.not_eq_false] at hused
      rw [(h.kept e' hused).1, hused] at hfree'
      cases hfree'
  · obtain ⟨hsame, hsameGeneric⟩ := h.kept e' hu'
    obtain ⟨hsame', hsameGeneric'⟩ := hrest.kept e' (hsame ▸ hu')
    exact ⟨hsame'.trans hsame, hsameGeneric'.trans hsameGeneric⟩
  · rcases hrest.only e' hu' with hu₁ | ⟨ep', hmem, hslot₂⟩
    · refine (h.only e' hu₁).imp_right fun ⟨ep', hmem, hslot₁⟩ => ?_
      rw [List.mem_singleton.mp hmem] at hslot₁
      exact ⟨ep, List.mem_cons_self, (hrest.kept e' hu₁).1.trans hslot₁⟩
    · exact .inr ⟨ep', List.mem_cons_of_mem ep hmem, hslot₂⟩
  · rw [hrest.count, h.count, List.length_cons, List.length_cons, List.length_nil]
    omega
  · rw [hrest.told]
    cases eps with
    | nil =>
      have hcount : srv₂.endpointCount = srv₁.endpointCount := hrest.count
      rw [hcount]
      exact h.told
    | cons => rfl
  · calc srv₂ = _ := hrest.frame
      _ = _ := by rw [h.frame]

/-- One endpoint on a bus that is free, while there is room. -/
theorem single (h : srv.Synced) (hnone : srv.findSlot ep.bus = none) (hroom : srv.endpointCount < mockMaxEndpoints) :
    ∃ server, srv.toMockServer.addEndpoint ep.bus ep.epEnable none = .ok server ∧
      Registered srv (srv.addEndpoint ep.bus (.ofBitVec ep.epType) ep.epEnable none).2 [ep] := by
  rcases h.addressed.addEndpoint_cases ep.bus ep.epEnable none with
    ⟨htaken, -⟩ | ⟨-, hfull, -⟩ | ⟨-, e, hfree, hunused, hadded⟩
  · rw [hnone] at htaken
    cases htaken
  · exact absurd hfull (Nat.ne_of_lt hroom)
  refine ⟨_, hadded, ?_⟩
  have haddressed := (h.addEndpoint ep.bus (.ofBitVec ep.epType) ep.epEnable none).addressed
  have hserver : (srv.addEndpoint ep.bus (.ofBitVec ep.epType) ep.epEnable none).2 =
      { srv with
        toMockServer := { srv.setEndpoint e (ep.slot σ) with endpointCount := srv.endpointCount + 1 }
        generic := Function.update srv.generic e ep.generic }.syncEndpointCount := by
    unfold MockRegmapServer.addEndpoint MockRegmapServer.registered MockRegmapServer.freeSlot
    rw [hadded, hfree]
    rfl
  generalize (srv.addEndpoint ep.bus (.ofBitVec ep.epType) ep.epEnable none).2 = srv' at haddressed hserver ⊢
  have hendpoints : srv'.endpoints = Function.update srv.endpoints e (ep.slot σ) := by rw [hserver]; rfl
  have hgeneric : srv'.generic = Function.update srv.generic e ep.generic := by rw [hserver]; rfl
  have hslot : srv'.endpoints e = ep.slot σ := by rw [hendpoints, Function.update_self]
  refine ⟨List.nodup_singleton _, fun ep' hmem => ?_, fun ep' hmem => ?_, fun e' hu => ?_, fun e' hu => ?_, ?_, ?_, ?_⟩
  · rw [List.mem_singleton.mp hmem]
    exact hnone
  · obtain rfl := List.mem_singleton.mp hmem
    refine ⟨e, hunused, hslot, by rw [hgeneric, Function.update_self], fun streamId => ?_⟩
    refine haddressed.findSlotOnStream_eq_some.mpr ?_
    unfold MockServer.Matches
    rw [hslot]
    exact ⟨rfl, rfl, nofun⟩
  · have hne : e' ≠ e := by
      rintro rfl
      rw [hunused] at hu
      cases hu
    rw [hendpoints, hgeneric]
    exact ⟨Function.update_of_ne hne _ _, Function.update_of_ne hne _ _⟩
  · by_cases he : e' = e
    · exact .inr ⟨ep, List.mem_singleton_self ep, he ▸ hslot⟩
    · left
      rwa [hendpoints, Function.update_of_ne he] at hu
  · rw [hserver]; rfl
  · rw [hserver]; rfl
  · rw [hserver]; rfl

/-- A bus that has an endpoint had one before, or an endpoint of the manifest names it. -/
theorem findSlot_isSome (h : Registered srv srv₁ eps) {byteBusId : ByteBusId}
    (hsome : (srv₁.findSlot byteBusId).isSome = true) :
    (srv.findSlot byteBusId).isSome = true ∨ byteBusId ∈ eps.map (·.bus) := by
  obtain ⟨e, hfind⟩ := Option.isSome_iff_exists.mp hsome
  have hbus := MockServer.findSlot_bus hfind
  rcases h.only e (MockServer.findSlot_inUse hfind) with hu | ⟨ep, hmem, hslot⟩
  · left
    rw [(h.kept e hu).1] at hbus
    exact Option.isSome_iff_ne_none.mpr (hbus ▸ MockServer.findSlot_ne_none hu)
  · right
    rw [hslot] at hbus
    exact List.mem_map.mpr ⟨ep, hmem, hbus⟩

end Registered
end MockRegmapServer

namespace Config
open MockRegmapServer

variable {σ : Type} {srv : MockRegmapServer σ} {eps : List (ConfigEndpoint BitVec)}

/-- Why a server takes no more endpoints: there are no more, the next one names a bus that has an endpoint, or all slots
    are in use. -/
inductive Stopped (srv : MockRegmapServer σ) : List (ConfigEndpoint BitVec) → Except MockErrc Unit → Prop where
  | done : Stopped srv [] (.ok ())
  | taken {ep : ConfigEndpoint BitVec} {rest : List (ConfigEndpoint BitVec)} (h : (srv.findSlot ep.bus).isSome = true) :
      Stopped srv (ep :: rest) (.error .duplicateBusId)
  | full {ep : ConfigEndpoint BitVec} {rest : List (ConfigEndpoint BitVec)} (h : srv.endpointCount = mockMaxEndpoints) :
      Stopped srv (ep :: rest) (.error .capacity)

theorem applyEndpoint_refused {ep : ConfigEndpoint BitVec} {e : MockErrc}
    (h : srv.toMockServer.addEndpoint ep.bus ep.epEnable none = .error e) :
    applyEndpoint (.ok (), srv) ep = (.error e, srv) := by
  unfold applyEndpoint
  dsimp only
  rw [h]

theorem applyEndpoint_added {ep : ConfigEndpoint BitVec} {server : MockServer σ}
    (h : srv.toMockServer.addEndpoint ep.bus ep.epEnable none = .ok server) :
    applyEndpoint (.ok (), srv) ep = (.ok (), (srv.addEndpoint ep.bus (.ofBitVec ep.epType) ep.epEnable none).2) := by
  unfold applyEndpoint
  dsimp only
  rw [h]

theorem foldl_applyEndpoint_error (e : MockErrc) :
    eps.foldl applyEndpoint ((.error e, srv) : Except MockErrc Unit × MockRegmapServer σ) = (.error e, srv) := by
  induction eps with
  | nil => rfl
  | cons ep rest ih => exact ih

/-- The endpoints go to the server in their order, up to the first that it refuses. -/
theorem applyEndpoints_spec (eps : List (ConfigEndpoint BitVec)) (h : srv.Synced) :
    ∃ loaded rest, eps = loaded ++ rest ∧ Registered srv (applyEndpoints eps srv).2 loaded ∧
      (applyEndpoints eps srv).2.Synced ∧ Stopped (applyEndpoints eps srv).2 rest (applyEndpoints eps srv).1 := by
  unfold applyEndpoints
  induction eps generalizing srv with
  | nil => exact ⟨[], [], rfl, .nil srv, h, .done⟩
  | cons ep rest ih =>
    rw [List.foldl_cons]
    rcases h.addressed.addEndpoint_cases ep.bus ep.epEnable none with
      ⟨htaken, hadded⟩ | ⟨-, hfull, hadded⟩ | ⟨hnone, e, -, -, hadded⟩
    · rw [applyEndpoint_refused hadded, foldl_applyEndpoint_error]
      exact ⟨[], ep :: rest, rfl, .nil srv, h, .taken htaken⟩
    · rw [applyEndpoint_refused hadded, foldl_applyEndpoint_error]
      exact ⟨[], ep :: rest, rfl, .nil srv, h, .full hfull⟩
    · have hroom : srv.endpointCount < mockMaxEndpoints := by
        refine Nat.lt_of_not_le fun hfull => ?_
        rw [MockServer.addEndpoint, hnone, if_neg (by rw [Option.isSome_none]; exact Bool.false_ne_true),
          MockServer.addSlot, if_pos hfull] at hadded
        cases hadded
      obtain ⟨server, hok, hfirst⟩ := Registered.single h hnone hroom
      obtain ⟨loaded, rest', rfl, hloaded, hsynced, hstopped⟩ :=
        ih (h.addEndpoint ep.bus (.ofBitVec ep.epType) ep.epEnable none)
      rw [applyEndpoint_added hok]
      exact ⟨ep :: loaded, rest', rfl, hfirst.cons hloaded hsynced.addressed, hsynced, hstopped⟩

/-- All of them are taken exactly when their buses differ from each other and from those of the server, and there is
    room for them. -/
theorem applyEndpoints_ok_iff (h : srv.Synced) :
    (applyEndpoints eps srv).1 = .ok () ↔
      (eps.map (·.bus)).Nodup ∧ (∀ ep ∈ eps, srv.findSlot ep.bus = none) ∧
        srv.endpointCount + eps.length ≤ mockMaxEndpoints := by
  obtain ⟨loaded, rest, heps, hloaded, hsynced, hstopped⟩ := applyEndpoints_spec eps h
  generalize (applyEndpoints eps srv).1 = answer at hstopped ⊢
  constructor
  · rintro rfl
    cases hstopped
    rw [List.append_nil] at heps
    subst heps
    exact ⟨hloaded.distinct, hloaded.fresh, hloaded.count ▸ hsynced.addressed.endpointCount_le⟩
  · rintro ⟨hnodup, hfresh, hroom⟩
    cases hstopped with
    | done => rfl
    | @taken ep rest htaken =>
      rw [heps, List.map_append, List.map_cons] at hnodup
      rcases hloaded.findSlot_isSome htaken with hbefore | hmem
      · rw [hfresh ep (heps ▸ List.mem_append_right loaded List.mem_cons_self)] at hbefore
        cases hbefore
      · exact (List.disjoint_of_nodup_append hnodup hmem List.mem_cons_self).elim
    | full hfull =>
      have hcount := hloaded.count
      rw [heps, List.length_append, List.length_cons] at hroom
      omega

/-! ### Loading a manifest -/

/-- A server with the registers and the pins of a manifest; its endpoints come after them. -/
def described (m : ConfigManifest BitVec) (srv : MockRegmapServer σ) : MockRegmapServer σ :=
  { srv with
    hwPinMap := if m.hwPinMap.isEmpty then srv.hwPinMap else m.hwPinMap.map (·.row)
    regmap :=
      { m.server.applyTo srv.regmap with
        svrIoPinCount := if m.hwPinMap.isEmpty then srv.regmap.svrIoPinCount else UInt16.ofNat m.hwPinMap.length } }

/-- What a manifest makes of a server. -/
structure Loaded (m : ConfigManifest BitVec) (srv srv' : MockRegmapServer σ) (answer : Except MockErrc Unit) :
    Prop where
  synced : srv'.Synced
  ok_iff : answer = .ok () ↔ m.hwPinMap.length ≤ hwPinMapMaxEntries ∧ (m.endpoints.map (·.bus)).Nodup ∧
    (∀ ep ∈ m.endpoints, srv.findSlot ep.bus = none) ∧ srv.endpointCount + m.endpoints.length ≤ mockMaxEndpoints
  /-- With more pins than the map has rows, only the registers are set. -/
  pinsRefused : hwPinMapMaxEntries < m.hwPinMap.length →
    answer = .error .capacity ∧ srv' = { srv with regmap := m.server.applyTo srv.regmap }
  /-- What was done before an endpoint is refused stays done. -/
  endpoints : m.hwPinMap.length ≤ hwPinMapMaxEntries → ∃ loaded rest, m.endpoints = loaded ++ rest ∧
    Registered (described m srv) srv' loaded ∧ Stopped srv' rest answer

theorem applyPins_described (srv : MockRegmapServer σ) {m : ConfigManifest BitVec}
    (hpins : m.hwPinMap.length ≤ hwPinMapMaxEntries) :
    applyPins m.hwPinMap { srv with regmap := m.server.applyTo srv.regmap } = (true, described m srv) := by
  unfold applyPins described
  cases hm : m.hwPinMap with
  | nil => rfl
  | cons pin pins =>
    rw [hm] at hpins
    have hrows : ¬((pin :: pins).map (·.row)).length > hwPinMapMaxEntries := by
      rw [List.length_map]
      exact Nat.not_lt.mpr hpins
    rw [if_pos (show (pin :: pins).length > 0 from Nat.succ_pos _), if_neg (Nat.not_lt.mpr hpins),
      MockRegmapServer.setHwPinMap, if_neg hrows, List.length_map]
    rfl

theorem applyToMock_loaded (m : ConfigManifest BitVec) (h : srv.Synced) :
    Loaded m srv (applyToMock m srv).2 (applyToMock m srv).1 := by
  have hregisters : ({ srv with regmap := m.server.applyTo srv.regmap } : MockRegmapServer σ).Synced := { h with }
  by_cases hpins : m.hwPinMap.length ≤ hwPinMapMaxEntries
  · have hdescribed := applyPins_described srv hpins
    have hsynced : (described m srv).Synced := by
      have hset := hregisters.setHwPinMap (m.hwPinMap.map (·.row))
      unfold applyPins at hdescribed
      split at hdescribed
      · rw [if_neg (Nat.not_lt.mpr hpins)] at hdescribed
        rwa [hdescribed] at hset
      · rw [← (Prod.mk.inj hdescribed).2]
        exact hregisters
    have happly : applyToMock m srv = applyEndpoints m.endpoints (described m srv) := by
      unfold applyToMock
      rw [hdescribed]
      rfl
    rw [happly]
    obtain ⟨loaded, rest, heps, hloaded, hafter, hstopped⟩ := applyEndpoints_spec m.endpoints hsynced
    refine ⟨hafter, ?_, fun hmany => absurd hpins (Nat.not_le.mpr hmany),
      fun _ => ⟨loaded, rest, heps, hloaded, hstopped⟩⟩
    exact (applyEndpoints_ok_iff hsynced).trans ⟨fun h => ⟨hpins, h⟩, And.right⟩
  · have hrefused : applyToMock m srv = (.error .capacity, { srv with regmap := m.server.applyTo srv.regmap }) := by
      unfold applyToMock applyPins
      rw [if_pos (Nat.zero_lt_of_lt (Nat.lt_of_not_le hpins)), if_pos (Nat.lt_of_not_le hpins)]
      rfl
    rw [hrefused]
    exact ⟨hregisters, ⟨nofun, fun hok => absurd hok.1 hpins⟩, fun _ => ⟨rfl, rfl⟩, fun hle => absurd hle hpins⟩

/-- What `rcp_config_load` returns and writes for an answer of the server. -/
def loadResult (errMsgCap : Nat) (answer : Except MockErrc Unit) (server : MockRegmapServer σ) : LoadResult σ :=
  match answer with
  | .error e => { code := .mock e, errMsg := setErr errMsgCap e.strerror, server }
  | .ok () => { code := .ok, server }

theorem load_spec (alloc : Nat → Bool) (json : Lib.CString) (errMsgCap : Nat) (h : srv.Synced) :
    ∃ parsed r, parseJson machineNumbers alloc json errMsgCap = some parsed ∧
      load alloc json errMsgCap srv = some r ∧
      (parsed.code = .errParse → r = { code := .errParse, errMsg := parsed.errMsg, server := srv }) ∧
      (parsed.code = .ok →
        ∃ answer, Loaded parsed.out srv r.server answer ∧ r = loadResult errMsgCap answer r.server) := by
  obtain ⟨parsed, hparsed, -⟩ := parseJson_reads machineNumbers alloc json errMsgCap
  have hloaded := applyToMock_loaded parsed.out h
  unfold load
  rw [hparsed, Option.bind_eq_bind, Option.bind_some]
  cases hcode : parsed.code with
  | errParse =>
    refine ⟨parsed, _, rfl, rfl, fun _ => rfl, fun hok => ?_⟩
    rw [hcode] at hok
    cases hok
  | ok =>
    have hparsed : parsed.code ≠ .errParse := fun herr => by
      rw [hcode] at herr
      cases herr
    rcases happly : applyToMock parsed.out srv with ⟨e | ⟨⟩, server⟩ <;> rw [happly] at hloaded
    · exact ⟨parsed, _, rfl, rfl, fun herr => absurd herr hparsed, fun _ => ⟨_, hloaded, rfl⟩⟩
    · exact ⟨parsed, _, rfl, rfl, fun herr => absurd herr hparsed, fun _ => ⟨_, hloaded, rfl⟩⟩

/-- A manifest of the schema makes of any server what it says, when memory is granted. Whatever the text is and
    whichever allocations succeed, the call returns, it leaves the server alone when the text does not parse, and its
    registers and tables stay together. -/
theorem config_load_exact (world : σ) (ops : List (RegmapOp σ)) (errMsgCap : Nat) :
    (∀ (m : ManifestText) (json : Lib.CString), m.IsWritten json.text →
      ∃ answer server, load (fun _ => true) json errMsgCap ((MockRegmapServer.new world).run ops) =
          some (loadResult errMsgCap answer server) ∧
        Loaded m.manifest ((MockRegmapServer.new world).run ops) server answer) ∧
    (∀ (alloc : Nat → Bool) (json : Lib.CString),
      ∃ r, load alloc json errMsgCap ((MockRegmapServer.new world).run ops) = some r ∧
        (r.code = .errParse → r.server = (MockRegmapServer.new world).run ops) ∧ r.server.Synced) := by
  have hsynced : ((MockRegmapServer.new world).run ops).Synced := (Synced.new world).run ops
  generalize (MockRegmapServer.new world).run ops = srv at hsynced ⊢
  constructor
  · intro m json hwritten
    obtain ⟨parsed, r, hparsed, hload, -, hok⟩ := load_spec (fun _ => true) json errMsgCap hsynced
    rw [parseJson_manifest hwritten errMsgCap] at hparsed
    cases hparsed
    obtain ⟨answer, hloaded, hr⟩ := hok rfl
    exact ⟨answer, r.server, hload.trans (congrArg some hr), hloaded⟩
  · intro alloc json
    obtain ⟨parsed, r, -, hload, herr, hok⟩ := load_spec alloc json errMsgCap hsynced
    refine ⟨r, hload, ?_⟩
    cases hcode : parsed.code with
    | errParse =>
      rw [herr hcode]
      exact ⟨fun _ => rfl, hsynced⟩
    | ok =>
      obtain ⟨answer, hloaded, hr⟩ := hok hcode
      refine ⟨fun hparse => ?_, hloaded.synced⟩
      rw [hr] at hparse
      rcases answer with e | ⟨⟩ <;> cases hparse

/-- Bus 7, and the type 7. -/
def busSeven : EndpointText where
  byteBusId := { text := sevenText.text, nonneg := sevenText.nonneg, fits := by decide }
  epType := { text := sevenText.text, nonneg := sevenText.nonneg, fits := by decide }
  epEnable := none

/-- A manifest that has two endpoints on one bus. -/
def oneBus : ManifestText where
  server := none
  hwPinMap := none
  endpoints := some [busSeven, busSeven]
  streams := none

def busSevenTokens : List Token :=
  [.punct .lbrace, .str (Key.name .byteBusId), .punct .colon, .number sevenText.text, .punct .comma,
    .str (Key.name .epType), .punct .colon, .number sevenText.text, .punct .rbrace]

def oneBusTokens : List Token :=
  [.punct .lbrace, .str (SectionKey.name .endpoints), .punct .colon, .punct .lbracket] ++ busSevenTokens ++
    [.punct .comma] ++ busSevenTokens ++ [.punct .rbracket, .punct .rbrace]

theorem oneBus_isWritten : oneBus.IsWritten (oneBusTokens.flatMap Token.chars) := by
  refine ⟨[.endpoints [busSeven, busSeven]], _, .refl _,
    .cons ⟨_, ⟨_, .cons ⟨_, .refl _, rfl⟩ (.cons ⟨_, .refl _, rfl⟩ .nil), rfl⟩, rfl⟩ .nil, ?_⟩
  exact Rendered.tight oneBusTokens

def oneBusJson : Lib.CString := ⟨oneBusTokens.flatMap Token.chars, by decide⟩

/-- The second endpoint is refused. -/
theorem config_load_exact_oneBus :
    ∃ e server, load (fun _ => true) oneBusJson 0 (MockRegmapServer.new ()) = some { code := .mock e, server } ∧
      Loaded oneBus.manifest (MockRegmapServer.new ()) server (.error e) := by
  obtain ⟨answer, server, hload, hloaded⟩ := (config_load_exact () [] 0).1 oneBus oneBusJson oneBus_isWritten
  rcases answer with e | ⟨⟩
  · exact ⟨e, server, hload, hloaded⟩
  · obtain ⟨-, hnodup, -⟩ := hloaded.ok_iff.mp rfl
    exact absurd hnodup (List.not_nodup_cons_of_mem List.mem_cons_self)

end Config
end Rcp
