import Rcp.Theorems.ManifestParsed

/-! Parsing is exact on the manifests of the schema, and safe on every text. -/

namespace Rcp
open Lib Config ManifestText

variable {m : ManifestText} {ss : List SectionText} {ts : List Token} {text : List Char}

/-! ### Sections in any order -/

theorem mem_sections {t : SectionText} :
    t ∈ m.sections ↔
      match t with
      | .server s => m.server = some s
      | .hwPinMap pins => m.hwPinMap = some pins
      | .endpoints eps => m.endpoints = some eps
      | .streams ss => m.streams = some ss := by
  cases t <;> simp [ManifestText.sections]

theorem nodup_sectionKeys (hperm : ss.Perm m.sections) : (ss.map SectionText.key).Nodup := by
  rw [(hperm.map SectionText.key).nodup_iff]
  obtain ⟨server, hwPinMap, endpoints, streams⟩ := m
  cases server <;> cases hwPinMap <;> cases endpoints <;> cases streams <;> simp [ManifestText.sections, SectionText.key]

/-- What only one section contributes to is what that section contributes, wherever it stands. -/
theorem filterMap_of_sections {α β : Type} (make : α → SectionText) (o : Option α) (k : SectionKey)
    (g : ObjectText → Option β) (hperm : ss.Perm m.sections) (hmake : ∀ a, (make a).key = k)
    (hmem : ∀ t ∈ m.sections, t.key = k → ∃ a, o = some a ∧ t = make a) (hsome : ∀ a, o = some a → make a ∈ m.sections)
    (hother : ∀ t : SectionText, t.key ≠ k → (sectionObjects t).filterMap g = []) :
    (ss.flatMap sectionObjects).filterMap g = (o.map fun a => (sectionObjects (make a)).filterMap g).getD [] := by
  rw [List.filterMap_flatMap]
  cases o with
  | none =>
    refine List.flatMap_eq_nil_iff.mpr fun t ht => hother t fun hkey => ?_
    obtain ⟨a, ha, -⟩ := hmem t (hperm.mem_iff.mp ht) hkey
    cases ha
  | some a =>
    have hnodup := nodup_sectionKeys hperm
    obtain ⟨before, after, rfl⟩ := List.append_of_mem (hperm.mem_iff.mpr (hsome a rfl))
    rw [List.map_append, List.map_cons, List.nodup_append, List.nodup_cons, hmake] at hnodup
    obtain ⟨-, ⟨hafter, -⟩, hbefore⟩ := hnodup
    have hnone₁ : before.flatMap (fun t => (sectionObjects t).filterMap g) = [] :=
      List.flatMap_eq_nil_iff.mpr fun t ht =>
        hother t (hbefore t.key (List.mem_map_of_mem ht) k List.mem_cons_self)
    have hnone₂ : after.flatMap (fun t => (sectionObjects t).filterMap g) = [] :=
      List.flatMap_eq_nil_iff.mpr fun t ht => hother t fun h => hafter (h ▸ List.mem_map_of_mem ht)
    rw [List.flatMap_append, List.flatMap_cons, hnone₁, hnone₂, List.nil_append, List.append_nil]
    rfl

theorem filterMap_map_some {α β : Type} (object : α → ObjectText) (g : ObjectText → Option β) (value : α → β)
    (h : ∀ a, g (object a) = some (value a)) (items : List α) : (items.map object).filterMap g = items.map value := by
  rw [List.filterMap_map, ← List.filterMap_eq_map']
  exact congrArg (List.filterMap · items) (funext h)

theorem filterMap_map_none {α β : Type} {object : α → ObjectText} {g : ObjectText → Option β}
    (h : ∀ a, g (object a) = none) (items : List α) : (items.map object).filterMap g = [] := by
  rw [List.filterMap_map, List.filterMap_eq_nil_iff]
  exact fun a _ => h a

theorem pins_of_sections (hperm : ss.Perm m.sections) :
    (ss.flatMap sectionObjects).filterMap pin? = (m.hwPinMap.getD []).map (·.pin) := by
  rw [filterMap_of_sections .hwPinMap m.hwPinMap .hwPinMap pin? hperm (fun _ => rfl)]
  · cases m.hwPinMap with
    | none => rfl
    | some pins => exact filterMap_map_some .pin pin? (·.pin) (fun _ => rfl) pins
  · rintro (s | pins | eps | streams) ht hkey <;> cases hkey
    exact ⟨pins, mem_sections.mp ht, rfl⟩
  · exact fun pins hpins => mem_sections.mpr hpins
  · rintro (s | pins | eps | streams) hkey
    · rfl
    · exact absurd rfl hkey
    · exact filterMap_map_none (fun _ => rfl) eps
    · exact filterMap_map_none (fun _ => rfl) streams

theorem endpoints_of_sections (hperm : ss.Perm m.sections) :
    (ss.flatMap sectionObjects).filterMap endpoint? = (m.endpoints.getD []).map (·.endpoint) := by
  rw [filterMap_of_sections .endpoints m.endpoints .endpoints endpoint? hperm (fun _ => rfl)]
  · cases m.endpoints with
    | none => rfl
    | some eps => exact filterMap_map_some .endpoint endpoint? (·.endpoint) (fun _ => rfl) eps
  · rintro (s | pins | eps | streams) ht hkey <;> cases hkey
    exact ⟨eps, mem_sections.mp ht, rfl⟩
  · exact fun eps heps => mem_sections.mpr heps
  · rintro (s | pins | eps | streams) hkey
    · rfl
    · exact filterMap_map_none (fun _ => rfl) pins
    · exact absurd rfl hkey
    · exact filterMap_map_none (fun _ => rfl) streams

theorem streams_of_sections (hperm : ss.Perm m.sections) :
    (ss.flatMap sectionObjects).filterMap stream? = (m.streams.getD []).map (·.stream) := by
  rw [filterMap_of_sections .streams m.streams .streams stream? hperm (fun _ => rfl)]
  · cases m.streams with
    | none => rfl
    | some streams => exact filterMap_map_some .stream stream? (·.stream) (fun _ => rfl) streams
  · rintro (s | pins | eps | streams) ht hkey <;> cases hkey
    exact ⟨streams, mem_sections.mp ht, rfl⟩
  · exact fun streams hstreams => mem_sections.mpr hstreams
  · rintro (s | pins | eps | streams) hkey
    · rfl
    · exact filterMap_map_none (fun _ => rfl) pins
    · exact filterMap_map_none (fun _ => rfl) eps
    · exact absurd rfl hkey

theorem server_of_sections (hperm : ss.Perm m.sections) :
    (ss.flatMap sectionObjects).filterMap server? = m.server.toList := by
  rw [filterMap_of_sections .server m.server .server server? hperm (fun _ => rfl)]
  · cases m.server <;> rfl
  · rintro (s | pins | eps | streams) ht hkey <;> cases hkey
    exact ⟨s, mem_sections.mp ht, rfl⟩
  · exact fun s hs => mem_sections.mpr hs
  · rintro (s | pins | eps | streams) hkey
    · exact absurd rfl hkey
    · exact filterMap_map_none (fun _ => rfl) pins
    · exact filterMap_map_none (fun _ => rfl) eps
    · exact filterMap_map_none (fun _ => rfl) streams

/-! ### The server -/

theorem lookup_server (s : ServerText) :
    s.fields.lookup .vendorId = (s.vendorId.map (·.text)).map .number ∧
      s.fields.lookup .deviceId = (s.deviceId.map (·.text)).map .number ∧
      s.fields.lookup .magic = (s.magic.map (·.text)).map .number ∧
      s.fields.lookup .svrImplementedOptions = s.svrImplementedOptions.map fun ns => .names (ns.map (·.property)) := by
  obtain ⟨vendorId, deviceId, magic, options⟩ := s
  cases vendorId <;> cases deviceId <;> cases magic <;> cases options <;> exact ⟨rfl, rfl, rfl, rfl⟩

theorem assigned_decimal {w : Nat} (d : Option (Decimal w)) (hw : w ≤ 64) :
    assigned machineNumbers w ((d.map (·.text)).map machineValue) = d.elim 0 (·.bits) := by
  cases d with
  | none => rfl
  | some d => exact machineValue_bits d hw

theorem parseServerFields_keyAt {s : ServerText} (hkeys : ∀ key ∈ serverKeys, KeyAt key ts (s.fields.lookup key))
    (hr : Rendered ts text) : parseServerFields machineNumbers (text ++ [nul]) = some s.server := by
  obtain ⟨hvendor, hdevice, hmagic, hoptions⟩ := lookup_server s
  have hstrstr (key : Key) : strstr (quoted key.string) (text ++ [nul]) =
      some ((firstMatch (quoted key.string) text).map (· ++ [nul])) :=
    strstr_append_nul (quoted_ne_nil _) (by cases key <;> decide) hr.nul_not_mem
  have hnul : nul ∈ [nul] := List.mem_singleton_self nul
  have hVendor := uintOf_keyAt (s.vendorId.map (·.text)) (hvendor ▸ hkeys .vendorId (by decide)) hr hnul
  have hDevice := uintOf_keyAt (s.deviceId.map (·.text)) (hdevice ▸ hkeys .deviceId (by decide)) hr hnul
  have hMagic := uintOf_keyAt (s.magic.map (·.text)) (hmagic ▸ hkeys .magic (by decide)) hr hnul
  have hOptions := optionsOf_keyAt (z := [nul]) s.svrImplementedOptions
    (hoptions ▸ hkeys .svrImplementedOptions (by decide)) hr
  have hkVendor := hstrstr .vendorId
  have hkDevice := hstrstr .deviceId
  have hkMagic := hstrstr .magic
  have hkOptions := hstrstr .svrImplementedOptions
  simp only [Key.string] at hVendor hDevice hMagic hkVendor hkDevice hkMagic hkOptions
  have hfields : s.server = {
      vendorId := assigned machineNumbers 16 ((s.vendorId.map (·.text)).map machineValue)
      deviceId := assigned machineNumbers 16 ((s.deviceId.map (·.text)).map machineValue)
      magic := assigned machineNumbers 32 ((s.magic.map (·.text)).map machineValue)
      svrImplementedOptions := namedBits ((s.svrImplementedOptions.getD []).map (·.1)) } := by
    rw [assigned_decimal s.vendorId (by decide), assigned_decimal s.deviceId (by decide),
      assigned_decimal s.magic (by decide)]
    rfl
  simp only [parseServerFields, hkVendor, hkDevice, hkMagic, hkOptions, hVendor, hDevice, hMagic, hOptions,
    Option.bind_eq_bind, Option.bind_some]
  exact congrArg some hfields.symm

/-! ### The whole text -/

theorem parseJson_manifest {json : CString} (h : m.IsWritten json.text) (errMsgCap : Nat) :
    parseJson machineNumbers (fun _ => true) json errMsgCap = some { code := .ok, out := m.manifest } := by
  obtain ⟨ss, tss, hperm, hmembers, hr⟩ := h
  have hblocks := blocks_sections hmembers
  obtain ⟨arrays, hobjects, hgrown⟩ := parseObjects_manifest hblocks hr
  have hempty : (m.server.elim [] (·.fields) : List Field) = (m.server.getD ⟨none, none, none, none⟩).fields := by
    cases m.server <;> rfl
  have hkeys : ∀ key ∈ serverKeys, KeyAt key (.punct .lbrace :: commaSeparated tss ++ [.punct .rbrace])
      ((m.server.getD ⟨none, none, none, none⟩).fields.lookup key) := by
    intro key hkey
    have hpre : .str key.name ∉ [Token.punct .lbrace] := fun hmem => by cases List.mem_singleton.mp hmem
    have hpost : .str key.name ∉ [Token.punct .rbrace] := fun hmem => by cases List.mem_singleton.mp hmem
    exact hempty ▸ keyAt_server hblocks (server_of_sections hperm) hkey hpre hpost
  have hserver : (m.server.getD ⟨none, none, none, none⟩).server = m.server.elim (.zero machineNumbers) (·.server) := by
    cases m.server <;> rfl
  have hpins := hgrown.pins.trans (pins_of_sections hperm)
  have hendpoints := hgrown.endpoints.trans (endpoints_of_sections hperm)
  have hstreams := hgrown.streams.trans (streams_of_sections hperm)
  simp only [parseJson, CString.cells, parseServerFields_keyAt hkeys hr, hobjects, hserver, hpins, hendpoints, hstreams,
    Option.bind_eq_bind, Option.bind_some]
  rfl

/-- A text that the schema describes is parsed to the manifest that it says, when memory is granted. Whatever the text is
    and whichever allocations succeed, the call returns without a read past the NUL, and leaves a manifest of zeros unless
    it returns `RCP_OK`. -/
theorem config_parse_exact :
    (∀ (m : ManifestText) (json : CString) (errMsgCap : Nat), m.IsWritten json.text →
      parseJson machineNumbers (fun _ => true) json errMsgCap = some { code := .ok, out := m.manifest }) ∧
    (∀ (alloc : Nat → Bool) (json : CString) (errMsgCap : Nat),
      ∃ r, parseJson machineNumbers alloc json errMsgCap = some r ∧ (r.code ≠ .ok → r.out = .zero machineNumbers)) :=
  ⟨fun _ _ errMsgCap h => parseJson_manifest h errMsgCap, parseJson_reads machineNumbers⟩

/-- The number 7 in a field of 64 bits. -/
def sevenText : Decimal 64 where
  text := { negative := false, digits := ['7'], digits_ne := by decide, isDigit := List.all_eq_true.mp (by decide) }
  nonneg := by decide
  fits := by decide

/-- A manifest that has one stream and an empty array of endpoints. -/
def oneStream : ManifestText where
  server := none
  hwPinMap := none
  endpoints := some []
  streams := some [{ configured := none, rxStreamId := sevenText }]

def oneStreamTokens : List Token :=
  [.punct .lbrace, .str (SectionKey.name .streams), .punct .colon, .punct .lbracket, .punct .lbrace,
    .str (Key.name .rxStreamId), .punct .colon, .number sevenText.text, .punct .rbrace, .punct .rbracket, .punct .comma,
    .str (SectionKey.name .endpoints), .punct .colon, .punct .lbracket, .punct .rbracket, .punct .rbrace]

/-- The array of endpoints may come last. -/
theorem oneStream_isWritten : oneStream.IsWritten (oneStreamTokens.flatMap Token.chars) := by
  refine ⟨[.streams [{ configured := none, rxStreamId := sevenText }], .endpoints []], _, .swap _ _ _,
    .cons ⟨_, ⟨_, .cons ⟨_, .refl _, rfl⟩ .nil, rfl⟩, rfl⟩ (.cons ⟨_, ⟨_, .nil, rfl⟩, rfl⟩ .nil), ?_⟩
  exact Rendered.tight oneStreamTokens

def oneStreamJson : CString := ⟨oneStreamTokens.flatMap Token.chars, by decide⟩

theorem config_parse_exact_oneStream :
    parseJson machineNumbers (fun _ => true) oneStreamJson 0 =
      some { code := .ok, out := { server := .zero machineNumbers, streams := [{ configured := true, rxStreamId := 7 }] } } ∧
    ∃ r, parseJson machineNumbers (fun _ => false) oneStreamJson 0 = some r ∧
      (r.code ≠ .ok → r.out = .zero machineNumbers) :=
  ⟨config_parse_exact.1 oneStream oneStreamJson 0 oneStream_isWritten, config_parse_exact.2 (fun _ => false) oneStreamJson 0⟩

end Rcp
