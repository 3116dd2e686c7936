import Rcp.Theorems.ManifestSpans

/-! Parsing a manifest of the schema gives what it says: each object adds the entry that it is to its array, and the server
    fields are found wherever the server object is. -/

namespace Rcp.Config
open Lib ManifestText

variable {key : Key} {ts : List Token} {s z : List Char} {value : Option FieldValue}

/-! ### One object -/

theorem findKey_append (s z : List Char) (key : String) :
    findKey (s ++ z) ('\x7d' :: z) key = some ((firstMatch (quoted key) s).map (· ++ z)) :=
  findInRange_append (quoted_ne_nil key)

theorem isSome_of_keyAt (h : KeyAt key ts value) (hr : Rendered ts s) :
    ((firstMatch (quoted key.string) s).map (· ++ z)).isSome = value.isSome := by
  cases value with
  | none =>
    rw [firstMatch_of_keyAt_none h hr]
    rfl
  | some v =>
    obtain ⟨y, p, b, hfirst, -⟩ := firstMatch_of_keyAt_some h hr
    rw [hfirst]
    rfl

theorem parsePinEntry_object {pin : PinText} (hkeys : ∀ key, KeyAt key ts (pin.fields.lookup key))
    (hr : Rendered ts s) (hz : nul ∈ z) :
    parsePinEntry machineNumbers (s ++ z) ('\x7d' :: z) = some (.ok pin.pin) := by
  have htype : pin.fields.lookup .hwPinType = pin.hwPinType.map fun ns => .names (ns.map (·.property)) := by
    obtain ⟨hwEpNr, hwEpPinNr, hwPinType⟩ := pin
    cases hwPinType <;> rfl
  have hNr := uintOf_keyAt (some pin.hwEpNr.text) (hkeys .hwEpNr) hr hz
  have hPinNr := uintOf_keyAt (some pin.hwEpPinNr.text) (hkeys .hwEpPinNr) hr hz
  have hType := hwPinTypeOf_keyAt pin.hwPinType ('\x7d' :: z) (htype ▸ hkeys .hwPinType) hr (Nat.le_refl (z.length + 1))
  simp only [Key.string] at hNr hPinNr
  simp only [parsePinEntry, findKey_append, hNr, hPinNr, hType, Option.bind_eq_bind, Option.bind_some, Option.map_some]
  simp only [PinText.pin, ← machineValue_bits pin.hwEpNr (by decide), ← machineValue_bits pin.hwEpPinNr (by decide)]
  rfl

theorem parseEndpointEntry_object {ep : EndpointText} (hkeys : ∀ key, KeyAt key ts (ep.fields.lookup key))
    (hr : Rendered ts s) (hz : nul ∈ z) :
    parseEndpointEntry machineNumbers (s ++ z) ('\x7d' :: z) = some (.ok ep.endpoint) := by
  have henable : ep.fields.lookup .epEnable = ep.epEnable.map .bool := by
    obtain ⟨byteBusId, epType, epEnable⟩ := ep
    cases epEnable <;> rfl
  have hId := uintOf_keyAt (some ep.byteBusId.text) (hkeys .byteBusId) hr hz
  have hType := uintOf_keyAt (some ep.epType.text) (hkeys .epType) hr hz
  have hEnable := boolOf_keyAt (z := z) ep.epEnable (henable ▸ hkeys .epEnable) hr
  simp only [Key.string] at hId hType hEnable
  simp only [parseEndpointEntry, findKey_append, hId, hType, hEnable, Option.bind_eq_bind, Option.bind_some,
    Option.map_some]
  simp only [EndpointText.endpoint, ← machineValue_bits ep.byteBusId (by decide),
    ← machineValue_bits ep.epType (by decide)]
  rfl

theorem parseStreamEntry_object {stream : StreamText} (hkeys : ∀ key, KeyAt key ts (stream.fields.lookup key))
    (hr : Rendered ts s) (hz : nul ∈ z) :
    parseStreamEntry machineNumbers (s ++ z) ('\x7d' :: z) = some (.ok stream.stream) := by
  have hid : stream.fields.lookup .rxStreamId = some (.number stream.rxStreamId.text) := by
    obtain ⟨configured, rxStreamId⟩ := stream
    cases configured <;> rfl
  have hconfigured : stream.fields.lookup .configured = stream.configured.map .bool := by
    obtain ⟨configured, rxStreamId⟩ := stream
    cases configured <;> rfl
  have hId := uintOf_keyAt (some stream.rxStreamId.text) (hid ▸ hkeys .rxStreamId) hr hz
  have hConfigured := boolOf_keyAt (z := z) stream.configured (hconfigured ▸ hkeys .configured) hr
  simp only [Key.string] at hId hConfigured
  simp only [parseStreamEntry, findKey_append, hId, hConfigured, Option.bind_eq_bind, Option.bind_some, Option.map_some]
  simp only [StreamText.stream, ← machineValue_bits stream.rxStreamId (by decide)]
  rfl

/-! ### What an object adds -/

def pin? : ObjectText → Option (ConfigHwPin BitVec)
  | .pin pin => some pin.pin
  | _ => none

def endpoint? : ObjectText → Option (ConfigEndpoint BitVec)
  | .endpoint ep => some ep.endpoint
  | _ => none

def stream? : ObjectText → Option (ConfigStream BitVec)
  | .stream s => some s.stream
  | _ => none

/-- The arrays after these objects. -/
structure Grown (arrays : Arrays BitVec) (os : List ObjectText) (arrays' : Arrays BitVec) : Prop where
  pins : arrays'.pins.items = arrays.pins.items ++ os.filterMap pin?
  endpoints : arrays'.endpoints.items = arrays.endpoints.items ++ os.filterMap endpoint?
  streams : arrays'.streams.items = arrays.streams.items ++ os.filterMap stream?

variable {arrays arrays' : Arrays BitVec} {o : ObjectText} {os : List ObjectText}

theorem Grown.nil (arrays : Arrays BitVec) : Grown arrays [] arrays :=
  ⟨(List.append_nil _).symm, (List.append_nil _).symm, (List.append_nil _).symm⟩

theorem Grown.cons {arrays'' : Arrays BitVec} (h : Grown arrays [o] arrays') (hs : Grown arrays' os arrays'') :
    Grown arrays (o :: os) arrays'' where
  pins := by rw [hs.pins, h.pins, List.append_assoc, ← List.filterMap_append, List.singleton_append]
  endpoints := by rw [hs.endpoints, h.endpoints, List.append_assoc, ← List.filterMap_append, List.singleton_append]
  streams := by rw [hs.streams, h.streams, List.append_assoc, ← List.filterMap_append, List.singleton_append]

/-- An array that can grow takes another entry. -/
theorem append_granted {α : Type} (arr : Entries α) (value : α) :
    ∃ arr', arr.append true value = some arr' ∧ arr'.items = arr.items ++ [value] := by
  rw [Entries.append]
  split
  · exact ⟨_, rfl, rfl⟩
  · exact ⟨_, rfl, rfl⟩

/-- An object is told by its keys. -/
theorem parseConfigObject_object (hkeys : ∀ key, KeyAt key ts (o.fields.lookup key)) (hr : Rendered ts s)
    (hz : nul ∈ z) (arrays : Arrays BitVec) :
    ∃ arrays', parseConfigObject machineNumbers (fun _ => true) (s ++ z) ('\x7d' :: z) arrays = some (.ok arrays') ∧
      Grown arrays [o] arrays' := by
  have hsome (key : Key) : ((firstMatch (quoted key.string) s).map (· ++ z)).isSome = (o.fields.lookup key).isSome :=
    isSome_of_keyAt (hkeys key) hr
  have habsent (key : Key) (hkey : key ∉ o.keys) :
      ((firstMatch (quoted key.string) s).map (· ++ z)).isSome = false := by
    rw [hsome, ObjectText.lookup_eq_none hkey]
    rfl
  cases o with
  | endpoint ep =>
    have hId : ((firstMatch (quoted "byte_bus_id") s).map (· ++ z)).isSome = true := hsome .byteBusId
    obtain ⟨endpoints, happend, hitems⟩ := append_granted arrays.endpoints ep.endpoint
    refine ⟨{ arrays with endpoints }, ?_, (List.append_nil _).symm, hitems, (List.append_nil _).symm⟩
    simp only [parseConfigObject, findKey_append, hId, parseEndpointEntry_object hkeys hr hz, happend,
      Option.bind_eq_bind, Option.bind_some, Bool.true_or, if_true]
    rfl
  | pin pin =>
    have hId := habsent .byteBusId (by rw [ObjectText.keys]; decide)
    have hType := habsent .epType (by rw [ObjectText.keys]; decide)
    have hNr : ((firstMatch (quoted "hw_ep_nr") s).map (· ++ z)).isSome = true := hsome .hwEpNr
    obtain ⟨pins, happend, hitems⟩ := append_granted arrays.pins pin.pin
    refine ⟨{ arrays with pins }, ?_, hitems, (List.append_nil _).symm, (List.append_nil _).symm⟩
    simp only [Key.string] at hId hType
    simp only [parseConfigObject, findKey_append, hId, hType, hNr, parsePinEntry_object hkeys hr hz, happend,
      Option.bind_eq_bind, Option.bind_some, Bool.true_or, Bool.or_false, Bool.false_eq_true, if_true, if_false]
    rfl
  | stream stream =>
    have hId := habsent .byteBusId (by rw [ObjectText.keys]; decide)
    have hType := habsent .epType (by rw [ObjectText.keys]; decide)
    have hNr := habsent .hwEpNr (by rw [ObjectText.keys]; decide)
    have hPinNr := habsent .hwEpPinNr (by rw [ObjectText.keys]; decide)
    have hStream : ((firstMatch (quoted "rx_stream_id") s).map (· ++ z)).isSome = true := by
      have h := hsome .rxStreamId
      obtain ⟨configured, rxStreamId⟩ := stream
      cases configured <;> exact h
    obtain ⟨streams, happend, hitems⟩ := append_granted arrays.streams stream.stream
    refine ⟨{ arrays with streams }, ?_, (List.append_nil _).symm, (List.append_nil _).symm, hitems⟩
    simp only [Key.string] at hId hType hNr hPinNr
    simp only [parseConfigObject, findKey_append, hId, hType, hNr, hPinNr, hStream, parseStreamEntry_object hkeys hr hz,
      happend, Option.bind_eq_bind, Option.bind_some, Bool.true_or, Bool.or_false, Bool.false_eq_true, if_true, if_false]
    rfl
  | server server =>
    have hId := habsent .byteBusId (by rw [ObjectText.keys]; decide)
    have hType := habsent .epType (by rw [ObjectText.keys]; decide)
    have hNr := habsent .hwEpNr (by rw [ObjectText.keys]; decide)
    have hPinNr := habsent .hwEpPinNr (by rw [ObjectText.keys]; decide)
    have hStream := habsent .rxStreamId (by rw [ObjectText.keys]; decide)
    have hConfigured := habsent .configured (by rw [ObjectText.keys]; decide)
    refine ⟨arrays, ?_, (List.append_nil _).symm, (List.append_nil _).symm, (List.append_nil _).symm⟩
    simp only [Key.string] at hId hType hNr hPinNr hStream hConfigured
    simp only [parseConfigObject, findKey_append, hId, hType, hNr, hPinNr, hStream, hConfigured, Option.bind_eq_bind,
      Option.bind_some, Bool.or_false, Bool.false_eq_true, if_false]
    rfl

/-! ### The loop -/

variable {text : List Char} {filler head rest : List Token} {fs : List Field}

theorem lbrace_free (h : Rendered ts text) (hmem : .punct .lbrace ∉ ts) :
    parseObjects machineNumbers (fun _ => true) (text ++ [nul]) arrays = some (.ok arrays) := by
  have hbrace : '\x7b' ∉ text := h.punct_not_mem hmem
  have hnone : strchr '\x7b' (text ++ [nul]) = some none := by
    rw [strchr_append_nul (by decide) h.nul_not_mem, firstMatch_eq_none_of_not_mem hbrace]
    rfl
  rw [parseObjects_eq, hnone]
  split <;> rfl

/-- One round: an object from an opening brace to the next closing one, with something else in front of its fields that has
    no key of a field and no closing brace. -/
theorem parseObjects_object (hfiller : .punct .lbrace ∉ filler) (hhead : .punct .rbrace ∉ head)
    (hkeys : ∀ key : Key, .str key.name ∉ head) (hperm : fs.Perm o.fields)
    (hr : Rendered (filler ++ .punct .lbrace :: (head ++ (commaSeparated (fs.map Field.tokens) ++ .punct .rbrace :: rest))) text)
    (arrays : Arrays BitVec) :
    ∃ v arrays', Rendered rest v ∧ Grown arrays [o] arrays' ∧
      parseObjects machineNumbers (fun _ => true) (text ++ [nul]) arrays =
        parseObjects machineNumbers (fun _ => true) (v ++ [nul]) arrays' := by
  obtain ⟨x, u, rfl, hx, hu⟩ := hr.split
  rw [← List.append_assoc] at hu
  obtain ⟨y, v, rfl, hy, hv⟩ := hu.split
  have hspan : Rendered (.punct .lbrace :: head ++ (commaSeparated (fs.map Field.tokens) ++ [.punct .rbrace]))
      ('\x7b' :: (y ++ ['\x7d'])) := by
    have hwhole := (hy.append (Rendered.punct .rbrace)).cons_punct .lbrace
    rw [List.append_assoc] at hwhole
    exact hwhole
  have hkeyAt (key : Key) : KeyAt key (.punct .lbrace :: head ++ (commaSeparated (fs.map Field.tokens) ++ [.punct .rbrace]))
      (o.fields.lookup key) := by
    refine keyAt_fields hperm o.nodup_keys ?_ List.not_mem_nil
    intro hmem
    obtain h | h := List.mem_cons.mp hmem
    · cases h
    · exact hkeys key h
  obtain ⟨arrays', hobject, hgrown⟩ :=
    parseConfigObject_object hkeyAt hspan (List.mem_append_right v (List.mem_singleton_self nul)) arrays
  refine ⟨v, arrays', hv, hgrown, ?_⟩
  have hxbrace : '\x7b' ∉ x := hx.punct_not_mem hfiller
  have hybrace : '\x7d' ∉ '\x7b' :: y := by
    refine List.not_mem_cons_of_ne_of_not_mem (by decide) (hy.punct_not_mem (p := .rbrace) ?_)
    intro hmem
    obtain h | h := List.mem_append.mp hmem
    · exact hhead h
    · exact rbrace_not_mem_fieldsTokens fs h
  have hopen : strchr '\x7b' (x ++ '\x7b' :: (y ++ '\x7d' :: (v ++ [nul]))) =
      some (some ('\x7b' :: (y ++ '\x7d' :: (v ++ [nul])))) := strchr_append hxbrace hx.nul_not_mem
  have hclose : strchr '\x7d' ('\x7b' :: y ++ '\x7d' :: (v ++ [nul])) = some (some ('\x7d' :: (v ++ [nul]))) :=
    strchr_append hybrace (List.not_mem_cons_of_ne_of_not_mem (by decide) hy.nul_not_mem)
  have hcells : x ++ (Token.chars (.punct .lbrace) ++ (y ++ (Token.chars (.punct .rbrace) ++ v))) ++ [nul] =
      x ++ '\x7b' :: (y ++ '\x7d' :: (v ++ [nul])) := by
    simp [Token.chars, Punct.char]
  have hlong : ¬(x ++ '\x7b' :: (y ++ '\x7d' :: (v ++ [nul]))).length ≤ 1 := by
    simp only [List.length_append, List.length_cons]
    omega
  have hspanCells : '\x7b' :: (y ++ ['\x7d']) ++ (v ++ [nul]) = '\x7b' :: (y ++ '\x7d' :: (v ++ [nul])) := by simp
  rw [List.cons_append] at hclose
  rw [hspanCells] at hobject
  rw [hcells, parseObjects_eq, if_neg hlong]
  simp only [hopen, hclose, hobject, List.tail_cons]

/-- The objects of blocks are taken one after the other. -/
theorem parseObjects_blocks (hb : Blocks ts os) (hr : Rendered (ts ++ [.punct .rbrace]) text) (arrays : Arrays BitVec) :
    ∃ arrays', parseObjects machineNumbers (fun _ => true) (text ++ [nul]) arrays = some (.ok arrays') ∧
      Grown arrays os arrays' := by
  induction hb generalizing text arrays with
  | filler hfiller =>
    refine ⟨arrays, lbrace_free hr ?_, .nil arrays⟩
    intro hmem
    obtain h | h := List.mem_append.mp hmem
    · exact hfiller.brace_not_mem.1 h
    · cases List.mem_singleton.mp h
  | @object filler obj ts o os hfiller hobj hrest ih =>
    obtain ⟨fs, hperm, rfl⟩ := hobj
    have htokens : filler ++ (.punct .lbrace :: commaSeparated (fs.map Field.tokens) ++ [.punct .rbrace] ++ ts) ++
        [.punct .rbrace] =
        filler ++ .punct .lbrace :: ([] ++ (commaSeparated (fs.map Field.tokens) ++ .punct .rbrace :: (ts ++ [.punct .rbrace]))) := by
      simp
    rw [htokens] at hr
    obtain ⟨v, arrays₁, hv, hgrown, hround⟩ :=
      parseObjects_object hfiller.brace_not_mem.1 List.not_mem_nil (fun _ => List.not_mem_nil) hperm hr arrays
    obtain ⟨arrays₂, hparse, hgrown'⟩ := ih hv arrays₁
    exact ⟨arrays₂, hround.trans hparse, hgrown.cons hgrown'⟩

/-- The same of the whole text, whose first brace is the one of the manifest. -/
theorem parseObjects_manifest (hb : Blocks ts os) (hr : Rendered (.punct .lbrace :: ts ++ [.punct .rbrace]) text) :
    ∃ arrays', parseObjects machineNumbers (fun _ => true) (text ++ [nul]) {} = some (.ok arrays') ∧
      Grown {} os arrays' := by
  have hkeys {us : List Token} (hus : Filler us) (key : Key) : .str key.name ∉ us := hus.key_not_mem
  cases hb with
  | filler hfiller =>
    -- there is no object but the manifest, which has no field of its own
    have hempty : (ObjectText.server ⟨none, none, none, none⟩).fields = [] := rfl
    have htokens : .punct .lbrace :: ts ++ [.punct .rbrace] =
        [] ++ .punct .lbrace :: (ts ++ (commaSeparated (([] : List Field).map Field.tokens) ++ .punct .rbrace :: [])) := by
      simp [commaSeparated]
    rw [htokens] at hr
    obtain ⟨v, arrays₁, hv, hgrown, hround⟩ :=
      parseObjects_object List.not_mem_nil hfiller.brace_not_mem.2 (hkeys hfiller) (hempty ▸ List.Perm.refl []) hr {}
    refine ⟨arrays₁, hround.trans (lbrace_free hv List.not_mem_nil), ?_⟩
    exact ⟨hgrown.pins, hgrown.endpoints, hgrown.streams⟩
  | @object filler obj ts o os hfiller hobj hrest =>
    obtain ⟨fs, hperm, rfl⟩ := hobj
    have htokens : .punct .lbrace :: (filler ++ (.punct .lbrace :: commaSeparated (fs.map Field.tokens) ++ [.punct .rbrace] ++ ts)) ++
        [.punct .rbrace] =
        [] ++ .punct .lbrace :: ((filler ++ [.punct .lbrace]) ++
          (commaSeparated (fs.map Field.tokens) ++ .punct .rbrace :: (ts ++ [.punct .rbrace]))) := by
      simp
    rw [htokens] at hr
    have hhead : .punct .rbrace ∉ filler ++ [.punct .lbrace] := by
      intro hmem
      obtain h | h := List.mem_append.mp hmem
      · exact hfiller.brace_not_mem.2 h
      · cases List.mem_singleton.mp h
    have hheadKeys (key : Key) : .str key.name ∉ filler ++ [.punct .lbrace] := by
      intro hmem
      obtain h | h := List.mem_append.mp hmem
      · exact hfiller.key_not_mem h
      · cases List.mem_singleton.mp h
    obtain ⟨v, arrays₁, hv, hgrown, hround⟩ := parseObjects_object List.not_mem_nil hhead hheadKeys hperm hr {}
    obtain ⟨arrays₂, hparse, hgrown'⟩ := parseObjects_blocks hrest hv arrays₁
    exact ⟨arrays₂, hround.trans hparse, hgrown.cons hgrown'⟩

end Rcp.Config
