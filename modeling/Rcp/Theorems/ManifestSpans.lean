import Rcp.Theorems.ManifestValues

/-! The objects that the loop of the parser finds in a manifest of the schema. It goes from an opening brace to the next
    closing one, so that the first object that it finds begins with the brace of the manifest and the keys of sections in
    front of the first section that has an object; the others are the objects of the sections. No other keys of fields
    come between. -/

namespace Rcp.Config
open Lib ManifestText

/-- An object of a section. -/
inductive ObjectText where
  | server (s : ServerText)
  | pin (pin : PinText)
  | endpoint (ep : EndpointText)
  | stream (s : StreamText)

theorem optionalKey_sublist {α : Type} (key : Key) (value : α → FieldValue) (o : Option α) :
    ((o.map fun a => ((key, value a) : Field)).toList.map Prod.fst).Sublist [key] := by
  cases o with
  | none => exact List.nil_sublist _
  | some a => exact List.Sublist.refl _

namespace ObjectText

def fields : ObjectText → List Field
  | .server s => s.fields
  | .pin p => p.fields
  | .endpoint ep => ep.fields
  | .stream s => s.fields

/-- The keys that an object of this kind may have. -/
def keys : ObjectText → List Key
  | .server _ => [.vendorId] ++ [.deviceId] ++ [.magic] ++ [.svrImplementedOptions]
  | .pin _ => [.hwEpNr, .hwEpPinNr] ++ [.hwPinType]
  | .endpoint _ => [.byteBusId, .epType] ++ [.epEnable]
  | .stream _ => [.configured] ++ [.rxStreamId]

theorem keys_sublist (o : ObjectText) : (o.fields.map Prod.fst).Sublist o.keys := by
  cases o with
  | server s =>
    rw [fields, ServerText.fields, List.map_append, List.map_append, List.map_append]
    exact (((optionalKey_sublist _ _ _).append (optionalKey_sublist _ _ _)).append (optionalKey_sublist _ _ _)).append
      (optionalKey_sublist _ _ _)
  | pin p =>
    rw [fields, PinText.fields, List.map_append]
    exact (List.Sublist.refl _).append (optionalKey_sublist _ _ _)
  | endpoint ep =>
    rw [fields, EndpointText.fields, List.map_append]
    exact (List.Sublist.refl _).append (optionalKey_sublist _ _ _)
  | stream s =>
    rw [fields, StreamText.fields, List.map_append]
    exact (optionalKey_sublist _ _ _).append (List.Sublist.refl _)

theorem nodup_keys (o : ObjectText) : (o.fields.map Prod.fst).Nodup := by
  refine o.keys_sublist.nodup ?_
  cases o <;> (rw [keys]; decide)

theorem lookup_eq_none {o : ObjectText} {key : Key} (h : key ∉ o.keys) : o.fields.lookup key = none := by
  rw [List.lookup_eq_none_iff]
  rintro ⟨k, v⟩ hmem
  rw [bne_iff_ne]
  rintro rfl
  exact h (o.keys_sublist.subset (List.mem_map_of_mem hmem))

end ObjectText

variable {key : Key} {f : Field} {fields fs : List Field} {pre post ts us : List Token} {v : FieldValue}

/-! ### Fields -/

/-- The strings of a field are its key and names of properties, and it has no braces. -/
theorem mem_fieldTokens {t : Token} (h : t ∈ f.tokens) :
    t = .str f.1.name ∨ (∃ n : Property, t = .str n.name) ∨ ((∀ name, t ≠ .str name) ∧ t ≠ .punct .rbrace) := by
  obtain ⟨key, value⟩ := f
  obtain rfl | h := List.mem_cons.mp h
  · exact .inl rfl
  obtain rfl | h := List.mem_cons.mp h
  · exact .inr (.inr ⟨nofun, by decide⟩)
  cases value with
  | number n =>
    obtain rfl := List.mem_singleton.mp h
    exact .inr (.inr ⟨nofun, nofun⟩)
  | bool b =>
    obtain rfl := List.mem_singleton.mp h
    exact .inr (.inr ⟨nofun, nofun⟩)
  | names ns =>
    obtain h | h := List.mem_append.mp h
    · obtain rfl | h := List.mem_cons.mp h
      · exact .inr (.inr ⟨nofun, by decide⟩)
      obtain rfl | ⟨n, rfl⟩ := mem_nameTokens h
      · exact .inr (.inr ⟨nofun, by decide⟩)
      · exact .inr (.inl ⟨n, rfl⟩)
    · obtain rfl := List.mem_singleton.mp h
      exact .inr (.inr ⟨nofun, by decide⟩)

theorem eq_of_mem_fieldTokens (h : .str key.name ∈ f.tokens) : f.1 = key := by
  obtain h | ⟨n, h⟩ | ⟨hstr, -⟩ := mem_fieldTokens h
  · exact keyName_inj (Token.str.inj h).symm
  · exact absurd (Token.str.inj h).symm (propertyName_ne n key)
  · exact absurd rfl (hstr key.name)

theorem exists_of_mem_fieldsTokens (h : .str key.name ∈ commaSeparated (fs.map Field.tokens)) :
    ∃ v, (key, v) ∈ fs := by
  obtain h | ⟨us, hus, hmem⟩ := mem_commaSeparated h
  · cases h
  · obtain ⟨⟨k, v⟩, hf, rfl⟩ := List.mem_map.mp hus
    obtain rfl := eq_of_mem_fieldTokens hmem
    exact ⟨v, hf⟩

theorem rbrace_not_mem_fieldsTokens (fs : List Field) :
    .punct .rbrace ∉ commaSeparated (fs.map Field.tokens) := by
  intro h
  obtain h | ⟨us, hus, hmem⟩ := mem_commaSeparated h
  · cases h
  · obtain ⟨f, -, rfl⟩ := List.mem_map.mp hus
    obtain h | ⟨n, h⟩ | ⟨-, hbrace⟩ := mem_fieldTokens hmem
    · cases h
    · cases h
    · exact hbrace rfl

/-- In an object a key has the value that its field has, whatever the order of the fields is. -/
theorem keyAt_fields (hperm : fs.Perm fields) (hnodup : (fields.map Prod.fst).Nodup) (hpre : .str key.name ∉ pre)
    (hpost : .str key.name ∉ post) :
    KeyAt key (pre ++ (commaSeparated (fs.map Field.tokens) ++ .punct .rbrace :: post)) (fields.lookup key) := by
  cases hlookup : fields.lookup key with
  | none =>
    intro h
    obtain h | h := List.mem_append.mp h
    · exact hpre h
    obtain h | h := List.mem_append.mp h
    · obtain ⟨v, hv⟩ := exists_of_mem_fieldsTokens h
      have hne := List.lookup_eq_none_iff.mp hlookup _ (hperm.mem_iff.mp hv)
      exact absurd hne (by simp)
    · obtain h | h := List.mem_cons.mp h
      · cases h
      · exact hpost h
  | some v =>
    obtain ⟨before, after, hfields, -⟩ := List.lookup_eq_some_iff.mp hlookup
    have hmem : (key, v) ∈ fs := hperm.mem_iff.mpr (hfields ▸ List.mem_append_right before List.mem_cons_self)
    obtain ⟨l₁, l₂, rfl⟩ := List.append_of_mem hmem
    have hfirst : ∀ f ∈ l₁, f.1 ≠ key := by
      have hkeys := (hperm.map Prod.fst).nodup_iff.mpr hnodup
      rw [List.map_append, List.map_cons] at hkeys
      intro f hf hkey
      exact (List.nodup_append.mp hkeys).2.2 f.1 (List.mem_map_of_mem hf) key List.mem_cons_self hkey
    obtain ⟨a, b, hsplit, ha, hb⟩ :=
      commaSeparated_split (l₁.map Field.tokens) (l₂.map Field.tokens) (Field.tokens (key, v))
    have hafter : ∃ p c, b ++ .punct .rbrace :: post = .punct p :: c := by
      obtain rfl | ⟨rest, rfl⟩ := hb
      · exact ⟨.rbrace, post, rfl⟩
      · exact ⟨.comma, _, rfl⟩
    obtain ⟨p, c, hc⟩ := hafter
    refine ⟨pre ++ a, p, c, ?_, ?_⟩
    · rw [List.map_append, List.map_cons, hsplit, ← hc]
      simp only [Field.tokens, List.append_assoc, List.cons_append]
    · intro h
      obtain h | h := List.mem_append.mp h
      · exact hpre h
      · obtain h | ⟨us, hus, hmem⟩ := ha _ h
        · cases h
        · obtain ⟨f, hf, rfl⟩ := List.mem_map.mp hus
          exact hfirst f hf (eq_of_mem_fieldTokens hmem)

/-! ### Objects and what is between them -/

/-- What is between objects: punctuation other than braces, and keys of sections. -/
def Filler (ts : List Token) : Prop :=
  ∀ t ∈ ts, (∃ p, t = .punct p ∧ p ≠ .lbrace ∧ p ≠ .rbrace) ∨ ∃ s : SectionKey, t = .str s.name

theorem Filler.append (ht : Filler ts) (hu : Filler us) : Filler (ts ++ us) := by
  intro t h
  obtain h | h := List.mem_append.mp h
  · exact ht t h
  · exact hu t h

theorem Filler.key_not_mem (h : Filler ts) : .str key.name ∉ ts := by
  intro hmem
  obtain ⟨p, hp, -⟩ | ⟨s, hs⟩ := h _ hmem
  · cases hp
  · exact sectionName_ne s key (Token.str.inj hs).symm

theorem Filler.brace_not_mem (h : Filler ts) : .punct .lbrace ∉ ts ∧ .punct .rbrace ∉ ts := by
  constructor
  · intro hmem
    obtain ⟨p, hp, hne, -⟩ | ⟨s, hs⟩ := h _ hmem
    · exact hne (Token.punct.inj hp).symm
    · cases hs
  · intro hmem
    obtain ⟨p, hp, -, hne⟩ | ⟨s, hs⟩ := h _ hmem
    · exact hne (Token.punct.inj hp).symm
    · cases hs

theorem filler_punct {p : Punct} (hl : p ≠ .lbrace) (hr : p ≠ .rbrace) : Filler [.punct p] := by
  intro t ht
  exact .inl ⟨p, List.mem_singleton.mp ht, hl, hr⟩

/-- Tokens with these objects in them, in order. -/
inductive Blocks : List Token → List ObjectText → Prop where
  | filler {ts : List Token} : Filler ts → Blocks ts []
  | object {pre obj ts : List Token} {o : ObjectText} {os : List ObjectText} :
      Filler pre → IsObject o.fields obj → Blocks ts os → Blocks (pre ++ (obj ++ ts)) (o :: os)

namespace Blocks
variable {os ps : List ObjectText} {o : ObjectText}

theorem prepend (ht : Filler ts) (hb : Blocks us os) : Blocks (ts ++ us) os := by
  cases hb with
  | filler hu => exact .filler (ht.append hu)
  | object hpre hobj hrest =>
    rw [← List.append_assoc]
    exact .object (ht.append hpre) hobj hrest

theorem append (ht : Blocks ts os) (hu : Blocks us ps) : Blocks (ts ++ us) (os ++ ps) := by
  induction ht with
  | filler h => exact hu.prepend h
  | object hpre hobj _ ih =>
    rw [List.append_assoc, List.append_assoc]
    exact .object hpre hobj ih

theorem of_isObject {obj : List Token} (h : IsObject o.fields obj) : Blocks obj [o] := by
  have := @Blocks.object [] obj [] o [] (fun _ ht => nomatch ht) h (.filler (fun _ ht => nomatch ht))
  rwa [List.nil_append, List.append_nil] at this

theorem commaSeparated {tss : List (List Token)} {oss : List (List ObjectText)} (h : List.Forall₂ Blocks tss oss) :
    Blocks (commaSeparated tss) oss.flatten := by
  induction h with
  | nil => exact .filler fun _ ht => nomatch ht
  | @cons ts os tss oss hts hrest ih =>
    by_cases hnil : tss = []
    · subst hnil
      cases hrest
      rw [List.flatten_cons, List.flatten_nil, List.append_nil]
      exact hts
    · rw [commaSeparated_cons hnil, List.flatten_cons]
      exact hts.append (ih.prepend (filler_punct (p := .comma) (by decide) (by decide)))

end Blocks

/-- The objects of a section. -/
def sectionObjects : SectionText → List ObjectText
  | .server s => [.server s]
  | .hwPinMap pins => pins.map .pin
  | .endpoints eps => eps.map .endpoint
  | .streams ss => ss.map .stream

theorem blocks_array {α : Type} (object : α → ObjectText) {items : List α} {value : List Token}
    (h : IsArray (items.map fun a => (object a).fields) value) : Blocks value (items.map object) := by
  obtain ⟨tss, hobjects, rfl⟩ := h
  have hblocks : List.Forall₂ Blocks tss (items.map fun a => [object a]) := by
    rw [List.forall₂_map_right_iff]
    exact (List.forall₂_map_left_iff.mp hobjects).flip.imp fun _ _ h => .of_isObject h
  have hflat : (items.map fun a => [object a]).flatten = items.map object := by
    rw [← List.flatMap_def]
    exact List.map_eq_flatMap.symm
  have hinside := hflat ▸ Blocks.commaSeparated hblocks
  have hclose : Blocks [.punct .rbracket] [] := .filler (filler_punct (by decide) (by decide))
  have hwhole := (hinside.append hclose).prepend (filler_punct (p := .lbracket) (by decide) (by decide))
  rw [List.append_nil] at hwhole
  exact hwhole

theorem blocks_section {s : SectionText} (h : s.IsMember ts) : Blocks ts (sectionObjects s) := by
  obtain ⟨value, hvalue, rfl⟩ := h
  have hkey : Filler [.str s.key.name, .punct .colon] := by
    intro t ht
    obtain rfl | ht := List.mem_cons.mp ht
    · exact .inr ⟨s.key, rfl⟩
    · exact filler_punct (by decide) (by decide) t ht
  refine Blocks.prepend hkey ?_
  cases s with
  | server s => exact .of_isObject hvalue
  | hwPinMap pins => exact blocks_array .pin hvalue
  | endpoints eps => exact blocks_array .endpoint hvalue
  | streams ss => exact blocks_array .stream hvalue

theorem blocks_sections {ss : List SectionText} {tss : List (List Token)}
    (h : List.Forall₂ SectionText.IsMember ss tss) : Blocks (commaSeparated tss) (ss.flatMap sectionObjects) := by
  rw [List.flatMap_def]
  refine Blocks.commaSeparated ?_
  rw [List.forall₂_map_right_iff]
  exact h.flip.imp fun _ _ h => blocks_section h

/-! ### The server -/

def server? : ObjectText → Option ServerText
  | .server s => some s
  | _ => none

/-- The keys of the server, which are searched for in the whole text. -/
def serverKeys : List Key := [.vendorId, .deviceId, .magic, .svrImplementedOptions]

theorem lookup_of_server?_eq_none {o : ObjectText} (ho : server? o = none) (hkey : key ∈ serverKeys) :
    o.fields.lookup key = none := by
  refine ObjectText.lookup_eq_none fun hmem => ?_
  have hdisjoint {l : List Key} (h : ∀ k ∈ serverKeys, k ∉ l) (hl : key ∈ l) : False := h key hkey hl
  cases o with
  | server s => cases ho
  | pin p => exact hdisjoint (by rw [ObjectText.keys]; decide) hmem
  | endpoint ep => exact hdisjoint (by rw [ObjectText.keys]; decide) hmem
  | stream s => exact hdisjoint (by rw [ObjectText.keys]; decide) hmem

theorem object_key_not_mem {o : ObjectText} {obj : List Token} (h : IsObject o.fields obj)
    (hlookup : o.fields.lookup key = none) : .str key.name ∉ obj := by
  obtain ⟨fs, hperm, rfl⟩ := h
  have hpre : .str key.name ∉ [Token.punct .lbrace] := fun hmem => by cases List.mem_singleton.mp hmem
  have hpost : .str key.name ∉ ([] : List Token) := List.not_mem_nil
  have hkeyAt := keyAt_fields hperm o.nodup_keys hpre hpost
  rw [hlookup] at hkeyAt
  exact hkeyAt

/-- The server fields are the ones of the server object, wherever it is. -/
theorem keyAt_server {os : List ObjectText} {server : Option ServerText} (hb : Blocks ts os)
    (hserver : os.filterMap server? = server.toList) (hkey : key ∈ serverKeys) (hpre : .str key.name ∉ pre)
    (hpost : .str key.name ∉ post) : KeyAt key (pre ++ (ts ++ post)) ((server.elim [] (·.fields)).lookup key) := by
  induction hb generalizing pre server with
  | @filler ts hts =>
    obtain rfl : server = none := by
      cases server with
      | none => rfl
      | some s => cases hserver
    intro h
    obtain h | h := List.mem_append.mp h
    · exact hpre h
    obtain h | h := List.mem_append.mp h
    · exact hts.key_not_mem h
    · exact hpost h
  | @object filler obj ts o os hfiller hobj hrest ih =>
    cases ho : server? o with
    | none =>
      rw [List.filterMap_cons_none ho] at hserver
      have hpre' : .str key.name ∉ pre ++ (filler ++ obj) := by
        intro h
        obtain h | h := List.mem_append.mp h
        · exact hpre h
        obtain h | h := List.mem_append.mp h
        · exact hfiller.key_not_mem h
        · exact object_key_not_mem hobj (lookup_of_server?_eq_none ho hkey) h
      have hkeyAt := ih hserver hpre'
      simp only [List.append_assoc] at hkeyAt ⊢
      exact hkeyAt
    | some s =>
      rw [List.filterMap_cons_some ho] at hserver
      obtain ⟨rfl, hnone⟩ : server = some s ∧ os.filterMap server? = (none : Option ServerText).toList := by
        cases server with
        | none => cases hserver
        | some s' =>
          obtain ⟨rfl, hnil⟩ := List.cons.inj hserver
          exact ⟨rfl, hnil⟩
      obtain rfl : o = .server s := by
        cases o <;> cases ho
        rfl
      have hnil : .str key.name ∉ ([] : List Token) := List.not_mem_nil
      have hrest' : .str key.name ∉ ts ++ post := ih hnone hnil
      obtain ⟨fs, hperm, rfl⟩ := hobj
      have hpre' : .str key.name ∉ pre ++ (filler ++ [.punct .lbrace]) := by
        intro h
        obtain h | h := List.mem_append.mp h
        · exact hpre h
        obtain h | h := List.mem_append.mp h
        · exact hfiller.key_not_mem h
        · cases List.mem_singleton.mp h
      have hkeyAt := keyAt_fields hperm (ObjectText.server s).nodup_keys hpre' hrest'
      simp only [List.append_assoc, List.cons_append, List.nil_append] at hkeyAt ⊢
      exact hkeyAt

end Rcp.Config
