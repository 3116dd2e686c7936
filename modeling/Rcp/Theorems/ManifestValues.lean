import Rcp.ManifestText
import Rcp.Theorems.ManifestReads

/-! What the parser of a manifest reads behind the keys of one that is written as the schema has it. -/

namespace Rcp.Config
open Lib ManifestText

/-! ### Keys -/

theorem searchable_key (key : Key) : key.name.searchable := by
  cases key <;> decide

theorem keyName_inj {k₁ k₂ : Key} (h : k₁.name = k₂.name) : k₁ = k₂ := by
  revert h
  cases k₁ <;> cases k₂ <;> decide

theorem sectionName_ne (s : SectionKey) (key : Key) : s.name ≠ key.name := by
  cases s <;> cases key <;> decide

theorem propertyName_ne (n : Property) (key : Key) : n.name ≠ key.name := by
  have hall : ∀ n ∈ propertyNames, n.1.toList ≠ key.name.chars := by cases key <;> decide
  intro h
  exact hall n.1 n.2 (congrArg Name.chars h)

/-- What the first field of a key in these tokens is. -/
def KeyAt (key : Key) (ts : List Token) : Option FieldValue → Prop
  | none => .str key.name ∉ ts
  | some v =>
    ∃ a p b, ts = a ++ .str key.name :: .punct .colon :: (v.tokens ++ .punct p :: b) ∧ .str key.name ∉ a

variable {key : Key} {ts : List Token} {v : FieldValue} {text x y z : List Char} {n : NumberText}

theorem firstMatch_of_keyAt_none (h : KeyAt key ts none) (hr : Rendered ts text) :
    firstMatch (quoted key.string) text = none :=
  hr.firstMatch_eq_none (searchable_key key) h

/-- Behind the key that a search finds is its value. -/
theorem firstMatch_of_keyAt_some (h : KeyAt key ts (some v)) (hr : Rendered ts text) :
    ∃ y p b, firstMatch (quoted key.string) text = some (quoted key.string ++ y) ∧
      Rendered (.punct .colon :: (v.tokens ++ .punct p :: b)) y := by
  obtain ⟨a, p, b, rfl, hmem⟩ := h
  obtain ⟨-, y, -, hfirst, hy⟩ := hr.firstMatch_eq_some (searchable_key key) hmem
  exact ⟨y, p, b, hfirst, hy⟩

theorem afterKey_append (key : String) (y : List Char) : afterKey key (quoted key ++ y) = y := List.drop_left

/-! ### Numbers and truth values -/

theorem skipSeparators_spaces (hx : Spaces x) : skipSeparators (x ++ y) = skipSeparators y := by
  induction x with
  | nil => rfl
  | cons c x ih =>
    have hc : c = ' ' ∨ c = '\t' ∨ c = '\n' ∨ c = '\r' ∨ c = ':' := by
      rcases hx c List.mem_cons_self with h | h | h | h <;> simp only [h, true_or, or_true]
    rw [List.cons_append, skipSeparators, if_pos hc]
    exact ih fun d hd => hx d (List.mem_cons_of_mem c hd)

/-- The value begins behind the colon and the white space around it. -/
theorem skipSeparators_colon {t : Token} (hr : Rendered (.punct .colon :: t :: ts) y)
    (ht : (∃ n, t = .number n) ∨ ∃ b, t = .bool b) :
    ∃ x, Rendered ts x ∧ skipSeparators (y ++ z) = some (t.chars ++ (x ++ z)) := by
  obtain ⟨w₁, y, rfl, hw₁, hy⟩ := hr.cons_inv
  obtain ⟨w₂, x, rfl, hw₂, hx⟩ := hy.cons_inv
  refine ⟨x, hx, ?_⟩
  have hstart : ∃ c u, t.chars = c :: u ∧ ¬(c = ' ' ∨ c = '\t' ∨ c = '\n' ∨ c = '\r' ∨ c = ':') := by
    obtain ⟨n, rfl⟩ | ⟨b, rfl⟩ := ht
    · obtain ⟨c, u, hcu, hc⟩ := n.chars_cons
      refine ⟨c, u, hcu, ?_⟩
      rintro (rfl | rfl | rfl | rfl | rfl) <;> revert hc <;> decide
    · cases b <;> exact ⟨_, _, rfl, by decide⟩
  obtain ⟨c, u, hcu, hc⟩ := hstart
  calc skipSeparators (w₁ ++ (Token.chars (.punct .colon) ++ (w₂ ++ (t.chars ++ x))) ++ z)
      = skipSeparators (w₁ ++ ':' :: (w₂ ++ (t.chars ++ (x ++ z)))) := by simp only [List.append_assoc]; rfl
    _ = skipSeparators (w₂ ++ (t.chars ++ (x ++ z))) := by
        rw [skipSeparators_spaces hw₁, skipSeparators, if_pos (by decide)]
    _ = skipSeparators (t.chars ++ (x ++ z)) := skipSeparators_spaces hw₂
    _ = some (t.chars ++ (x ++ z)) := by rw [hcu, List.cons_append, skipSeparators, if_neg hc]

/-- Tokens that begin with a punctuation mark do not go on with a number. -/
theorem endsDigits_punct {p : Punct} (hr : Rendered (.punct p :: ts) x) : EndsDigits (x ++ z) := by
  obtain ⟨w, x, rfl, hw, -⟩ := hr.cons_inv
  intro c hc hdigit
  cases w with
  | nil =>
    obtain rfl := Option.some.inj hc
    revert hdigit
    cases p <;> decide
  | cons d w =>
    obtain rfl := Option.some.inj hc
    rcases hw d List.mem_cons_self with rfl | rfl | rfl | rfl <;> exact absurd hdigit (by decide)

/-- The number of the machine that is read for one that is written. -/
def machineValue (n : NumberText) : UInt64 := (strtoul n.chars).1

theorem strtoul_number {rest : List Char} (hrest : EndsDigits rest) :
    strtoul (n.chars ++ rest) = (machineValue n, rest) := by
  have hwhole := scanNumeral_append n.negative [] n.digits_ne n.isDigit (fun c hc => nomatch hc)
  rw [List.append_nil] at hwhole
  rw [machineValue, strtoul, strtoul, NumberText.chars, hwhole, scanNumeral_append n.negative rest n.digits_ne n.isDigit hrest]

theorem extractUintAt_number {p : Punct} (hr : Rendered (.punct .colon :: .number n :: .punct p :: ts) y)
    (hz : nul ∈ z) : extractUintAt machineNumbers (y ++ z) = some (some (machineValue n)) := by
  obtain ⟨x, hx, hskip⟩ := skipSeparators_colon (z := z) hr (.inl ⟨n, rfl⟩)
  obtain ⟨c, u, hcu, hc⟩ := n.chars_cons
  have hread := strtoul_number (n := n) (endsDigits_punct (z := z) hx)
  have hstart : ¬(c ≠ '-' ∧ ¬c.isDigit) := by
    rintro ⟨hminus, hdigit⟩
    exact hc.elim hminus hdigit
  have hnul : nul ∈ n.chars ++ (x ++ z) := List.mem_append_right _ (List.mem_append_right x hz)
  rw [Token.chars, hcu, List.cons_append] at hskip
  rw [hcu, List.cons_append] at hread hnul
  -- something was read
  have hmoved : ¬x ++ z = c :: (u ++ (x ++ z)) := by
    intro h
    have hlen := congrArg List.length h
    simp only [List.length_cons, List.length_append] at hlen
    omega
  simp only [extractUintAt, hskip, Option.bind_eq_bind, Option.bind_some, if_neg hstart]
  rw [strtoull, if_pos hnul]
  simp only [machineNumbers, hread, Option.bind_some, if_neg hmoved]
  rfl

theorem extractBoolAt_bool {b : Bool} (hr : Rendered (.punct .colon :: .bool b :: ts) y) :
    extractBoolAt (y ++ z) = some (some b) := by
  obtain ⟨x, -, hskip⟩ := skipSeparators_colon (z := z) hr (.inr ⟨b, rfl⟩)
  simp only [extractBoolAt, hskip, Option.bind_eq_bind, Option.bind_some]
  cases b with
  | true =>
    rw [Token.chars, boolChars, strncmpEq_append]
    rfl
  | false =>
    have hfalse : strncmpEq "true".toList (Token.chars (.bool false) ++ (x ++ z)) = some false := rfl
    rw [hfalse, Option.bind_some, Token.chars, boolChars, strncmpEq_append]
    rfl

/-! ### Arrays of names -/

theorem orNamedBits_skip {names : List (String × UInt8)} {stop : Ptr} {out : UInt8} (hx : '\x22' ∉ x) :
    orNamedBits names stop (x ++ y ++ stop) out = orNamedBits names stop (y ++ stop) out := by
  rw [orNamedBits_append, orNamedBits_append, firstMatch_append_of_not_mem hx]

theorem orNamedBits_quoted {names : List (String × UInt8)} {stop : Ptr} {out : UInt8} (name : Name) :
    orNamedBits names stop (name.quoted ++ y ++ stop) out =
      orNamedBits names stop (y ++ stop) (orNamed names name.chars out) := by
  have hfirst : firstMatch ['\x22'] ('\x22' :: (name.chars ++ '\x22' :: y)) = some ('\x22' :: (name.chars ++ '\x22' :: y)) :=
    firstMatch_singleton (a := []) List.not_mem_nil
  have hsecond : firstMatch ['\x22'] (name.chars ++ '\x22' :: y) = some ('\x22' :: y) :=
    firstMatch_singleton name.quote_not_mem
  rw [orNamedBits_append, Name.quoted_append, hfirst]
  simp only [List.tail_cons, hsecond]
  rw [List.take_left' (by simp)]

/-- The loop over an array takes one name after the other. -/
theorem orNamedBits_rendered {names : List (String × UInt8)} {stop : Ptr} {out : UInt8} (hr : Rendered ts x) :
    orNamedBits names stop (x ++ stop) out =
      some ((ts.filterMap Token.name?).foldl (fun out name => orNamed names name.chars out) out) := by
  induction hr generalizing out with
  | @nil w hw =>
    have hquote : '\x22' ∉ w := hw.not_mem (by decide)
    rw [orNamedBits_append, firstMatch_eq_none_of_not_mem hquote]
    rfl
  | @cons w t ts x hw hx ih =>
    rw [orNamedBits_skip (hw.not_mem (by decide))]
    have hother (ht : '\x22' ∉ t.chars) (hname : t.name? = none) :
        orNamedBits names stop (t.chars ++ x ++ stop) out =
          some (((t :: ts).filterMap Token.name?).foldl (fun out name => orNamed names name.chars out) out) := by
      rw [orNamedBits_skip ht, List.filterMap_cons_none hname, ih]
    cases t with
    | punct p => exact hother (by cases p <;> decide) rfl
    | bool b => exact hother (by cases b <;> decide) rfl
    | number n =>
      refine hother (fun h => ?_) rfl
      obtain h | h := n.mem_chars h
      · exact absurd h (by decide)
      · exact absurd h (by decide)
    | str name =>
      rw [Token.chars, orNamedBits_quoted, ih]
      rfl

theorem namedBits_eq {names : List (String × UInt8)}
    (hfind : ∀ n ∈ names, (names.find? fun m => m.1.toList = n.1.toList) = some n) (ns : List (String × UInt8))
    (hns : ∀ n ∈ ns, n ∈ names) (out : UInt8) :
    (ns.map (·.1.toList)).foldl (fun out name => orNamed names name out) out = ns.foldl (fun bits n => bits ||| n.2) out := by
  induction ns generalizing out with
  | nil => rfl
  | cons n ns ih =>
    have hn : orNamed names n.1.toList out = out ||| n.2 := by
      rw [orNamed, hfind n (hns n List.mem_cons_self)]
    rw [List.map_cons, List.foldl_cons, List.foldl_cons, hn]
    exact ih (fun m hm => hns m (List.mem_cons_of_mem n hm)) _

theorem mem_nameTokens {ns : List Property} {t : Token} (h : t ∈ commaSeparated (ns.map fun n => [.str n.name])) :
    t = .punct .comma ∨ ∃ n : Property, t = .str n.name := by
  obtain rfl | ⟨us, hus, hmem⟩ := mem_commaSeparated h
  · exact .inl rfl
  · obtain ⟨n, -, rfl⟩ := List.mem_map.mp hus
    exact .inr ⟨n, List.mem_singleton.mp hmem⟩

/-- The names of the array that is the value of a key, as they are between the brackets. -/
theorem findBracketSpan_names {ns : List Property} (hr : Rendered (.punct .colon :: ((FieldValue.names ns).tokens ++ ts)) y) :
    ∃ x rest, Rendered (commaSeparated (ns.map fun n => [.str n.name])) x ∧ Rendered ts rest ∧
      findBracketSpan (y ++ z) = some (some (x ++ ']' :: (rest ++ z), ']' :: (rest ++ z))) := by
  have htokens : (FieldValue.names ns).tokens ++ ts =
      .punct .lbracket :: (commaSeparated (ns.map fun n => [.str n.name]) ++ .punct .rbracket :: ts) := by
    simp [FieldValue.tokens]
  rw [htokens] at hr
  obtain ⟨w₁, y, rfl, hw₁, hy⟩ := hr.cons_inv
  obtain ⟨w₂, y, rfl, hw₂, hy⟩ := hy.cons_inv
  obtain ⟨x, rest, rfl, hx, hrest⟩ := hy.split
  refine ⟨x, rest, hx, hrest, ?_⟩
  have hopen : strchr '[' (w₁ ++ ':' :: w₂ ++ '[' :: (x ++ ']' :: (rest ++ z))) =
      some (some ('[' :: (x ++ ']' :: (rest ++ z)))) := by
    have hmem {c : Char} (hc : ¬(c = ' ' ∨ c = '\t' ∨ c = '\n' ∨ c = '\r')) (hcolon : c ≠ ':') : c ∉ w₁ ++ ':' :: w₂ := by
      rw [List.mem_append, List.mem_cons]
      rintro (h | h | h)
      · exact hw₁.not_mem hc h
      · exact hcolon h
      · exact hw₂.not_mem hc h
    exact strchr_append (hmem (by decide) (by decide)) (hmem (by decide) (by decide))
  have hclose : strchr ']' ('[' :: x ++ ']' :: (rest ++ z)) = some (some (']' :: (rest ++ z))) := by
    have hbracket : Token.punct .rbracket ∉ commaSeparated (ns.map fun n => [.str n.name]) := by
      intro h
      obtain h | ⟨n, h⟩ := mem_nameTokens h
      · cases h
      · cases h
    refine strchr_append ?_ ?_
    · exact List.not_mem_cons_of_ne_of_not_mem (by decide) (hx.punct_not_mem hbracket)
    · exact List.not_mem_cons_of_ne_of_not_mem (by decide) hx.nul_not_mem
  have hcells : w₁ ++ (Token.chars (.punct .colon) ++ (w₂ ++ (Token.chars (.punct .lbracket) ++
      (x ++ (Token.chars (.punct .rbracket) ++ rest))))) ++ z = w₁ ++ ':' :: w₂ ++ '[' :: (x ++ ']' :: (rest ++ z)) := by
    simp [Token.chars, Punct.char]
  rw [hcells]
  rw [List.cons_append] at hclose
  simp only [findBracketSpan, hopen, hclose, Option.bind_eq_bind, Option.bind_some, List.tail_cons]
  rfl

/-! ### Fields

Where a search for a key ends in a text, and `z` behind it, the value of the key is read, and the default is left where
the key is not there. -/

theorem uintOf_keyAt (number : Option NumberText) (h : KeyAt key ts (number.map .number)) (hr : Rendered ts text)
    (hz : nul ∈ z) : uintOf machineNumbers key.string ((firstMatch (quoted key.string) text).map (· ++ z)) =
      some (number.map machineValue) := by
  cases number with
  | none =>
    rw [firstMatch_of_keyAt_none h hr]
    rfl
  | some n =>
    obtain ⟨y, p, b, hfirst, hy⟩ := firstMatch_of_keyAt_some h hr
    rw [hfirst, Option.map_some, uintOf, List.append_assoc, afterKey_append, extractUintAt_number hy hz]
    rfl

theorem boolOf_keyAt (value : Option Bool) (h : KeyAt key ts (value.map .bool)) (hr : Rendered ts text) :
    boolOf key.string ((firstMatch (quoted key.string) text).map (· ++ z)) = some value := by
  cases value with
  | none =>
    rw [firstMatch_of_keyAt_none h hr]
    rfl
  | some b =>
    obtain ⟨y, p, _, hfirst, hy⟩ := firstMatch_of_keyAt_some h hr
    rw [hfirst, Option.map_some, boolOf, List.append_assoc, afterKey_append, extractBoolAt_bool hy]

theorem orNamedBits_names {names : List (String × UInt8)} {stop : Ptr} {ns : List Property}
    (hfind : ∀ n ∈ names, (names.find? fun m => m.1.toList = n.1.toList) = some n) (hns : ∀ n ∈ ns, n.1 ∈ names)
    (hr : Rendered (commaSeparated (ns.map fun n => [.str n.name])) x) :
    orNamedBits names stop (x ++ stop) 0 = some (namedBits (ns.map (·.1))) := by
  have hnames : (commaSeparated (ns.map fun n => [.str n.name])).filterMap Token.name? = ns.map (·.name) := by
    rw [← filterMap_name?_commaSeparated (ns.map (·.name)), List.map_map]
    rfl
  have hmem : ∀ n ∈ ns.map (·.1), n ∈ names := by
    intro n hn
    obtain ⟨m, hm, rfl⟩ := List.mem_map.mp hn
    exact hns m hm
  rw [orNamedBits_rendered hr, hnames, namedBits, ← namedBits_eq hfind _ hmem, List.map_map, List.foldl_map,
    List.foldl_map]
  rfl

theorem optionsOf_keyAt (ns : Option (List OptionBit))
    (h : KeyAt .svrImplementedOptions ts (ns.map fun ns => .names (ns.map (·.property)))) (hr : Rendered ts text) :
    optionsOf ((firstMatch (quoted "svr_implemented_options") text).map (· ++ z)) =
      some (namedBits ((ns.getD []).map (·.1))) := by
  cases ns with
  | none =>
    have hnone : firstMatch (quoted "svr_implemented_options") text = none := firstMatch_of_keyAt_none h hr
    rw [hnone]
    rfl
  | some ns =>
    obtain ⟨y, p, b, hfirst, hy⟩ := firstMatch_of_keyAt_some h hr
    obtain ⟨x, rest, hx, -, hspan⟩ := findBracketSpan_names (z := z) hy
    rw [show Key.string .svrImplementedOptions = "svr_implemented_options" from rfl] at hfirst
    have hns : ∀ n ∈ ns.map (·.property), n.1 ∈ optionBitNames := by
      intro n hn
      obtain ⟨m, -, rfl⟩ := List.mem_map.mp hn
      exact m.2
    have hbits : orNamedBitsOptions (x ++ ']' :: (rest ++ z)) (']' :: (rest ++ z)) 0 = _ :=
      orNamedBits_names (by decide) hns hx
    simp only [hfirst, Option.map_some, optionsOf, List.append_assoc, afterKey_append, hspan, Option.bind_eq_bind,
      Option.bind_some, hbits]
    rw [List.map_map]
    rfl

theorem hwPinTypeOf_keyAt (ns : Option (List PinProp)) (closing : Ptr)
    (h : KeyAt .hwPinType ts (ns.map fun ns => .names (ns.map (·.property)))) (hr : Rendered ts text)
    (hclosing : closing.length ≤ z.length + 1) :
    hwPinTypeOf closing ((firstMatch (quoted "hw_pin_type") text).map (· ++ z)) =
      some (namedBits ((ns.getD []).map (·.1))) := by
  cases ns with
  | none =>
    have hnone : firstMatch (quoted "hw_pin_type") text = none := firstMatch_of_keyAt_none h hr
    rw [hnone]
    rfl
  | some ns =>
    obtain ⟨y, p, b, hfirst, hy⟩ := firstMatch_of_keyAt_some h hr
    obtain ⟨x, rest, hx, -, hspan⟩ := findBracketSpan_names (z := z) hy
    rw [show Key.string .hwPinType = "hw_pin_type" from rfl] at hfirst
    have hns : ∀ n ∈ ns.map (·.property), n.1 ∈ pinPropNames := by
      intro n hn
      obtain ⟨m, -, rfl⟩ := List.mem_map.mp hn
      exact m.2
    have hbits : orNamedBitsU8 (x ++ ']' :: (rest ++ z)) (']' :: (rest ++ z)) 0 = _ :=
      orNamedBits_names (by decide) hns hx
    have hinside : closing.length ≤ (']' :: (rest ++ z)).length := by
      simp only [List.length_cons, List.length_append]
      omega
    simp only [hfirst, Option.map_some, hwPinTypeOf, List.append_assoc, afterKey_append, hspan, Option.bind_eq_bind,
      Option.bind_some, if_pos hinside, hbits]
    rw [List.map_map]
    rfl

theorem machineValue_bits {w : Nat} (d : Decimal w) (hw : w ≤ 64) :
    (machineValue d.text).toBitVec.setWidth w = d.bits := by
  have hscan := scanNumeral_append d.text.negative [] d.text.digits_ne d.text.isDigit (fun c hc => nomatch hc)
  rw [List.append_nil] at hscan
  have hmagnitude : digitsValue d.text.digits < 2 ^ 64 := by
    have hpow : 2 ^ w ≤ 2 ^ 64 := Nat.pow_le_pow_right (by decide) hw
    have hnonneg := d.nonneg
    have hfits := d.fits
    rw [NumberText.value] at hnonneg hfits
    split at hfits
    · rw [if_pos ‹_›] at hnonneg
      omega
    · exact Nat.lt_of_lt_of_le (by exact_mod_cast hfits) hpow
  exact strtoul_setWidth hscan hmagnitude hw

end Rcp.Config
