import Rcp.Lib.CString
import Rcp.Lib.Numeral

/-! Texts of JSON as sequences of tokens with white space between them, and what a search for a character or for a quoted
    name finds in such a text. The strings are names: they have no escapes and nothing that JSON gives a meaning to. -/

namespace Rcp.Lib

inductive Punct where
  | lbrace
  | rbrace
  | lbracket
  | rbracket
  | colon
  | comma
deriving DecidableEq, Repr

def Punct.char : Punct → Char
  | .lbrace => '\x7b'
  | .rbrace => '\x7d'
  | .lbracket => '['
  | .rbracket => ']'
  | .colon => ':'
  | .comma => ','

/-- The characters of a name. -/
def nameChar (c : Char) : Bool := c.isAlphanum || c = '_'

structure Name where
  chars : List Char
  plain : ∀ c ∈ chars, nameChar c
deriving DecidableEq

def Name.ofString (s : String) (h : s.toList.all nameChar := by decide) : Name := ⟨s.toList, List.all_eq_true.mp h⟩

/-- An integer as it is written. -/
structure NumberText where
  negative : Bool
  digits : List Char
  digits_ne : digits ≠ []
  isDigit : ∀ c ∈ digits, c.isDigit
deriving DecidableEq

def NumberText.chars (n : NumberText) : List Char := if n.negative then '-' :: n.digits else n.digits

inductive Token where
  | punct (p : Punct)
  | str (name : Name)
  | number (n : NumberText)
  | bool (b : Bool)
deriving DecidableEq

def boolChars : Bool → List Char
  | true => "true".toList
  | false => "false".toList

def Name.quoted (name : Name) : List Char := '\x22' :: (name.chars ++ ['\x22'])

def Token.chars : Token → List Char
  | .punct p => [p.char]
  | .str name => name.quoted
  | .number n => n.chars
  | .bool b => boolChars b

/-- The integer. -/
def NumberText.value (n : NumberText) : Int := if n.negative then -(digitsValue n.digits : Int) else digitsValue n.digits

/-- The items of an array, or the members of an object. -/
def commaSeparated : List (List Token) → List Token
  | [] => []
  | [ts] => ts
  | ts :: us :: rest => ts ++ .punct .comma :: commaSeparated (us :: rest)

/-- The white space of JSON. -/
def Spaces (w : List Char) : Prop := ∀ c ∈ w, c = ' ' ∨ c = '\t' ∨ c = '\n' ∨ c = '\r'

/-- A text that is these tokens, with white space around them. -/
inductive Rendered : List Token → List Char → Prop where
  | nil {w : List Char} : Spaces w → Rendered [] w
  | cons {w : List Char} {t : Token} {ts : List Token} {text : List Char} :
      Spaces w → Rendered ts text → Rendered (t :: ts) (w ++ (t.chars ++ text))

variable {w x y z s text : List Char} {t : Token} {ts a b : List Token} {p : Punct} {c : Char} {name key : Name}

theorem Spaces.not_mem (hw : Spaces w) (hc : ¬(c = ' ' ∨ c = '\t' ∨ c = '\n' ∨ c = '\r')) : c ∉ w :=
  fun h => hc (hw c h)

namespace Rendered

theorem prepend (hw : Spaces w) (h : Rendered ts x) : Rendered ts (w ++ x) := by
  have happend {u : List Char} (hu : Spaces u) : Spaces (w ++ u) := by
    intro c hc
    rcases List.mem_append.mp hc with hc | hc
    · exact hw c hc
    · exact hu c hc
  cases h with
  | nil hu => exact .nil (happend hu)
  | cons hu htext =>
    rw [← List.append_assoc]
    exact .cons (happend hu) htext

theorem append (ha : Rendered a x) (hb : Rendered b y) : Rendered (a ++ b) (x ++ y) := by
  induction ha with
  | nil hw => exact hb.prepend hw
  | cons hw _ ih =>
    rw [List.append_assoc, List.append_assoc]
    exact .cons hw ih

theorem cons_punct (p : Punct) (h : Rendered ts text) : Rendered (.punct p :: ts) (p.char :: text) :=
  .cons (w := []) (fun _ hc => nomatch hc) h

theorem punct (p : Punct) : Rendered [.punct p] [p.char] := cons_punct p (.nil fun _ hc => nomatch hc)

/-- The text with no white space at all. -/
theorem tight (ts : List Token) : Rendered ts (ts.flatMap Token.chars) := by
  induction ts with
  | nil => exact .nil fun _ hc => nomatch hc
  | cons t ts ih => exact .cons (w := []) (fun _ hc => nomatch hc) ih

/-- A text of two token sequences is split between them. -/
theorem append_inv (h : Rendered (a ++ b) text) : ∃ x y, text = x ++ y ∧ Rendered a x ∧ Rendered b y := by
  induction a generalizing text with
  | nil => exact ⟨[], text, rfl, .nil (fun _ hc => nomatch hc), h⟩
  | cons t a ih =>
    cases h with
    | cons hw htext =>
      obtain ⟨x, y, rfl, hx, hy⟩ := ih htext
      exact ⟨_, y, by simp only [List.append_assoc], .cons hw hx, hy⟩

/-- A text is split around each of its tokens. -/
theorem split (h : Rendered (a ++ t :: b) text) :
    ∃ x y, text = x ++ (t.chars ++ y) ∧ Rendered a x ∧ Rendered b y := by
  obtain ⟨x, y, rfl, hx, hy⟩ := h.append_inv
  cases hy with
  | @cons w _ _ y hw hy =>
    refine ⟨x ++ w, y, by rw [List.append_assoc], ?_, hy⟩
    have hxw := hx.append (.nil hw)
    rwa [List.append_nil] at hxw

theorem cons_inv (h : Rendered (t :: ts) text) : ∃ w y, text = w ++ (t.chars ++ y) ∧ Spaces w ∧ Rendered ts y := by
  cases h with
  | cons hw hy => exact ⟨_, _, rfl, hw, hy⟩

theorem mem_iff_or (h : Rendered ts text) (hc : c ∈ text) :
    (c = ' ' ∨ c = '\t' ∨ c = '\n' ∨ c = '\r') ∨ ∃ t ∈ ts, c ∈ t.chars := by
  induction h with
  | nil hw => exact .inl (hw c hc)
  | @cons w t ts text hw _ ih =>
    rcases List.mem_append.mp hc with hc | hc
    · exact .inl (hw c hc)
    rcases List.mem_append.mp hc with hc | hc
    · exact .inr ⟨t, List.mem_cons_self, hc⟩
    · obtain hspace | ⟨u, hu, huc⟩ := ih hc
      · exact .inl hspace
      · exact .inr ⟨u, List.mem_cons_of_mem t hu, huc⟩

end Rendered

/-! ### The characters of a token -/

theorem NumberText.mem_chars {n : NumberText} (h : c ∈ n.chars) : c = '-' ∨ c.isDigit := by
  rw [NumberText.chars] at h
  split at h
  · obtain rfl | h := List.mem_cons.mp h
    · exact .inl rfl
    · exact .inr (n.isDigit c h)
  · exact .inr (n.isDigit c h)

theorem NumberText.chars_cons (n : NumberText) : ∃ c u, n.chars = c :: u ∧ (c = '-' ∨ c.isDigit) := by
  obtain ⟨d, ds, hds⟩ := List.exists_cons_of_ne_nil n.digits_ne
  rw [NumberText.chars]
  cases n.negative with
  | true => exact ⟨'-', n.digits, rfl, .inl rfl⟩
  | false => exact ⟨d, ds, hds, .inr (n.isDigit d (hds ▸ List.mem_cons_self))⟩

/-- A character that no name, number or literal has is only in the token that it is, or in the quotes. -/
theorem Token.mem_chars (h : c ∈ t.chars) :
    (∃ p, t = .punct p ∧ c = p.char) ∨ (∃ name, t = .str name) ∧ c = '\x22' ∨ nameChar c ∨ c = '-' := by
  cases t with
  | punct p => exact .inl ⟨p, rfl, List.mem_singleton.mp h⟩
  | str name =>
    obtain rfl | h := List.mem_cons.mp h
    · exact .inr (.inl ⟨⟨name, rfl⟩, rfl⟩)
    obtain h | h := List.mem_append.mp h
    · exact .inr (.inr (.inl (name.plain c h)))
    · exact .inr (.inl ⟨⟨name, rfl⟩, List.mem_singleton.mp h⟩)
  | number n =>
    obtain rfl | h := n.mem_chars h
    · exact .inr (.inr (.inr rfl))
    · exact .inr (.inr (.inl (by rw [nameChar, Char.isAlphanum, h, Bool.or_true, Bool.true_or])))
  | bool b =>
    refine .inr (.inr (.inl ?_))
    cases b with
    | true => exact List.all_eq_true.mp (by decide : (boolChars true).all nameChar) c h
    | false => exact List.all_eq_true.mp (by decide : (boolChars false).all nameChar) c h

theorem Rendered.not_mem (h : Rendered ts text) (hspace : ¬(c = ' ' ∨ c = '\t' ∨ c = '\n' ∨ c = '\r'))
    (hname : ¬nameChar c) (hminus : c ≠ '-') (hpunct : ∀ p, .punct p ∈ ts → c ≠ p.char)
    (hquote : ∀ name, .str name ∈ ts → c ≠ '\x22') : c ∉ text := by
  intro hc
  obtain hc | ⟨t, ht, htc⟩ := h.mem_iff_or hc
  · exact hspace hc
  · obtain ⟨q, rfl, hq⟩ | ⟨⟨name, rfl⟩, hq⟩ | hq | hq := Token.mem_chars htc
    · exact hpunct q ht hq
    · exact hquote name ht hq
    · exact hname hq
    · exact hminus hq

theorem Punct.char_inj {q : Punct} (h : p.char = q.char) : p = q := by
  revert h
  cases p <;> cases q <;> decide

/-- A punctuation mark is only where its token is, -/
theorem Rendered.punct_not_mem (h : Rendered ts text) (hp : .punct p ∉ ts) : p.char ∉ text := by
  refine h.not_mem (by cases p <;> decide) (by cases p <;> decide) (by cases p <;> decide) ?_ ?_
  · intro q hq hpq
    exact hp (Punct.char_inj hpq ▸ hq)
  · intro _ _
    cases p <;> decide

/-- and a NUL nowhere. -/
theorem Rendered.nul_not_mem (h : Rendered ts text) : nul ∉ text := by
  refine h.not_mem (by decide) (by decide) (by decide) ?_ (fun _ _ => by decide)
  intro q _
  cases q <;> decide

theorem Name.quote_not_mem (name : Name) : '\x22' ∉ name.chars := by
  intro h
  have hplain := name.plain _ h
  revert hplain
  decide

/-! ### Searching for a name -/

/-- The characters that a number or a literal begins with. -/
def valueStart (c : Char) : Bool := c.isDigit || c = '-' || c = 't' || c = 'f'

/-- A name that no number or literal begins like, so that the quote in front of one cannot be taken for the quote in front
    of the name. -/
def Name.searchable (name : Name) : Bool :=
  match name.chars with
  | [] => false
  | c :: _ => !valueStart c

theorem Token.head_chars (t : Token) : ∃ c u, t.chars = c :: u ∧ (¬nameChar c ∨ valueStart c) := by
  cases t with
  | punct p => exact ⟨p.char, [], rfl, .inl (by cases p <;> decide)⟩
  | str name => exact ⟨_, _, rfl, .inl (by decide)⟩
  | bool b => cases b <;> exact ⟨_, _, rfl, .inr (by decide)⟩
  | number n =>
    obtain ⟨c, u, hcu, hc⟩ := n.chars_cons
    refine ⟨c, u, hcu, .inr ?_⟩
    obtain rfl | hc := hc
    · decide
    · rw [valueStart, hc]
      rfl

theorem Name.not_prefix_cons (hkey : key.searchable) (hc : ¬nameChar c ∨ valueStart c) :
    ¬key.chars ++ ['\x22'] <+: c :: z := by
  intro h
  rw [Name.searchable] at hkey
  split at hkey
  · cases hkey
  · rename_i d u hchars
    rw [hchars] at h
    obtain rfl := (List.cons_prefix_cons.mp h).1
    rcases hc with hc | hc
    · exact hc (key.plain d (hchars ▸ List.mem_cons_self))
    · rw [hc] at hkey
      cases hkey

/-- What is left of a quoted name behind its first quote is nowhere at the beginning of tokens. -/
theorem Rendered.not_begins (h : Rendered ts text) (hkey : key.searchable) (hy : ¬key.chars ++ ['\x22'] <+: y) :
    ¬key.chars ++ ['\x22'] <+: text ++ y := by
  have hspace {d : Char} {v w : List Char} (hw : Spaces (d :: w)) : ¬key.chars ++ ['\x22'] <+: d :: v := by
    refine Name.not_prefix_cons hkey (.inl ?_)
    obtain rfl | rfl | rfl | rfl := hw d List.mem_cons_self <;> decide
  cases h with
  | nil hw =>
    cases text with
    | nil => exact hy
    | cons d w => exact hspace hw
  | @cons w t ts text hw _ =>
    cases w with
    | cons d w => exact hspace hw
    | nil =>
      obtain ⟨d, v, hd, hstart⟩ := t.head_chars
      rw [List.nil_append, hd]
      exact Name.not_prefix_cons hkey hstart

theorem eq_of_append_isPrefix (hx : c ∉ x) (hy : c ∉ y) (h : x ++ [c] <+: y ++ c :: z) : x = y := by
  induction x generalizing y with
  | nil =>
    cases y with
    | nil => rfl
    | cons d y => exact absurd (List.cons_prefix_cons.mp h).1 (List.ne_of_not_mem_cons hy)
  | cons d x ih =>
    cases y with
    | nil => exact absurd (List.cons_prefix_cons.mp h).1.symm (List.ne_of_not_mem_cons hx)
    | cons e y =>
      obtain ⟨rfl, htail⟩ := List.cons_prefix_cons.mp h
      rw [ih (List.not_mem_of_not_mem_cons hx) (List.not_mem_of_not_mem_cons hy) htail]

theorem Name.quoted_append (name : Name) (z : List Char) :
    name.quoted ++ z = '\x22' :: (name.chars ++ '\x22' :: z) := by
  rw [Name.quoted, List.cons_append, List.append_assoc, List.singleton_append]

theorem Name.eq_of_quoted_isPrefix (h : key.quoted <+: name.quoted ++ z) : key = name := by
  rw [Name.quoted_append, Name.quoted] at h
  have hchars := eq_of_append_isPrefix key.quote_not_mem name.quote_not_mem (List.cons_prefix_cons.mp h).2
  cases key
  cases name
  cases hchars
  rfl

/-- A search for a name passes over tokens among which the name is not. -/
theorem Rendered.firstMatch_append (h : Rendered ts text) (hkey : key.searchable) (hmem : .str key ∉ ts)
    (hy : ¬key.chars ++ ['\x22'] <+: y) : firstMatch key.quoted (text ++ y) = firstMatch key.quoted y := by
  induction h with
  | nil hw => exact firstMatch_append_of_not_mem (hw.not_mem (by decide))
  | @cons w t ts text hw htext ih =>
    obtain ⟨ht, hts⟩ := List.ne_and_not_mem_of_not_mem_cons hmem
    rw [List.append_assoc, List.append_assoc]
    refine (firstMatch_append_of_not_mem (hw.not_mem (by decide))).trans ?_
    have hskip (hq : '\x22' ∉ t.chars) :
        firstMatch key.quoted (t.chars ++ (text ++ y)) = firstMatch key.quoted y :=
      (firstMatch_append_of_not_mem hq).trans (ih hts)
    cases t with
    | punct p => exact hskip (by cases p <;> decide)
    | bool b => exact hskip (by cases b <;> decide)
    | number n =>
      refine hskip fun hq => ?_
      obtain hminus | hdigit := n.mem_chars hq
      · exact absurd hminus (by decide)
      · exact absurd hdigit (by decide)
    | str name =>
      have hfirst : ¬key.quoted <+: name.quoted ++ (text ++ y) := fun hbegins =>
        ht (by rw [Name.eq_of_quoted_isPrefix hbegins])
      -- neither the quote in front of the name nor the one behind it is where the key begins
      have hlast : ¬key.quoted <+: '\x22' :: (text ++ y) := fun hbegins =>
        htext.not_begins hkey hy (List.cons_prefix_cons.mp hbegins).2
      calc firstMatch key.quoted (name.quoted ++ (text ++ y))
          = firstMatch key.quoted (name.chars ++ ('\x22' :: (text ++ y))) := by
            rw [Name.quoted_append] at hfirst ⊢
            exact firstMatch_cons_of_not_isPrefix hfirst
        _ = firstMatch key.quoted ('\x22' :: (text ++ y)) := firstMatch_append_of_not_mem name.quote_not_mem
        _ = firstMatch key.quoted (text ++ y) := firstMatch_cons_of_not_isPrefix hlast
        _ = firstMatch key.quoted y := ih hts

theorem Rendered.firstMatch_eq_none (h : Rendered ts text) (hkey : key.searchable) (hmem : .str key ∉ ts) :
    firstMatch key.quoted text = none := by
  have hnil : ¬key.chars ++ ['\x22'] <+: [] := fun hbegins =>
    List.append_ne_nil_of_right_ne_nil _ (List.cons_ne_nil _ _) (List.prefix_nil.mp hbegins)
  rw [← List.append_nil text, h.firstMatch_append hkey hmem hnil]
  rfl

theorem Rendered.firstMatch_eq_some (h : Rendered (a ++ .str key :: b) text) (hkey : key.searchable)
    (hmem : .str key ∉ a) :
    ∃ x y, text = x ++ (key.quoted ++ y) ∧ firstMatch key.quoted text = some (key.quoted ++ y) ∧ Rendered b y := by
  obtain ⟨x, y, rfl, hx, hy⟩ := h.split
  refine ⟨x, y, rfl, ?_, hy⟩
  have hquote : ¬key.chars ++ ['\x22'] <+: key.quoted ++ y := Name.not_prefix_cons hkey (.inl (by decide))
  exact (hx.firstMatch_append hkey hmem hquote).trans
    (firstMatch_of_isPrefix (List.cons_ne_nil _ _) (List.prefix_append _ _))

/-! ### Comma-separated tokens -/

variable {tss : List (List Token)}

theorem commaSeparated_cons (h : tss ≠ []) :
    commaSeparated (ts :: tss) = ts ++ .punct .comma :: commaSeparated tss := by
  cases tss with
  | nil => exact absurd rfl h
  | cons us rest => rfl

theorem mem_commaSeparated (h : t ∈ commaSeparated tss) : t = .punct .comma ∨ ∃ ts ∈ tss, t ∈ ts := by
  induction tss with
  | nil => cases h
  | cons ts tss ih =>
    by_cases hnil : tss = []
    · subst hnil
      exact .inr ⟨ts, List.mem_singleton_self ts, h⟩
    · rw [commaSeparated_cons hnil] at h
      obtain h | h := List.mem_append.mp h
      · exact .inr ⟨ts, List.mem_cons_self, h⟩
      · obtain rfl | h := List.mem_cons.mp h
        · exact .inl rfl
        · obtain rfl | ⟨us, hus, hmem⟩ := ih h
          · exact .inl rfl
          · exact .inr ⟨us, List.mem_cons_of_mem ts hus, hmem⟩

/-- The tokens around one of the items: those of the items in front of it and commas, and nothing or a comma. -/
theorem commaSeparated_split (uss vss : List (List Token)) (ts : List Token) :
    ∃ pre post, commaSeparated (uss ++ ts :: vss) = pre ++ ts ++ post ∧
      (∀ t ∈ pre, t = .punct .comma ∨ ∃ us ∈ uss, t ∈ us) ∧ (post = [] ∨ ∃ rest, post = .punct .comma :: rest) := by
  induction uss with
  | nil =>
    cases vss with
    | nil => exact ⟨[], [], (List.append_nil ts).symm, (fun _ h => nomatch h), .inl rfl⟩
    | cons vs rest => exact ⟨[], _, rfl, (fun _ h => nomatch h), .inr ⟨_, rfl⟩⟩
  | cons us uss ih =>
    obtain ⟨pre, post, heq, hpre, hpost⟩ := ih
    have hne : uss ++ ts :: vss ≠ [] := List.append_ne_nil_of_right_ne_nil _ (List.cons_ne_nil _ _)
    refine ⟨us ++ .punct .comma :: pre, post, ?_, ?_, hpost⟩
    · rw [List.cons_append, commaSeparated_cons hne, heq]
      simp only [List.append_assoc, List.cons_append]
    · intro t ht
      obtain ht | ht := List.mem_append.mp ht
      · exact .inr ⟨us, List.mem_cons_self, ht⟩
      · obtain rfl | ht := List.mem_cons.mp ht
        · exact .inl rfl
        · obtain rfl | ⟨vs, hvs, hmem⟩ := hpre t ht
          · exact .inl rfl
          · exact .inr ⟨vs, List.mem_cons_of_mem us hvs, hmem⟩

/-- The name that a token is, if it is one. -/
def Token.name? : Token → Option Name
  | .str name => some name
  | _ => none

theorem filterMap_name?_commaSeparated (names : List Name) :
    (commaSeparated (names.map fun name => [.str name])).filterMap Token.name? = names := by
  induction names with
  | nil => rfl
  | cons name names ih =>
    cases names with
    | nil => rfl
    | cons next names =>
      rw [List.map_cons, commaSeparated_cons (by simp), List.singleton_append, List.filterMap_cons, List.filterMap_cons]
      simp only [Token.name?, ih]

end Rcp.Lib
