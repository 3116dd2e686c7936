import Mathlib.Data.List.Basic

/-! Strings as C programs hold them: arrays of characters whose end is a NUL, read through pointers. A pointer is the
    cells of its array from where it points on, so that of two pointers into one array the one further on is the
    shorter, and `none` is the result of a function that reads a cell past the array. -/

namespace Rcp.Lib

abbrev Ptr := List Char

def nul : Char := '\x00'

/-- A string, which is the text without the NUL at its end. -/
structure CString where
  text : List Char
  nul_not_mem : nul ∉ text

/-- The array that holds it. -/
def CString.cells (s : CString) : Ptr := s.text ++ [nul]

/-! ### Reading -/

def strchr (c : Char) : Ptr → Option (Option Ptr)
  | [] => none
  | x :: p => if x = c then some (some (x :: p)) else if x = nul then some none else strchr c p

/-- `memchr(p, c, n)`. -/
def memchr (c : Char) : Nat → Ptr → Option (Option Ptr)
  | 0, _ => some none
  | _ + 1, [] => none
  | n + 1, x :: p => if x = c then some (some (x :: p)) else memchr c n p

/-- `memcmp(p, s, strlen(s)) == 0`. -/
def memcmpEq (s : List Char) (p : Ptr) : Option Bool :=
  if p.length < s.length then none else some (s.isPrefixOf p)

/-- `strncmp(p, s, strlen(s)) == 0`, which stops where the strings first differ. -/
def strncmpEq : List Char → Ptr → Option Bool
  | [], _ => some true
  | _ :: _, [] => none
  | c :: s, x :: p => if x = c then strncmpEq s p else some false

/-- `strstr(p, s)`, where `s` is not empty. -/
def strstr (s : List Char) : Ptr → Option (Option Ptr)
  | [] => none
  | x :: p =>
    match strncmpEq s (x :: p) with
    | none => none
    | some true => some (some (x :: p))
    | some false => if x = nul then some none else strstr s p

/-! ### The first place where a text is -/

/-- What of a text is left from the first place on where another begins. -/
def firstMatch (s : List Char) : List Char → Option (List Char)
  | [] => if s = [] then some [] else none
  | x :: t => if s.isPrefixOf (x :: t) then some (x :: t) else firstMatch s t

variable {s t a b r : List Char} {c x : Char} {p : Ptr}

theorem firstMatch_spec (h : firstMatch s t = some r) : s <+: r ∧ r <:+ t := by
  induction t with
  | nil =>
    rw [firstMatch] at h
    split at h
    · rename_i hs
      cases h
      exact ⟨hs ▸ List.prefix_refl _, List.suffix_refl _⟩
    · cases h
  | cons x t ih =>
    rw [firstMatch] at h
    split at h
    · rename_i hs
      cases h
      exact ⟨List.isPrefixOf_iff_prefix.mp hs, List.suffix_refl _⟩
    · obtain ⟨hbegins, hsuffix⟩ := ih h
      exact ⟨hbegins, hsuffix.trans (List.suffix_cons x t)⟩

theorem firstMatch_of_isPrefix (hs : s ≠ []) (h : s <+: t) : firstMatch s t = some t := by
  cases t with
  | nil => exact absurd (List.prefix_nil.mp h) hs
  | cons x t => rw [firstMatch, if_pos (List.isPrefixOf_iff_prefix.mpr h)]

theorem firstMatch_cons_of_not_isPrefix (h : ¬s <+: x :: t) : firstMatch s (x :: t) = firstMatch s t := by
  rw [firstMatch, if_neg fun hs => h (List.isPrefixOf_iff_prefix.mp hs)]

theorem firstMatch_cons_of_ne (h : x ≠ c) : firstMatch (c :: s) (x :: t) = firstMatch (c :: s) t :=
  firstMatch_cons_of_not_isPrefix fun hs => h (List.cons_prefix_cons.mp hs).1.symm

/-- Nothing begins where its first character is not. -/
theorem firstMatch_append_of_not_mem (h : c ∉ a) : firstMatch (c :: s) (a ++ b) = firstMatch (c :: s) b := by
  induction a with
  | nil => rfl
  | cons x a ih =>
    obtain ⟨hx, ha⟩ := List.ne_and_not_mem_of_not_mem_cons h
    rw [List.cons_append, firstMatch_cons_of_ne (Ne.symm hx), ih ha]

theorem firstMatch_eq_none_of_not_mem (h : c ∉ a) : firstMatch (c :: s) a = none := by
  rw [← List.append_nil a, firstMatch_append_of_not_mem h]
  rfl

theorem firstMatch_eq_none_of_length_lt (h : t.length < s.length) : firstMatch s t = none := by
  cases hmatch : firstMatch s t with
  | none => rfl
  | some r =>
    obtain ⟨hbegins, hsuffix⟩ := firstMatch_spec hmatch
    exact absurd (Nat.le_trans hbegins.length_le hsuffix.length_le) (Nat.not_le.mpr h)

theorem firstMatch_singleton (h : c ∉ a) : firstMatch [c] (a ++ c :: b) = some (c :: b) := by
  rw [firstMatch_append_of_not_mem h]
  exact firstMatch_of_isPrefix (List.cons_ne_nil _ _) ⟨b, rfl⟩

/-- The first place where a character is. -/
theorem firstMatch_singleton_cases (c : Char) (t : List Char) :
    (c ∉ t ∧ firstMatch [c] t = none) ∨
      ∃ a b, t = a ++ c :: b ∧ c ∉ a ∧ firstMatch [c] t = some (c :: b) := by
  by_cases h : c ∈ t
  · obtain ⟨a, b, rfl, ha⟩ := List.eq_append_cons_of_mem h
    exact .inr ⟨a, b, rfl, ha, firstMatch_singleton ha⟩
  · exact .inl ⟨h, firstMatch_eq_none_of_not_mem h⟩

/-! ### What the functions return -/

theorem strchr_append_nul (hc : c ≠ nul) (h : nul ∉ t) :
    strchr c (t ++ [nul]) = some ((firstMatch [c] t).map (· ++ [nul])) := by
  induction t with
  | nil =>
    rw [List.nil_append, strchr, if_neg (Ne.symm hc), if_pos rfl]
    rfl
  | cons x t ih =>
    obtain ⟨hx, ht⟩ := List.ne_and_not_mem_of_not_mem_cons h
    rw [List.cons_append, strchr]
    by_cases hxc : x = c
    · subst hxc
      rw [if_pos rfl, firstMatch_of_isPrefix (t := x :: t) (List.cons_ne_nil _ _) ⟨t, rfl⟩]
      rfl
    · rw [if_neg hxc, if_neg (Ne.symm hx), ih ht, firstMatch_cons_of_ne hxc]

theorem strchr_append (hc : c ∉ a) (h : nul ∉ a) : strchr c (a ++ c :: b) = some (some (c :: b)) := by
  induction a with
  | nil => rw [List.nil_append, strchr, if_pos rfl]
  | cons x a ih =>
    obtain ⟨hcx, hca⟩ := List.ne_and_not_mem_of_not_mem_cons hc
    obtain ⟨hx, ha⟩ := List.ne_and_not_mem_of_not_mem_cons h
    rw [List.cons_append, strchr, if_neg (Ne.symm hcx), if_neg (Ne.symm hx), ih hca ha]

theorem memchr_append (c : Char) (t b : List Char) :
    memchr c t.length (t ++ b) = some ((firstMatch [c] t).map (· ++ b)) := by
  induction t with
  | nil => rfl
  | cons x t ih =>
    rw [List.cons_append, List.length_cons, memchr]
    by_cases hxc : x = c
    · subst hxc
      rw [if_pos rfl, firstMatch_of_isPrefix (t := x :: t) (List.cons_ne_nil _ _) ⟨t, rfl⟩]
      rfl
    · rw [if_neg hxc, ih, firstMatch_cons_of_ne hxc]

theorem memcmpEq_eq (h : s.length ≤ p.length) : memcmpEq s p = some (s.isPrefixOf p) := by
  rw [memcmpEq, if_neg (Nat.not_lt.mpr h)]

theorem strncmpEq_append (s b : List Char) : strncmpEq s (s ++ b) = some true := by
  induction s with
  | nil => rfl
  | cons c s ih => rw [List.cons_append, strncmpEq, if_pos rfl, ih]

theorem strncmpEq_append_nul (hs : nul ∉ s) : strncmpEq s (t ++ [nul]) = some (s.isPrefixOf t) := by
  induction s generalizing t with
  | nil => cases t <;> rfl
  | cons c s ih =>
    obtain ⟨hc, hs⟩ := List.ne_and_not_mem_of_not_mem_cons hs
    cases t with
    | nil =>
      rw [List.nil_append, strncmpEq, if_neg hc]
      rfl
    | cons x t =>
      rw [List.cons_append, strncmpEq, List.isPrefixOf]
      by_cases hxc : x = c
      · rw [if_pos hxc, ih hs, hxc, beq_self_eq_true, Bool.true_and]
      · rw [if_neg hxc, beq_false_of_ne (Ne.symm hxc), Bool.false_and]

theorem strstr_append_nul (hne : s ≠ []) (hs : nul ∉ s) (h : nul ∉ t) :
    strstr s (t ++ [nul]) = some ((firstMatch s t).map (· ++ [nul])) := by
  induction t with
  | nil =>
    have hfalse : s.isPrefixOf ([] : List Char) = false := by
      cases s with
      | nil => exact absurd rfl hne
      | cons c s => rfl
    have hcmp := strncmpEq_append_nul (t := []) hs
    rw [hfalse, List.nil_append] at hcmp
    rw [List.nil_append, strstr, hcmp, if_pos rfl, firstMatch, if_neg hne]
    rfl
  | cons x t ih =>
    obtain ⟨hx, ht⟩ := List.ne_and_not_mem_of_not_mem_cons h
    have hcmp := strncmpEq_append_nul (t := x :: t) hs
    rw [List.cons_append] at hcmp
    rw [List.cons_append, strstr, hcmp, firstMatch]
    cases s.isPrefixOf (x :: t) with
    | true => rfl
    | false => rw [if_neg (Ne.symm hx), if_neg Bool.false_ne_true, ih ht]

/-! ### Pointers into a string -/

/-- A pointer into a string, at the furthest to its NUL. -/
def Terminated (p : Ptr) : Prop := ∃ t, nul ∉ t ∧ p = t ++ [nul]

theorem CString.terminated (s : CString) : Terminated s.cells := ⟨s.text, s.nul_not_mem, rfl⟩

variable {q : Ptr}

theorem Terminated.of_suffix (hp : Terminated p) (hq : q <:+ p) (hne : q ≠ []) : Terminated q := by
  obtain ⟨t, ht, rfl⟩ := hp
  obtain rfl | ⟨q, x, rfl⟩ := q.eq_nil_or_concat'
  · exact absurd rfl hne
  · obtain ⟨a, ha⟩ := hq
    rw [← List.append_assoc] at ha
    obtain ⟨rfl, hx⟩ := List.append_inj' ha rfl
    exact ⟨q, fun h => ht (List.mem_append_right _ h), by rw [hx]⟩

/-- What is left behind a text that has no NUL. -/
theorem Terminated.of_append (hp : Terminated (a ++ q)) (ha : nul ∉ a) : Terminated q := by
  refine hp.of_suffix (List.suffix_append a q) ?_
  rintro rfl
  obtain ⟨t, -, ht⟩ := hp
  rw [List.append_nil] at ht
  exact ha (ht ▸ List.mem_append_right t (List.mem_singleton_self nul))

theorem suffix_append_right (h : a <:+ b) (t : List Char) : a ++ t <:+ b ++ t := by
  obtain ⟨u, rfl⟩ := h
  exact ⟨u, (List.append_assoc u a t).symm⟩

theorem Terminated.strchr (hp : Terminated p) (hc : c ≠ nul) :
    ∃ r, strchr c p = some r ∧ ∀ q ∈ r, q <:+ p ∧ ∃ b, q = c :: b := by
  obtain ⟨t, ht, rfl⟩ := hp
  refine ⟨_, strchr_append_nul hc ht, ?_⟩
  rintro q hq
  obtain ⟨r, hr, rfl⟩ := Option.map_eq_some_iff.mp hq
  obtain ⟨⟨b, rfl⟩, hsuffix⟩ := firstMatch_spec hr
  exact ⟨suffix_append_right hsuffix [nul], b ++ [nul], rfl⟩

theorem Terminated.strstr (hp : Terminated p) (hne : s ≠ []) (hs : nul ∉ s) :
    ∃ r, strstr s p = some r ∧ ∀ q ∈ r, q <:+ p ∧ s <+: q := by
  obtain ⟨t, ht, rfl⟩ := hp
  refine ⟨_, strstr_append_nul hne hs ht, ?_⟩
  rintro q hq
  obtain ⟨r, hr, rfl⟩ := Option.map_eq_some_iff.mp hq
  obtain ⟨hbegins, hsuffix⟩ := firstMatch_spec hr
  exact ⟨suffix_append_right hsuffix [nul], hbegins.trans (List.prefix_append _ _)⟩

theorem Terminated.strncmpEq (hp : Terminated p) (hs : nul ∉ s) : ∃ b, strncmpEq s p = some b := by
  obtain ⟨t, -, rfl⟩ := hp
  exact ⟨_, strncmpEq_append_nul hs⟩

theorem Terminated.nul_mem (hp : Terminated p) : nul ∈ p := by
  obtain ⟨t, -, rfl⟩ := hp
  exact List.mem_append_right t (List.mem_singleton_self nul)

end Rcp.Lib
