import Mathlib.Data.UInt
import Mathlib.Data.Int.Cast.Basic

/-! Decimal integers as the C library reads them: `strtoul` in base ten, where an `unsigned long` has 64 bits, and the
    integer that a string is. -/

namespace Rcp.Lib

/-- `isspace` in the "C" locale. -/
def isSpace (c : Char) : Bool := c.toNat == 32 || (9 ≤ c.toNat && c.toNat ≤ 13)

/-- The number that decimal digits are. -/
def digitsValue (digits : List Char) : Nat := digits.foldl (fun n d => 10 * n + (d.toNat - 48)) 0

/-- A numeral, and what follows it. -/
structure Numeral where
  negative : Bool
  magnitude : Nat
  rest : List Char
deriving DecidableEq, Repr

/-- The numeral a string begins with: blanks, a sign or none, and digits. -/
def scanNumeral (s : List Char) : Option Numeral :=
  let (negative, unsigned) :=
    match s.dropWhile isSpace with
    | '-' :: t => (true, t)
    | '+' :: t => (false, t)
    | t => (false, t)
  let digits := unsigned.takeWhile Char.isDigit
  if digits = [] then none
  else some { negative, magnitude := digitsValue digits, rest := unsigned.dropWhile Char.isDigit }

/-- `strtoul(s, &end, 10)`: the value, and the string at `end`. A magnitude that does not fit gives `ULONG_MAX`, whatever
    its sign; one that fits is negated in `unsigned long`. -/
def strtoul (s : List Char) : UInt64 × List Char :=
  match scanNumeral s with
  | none => (0, s)
  | some n =>
    (if n.magnitude ≥ 2 ^ 64 then 0xFFFFFFFFFFFFFFFF
      else if n.negative then 0 - UInt64.ofNat n.magnitude else UInt64.ofNat n.magnitude,
     n.rest)

/-- The integer that the whole of a string is. -/
def integerWritten (s : List Char) : Option Int :=
  match scanNumeral s with
  | none => none
  | some n => if n.rest ≠ [] then none else some (if n.negative then -(n.magnitude : Int) else n.magnitude)

/-- The integer that a numeral is. -/
def Numeral.value (n : Numeral) : Int := if n.negative then -(n.magnitude : Int) else n.magnitude

theorem setWidth_ofInt_of_le {v w : Nat} (h : w ≤ v) (i : Int) : (BitVec.ofInt v i).setWidth w = BitVec.ofInt w i := by
  apply BitVec.eq_of_toNat_eq
  have hdvd : ((2 ^ w : Nat) : Int) ∣ ((2 ^ v : Nat) : Int) := Int.natCast_dvd_natCast.mpr (Nat.pow_dvd_pow 2 h)
  have hne : ((2 ^ v : Nat) : Int) ≠ 0 := Int.natCast_ne_zero.mpr (Nat.two_pow_pos v).ne'
  rw [BitVec.toNat_setWidth, BitVec.toNat_ofInt, BitVec.toNat_ofInt, ← Int.emod_emod_of_dvd i hdvd,
    Int.toNat_emod (Int.emod_nonneg i hne) (Int.natCast_nonneg _), Int.toNat_natCast]

/-- A numeral that fits is read modulo the number of values that there are of the width. -/
theorem strtoul_setWidth {s : List Char} {n : Numeral} {w : Nat} (h : scanNumeral s = some n)
    (hfits : n.magnitude < 2 ^ 64) (hw : w ≤ 64) : (strtoul s).1.toBitVec.setWidth w = BitVec.ofInt w n.value := by
  have hvalue : (strtoul s).1.toBitVec = BitVec.ofInt 64 n.value := by
    rw [strtoul, h, Numeral.value]
    simp only [if_neg (Nat.not_le.mpr hfits)]
    cases n.negative with
    | false => exact (BitVec.ofInt_natCast 64 n.magnitude).symm
    | true =>
      simp only [if_true, BitVec.ofInt_neg, BitVec.ofInt_natCast]
      exact BitVec.zero_sub _
  rw [hvalue, setWidth_ofInt_of_le hw]

/-- A character that a numeral does not go on with. -/
def EndsDigits (rest : List Char) : Prop := ∀ c ∈ rest.head?, ¬c.isDigit

theorem takeWhile_isDigit {digits rest : List Char} (hdigits : ∀ c ∈ digits, c.isDigit) (hrest : EndsDigits rest) :
    (digits ++ rest).takeWhile Char.isDigit = digits ∧ (digits ++ rest).dropWhile Char.isDigit = rest := by
  rw [List.takeWhile_append_of_pos hdigits, List.dropWhile_append_of_pos hdigits]
  cases rest with
  | nil => exact ⟨List.append_nil digits, rfl⟩
  | cons c rest =>
    have hc := hrest c rfl
    rw [List.takeWhile_cons_of_neg hc, List.dropWhile_cons_of_neg hc]
    exact ⟨List.append_nil digits, rfl⟩

theorem dropWhile_isSpace {c : Char} {s : List Char} (h : ¬isSpace c) : (c :: s).dropWhile isSpace = c :: s :=
  List.dropWhile_cons_of_neg h

/-- A numeral in front of something else is read whole. -/
theorem scanNumeral_append {digits : List Char} (negative : Bool) (rest : List Char) (hne : digits ≠ [])
    (hdigits : ∀ c ∈ digits, c.isDigit) (hrest : EndsDigits rest) :
    scanNumeral ((if negative then '-' :: digits else digits) ++ rest) =
      some { negative, magnitude := digitsValue digits, rest } := by
  obtain ⟨htake, hdrop⟩ := takeWhile_isDigit hdigits hrest
  cases negative with
  | true =>
    simp only [scanNumeral, if_true, List.cons_append, dropWhile_isSpace (c := '-') (by decide), htake, hdrop, if_neg hne]
  | false =>
    obtain ⟨d, ds, rfl⟩ := List.exists_cons_of_ne_nil hne
    have hd : d.isDigit := hdigits d List.mem_cons_self
    have hspace : ¬isSpace d := by
      have hrange : 48 ≤ d.toNat ∧ d.toNat ≤ 57 := by
        simpa [Char.isDigit, UInt32.le_iff_toNat_le] using hd
      simp only [isSpace, Bool.or_eq_true, Bool.and_eq_true, beq_iff_eq, decide_eq_true_eq]
      omega
    have hminus : d ≠ '-' := by
      rintro rfl
      exact absurd hd (by decide)
    have hplus : d ≠ '+' := by
      rintro rfl
      exact absurd hd (by decide)
    rw [List.cons_append] at htake hdrop
    simp only [scanNumeral, Bool.false_eq_true, if_false, List.cons_append, dropWhile_isSpace hspace]
    split
    · rename_i heq
      exact absurd (List.cons.inj heq).1 hminus
    · rename_i heq
      exact absurd (List.cons.inj heq).1 hplus
    · simp only [htake, hdrop, if_neg hne]

/-- A string is read to its end exactly when it is an integer. -/
theorem strtoul_end {s : List Char} (hs : s ≠ []) : (strtoul s).2 = [] ↔ (integerWritten s).isSome := by
  rw [strtoul, integerWritten]
  cases scanNumeral s with
  | none => simpa using hs
  | some n =>
    by_cases hrest : n.rest = []
    · simp only [hrest, ne_eq, not_true_eq_false, if_false, Option.isSome_some]
    · simp only [hrest, ne_eq, not_false_eq_true, if_true, Option.isSome_none, Bool.false_eq_true]

/-- The low 32 bits of what is read are the integer that is written exactly when it has 32 bits and no sign. -/
theorem strtoul_low_eq_iff {s : List Char} {w : Int} (h : integerWritten s = some w) :
    ((strtoul s).1.toUInt32.toNat : Int) = w ↔ 0 ≤ w ∧ w < 2 ^ 32 := by
  have hlow := (strtoul s).1.toUInt32.toNat_lt
  constructor
  · intro hw
    omega
  · rintro ⟨hpos, hbound⟩
    rw [integerWritten] at h
    rw [strtoul]
    cases hscan : scanNumeral s with
    | none => simp only [hscan, reduceCtorEq] at h
    | some n =>
      simp only [hscan] at h
      split at h
      · cases h
      obtain rfl := Option.some.inj h
      -- a sign is read as such only in front of a zero
      have hfits : n.magnitude < 2 ^ 32 := by
        split at hbound
        · split at hpos <;> omega
        · omega
      simp only [if_neg (show ¬n.magnitude ≥ 2 ^ 64 by omega)]
      have hof : (UInt64.ofNat n.magnitude).toNat = n.magnitude :=
        UInt64.toNat_ofNat_of_lt' (Nat.lt_trans hfits (by decide))
      split
      · rename_i hneg
        rw [if_pos hneg] at hpos
        have hzero : n.magnitude = 0 := by omega
        rw [hzero]
        rfl
      · rw [UInt64.toNat_toUInt32, hof, Nat.mod_eq_of_lt hfits]

end Rcp.Lib
