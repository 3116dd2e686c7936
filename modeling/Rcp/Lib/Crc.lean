import Rcp.Lib.Lfsr
import Mathlib.Algebra.Field.ZMod
import Mathlib.Algebra.Polynomial.OfFn
import Mathlib.Algebra.Polynomial.RingDivision
import Mathlib.Tactic.LinearCombination

/-! Cyclic redundancy checks. A check is defined as the remainder of a division of polynomials over the integers modulo
    two; that a shift register computes it is a theorem, for the register that takes the high bit of a symbol first and
    for its mirror image. -/

namespace Rcp.Lib.Crc
open Polynomial

variable {n m : Nat}

/-! ### Bits as coefficients -/

def coefficient (b : Bool) : ZMod 2 := if b then 1 else 0

theorem coefficient_xor (a b : Bool) : coefficient (a ^^ b) = coefficient a + coefficient b := by
  cases a <;> cases b <;> decide

theorem coefficient_eq_one (b : Bool) : decide (coefficient b = 1) = b := by
  cases b <;> decide

theorem coefficient_add_self (b : Bool) : coefficient b + coefficient b = 0 := by
  cases b <;> decide

/-- The polynomial in which bit `i` is the coefficient of `X ^ i`. -/
noncomputable def polynomial (x : BitVec n) : (ZMod 2)[X] := ofFn n fun i => coefficient (x.getLsbD i)

/-- The lowest `n` coefficients. -/
noncomputable def register (n : Nat) (p : (ZMod 2)[X]) : BitVec n :=
  (BitVec.ofBoolListLE ((List.range n).map fun i => decide (p.coeff i = 1))).setWidth n

theorem polynomial_coeff (x : BitVec n) (i : Nat) : (polynomial x).coeff i = coefficient (x.getLsbD i) := by
  by_cases hi : i < n
  · exact ofFn_coeff_eq_val_of_lt _ hi
  · rw [polynomial, ofFn_coeff_eq_zero_of_ge _ (Nat.le_of_not_lt hi), BitVec.getLsbD_of_ge x i (Nat.le_of_not_lt hi)]
    rfl

theorem polynomial_degree_lt (x : BitVec n) : (polynomial x).degree < n := ofFn_degree_lt _

theorem polynomial_xor (x y : BitVec n) : polynomial (x ^^^ y) = polynomial x + polynomial y := by
  ext i
  rw [coeff_add, polynomial_coeff, polynomial_coeff, polynomial_coeff, BitVec.getLsbD_xor, coefficient_xor]

theorem register_polynomial (x : BitVec n) : register n (polynomial x) = x := by
  apply BitVec.eq_of_getLsbD_eq
  intro i hi
  rw [register, BitVec.getLsbD_setWidth, BitVec.getLsbD_ofBoolListLE]
  simp [hi, polynomial_coeff, coefficient_eq_one]

/-! ### Messages -/

/-- The polynomial of a message, whose first bit has the highest power. -/
noncomputable def ofBits : List Bool → (ZMod 2)[X]
  | [] => 0
  | b :: bits => C (coefficient b) * X ^ bits.length + ofBits bits

/-- The bits of a symbol, the high one first. -/
def symbolBits (x : BitVec m) : List Bool := List.ofFn fun i : Fin m => x.getMsbD i

theorem length_symbolBits (x : BitVec m) : (symbolBits x).length = m := List.length_ofFn

theorem ofBits_append (bits bits' : List Bool) :
    ofBits (bits ++ bits') = ofBits bits * X ^ bits'.length + ofBits bits' := by
  induction bits with
  | nil => rw [List.nil_append, ofBits, zero_mul, zero_add]
  | cons b bits ih =>
    rw [List.cons_append, ofBits, ofBits, ih, List.length_append, pow_add]
    ring

theorem ofBits_coeff (bits : List Bool) (i : Nat) :
    (ofBits bits).coeff i = coefficient (decide (i < bits.length) && bits.getD (bits.length - 1 - i) false) := by
  induction bits with
  | nil => simp [ofBits, coefficient]
  | cons b bits ih =>
    rw [ofBits, coeff_add, coeff_C_mul, coeff_X_pow, ih, List.length_cons, Nat.add_sub_cancel]
    rcases Nat.lt_trichotomy i bits.length with hi | rfl | hi
    · have hsub : bits.length - i = bits.length - 1 - i + 1 := by omega
      simp [hi.ne, hi, Nat.lt_succ_of_lt hi, hsub]
    · simp [coefficient]
    · simp [hi.ne', Nat.not_lt.mpr hi.le, Nat.not_lt.mpr (Nat.succ_le_of_lt hi), coefficient]

theorem ofBits_symbolBits (x : BitVec m) : ofBits (symbolBits x) = polynomial x := by
  ext i
  rw [ofBits_coeff, polynomial_coeff, length_symbolBits]
  by_cases hi : i < m
  · have hlast : m - 1 - i < m := by omega
    have hback : m - 1 - (m - 1 - i) = i := by omega
    simp [symbolBits, hi, hlast, hback, BitVec.getMsbD_eq_getLsbD]
  · simp [hi, BitVec.getLsbD_of_ge x i (Nat.le_of_not_lt hi)]

/-! ### The check -/

/-- The generator that an `n`-bit constant stands for; the power `X ^ n` is not written. -/
noncomputable def generator (poly : BitVec n) : (ZMod 2)[X] := X ^ n + polynomial poly

theorem generator_monic (poly : BitVec n) : (generator poly).Monic := monic_X_pow_add (polynomial_degree_lt poly)

theorem generator_degree (poly : BitVec n) : (generator poly).degree = n := by
  rw [generator, degree_add_eq_left_of_degree_lt (by rw [degree_X_pow]; exact polynomial_degree_lt poly), degree_X_pow]

/-- The parameters of a check: the generator, what is added to the first bits of the message and to the remainder, and
    whether the bits of a symbol and those of the remainder are taken in reverse. -/
structure Params (n : Nat) where
  poly : BitVec n
  init : BitVec n
  xorOut : BitVec n
  refIn : Bool
  refOut : Bool

namespace Params

/-- The bits of a message of symbols. -/
def messageBits (p : Params n) (xs : List (BitVec m)) : List Bool :=
  xs.flatMap fun x => symbolBits (if p.refIn then x.reverse else x)

/-- The remainder of the message, with `n` zeros behind it and the initial value added to its first bits. -/
noncomputable def remainder (p : Params n) (xs : List (BitVec m)) : (ZMod 2)[X] :=
  (ofBits (p.messageBits xs) * X ^ n + polynomial p.init * X ^ (p.messageBits xs).length) %ₘ generator p.poly

noncomputable def check (p : Params n) (xs : List (BitVec m)) : BitVec n :=
  let r := register n (p.remainder xs)
  (if p.refOut then r.reverse else r) ^^^ p.xorOut

end Params

/-! ### Shift registers -/

variable {poly : BitVec n}

/-- What is shifted out comes back as the generator, which takes the highest power away. -/
theorem mul_polynomial (c : BitVec n) :
    X * polynomial c = polynomial (Lfsr.shiftHigh poly c) + generator poly * C (coefficient c.msb) := by
  have hshift : polynomial (Lfsr.shiftHigh poly c) = polynomial (c <<< 1) + polynomial poly * C (coefficient c.msb) := by
    rw [Lfsr.shiftHigh]
    cases c.msb with
    | false => simp [coefficient]
    | true => simp [coefficient, polynomial_xor]
  have hout : X * polynomial c = polynomial (c <<< 1) + X ^ n * C (coefficient c.msb) := by
    ext i
    rw [coeff_add, coeff_mul_C, coeff_X_pow, polynomial_coeff, BitVec.getLsbD_shiftLeft, BitVec.msb_eq_getLsbD_last]
    cases i with
    | zero =>
      rw [coeff_X_mul_zero]
      rcases Nat.eq_zero_or_pos n with rfl | hn
      · simp [coefficient]
      · simp [coefficient, hn.ne]
    | succ i =>
      rw [coeff_X_mul, polynomial_coeff]
      rcases Nat.lt_trichotomy (i + 1) n with hi | rfl | hi
      · simp [hi, hi.ne, coefficient]
      · simp [coefficient]
      · simp [hi.ne', Nat.not_lt.mpr hi.le, BitVec.getLsbD_of_ge c i (Nat.le_of_lt_succ hi), coefficient]
  have htwice : polynomial poly * C (coefficient c.msb) + polynomial poly * C (coefficient c.msb) = 0 := by
    rw [← mul_add, ← C_add, coefficient_add_self, C_0, mul_zero]
  rw [hshift, hout, generator]
  linear_combination -htwice

theorem polynomial_shiftHigh (c : BitVec n) : polynomial (Lfsr.shiftHigh poly c) = (X * polynomial c) %ₘ generator poly := by
  have hdegree : (polynomial (Lfsr.shiftHigh poly c)).degree < (generator poly).degree := by
    rw [generator_degree]
    exact polynomial_degree_lt _
  exact (div_modByMonic_unique _ _ (generator_monic poly) ⟨(mul_polynomial c).symm, hdegree⟩).2.symm

/-! ### The mirrored register over a message -/

/-- A remainder may be taken early. -/
theorem add_mul_modByMonic_modByMonic {R : Type*} [CommRing R] {g : R[X]} (hg : g.Monic) (p q r : R[X]) :
    (p + (q %ₘ g) * r) %ₘ g = (p + q * r) %ₘ g := by
  refine modByMonic_eq_of_dvd_sub hg ?_
  have hsub : p + (q %ₘ g) * r - (p + q * r) = (q %ₘ g - q) * r := by ring
  rw [hsub]
  exact (dvd_modByMonic_sub q g).mul_right r

theorem polynomial_iterate_shift (k : Nat) (c : BitVec n) :
    polynomial ((Lfsr.shift poly.reverse)^[k] c).reverse = (polynomial c.reverse * X ^ k) %ₘ generator poly := by
  induction k generalizing c with
  | zero =>
    rw [pow_zero, mul_one]
    refine ((modByMonic_eq_self_iff (generator_monic poly)).mpr ?_).symm
    rw [generator_degree]
    exact polynomial_degree_lt _
  | succ k ih =>
    have hearly := add_mul_modByMonic_modByMonic (generator_monic poly) 0 (X * polynomial c.reverse) (X ^ k)
    rw [Function.iterate_succ_apply, ih, Lfsr.reverse_shift, polynomial_shiftHigh, ← zero_add (_ %ₘ _ * _), hearly]
    congr 1
    ring

/-- A symbol stands in the low end of the register, which is the high end of its mirror image. -/
theorem polynomial_reverse_setWidth (hm : m ≤ n) (x : BitVec m) :
    polynomial (x.setWidth n).reverse * X ^ m = polynomial x.reverse * X ^ n := by
  ext i
  rw [coeff_mul_X_pow', coeff_mul_X_pow', polynomial_coeff, polynomial_coeff, BitVec.getLsbD_reverse,
    BitVec.getLsbD_reverse, BitVec.getMsbD_eq_getLsbD, BitVec.getMsbD_eq_getLsbD, BitVec.getLsbD_setWidth]
  rcases Nat.lt_or_ge i n with hi | hi
  · -- Above the symbol there is nothing.
    rw [if_neg (Nat.not_le.mpr hi)]
    split
    · have hout : m ≤ n - 1 - (i - m) := by omega
      simp [BitVec.getLsbD_of_ge x _ hout, coefficient]
    · rfl
  · rw [if_pos hi, if_pos (hm.trans hi)]
    rcases Nat.lt_or_ge i (n + m) with hlt | hge
    · have hin : i - m < n := by omega
      have hin' : i - n < m := by omega
      have hlast : m - 1 - (i - n) < n := by omega
      have hplace : n - 1 - (i - m) = m - 1 - (i - n) := by omega
      simp [hin, hin', hlast, hplace]
    · have hout : ¬i - m < n := by omega
      have hout' : ¬i - n < m := by omega
      simp [hout, hout']

theorem polynomial_feed (hm : m ≤ n) (c : BitVec n) (x : BitVec m) :
    polynomial (Lfsr.feed poly.reverse m c (x.setWidth n)).reverse =
      (ofBits (symbolBits x.reverse) * X ^ n + polynomial c.reverse * X ^ m) %ₘ generator poly := by
  rw [Lfsr.feed, polynomial_iterate_shift, Lfsr.reverse_xor, polynomial_xor, add_mul, polynomial_reverse_setWidth hm,
    ofBits_symbolBits, add_comm]

theorem polynomial_foldl_feed (hm : m ≤ n) (xs : List (BitVec m)) (c : BitVec n) :
    polynomial ((xs.map (·.setWidth n)).foldl (Lfsr.feed poly.reverse m) c).reverse =
      (ofBits (xs.flatMap fun x => symbolBits x.reverse) * X ^ n +
        polynomial c.reverse * X ^ (xs.flatMap fun x => symbolBits x.reverse).length) %ₘ generator poly := by
  induction xs generalizing c with
  | nil =>
    have hempty := @polynomial_iterate_shift n poly 0 c
    rw [pow_zero, mul_one] at hempty
    simpa [ofBits] using hempty
  | cons x xs ih =>
    rw [List.map_cons, List.foldl_cons, ih, polynomial_feed hm, add_mul_modByMonic_modByMonic (generator_monic poly),
      List.flatMap_cons, ofBits_append, List.length_append, length_symbolBits]
    congr 1
    ring

/-- A check with symbols and remainder in reverse is what the mirrored register comes to. -/
theorem Params.check_reflected {p : Params n} (hrefIn : p.refIn = true) (hrefOut : p.refOut = true) (hm : m ≤ n)
    (xs : List (BitVec m)) :
    p.check xs = (xs.map (·.setWidth n)).foldl (Lfsr.feed p.poly.reverse m) p.init.reverse ^^^ p.xorOut := by
  have hbits : p.messageBits xs = xs.flatMap fun x => symbolBits x.reverse := by
    simp only [messageBits, hrefIn, if_true]
  have hremainder := @polynomial_foldl_feed n m p.poly hm xs p.init.reverse
  rw [BitVec.reverse_reverse_eq, ← hbits] at hremainder
  rw [check, remainder, ← hremainder, register_polynomial]
  simp only [hrefOut, if_true, BitVec.reverse_reverse_eq]

end Rcp.Lib.Crc
