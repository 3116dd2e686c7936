import Mathlib.Data.BitVec
import Mathlib.Logic.Function.Iterate

/-! Linear feedback shift registers that take their input by exclusive or, as a reflected CRC does: the register is
    linear in what it has read, and it forgets nothing that fits into it. -/

namespace Rcp.Lib.Lfsr

variable {n m : Nat} {poly : BitVec n}

/-- One shift of the register. -/
def shift (poly c : BitVec n) : BitVec n := if c.getLsbD 0 then (c >>> 1) ^^^ poly else c >>> 1

/-- Read a symbol of `m` bits. -/
def feed (poly : BitVec n) (m : Nat) (c x : BitVec n) : BitVec n := (shift poly)^[m] (c ^^^ x)

/-! ### Linearity -/

theorem shift_xor (a b : BitVec n) : shift poly (a ^^^ b) = shift poly a ^^^ shift poly b := by
  unfold shift
  rw [BitVec.getLsbD_xor, BitVec.ushiftRight_xor_distrib]
  cases a.getLsbD 0 <;> cases b.getLsbD 0 <;> simp only [Bool.false_bne, Bool.true_bne, Bool.not_true,
    Bool.bne_false, Bool.false_eq_true, if_true, if_false]
  · ac_rfl
  · ac_rfl
  · -- Both feed back, and the two feedbacks cancel.
    rw [BitVec.xor_assoc (a >>> 1), BitVec.xor_comm (b >>> 1), ← BitVec.xor_assoc poly, BitVec.xor_self, BitVec.zero_xor]

theorem iterate_shift_xor (k : Nat) (a b : BitVec n) :
    (shift poly)^[k] (a ^^^ b) = (shift poly)^[k] a ^^^ (shift poly)^[k] b := by
  induction k generalizing a b with
  | zero => rfl
  | succ k ih => rw [Function.iterate_succ_apply, shift_xor, ih, Function.iterate_succ_apply, Function.iterate_succ_apply]

theorem shift_zero : shift poly 0 = 0 := by simp [shift]

theorem iterate_shift_zero (k : Nat) : (shift poly)^[k] 0 = 0 := Function.iterate_fixed shift_zero k

theorem foldl_feed_xor {ι : Type*} (l : List ι) (f g : ι → BitVec n) (c d : BitVec n) :
    (l.map fun i => f i ^^^ g i).foldl (feed poly m) (c ^^^ d) =
      (l.map f).foldl (feed poly m) c ^^^ (l.map g).foldl (feed poly m) d := by
  induction l generalizing c d with
  | nil => rfl
  | cons i l ih =>
    have hfeed : feed poly m (c ^^^ d) (f i ^^^ g i) = feed poly m c (f i) ^^^ feed poly m d (g i) := by
      rw [feed, feed, feed, ← iterate_shift_xor]
      ac_rfl
    rw [List.map_cons, List.map_cons, List.map_cons, List.foldl_cons, List.foldl_cons, List.foldl_cons, hfeed, ih]

/-! ### Injectivity -/

theorem eq_zero_of_ushiftRight_one {c : BitVec n} (hlow : c.getLsbD 0 = false) (h : c >>> 1 = 0) : c = 0 := by
  apply BitVec.eq_of_getLsbD_eq
  intro i hi
  cases i with
  | zero => simpa using hlow
  | succ i =>
    have hbit := congrArg (fun x : BitVec n => x.getLsbD i) h
    simpa [Nat.add_comm] using hbit

/-- A polynomial with its top bit set makes the shift one-to-one. -/
theorem shift_injective (hpoly : poly.msb = true) : Function.Injective (shift poly) := by
  have hzero : ∀ c : BitVec n, shift poly c = 0 → c = 0 := by
    intro c h
    unfold shift at h
    cases hlow : c.getLsbD 0 with
    | true =>
      -- The feedback would show in the top bit.
      rw [hlow, if_pos rfl] at h
      have htop := congrArg BitVec.msb h
      simp [BitVec.msb_xor, hpoly] at htop
    | false =>
      rw [hlow, if_neg Bool.false_ne_true] at h
      exact eq_zero_of_ushiftRight_one hlow h
  intro a b hab
  have hxor : shift poly (a ^^^ b) = 0 := by
    rw [shift_xor, hab, BitVec.xor_self]
    rfl
  exact BitVec.xor_eq_zero_iff.mp (hzero _ hxor)

theorem iterate_shift_eq_zero (hpoly : poly.msb = true) {k : Nat} {c : BitVec n} (h : (shift poly)^[k] c = 0) : c = 0 :=
  (shift_injective hpoly).iterate k (h.trans (iterate_shift_zero k).symm)

/-- The shift backwards. -/
def unshift (poly c : BitVec n) : BitVec n := if c.msb then ((c ^^^ poly) <<< 1) ||| 1 else c <<< 1

theorem shift_unshift (hpoly : poly.msb = true) (c : BitVec n) : shift poly (unshift poly c) = c := by
  have hn : 0 < n := by
    rcases Nat.eq_zero_or_pos n with rfl | h
    · simp [BitVec.msb] at hpoly
    · exact h
  have hback : ∀ d : BitVec n, d.msb = false → (d <<< 1) >>> 1 = d := by
    intro d hd
    apply BitVec.eq_of_getLsbD_eq
    intro i hi
    rw [BitVec.msb_eq_getLsbD_last] at hd
    by_cases hlast : i = n - 1
    · subst hlast
      simp [hd]
    · have hi' : i + 1 < n := by omega
      simp [Nat.add_comm, hi', BitVec.getLsbD_eq_getElem hi]
  cases hmsb : c.msb with
  | false =>
    have hlow : (c <<< 1).getLsbD 0 = false := by simp
    rw [unshift, hmsb, if_neg Bool.false_ne_true, shift, hlow, if_neg Bool.false_ne_true]
    exact hback c hmsb
  | true =>
    have hlow : ((c ^^^ poly) <<< 1 ||| 1).getLsbD 0 = true := by simp [hn]
    have hshift : ((c ^^^ poly) <<< 1 ||| 1) >>> 1 = c ^^^ poly := by
      rw [BitVec.ushiftRight_or_distrib, hback (c ^^^ poly) (by simp [BitVec.msb_xor, hmsb, hpoly])]
      apply BitVec.eq_of_getLsbD_eq
      intro i hi
      simp
    rw [unshift, hmsb, if_pos rfl, shift, hlow, if_pos rfl, hshift, BitVec.xor_assoc, BitVec.xor_self, BitVec.xor_zero]

theorem iterate_shift_unshift (hpoly : poly.msb = true) (k : Nat) (c : BitVec n) :
    (shift poly)^[k] ((unshift poly)^[k] c) = c :=
  (Function.LeftInverse.iterate (shift_unshift hpoly) k) c

/-! ### Mirror images -/

theorem reverse_xor (a b : BitVec n) : (a ^^^ b).reverse = a.reverse ^^^ b.reverse := by
  apply BitVec.eq_of_getLsbD_eq
  intro i _
  rw [BitVec.getLsbD_reverse, BitVec.getLsbD_xor, BitVec.getLsbD_reverse, BitVec.getLsbD_reverse, BitVec.getMsbD_xor]

/-- One shift of the register that takes the high bit of a symbol first. -/
def shiftHigh (poly c : BitVec n) : BitVec n := if c.msb then (c <<< 1) ^^^ poly else c <<< 1

theorem reverse_shift (c : BitVec n) : (shift poly.reverse c).reverse = shiftHigh poly c.reverse := by
  apply BitVec.eq_of_getLsbD_eq
  intro i _
  have hmoved : (c >>> 1).getMsbD i = (c.reverse <<< 1).getLsbD i := by
    rw [BitVec.getMsbD_ushiftRight, BitVec.getLsbD_shiftLeft, BitVec.getLsbD_reverse, Bool.and_assoc]
  rw [shift, shiftHigh, BitVec.msb_reverse, BitVec.getLsbD_reverse]
  cases c.getLsbD 0 with
  | false => exact hmoved
  | true => rw [if_pos rfl, if_pos rfl, BitVec.getMsbD_xor, BitVec.getLsbD_xor, hmoved, BitVec.getMsbD_reverse]

/-! ### Bursts -/

/-- Symbols side by side, the first in the lowest bits. -/
def pack (m : Nat) : List (BitVec n) → BitVec n
  | [] => 0
  | x :: xs => x ^^^ (pack m xs <<< m)

/-- The value fits into the lowest `k` bits. -/
def Fits (k : Nat) (x : BitVec n) : Prop := ∀ i, k ≤ i → x.getLsbD i = false

theorem fits_pack {xs : List (BitVec n)} (hxs : ∀ x ∈ xs, Fits m x) : Fits (m * xs.length) (pack m xs) := by
  induction xs with
  | nil =>
    intro i _
    simp [pack]
  | cons x xs ih =>
    intro i hi
    rw [List.length_cons, Nat.mul_add, Nat.mul_one] at hi
    have hx := hxs x (List.mem_cons_self ..) i (by omega)
    have hrest := ih (fun y hy => hxs y (List.mem_cons_of_mem x hy)) (i - m) (by omega)
    simp [pack, hx, hrest]

/-- Shifts that move only clear bits out do not feed back. -/
theorem iterate_shift_shiftLeft {k : Nat} {y : BitVec n} (hy : Fits (n - k) y) : (shift poly)^[k] (y <<< k) = y := by
  induction k generalizing y with
  | zero => simp
  | succ k ih =>
    have hone : shift poly (y <<< (k + 1)) = y <<< k := by
      have hlow : (y <<< (k + 1)).getLsbD 0 = false := by simp
      rw [shift, hlow, if_neg Bool.false_ne_true]
      apply BitVec.eq_of_getLsbD_eq
      intro i hi
      by_cases hlast : i = n - 1
      · have htop := hy (i - k) (by omega)
        have hout : ¬1 + i < n := by omega
        simp [hout, htop]
      · have hin : 1 + i < n := by omega
        have hsub : 1 + i - (k + 1) = i - k := by omega
        by_cases hk : i < k <;> simp [hin, hi, hk, hsub] <;> omega
    rw [Function.iterate_succ_apply, hone]
    exact ih fun i hi => hy i (by omega)

/-- Reading symbols that fit into the register together is reading them at once. -/
theorem foldl_feed_eq {xs : List (BitVec n)} (hxs : ∀ x ∈ xs, Fits m x) (hlen : m * xs.length ≤ n) (c : BitVec n) :
    xs.foldl (feed poly m) c = (shift poly)^[m * xs.length] (c ^^^ pack m xs) := by
  induction xs generalizing c with
  | nil => simp [pack]
  | cons x xs ih =>
    have htail := fun y hy => hxs y (List.mem_cons_of_mem x hy)
    rw [List.length_cons, Nat.mul_add, Nat.mul_one] at hlen ⊢
    have hfits : Fits (n - m) (pack m xs) := fun i hi => fits_pack htail i (by omega)
    calc (x :: xs).foldl (feed poly m) c
        = (shift poly)^[m * xs.length] ((shift poly)^[m] (c ^^^ x) ^^^ pack m xs) := by
          rw [List.foldl_cons, ih htail (by omega), feed]
      _ = (shift poly)^[m * xs.length] ((shift poly)^[m] ((c ^^^ x) ^^^ (pack m xs <<< m))) := by
          rw [iterate_shift_xor m (c ^^^ x), iterate_shift_shiftLeft hfits]
      _ = (shift poly)^[m * xs.length + m] (c ^^^ pack m (x :: xs)) := by
          rw [Function.iterate_add_apply, pack, BitVec.xor_assoc]

theorem foldl_feed_zeros (k : Nat) (c : BitVec n) :
    (List.replicate k 0).foldl (feed poly m) c = (shift poly)^[m * k] c := by
  induction k generalizing c with
  | zero => rfl
  | succ k ih =>
    rw [List.replicate_succ, List.foldl_cons, ih, feed, Nat.mul_succ, Function.iterate_add_apply]
    exact congrArg _ (congrArg _ (BitVec.xor_zero))

theorem eq_zero_of_pack {xs : List (BitVec n)} (hxs : ∀ x ∈ xs, Fits m x) (hlen : m * xs.length ≤ n)
    (h : pack m xs = 0) : ∀ x ∈ xs, x = 0 := by
  induction xs with
  | nil => exact fun x hx => absurd hx List.not_mem_nil
  | cons x xs ih =>
    have htail := fun y hy => hxs y (List.mem_cons_of_mem x hy)
    rw [List.length_cons, Nat.mul_add, Nat.mul_one] at hlen
    have hbits : ∀ i, (x.getLsbD i ^^ (pack m xs <<< m).getLsbD i) = false := by
      intro i
      have hi := congrArg (fun y : BitVec n => y.getLsbD i) h
      simpa [pack] using hi
    have hx : x = 0 := by
      apply BitVec.eq_of_getLsbD_eq
      intro i hi
      by_cases hm : i < m
      · have := hbits i
        simpa [hm] using this
      · simpa using hxs x (List.mem_cons_self ..) i (by omega)
    have hrest : pack m xs = 0 := by
      apply BitVec.eq_of_getLsbD_eq
      intro i hi
      by_cases hm : i < m * xs.length
      · have := hbits (i + m)
        rw [hx] at this
        have hin : i + m < n := by omega
        simpa [hin, BitVec.getLsbD_eq_getElem hi] using this
      · simpa using fits_pack htail i (by omega)
    intro y hy
    rcases List.mem_cons.mp hy with rfl | hy
    · exact hx
    · exact ih htail (by omega) hrest y hy

/-- A burst that fits into the register is seen at the end, wherever it stands. -/
theorem eq_zero_of_burst (hpoly : poly.msb = true) {xs : List (BitVec n)} (hxs : ∀ x ∈ xs, Fits m x)
    (hlen : m * xs.length ≤ n) {i j : Nat}
    (h : (List.replicate i 0 ++ xs ++ List.replicate j 0).foldl (feed poly m) 0 = 0) : ∀ x ∈ xs, x = 0 := by
  rw [List.foldl_append, List.foldl_append, foldl_feed_zeros j] at h
  have hburst := iterate_shift_eq_zero hpoly h
  rw [foldl_feed_zeros i, iterate_shift_zero] at hburst
  rw [foldl_feed_eq hxs hlen] at hburst
  refine eq_zero_of_pack hxs hlen ?_
  rw [← iterate_shift_eq_zero hpoly hburst]
  exact BitVec.zero_xor.symm

end Rcp.Lib.Lfsr
