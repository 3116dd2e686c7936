import Rcp.Lib.Lfsr
import Rcp.Theorems.Wrapping

/-! Which changes of a protected frame the CRC finds: every burst of four octets, but for sixteen that run across the
    border between the covered octets and the trailer. -/

namespace Rcp
open Lib

/-! ### The CRC as a shift register -/

/-- The polynomial of `crc32_update`. -/
def crcPoly : BitVec 32 := 0xC8DF352F#32

def wide (b : UInt8) : BitVec 32 := b.toBitVec.setWidth 32

theorem crcPoly_msb : crcPoly.msb = true := by decide

theorem fits_wide (b : UInt8) : Lfsr.Fits 8 (wide b) := by
  intro i hi
  rw [wide, BitVec.getLsbD_setWidth, BitVec.getLsbD_of_ge _ _ hi, Bool.and_false]

theorem wide_eq_zero {b : UInt8} (h : wide b = 0) : b = 0 := by
  apply UInt8.toBitVec_inj.mp
  apply BitVec.eq_of_getLsbD_eq
  intro i hi
  have hbit := congrArg (fun x : BitVec 32 => x.getLsbD i) h
  have hwide : i < 32 := by omega
  simpa [wide, hwide] using hbit

theorem crc32Shift_toBitVec (c : UInt32) : (crc32Shift c).toBitVec = Lfsr.shift crcPoly c.toBitVec := by
  have hlow : (c &&& 1 ≠ 0) ↔ c.toBitVec.getLsbD 0 = true := by
    rw [ne_eq, ← UInt32.toBitVec_inj, UInt32.toBitVec_and]
    have hand : c.toBitVec &&& (1 : UInt32).toBitVec = BitVec.setWidth 32 (BitVec.ofBool (c.toBitVec.getLsbD 0)) :=
      BitVec.and_one_eq_setWidth_ofBool_getLsbD
    rw [hand]
    cases c.toBitVec.getLsbD 0 <;> decide
  unfold crc32Shift Lfsr.shift
  simp only [hlow]
  split
  · rfl
  · rfl

theorem crc32Update_toBitVec (c : UInt32) (b : UInt8) :
    (crc32Update c b).toBitVec = Lfsr.feed crcPoly 8 c.toBitVec (wide b) := by
  have hiter : ∀ (k : Nat) (c : UInt32), (crc32Shift^[k] c).toBitVec = (Lfsr.shift crcPoly)^[k] c.toBitVec := by
    intro k
    induction k with
    | zero => exact fun _ => rfl
    | succ k ih =>
      intro c
      rw [Function.iterate_succ_apply, ih, crc32Shift_toBitVec, Function.iterate_succ_apply]
  rw [crc32Update, List.foldl_const, hiter, List.length_range, Lfsr.feed, UInt32.toBitVec_xor, UInt8.toBitVec_toUInt32,
    wide]

theorem foldl_crc32Update_toBitVec (data : Octets) :
    ∀ c : UInt32, (data.foldl crc32Update c).toBitVec = (data.map wide).foldl (Lfsr.feed crcPoly 8) c.toBitVec := by
  induction data with
  | nil => exact fun _ => rfl
  | cons b data ih =>
    intro c
    rw [List.foldl_cons, ih, crc32Update_toBitVec, List.map_cons, List.foldl_cons]

/-- What a change of the covered octets does to the CRC. -/
def crcChange (delta : Octets) : UInt32 := delta.foldl crc32Update 0

/-- The CRC is linear: its change depends only on the change of the octets. -/
theorem crc_xor {ι : Type*} (l : List ι) (f g : ι → UInt8) (c : UInt32) :
    (l.map f).foldl crc32Update c ^^^ (l.map g).foldl crc32Update c = crcChange (l.map fun i => f i ^^^ g i) := by
  have hxor : ∀ i, wide (f i ^^^ g i) = wide (f i) ^^^ wide (g i) := fun i => by
    simp [wide, UInt8.toBitVec_xor, BitVec.setWidth_xor]
  have h := @Lfsr.foldl_feed_xor 32 8 crcPoly ι l (fun i => wide (f i)) (fun i => wide (g i)) c.toBitVec c.toBitVec
  apply UInt32.toBitVec_inj.mp
  rw [UInt32.toBitVec_xor, foldl_crc32Update_toBitVec, foldl_crc32Update_toBitVec, crcChange, foldl_crc32Update_toBitVec,
    List.map_map, List.map_map, List.map_map]
  rw [BitVec.xor_self] at h
  refine h.symm.trans ?_
  refine congrArg (fun xs => List.foldl (Lfsr.feed crcPoly 8) 0#32 xs) ?_
  exact List.map_congr_left fun i _ => (hxor i).symm

/-! ### Bursts of covered octets -/

theorem crcChange_zeros_append (k : Nat) (delta : Octets) : crcChange (List.replicate k 0 ++ delta) = crcChange delta := by
  have hzeros : (List.replicate k (0 : UInt8)).foldl crc32Update 0 = 0 := by
    apply UInt32.toBitVec_inj.mp
    rw [foldl_crc32Update_toBitVec, List.map_replicate]
    exact (Lfsr.foldl_feed_zeros k 0).trans (Lfsr.iterate_shift_zero (8 * k))
  rw [crcChange, List.foldl_append, hzeros, crcChange]

/-- Octets behind a change cannot undo it. -/
theorem crcChange_append_zeros {delta : Octets} {k : Nat} (h : crcChange (delta ++ List.replicate k 0) = 0) :
    crcChange delta = 0 := by
  apply UInt32.toBitVec_inj.mp
  have hbits := congrArg UInt32.toBitVec h
  rw [crcChange, List.foldl_append, foldl_crc32Update_toBitVec, List.map_replicate] at hbits
  exact Lfsr.iterate_shift_eq_zero crcPoly_msb ((Lfsr.foldl_feed_zeros k _).symm.trans hbits)

/-- A change of at most four octets changes the CRC. -/
theorem eq_zero_of_crcChange {delta : Octets} (hlen : delta.length ≤ 4) (h : crcChange delta = 0) : ∀ b ∈ delta, b = 0 := by
  have hfits : ∀ x ∈ delta.map wide, Lfsr.Fits 8 x := by
    intro x hx
    obtain ⟨b, -, rfl⟩ := List.mem_map.mp hx
    exact fits_wide b
  have hwidth : 8 * (delta.map wide).length ≤ 32 := by
    rw [List.length_map]
    omega
  have hbits := congrArg UInt32.toBitVec h
  rw [crcChange, foldl_crc32Update_toBitVec, Lfsr.foldl_feed_eq hfits hwidth] at hbits
  have hpack := Lfsr.iterate_shift_eq_zero crcPoly_msb hbits
  have hzero : Lfsr.pack 8 (delta.map wide) = 0 := by
    rw [← hpack]
    exact BitVec.zero_xor.symm
  intro b hb
  exact wide_eq_zero (Lfsr.eq_zero_of_pack hfits hwidth hzero (wide b) (List.mem_map_of_mem hb))

/-- The octets of two strings of one length agree outside of four consecutive places. -/
def AgreeOutside (p : Nat) (a a' : Octets) : Prop := ∀ i, i < p ∨ p + 4 ≤ i → a'.at i = a.at i

theorem Octets.eq_map_at (a : Octets) : a = (List.range a.length).map a.at := by
  apply List.ext_getElem
  · simp
  · intro i hi _
    simp [Octets.at, hi]

theorem Octets.map_at_congr {a a' : Octets} (hlen : a'.length = a.length) (h : ∀ i < a.length, a'.at i = a.at i) : a' = a := by
  rw [eq_map_at a', eq_map_at a, hlen]
  exact List.map_congr_left fun i hi => h i (List.mem_range.mp hi)

theorem map_range_zero {f : Nat → UInt8} {k : Nat} (h : ∀ i < k, f i = 0) :
    (List.range k).map f = List.replicate k 0 := by
  rw [List.eq_replicate_iff]
  refine ⟨by simp, fun b hb => ?_⟩
  obtain ⟨i, hi, rfl⟩ := List.mem_map.mp hb
  exact h i (List.mem_range.mp hi)

/-- A burst of up to four octets changes the CRC of a string of any length. -/
theorem foldl_crc32Update_ne {a a' : Octets} (hlen : a'.length = a.length) (hne : a' ≠ a) {p : Nat}
    (hagree : AgreeOutside p a a') (c : UInt32) : a'.foldl crc32Update c ≠ a.foldl crc32Update c := by
  intro heq
  refine hne (Octets.map_at_congr hlen fun i hi => ?_)
  have hzero : ∀ i, i < p ∨ p + 4 ≤ i → a'.at i ^^^ a.at i = 0 := by
    intro i hi
    rw [hagree i hi, UInt8.xor_self]
  have hchange : crcChange ((List.range a.length).map fun i => a'.at i ^^^ a.at i) = 0 := by
    have ha' : a' = (List.range a.length).map a'.at := by
      rw [← hlen]
      exact Octets.eq_map_at a'
    rw [← crc_xor (List.range a.length) a'.at a.at c, ← ha', ← Octets.eq_map_at a, heq, UInt32.xor_self]
  by_cases hout : i < p ∨ p + 4 ≤ i
  · exact hagree i hout
  -- The string is the octets before the burst, the burst itself, and those behind it.
  obtain ⟨q, r, hn, hq, hiq⟩ : ∃ q r, a.length = p + (q + r) ∧ q ≤ 4 ∧ i - p < q ∧ (q < 4 → r = 0) :=
    ⟨min 4 (a.length - p), a.length - p - min 4 (a.length - p), by omega, by omega, by omega, by omega⟩
  rw [hn, List.range_add, List.map_append, map_range_zero fun i hi => hzero i (Or.inl hi), crcChange_zeros_append,
    List.range_add, List.map_append, List.map_append, List.map_map, List.map_map] at hchange
  have hbehind : List.map ((fun i => a'.at i ^^^ a.at i) ∘ fun i => p + i) (List.map (fun i => q + i) (List.range r)) =
      List.replicate r 0 := by
    rw [List.map_map]
    refine map_range_zero fun j hj => hzero _ (Or.inr ?_)
    have := hiq.2
    dsimp only
    omega
  rw [hbehind] at hchange
  have hburst := eq_zero_of_crcChange (by simpa using hq) (crcChange_append_zeros hchange)
  have hi0 := hburst (a'.at i ^^^ a.at i) (List.mem_map.mpr ⟨i - p, List.mem_range.mpr hiq.1, by
    simp only [Function.comp_apply]
    rw [show p + (i - p) = i by omega]⟩)
  exact UInt8.xor_eq_zero_iff.mp hi0

/-! ### Bursts across the border -/

theorem getU32_getLsbD (a b c d : UInt8) (i : Nat) :
    (getU32 [a, b, c, d] 0).toBitVec.getLsbD i =
      if i < 8 then d.toBitVec.getLsbD i else if i < 16 then c.toBitVec.getLsbD (i - 8)
      else if i < 24 then b.toBitVec.getLsbD (i - 16) else a.toBitVec.getLsbD (i - 24) := by
  simp only [getU32, Octets.at, List.getD_cons_zero, List.getD_cons_succ, Nat.zero_add, UInt32.toBitVec_or,
    UInt32.toBitVec_shiftLeft, UInt8.toBitVec_toUInt32, UInt32.toBitVec_ofNat, BitVec.shiftLeft_eq', BitVec.getLsbD_or,
    BitVec.getLsbD_shiftLeft, BitVec.getLsbD_setWidth]
  grind

theorem zero_getLsbD (i : Nat) : (0 : UInt8).toBitVec.getLsbD i = false := BitVec.getLsbD_zero

theorem forall_octet {P : UInt8 → Prop} [DecidablePred P]
    (h : ((List.range 256).all fun i => decide (P (UInt8.ofNat i))) = true) (b : UInt8) : P b := by
  have hb := List.all_eq_true.mp h b.toNat (List.mem_range.mpr b.toNat_lt)
  rw [UInt8.ofNat_toNat] at hb
  exact of_decide_eq_true hb

/-- The changes across the border that the CRC does not find, by the number of covered octets among the four. -/
def undetected : Nat → List Octets
  | 1 => [[0xBA, 0xC1, 0x37, 0x43]]
  | 3 =>
    [[0x6D, 0x49, 0x1C, 0x1F], [0xB7, 0xDB, 0x24, 0x21], [0xDA, 0x92, 0x38, 0x3E], [0x6E, 0xB7, 0x49, 0x42],
     [0x03, 0xFE, 0x55, 0x5D], [0xD9, 0x6C, 0x6D, 0x63], [0xB4, 0x25, 0x71, 0x7C], [0xDC, 0x6E, 0x93, 0x84],
     [0xB1, 0x27, 0x8F, 0x9B], [0x6B, 0xB5, 0xB7, 0xA5], [0x06, 0xFC, 0xAB, 0xBA], [0xB2, 0xD9, 0xDA, 0xC6],
     [0xDF, 0x90, 0xC6, 0xD9], [0x05, 0x02, 0xFE, 0xE7], [0x68, 0x4B, 0xE2, 0xF8]]
  | _ => []

/-- One covered octet: its change gives that of the trailer. -/
theorem straddle_one {b0 t0 t1 t2 : UInt8} :
    putU32 (crcChange [b0]) = [t0, t1, t2, 0] ↔
      [b0, t0, t1, t2] = [0, 0, 0, 0] ∨ [b0, t0, t1, t2] ∈ undetected 1 := by
  have hdecide : ∀ b : UInt8, (putU32 (crcChange [b])).at 3 = 0 →
      b :: (putU32 (crcChange [b])).take 3 = [0, 0, 0, 0] ∨ b :: (putU32 (crcChange [b])).take 3 ∈ undetected 1 :=
    forall_octet (by decide +kernel)
  constructor
  · intro h
    have hb := hdecide b0 (by rw [h]; rfl)
    rw [h] at hb
    exact hb
  · rintro (h | h)
    · cases h
      decide +kernel
    · obtain h := List.mem_singleton.mp h
      cases h
      decide +kernel

/-- A basis of what the change of the second covered octet does to the lower half of the CRC, with the bit that
    tells each of its elements from the others. -/
def secondOctetBasis : List (UInt32 × UInt32) :=
  [(0x80000000, 0x80730000), (0x40000000, 0x422B0000), (0x20000000, 0x203E0000), (0x10000000, 0x101F0000),
   (0x08000000, 0x0A1D0000), (0x04000000, 0x04250000), (0x01000000, 0x012B0000), (0x00800000, 0x00E60000)]

/-- What is left of a lower half after a change of the second octet has been taken out of it. -/
def residue (v : UInt32) : UInt32 :=
  secondOctetBasis.foldl (fun v e => if v &&& e.1 ≠ 0 then v ^^^ e.2 else v) (v <<< 16)

theorem straddle_two {b0 b1 t0 t1 : UInt8} :
    putU32 (crcChange [b0, b1]) = [t0, t1, 0, 0] ↔
      [b0, b1, t0, t1] = [0, 0, 0, 0] ∨ [b0, b1, t0, t1] ∈ undetected 2 := by
  have hsecond : ∀ b : UInt8, residue (crcChange [b]) = 0 := forall_octet (by decide +kernel)
  have hfirst : ∀ b : UInt8, residue (crcChange [b, 0]) = 0 → b = 0 := forall_octet (by decide +kernel)
  have hlow : ∀ b : UInt8, crcChange [b] <<< 16 = 0 → b = 0 := forall_octet (by decide +kernel)
  constructor
  · intro h
    -- The lower half of the CRC changes by both octets together, and not at all.
    have hsplit : crcChange [b0, b1] = crcChange [b0, 0] ^^^ crcChange [b1] := by
      have hb1 : crcChange [b1] = crcChange [0, b1] := (crcChange_zeros_append 1 [b1]).symm
      have hxor := crc_xor [0, 1] (fun i => if i = 0 then b0 else 0) (fun i => if i = 0 then 0 else b1) 0
      rw [hb1]
      simpa [crcChange] using hxor.symm
    have hhalf : crcChange [b0, b1] <<< 16 = 0 := by
      rw [← getU32_putU32 (crcChange [b0, b1]), h]
      apply UInt32.toBitVec_inj.mp
      apply BitVec.eq_of_getLsbD_eq
      intro i hi
      simp only [UInt32.toBitVec_shiftLeft, UInt32.toBitVec_ofNat, BitVec.shiftLeft_eq', BitVec.getLsbD_shiftLeft,
        getU32_getLsbD, zero_getLsbD]
      grind
    have hequal : crcChange [b0, 0] <<< 16 = crcChange [b1] <<< 16 := by
      rw [hsplit, UInt32.shiftLeft_xor] at hhalf
      exact UInt32.xor_eq_zero_iff.mp hhalf
    have hb0 : b0 = 0 := by
      refine hfirst b0 ?_
      rw [residue, hequal]
      exact hsecond b1
    subst hb0
    have hb1 : b1 = 0 := by
      refine hlow b1 ?_
      rw [← hequal]
      decide +kernel
    subst hb1
    have hzero : putU32 (crcChange [0, 0]) = [0, 0, 0, 0] := by decide +kernel
    rw [hzero] at h
    left
    cases h
    rfl
  · rintro (h | h)
    · cases h
      decide +kernel
    · cases h

/-- Three covered octets: the trailer's change, one octet, gives theirs. -/
theorem straddle_three {b0 b1 b2 t0 : UInt8} :
    putU32 (crcChange [b0, b1, b2]) = [t0, 0, 0, 0] ↔
      [b0, b1, b2, t0] = [0, 0, 0, 0] ∨ [b0, b1, b2, t0] ∈ undetected 3 := by
  let back : UInt8 → BitVec 32 := fun t => (Lfsr.unshift crcPoly)^[24] (wide t <<< 24)
  let octet : BitVec 32 → Nat → UInt8 := fun x k => UInt8.ofBitVec ((x >>> k).setWidth 8)
  have hdecide : ∀ t : UInt8, back t >>> 24 = 0 →
      [octet (back t) 0, octet (back t) 8, octet (back t) 16, t] = [0, 0, 0, 0] ∨
        [octet (back t) 0, octet (back t) 8, octet (back t) 16, t] ∈ undetected 3 :=
    forall_octet (by decide +kernel)
  constructor
  · intro h
    have hfits : ∀ x ∈ [b0, b1, b2].map wide, Lfsr.Fits 8 x := by
      intro x hx
      obtain ⟨b, -, rfl⟩ := List.mem_map.mp hx
      exact fits_wide b
    have htop : (crcChange [b0, b1, b2]).toBitVec = wide t0 <<< 24 := by
      rw [← getU32_putU32 (crcChange [b0, b1, b2]), h]
      apply BitVec.eq_of_getLsbD_eq
      intro i hi
      simp only [getU32_getLsbD, zero_getLsbD, wide, BitVec.getLsbD_shiftLeft, BitVec.getLsbD_setWidth]
      grind
    have hpack : Lfsr.pack 8 ([b0, b1, b2].map wide) = back t0 := by
      rw [crcChange, foldl_crc32Update_toBitVec, Lfsr.foldl_feed_eq hfits (by simp)] at htop
      refine (Lfsr.shift_injective crcPoly_msb).iterate 24 ?_
      rw [Lfsr.iterate_shift_unshift crcPoly_msb, ← htop]
      exact congrArg _ BitVec.zero_xor.symm
    have hoctets : back t0 >>> 24 = 0 ∧ octet (back t0) 0 = b0 ∧ octet (back t0) 8 = b1 ∧ octet (back t0) 16 = b2 := by
      rw [← hpack]
      simp only [octet, Lfsr.pack, List.map_cons, List.map_nil, wide]
      refine ⟨?_, ?_, ?_, ?_⟩
      · apply BitVec.eq_of_getLsbD_eq
        intro i hi
        simp only [BitVec.getLsbD_ushiftRight, BitVec.getLsbD_xor, BitVec.getLsbD_shiftLeft, BitVec.getLsbD_setWidth]
        grind
      all_goals
        apply UInt8.toBitVec_inj.mp
        apply BitVec.eq_of_getLsbD_eq
        intro i hi
        simp only [BitVec.getLsbD_ushiftRight, BitVec.getLsbD_xor, BitVec.getLsbD_shiftLeft, BitVec.getLsbD_setWidth]
        grind
    obtain ⟨hfit, rfl, rfl, rfl⟩ := hoctets
    exact hdecide t0 hfit
  · rintro (h | h)
    · cases h
      decide +kernel
    · have hall : ∀ delta ∈ undetected 3, putU32 (crcChange (delta.take 3)) = delta.drop 3 ++ [0, 0, 0] := by
        decide +kernel
      have hdelta := hall _ h
      rw [List.take_succ_cons, List.take_succ_cons, List.take_succ_cons, List.take_zero] at hdelta
      exact hdelta

theorem straddle (delta : Nat → UInt8) {k : Nat} (hpos : 0 < k) (hlt : k < 4) :
    putU32 (crcChange ((List.range k).map delta)) = (List.range 4).map (fun i => if i + k < 4 then delta (k + i) else 0) ↔
      (List.range 4).map delta = [0, 0, 0, 0] ∨ (List.range 4).map delta ∈ undetected k := by
  obtain rfl | rfl | rfl : k = 1 ∨ k = 2 ∨ k = 3 := by omega
  · exact straddle_one
  · exact straddle_two
  · exact straddle_three

/-! ### Altered frames -/

theorem getU32_xor (a a' : Octets) (n : Nat) :
    getU32 a n ^^^ getU32 a' n = getU32 ((List.range 4).map fun i => a.at (n + i) ^^^ a'.at (n + i)) 0 := by
  have hfour : ∀ b : Octets, getU32 b n = getU32 [b.at n, b.at (n + 1), b.at (n + 2), b.at (n + 3)] 0 := fun _ => rfl
  have hrange : ((List.range 4).map fun i => a.at (n + i) ^^^ a'.at (n + i)) =
      [a.at n ^^^ a'.at n, a.at (n + 1) ^^^ a'.at (n + 1), a.at (n + 2) ^^^ a'.at (n + 2), a.at (n + 3) ^^^ a'.at (n + 3)] :=
    rfl
  rw [hfour a, hfour a', hrange]
  apply UInt32.toBitVec_inj.mp
  apply BitVec.eq_of_getLsbD_eq
  intro i hi
  rw [UInt32.toBitVec_xor, BitVec.getLsbD_xor, getU32_getLsbD, getU32_getLsbD, getU32_getLsbD]
  simp only [UInt8.toBitVec_xor, BitVec.getLsbD_xor]
  split
  · rfl
  split
  · rfl
  split <;> rfl

variable {h : E2eHeader} {m w w' : Octets}

/-- Where the trailer of a wrapped frame stands, and that it is the CRC of what is before it. -/
theorem e2eWrap_layout (hw : e2eWrap h m = some w) (hlong : 3 ≤ realLen m) :
    w.length = realLen m + 4 + acfPadOctets m ∧ acfPadOctets w = acfPadOctets m ∧
      getU32 w (realLen m) = e2eComputeCrc h (w.take (realLen m)) := by
  rw [e2eWrap_eq_insertCrc] at hw
  obtain ⟨-, hpad, hreal, -, rfl⟩ := insertCrc_eq_some.mp hw
  have hcov := covered_length hreal
  have hdrop : (m.drop (realLen m)).length = acfPadOctets m := by
    rw [List.length_drop, realLen]
    omega
  refine ⟨?_, ?_, ?_⟩
  · rw [List.length_append, List.length_append, hcov, putU32_length, hdrop]
  · rw [List.append_assoc, acfPadOctets_insert hlong]
  · rw [List.append_assoc, getU32_append hcov.symm, getU32_append_left (by rw [putU32_length]), getU32_putU32,
      List.take_left' hcov]

/-- The verdict on an altered frame whose pad field is as before. -/
theorem e2eUnwrap_altered (hw : e2eWrap h m = some w) (hlong : 3 ≤ realLen m) (hlen : w'.length = w.length)
    (hpad : acfPadOctets w' = acfPadOctets w) :
    (e2eUnwrap h w').1 =
      if getU32 w' (realLen m) ≠ e2eComputeCrc h (w'.take (realLen m)) then .error .crcMismatch else .ok () := by
  obtain ⟨hlength, hpads, -⟩ := e2eWrap_layout hw hlong
  have hreal : w'.length - e2eCrcLen - acfPadOctets w' = realLen m := by
    rw [hlen, hlength, hpad, hpads, e2eCrcLen]
    omega
  unfold e2eUnwrap
  rw [if_neg (by rw [hlen, hlength, e2eCrcLen]; omega), if_neg (by rw [hlen, hlength, hpad, hpads, e2eCrcLen]; omega)]
  dsimp only
  rw [hreal]

/-- The trailer agrees with the altered octets if the changes of both do. -/
theorem altered_agrees_iff (hw : e2eWrap h m = some w) (hlong : 3 ≤ realLen m) (hlen : w'.length = w.length) :
    getU32 w' (realLen m) = e2eComputeCrc h (w'.take (realLen m)) ↔
      putU32 (crcChange ((List.range (realLen m)).map fun i => w'.at i ^^^ w.at i)) =
        (List.range 4).map fun i => w'.at (realLen m + i) ^^^ w.at (realLen m + i) := by
  obtain ⟨hlength, -, htrailer⟩ := e2eWrap_layout hw hlong
  have hcut : ∀ a : Octets, a.length = w.length → a.take (realLen m) = (List.range (realLen m)).map a.at := by
    intro a ha
    have hmin : (a.take (realLen m)).length = realLen m := by
      rw [List.length_take, ha, hlength]
      omega
    rw [Octets.eq_map_at (a.take (realLen m)), hmin]
    exact List.map_congr_left fun i hi => Octets.at_take (List.mem_range.mp hi)
  have hcrc : e2eComputeCrc h (w'.take (realLen m)) ^^^ e2eComputeCrc h (w.take (realLen m)) =
      crcChange ((List.range (realLen m)).map fun i => w'.at i ^^^ w.at i) := by
    rw [← crc_xor (List.range (realLen m)) w'.at w.at (h.octets.foldl crc32Update 0xFFFFFFFF), hcut w' hlen, hcut w rfl,
      e2eComputeCrc, e2eComputeCrc]
    rw [UInt32.xor_assoc, UInt32.xor_comm (List.foldl _ _ _) 0xFFFFFFFF, ← UInt32.xor_assoc 0xFFFFFFFF, UInt32.xor_self,
      UInt32.zero_xor]
  constructor
  · intro heq
    have hxor := getU32_xor w' w (realLen m)
    rw [heq, htrailer, hcrc] at hxor
    rw [hxor]
    exact putU32_getU32 _ 0
  · intro heq
    have hxor := getU32_xor w' w (realLen m)
    rw [← heq, getU32_putU32, ← hcrc, ← htrailer] at hxor
    exact (UInt32.xor_left_inj _).mp hxor

/-- The frame has been altered, in at most four consecutive octets from `p` on, all of them before the pad, and not in
    its pad field. -/
structure Burst (p : Nat) (m w w' : Octets) : Prop where
  length : w'.length = w.length
  altered : w' ≠ w
  outside : AgreeOutside p w w'
  beforePad : p + 4 ≤ realLen m + 4
  padBits : acfPadOctets w' = acfPadOctets w

/-- The change of the four octets. -/
def Burst.delta (p : Nat) (w w' : Octets) : Octets := (List.range 4).map fun i => w'.at (p + i) ^^^ w.at (p + i)

theorem Burst.delta_ne_zero {p : Nat} (hb : Burst p m w w') : Burst.delta p w w' ≠ [0, 0, 0, 0] := by
  intro hzero
  refine hb.altered (Octets.map_at_congr hb.length fun i _ => ?_)
  by_cases hout : i < p ∨ p + 4 ≤ i
  · exact hb.outside i hout
  have hmem : w'.at i ^^^ w.at i ∈ Burst.delta p w w' :=
    List.mem_map.mpr ⟨i - p, List.mem_range.mpr (by omega), by rw [show p + (i - p) = i by omega]⟩
  rw [hzero] at hmem
  exact UInt8.xor_eq_zero_iff.mp (by simpa using hmem)

/-- A burst is found, unless it runs across the border in one of the sixteen ways. -/
theorem burst_mismatch_iff {p : Nat} (hw : e2eWrap h m = some w) (hlong : 3 ≤ realLen m) (hb : Burst p m w w') :
    (e2eUnwrap h w').1 = .error .crcMismatch ↔ Burst.delta p w w' ∉ undetected (realLen m - p) := by
  have hagrees := altered_agrees_iff hw hlong hb.length
  have hzero : ∀ i, i < p ∨ p + 4 ≤ i → w'.at i ^^^ w.at i = 0 := by
    intro i hi
    rw [hb.outside i hi, UInt8.xor_self]
  have hverdict : (e2eUnwrap h w').1 = .error .crcMismatch ↔
      ¬getU32 w' (realLen m) = e2eComputeCrc h (w'.take (realLen m)) := by
    rw [e2eUnwrap_altered hw hlong hb.length hb.padBits]
    split <;> simp_all
  rw [hverdict, not_iff_not]
  have hp := hb.beforePad
  by_cases hin : p + 4 ≤ realLen m
  · -- All four octets are covered: the CRC changes and the trailer does not.
    obtain ⟨hlength, -, htrailer⟩ := e2eWrap_layout hw hlong
    have hnone : undetected (realLen m - p) = [] := by
      rw [show realLen m - p = realLen m - p - 4 + 4 by omega]
      rfl
    rw [hnone]
    refine iff_of_false ?_ List.not_mem_nil
    intro heq
    have hcut : AgreeOutside p (w.take (realLen m)) (w'.take (realLen m)) := by
      intro i hi
      by_cases hlt : i < realLen m
      · rw [Octets.at_take hlt, Octets.at_take hlt]
        exact hb.outside i hi
      · simp [Octets.at, hlt]
    have htaken : w'.take (realLen m) ≠ w.take (realLen m) := by
      intro hsame
      refine hb.altered (Octets.map_at_congr hb.length fun i _ => ?_)
      by_cases hlt : i < realLen m
      · rw [← Octets.at_take hlt, hsame, Octets.at_take hlt]
      · exact hb.outside i (Or.inr (by omega))
    refine foldl_crc32Update_ne (by simp [hb.length]) htaken hcut (h.octets.foldl crc32Update 0xFFFFFFFF) ?_
    have hgot : getU32 w' (realLen m) = getU32 w (realLen m) := by
      simp only [getU32]
      rw [hb.outside _ (Or.inr (by omega)), hb.outside _ (Or.inr (by omega)), hb.outside _ (Or.inr (by omega)),
        hb.outside _ (Or.inr (by omega))]
    rw [hgot, htrailer, e2eComputeCrc, e2eComputeCrc] at heq
    exact ((UInt32.xor_left_inj _).mp heq).symm
  -- The first of the octets are covered, the others are the trailer's.
  obtain ⟨k, hk⟩ : ∃ k, realLen m = p + k := ⟨realLen m - p, by omega⟩
  have hcovered : crcChange ((List.range (realLen m)).map fun i => w'.at i ^^^ w.at i) =
      crcChange ((List.range k).map fun i => w'.at (p + i) ^^^ w.at (p + i)) := by
    rw [hk, List.range_add, List.map_append, map_range_zero fun i hi => hzero i (Or.inl hi), crcChange_zeros_append,
      List.map_map]
    rfl
  have htrailer : ((List.range 4).map fun i => w'.at (realLen m + i) ^^^ w.at (realLen m + i)) =
      (List.range 4).map fun i => if i + k < 4 then w'.at (p + (k + i)) ^^^ w.at (p + (k + i)) else 0 := by
    refine List.map_congr_left fun i _ => ?_
    split
    · rw [hk, Nat.add_assoc]
    · exact hzero _ (Or.inr (by omega))
  have hsub : realLen m - p = k := by omega
  rw [hagrees, hcovered, htrailer, hsub]
  rcases Nat.eq_zero_or_pos k with rfl | hpos
  · -- Nothing that is covered changes.
    refine iff_of_false ?_ List.not_mem_nil
    intro heq
    refine hb.delta_ne_zero ?_
    have hfour : putU32 (crcChange ((List.range 0).map fun i => w'.at (p + i) ^^^ w.at (p + i))) = [0, 0, 0, 0] := by
      rw [List.range_zero, List.map_nil]
      decide +kernel
    rw [hfour] at heq
    rw [Burst.delta, heq]
    refine List.map_congr_left fun i hi => ?_
    rw [if_pos (show i + 0 < 4 from List.mem_range.mp hi), Nat.zero_add]
  · rw [straddle (fun i => w'.at (p + i) ^^^ w.at (p + i)) hpos (by omega)]
    exact or_iff_right hb.delta_ne_zero

/-! ### Another header -/

theorem AgreeOutside.append {q : Nat} {b b' : Octets} (hagree : AgreeOutside q b b') (hlen : b'.length = b.length)
    (a c : Octets) : AgreeOutside (a.length + q) (a ++ b ++ c) (a ++ b' ++ c) := by
  intro i hi
  rw [List.append_assoc, List.append_assoc]
  rcases Nat.lt_or_ge i a.length with ha | ha
  · rw [Octets.at_append_left ha, Octets.at_append_left ha]
  obtain ⟨j, rfl⟩ := Nat.exists_eq_add_of_le ha
  rw [Octets.at_append_right, Octets.at_append_right]
  rcases Nat.lt_or_ge j b.length with hb | hb
  · rw [Octets.at_append_left hb, Octets.at_append_left (by omega)]
    exact hagree j (by omega)
  obtain ⟨k, rfl⟩ := Nat.exists_eq_add_of_le hb
  have hk := Octets.at_append_right b' c k
  rw [hlen] at hk
  rw [Octets.at_append_right, hk]

/-- A frame is turned down under a header of which one burst of octets is different. -/
theorem header_mismatch (hw : e2eWrap h m = some w) (hlong : 3 ≤ realLen m) {h' : E2eHeader} {q : Nat}
    {a b b' c : Octets} (hh : h.octets = a ++ b ++ c) (hh' : h'.octets = a ++ b' ++ c) (hlen : b'.length = b.length)
    (hne : b' ≠ b) (hagree : AgreeOutside q b b') : (e2eUnwrap h' w).1 = .error .crcMismatch := by
  rw [e2eUnwrap_insertCrc h' (e2eWrap_eq_insertCrc h ▸ hw) hlong]
  refine if_pos fun heq => ?_
  have hwhole : ∀ (g : E2eHeader) (data : Octets), e2eComputeCrc g data =
      (g.octets ++ data).foldl crc32Update 0xFFFFFFFF ^^^ 0xFFFFFFFF := by
    intro g data
    rw [e2eComputeCrc, List.foldl_append]
  rw [hwhole, hwhole, UInt32.xor_left_inj, hh, hh', List.append_assoc _ c, List.append_assoc _ c] at heq
  refine foldl_crc32Update_ne ?_ ?_ (hagree.append hlen a (c ++ covered m)) 0xFFFFFFFF heq.symm
  · simp [hlen]
  · intro hsame
    refine hne ?_
    rw [List.append_assoc, List.append_assoc] at hsame
    exact (List.append_inj (List.append_cancel_left hsame) hlen).1

/-- For every message whose pad field stands before its trailer: a burst of four octets before the pad is found,
    unless it runs across the border in one of sixteen ways; and so is a burst in the stream id, and every change of
    the timestamp. -/
theorem crc_finds_bursts (h : E2eHeader) (m w : Octets) (hw : e2eWrap h m = some w) (hlong : 3 ≤ realLen m) :
    (∀ p w', Burst p m w w' →
      ((e2eUnwrap h w').1 = .error .crcMismatch ↔ Burst.delta p w w' ∉ undetected (realLen m - p))) ∧
    (∀ q streamId, streamId ≠ h.streamId → AgreeOutside q (putU64 h.streamId) (putU64 streamId) →
      (e2eUnwrap { h with streamId := streamId } w).1 = .error .crcMismatch) ∧
    ∀ avtpTimestamp, avtpTimestamp ≠ h.avtpTimestamp →
      (e2eUnwrap { h with avtpTimestamp := avtpTimestamp } w).1 = .error .crcMismatch := by
  refine ⟨fun p w' hb => burst_mismatch_iff hw hlong hb, fun q streamId hne hagree => ?_, fun avtpTimestamp hne => ?_⟩
  · have hoctets : putU64 streamId ≠ putU64 h.streamId := by
      intro hsame
      refine hne ?_
      rw [← getU64_putU64 streamId, hsame, getU64_putU64]
    exact header_mismatch hw hlong rfl rfl rfl hoctets hagree
  · have hoctets : putU32 avtpTimestamp ≠ putU32 h.avtpTimestamp := by
      intro hsame
      refine hne ?_
      rw [← getU32_putU32 avtpTimestamp, hsame, getU32_putU32]
    have hagree : AgreeOutside 0 (putU32 h.avtpTimestamp) (putU32 avtpTimestamp) := by
      intro i hi
      have hout : ∀ v : UInt32, (putU32 v).at i = 0 := by
        intro v
        have hi' : (putU32 v).length ≤ i := by
          rw [putU32_length]
          omega
        simp [Octets.at, List.getElem?_eq_none hi']
      rw [hout, hout]
    exact header_mismatch hw hlong (List.append_nil _).symm (List.append_nil _).symm rfl hoctets hagree

/-- The header of an NTSCF frame on the given stream. -/
def ntscfHeader (streamId : UInt64) : E2eHeader :=
  { avtpSubtype := avtpSubtypeNtscf, streamId := streamId, avtpTimestamp := 0 }

/-- A flipped bit in an empty ACF_ABB message. -/
theorem crc_finds_bursts_bit :
    e2eWrap (ntscfHeader 16) [28, 2, 0, 1, 0, 5, 0, 0] = some [28, 3, 0, 1, 0, 5, 0, 0, 247, 91, 249, 137] ∧
      (e2eUnwrap (ntscfHeader 16) [28, 3, 0, 1, 0, 4, 0, 0, 247, 91, 249, 137]).1 = .error .crcMismatch := by
  have hw : e2eWrap (ntscfHeader 16) [28, 2, 0, 1, 0, 5, 0, 0] = some [28, 3, 0, 1, 0, 5, 0, 0, 247, 91, 249, 137] := by
    decide +kernel
  refine ⟨hw, ((crc_finds_bursts _ _ _ hw (by decide)).1 2 [28, 3, 0, 1, 0, 4, 0, 0, 247, 91, 249, 137]
    ⟨rfl, by decide, ?_, by decide, by decide⟩).mpr (by decide)⟩
  rintro (_ | _ | _ | _ | _ | _ | i) hi
  all_goals first | rfl | omega

/-- Two frames with other octets than those that were sent, and with a CRC that agrees: a burst across the border,
    and one in the trailer of a message so short that the trailer takes the place of its pad field. -/
theorem undetected_bursts :
    (e2eWrap (ntscfHeader 16) [28, 2, 0, 1, 0, 5, 0, 0] = some [28, 3, 0, 1, 0, 5, 0, 0, 247, 91, 249, 137] ∧
      (e2eUnwrap (ntscfHeader 16) [28, 3, 0, 1, 0, 5, 0, 0xBA, 0x36, 0x6C, 0xBA, 137]).1 = .ok ()) ∧
    e2eWrap (ntscfHeader 4) [28, 1, 181, 194] = some [28, 2, 44, 172, 98, 173, 181, 194] ∧
      (e2eUnwrap (ntscfHeader 4) [28, 2, 0, 32, 207, 156, 181, 194]).1 = .ok () := by
  decide +kernel

end Rcp
