import Rcp.IseledBitframe
import Rcp.Lib.Lfsr

/-! The bit framing is read back, and what is changed on the way is found: a flipped bit of a symbol by its parity, a burst of
    eight bits that leaves the symbols valid by the CRC. -/

namespace Rcp
open Lib

/-! ### Symbols -/

/-- The loop has counted the bits that are set. -/
theorem popcount4_eq (n : UInt8) :
    (popcount4 n).toNat = ((List.range 4).filter fun i => n.toBitVec.getLsbD i).length := by
  have h : ∀ x : BitVec 8, (popcount4 (UInt8.ofBitVec x)).toNat = ((List.range 4).filter fun i => x.getLsbD i).length := by
    decide +kernel
  exact h n.toBitVec

/-- The octet whose lower half this is. -/
def lowNibble (x : BitVec 4) : UInt8 := UInt8.ofBitVec (x.setWidth 8)

/-- Only the lower half of an octet counts. -/
theorem and_low (nibble : UInt8) : nibble &&& 0x0F = lowNibble (nibble.toBitVec.setWidth 4) &&& 0x0F := by
  apply UInt8.toBitVec_inj.mp
  apply BitVec.eq_of_getLsbD_eq
  intro i hi
  have hmask : i < 4 ∨ (0x0F#8).getLsbD i = false := by
    revert i
    decide
  rw [lowNibble, UInt8.toBitVec_and, UInt8.toBitVec_and, BitVec.getLsbD_and, BitVec.getLsbD_and]
  obtain hlow | hclear := hmask
  · simp only [BitVec.getLsbD_setWidth, hi, hlow, decide_true, Bool.true_and]
  · rw [show (UInt8.toBitVec 0x0F).getLsbD i = false from hclear, Bool.and_false, Bool.and_false]

theorem iseledSymbolEncode_low (nibble : UInt8) :
    iseledSymbolEncode nibble = iseledSymbolEncode (lowNibble (nibble.toBitVec.setWidth 4)) := by
  rw [iseledSymbolEncode, iseledSymbolEncode, and_low]

theorem iseledSymbolDecode_encode (nibble : UInt8) :
    iseledSymbolDecode (iseledSymbolEncode nibble) = some (nibble &&& 0x0F) := by
  have h : ∀ x : BitVec 4, iseledSymbolDecode (iseledSymbolEncode (lowNibble x)) = some (lowNibble x &&& 0x0F) := by
    decide +kernel
  rw [iseledSymbolEncode_low, and_low]
  exact h _

/-- A symbol with one of its five bits flipped. -/
def Flipped (symbol symbol' : UInt8) : Prop := ∃ k < 5, symbol' = symbol ^^^ (1 <<< UInt8.ofNat k)

theorem iseledSymbolDecode_flipped {nibble symbol' : UInt8} (h : Flipped (iseledSymbolEncode nibble) symbol') :
    iseledSymbolDecode symbol' = none := by
  have hall : ∀ x : BitVec 4, ∀ k < 5,
      iseledSymbolDecode (iseledSymbolEncode (lowNibble x) ^^^ (1 <<< UInt8.ofNat k)) = none := by
    decide +kernel
  obtain ⟨k, hk, rfl⟩ := h
  rw [iseledSymbolEncode_low]
  exact hall _ k hk

theorem nibbles (octet : UInt8) :
    ((octet >>> 4) &&& 0x0F) <<< 4 ||| ((octet &&& 0x0F) &&& 0x0F) = octet := by
  have h : ∀ x : BitVec 8, ((UInt8.ofBitVec x >>> 4) &&& 0x0F) <<< 4 ||| ((UInt8.ofBitVec x &&& 0x0F) &&& 0x0F) =
      UInt8.ofBitVec x := by
    decide +kernel
  exact h octet.toBitVec

/-! ### Frames -/

theorem iseledEncodeSymbols_cons (octet : UInt8) (content : Octets) :
    iseledEncodeSymbols (octet :: content) =
      iseledSymbolEncode (octet >>> 4) :: iseledSymbolEncode (octet &&& 0x0F) :: iseledEncodeSymbols content := rfl

theorem iseledEncodeSymbols_length (content : Octets) : (iseledEncodeSymbols content).length = 2 * content.length := by
  induction content with
  | nil => rfl
  | cons octet content ih =>
    rw [iseledEncodeSymbols_cons, List.length_cons, List.length_cons, ih, List.length_cons]
    omega

theorem iseledDecodeSymbols_encode (content : Octets) : iseledDecodeSymbols (iseledEncodeSymbols content) = some content := by
  induction content with
  | nil => rfl
  | cons octet content ih =>
    rw [iseledEncodeSymbols_cons, iseledDecodeSymbols, iseledSymbolDecode_encode, iseledSymbolDecode_encode, ih]
    exact congrArg some (congrArg (· :: content) (nibbles octet))

theorem iseledDecodeSymbols_length {symbols bytes : Octets} (h : iseledDecodeSymbols symbols = some bytes) :
    bytes.length = symbols.length / 2 := by
  induction symbols using iseledDecodeSymbols.induct generalizing bytes with
  | case1 hi lo symbols ih =>
    simp only [iseledDecodeSymbols, Option.bind_eq_bind, Option.bind_eq_some_iff, Option.pure_def,
      Option.some.injEq] at h
    obtain ⟨hi', -, lo', -, bytes', hbytes, rfl⟩ := h
    have := ih hbytes
    simp only [List.length_cons]
    omega
  | case2 symbols hshort =>
    rw [iseledDecodeSymbols] at h
    · cases h
      rcases symbols with _ | ⟨hi, _ | ⟨lo, rest⟩⟩
      · rfl
      · simp
      · exact absurd rfl (hshort hi lo rest)
    · exact hshort

/-- A symbol that is as it was sent, or has a bit flipped. -/
def Disturbed (symbol symbol' : UInt8) : Prop := symbol' = symbol ∨ Flipped symbol symbol'

theorem iseledDecodeSymbols_disturbed {content symbols' : Octets}
    (h : List.Forall₂ Disturbed (iseledEncodeSymbols content) symbols') (hne : symbols' ≠ iseledEncodeSymbols content) :
    iseledDecodeSymbols symbols' = none := by
  induction content generalizing symbols' with
  | nil =>
    rw [List.forall₂_nil_left_iff.mp h] at hne
    exact absurd rfl hne
  | cons octet content ih =>
    rw [iseledEncodeSymbols_cons] at h hne
    obtain ⟨hi', rest, hhi, hrest, rfl⟩ := List.forall₂_cons_left_iff.mp h
    obtain ⟨lo', symbols', hlo, hsymbols, rfl⟩ := List.forall₂_cons_left_iff.mp hrest
    rw [iseledDecodeSymbols]
    rcases hhi with rfl | hhi
    · rcases hlo with rfl | hlo
      · -- The flip is further on.
        have hne' : symbols' ≠ iseledEncodeSymbols content := fun heq => hne (by rw [heq])
        rw [iseledSymbolDecode_encode, iseledSymbolDecode_encode, ih hsymbols hne']
        rfl
      · rw [iseledSymbolDecode_encode, iseledSymbolDecode_flipped hlo]
        rfl
    · rw [iseledSymbolDecode_flipped hhi]
      rfl

/-! ### The CRC as a shift register -/

/-- The polynomial of `crc8_update` with the bits of an octet in the order in which they go in. -/
def crc8Poly : BitVec 8 := 0xE0#8

theorem crc8Poly_msb : crc8Poly.msb = true := by decide

/-- The bits of an octet in the order in which they go in, the most significant first. -/
def octetBits (x : UInt8) : List Bool := (List.range 8).map fun i => x.toBitVec.getLsbD (7 - i)

def bitsOf (b : Octets) : List Bool := b.flatMap octetBits

/-- A bit as a symbol of the register. -/
def bitSymbol (bit : Bool) : BitVec 8 := if bit then 1 else 0

theorem fits_bitSymbol (bit : Bool) : Lfsr.Fits 1 (bitSymbol bit) := by
  intro i hi
  cases bit with
  | false => simp [bitSymbol]
  | true =>
    have hne : ¬ i = 0 := by omega
    simp [bitSymbol, hne]

theorem bitSymbol_xor (a b : Bool) : bitSymbol a ^^^ bitSymbol b = bitSymbol (a ^^ b) := by
  cases a <;> cases b <;> decide

theorem bitSymbol_eq_zero {bit : Bool} (h : bitSymbol bit = 0) : bit = false := by
  cases bit with
  | false => rfl
  | true => exact absurd h (by decide)

theorem pack_octetBits (x : UInt8) : Lfsr.pack 1 ((octetBits x).map bitSymbol) = x.toBitVec.reverse := by
  have h : ∀ v : BitVec 8, Lfsr.pack 1 ((octetBits (UInt8.ofBitVec v)).map bitSymbol) = v.reverse := by decide +kernel
  exact h x.toBitVec

theorem crc8Shift_reverse (c : UInt8) : (crc8Shift c).toBitVec.reverse = Lfsr.shift crc8Poly c.toBitVec.reverse := by
  have h : ∀ v : BitVec 8, (crc8Shift (UInt8.ofBitVec v)).toBitVec.reverse = Lfsr.shift crc8Poly v.reverse := by
    decide +kernel
  exact h c.toBitVec

/-- The register after bits. -/
def crcBits (c : BitVec 8) (bits : List Bool) : BitVec 8 := (bits.map bitSymbol).foldl (Lfsr.feed crc8Poly 1) c

theorem iterate_crc8Shift_reverse (k : Nat) (c : UInt8) :
    (crc8Shift^[k] c).toBitVec.reverse = (Lfsr.shift crc8Poly)^[k] c.toBitVec.reverse := by
  induction k generalizing c with
  | zero => rfl
  | succ k ih => rw [Function.iterate_succ_apply, ih, crc8Shift_reverse, Function.iterate_succ_apply]

theorem crc8Update_shift (c b : UInt8) :
    (crc8Update c b).toBitVec.reverse = (Lfsr.shift crc8Poly)^[8] (c ^^^ b).toBitVec.reverse := by
  rw [crc8Update, List.foldl_const, iterate_crc8Shift_reverse]
  rfl

theorem crc8Update_reverse (c b : UInt8) :
    (crc8Update c b).toBitVec.reverse = crcBits c.toBitVec.reverse (octetBits b) := by
  have hfits : ∀ x ∈ (octetBits b).map bitSymbol, Lfsr.Fits 1 x := by
    intro x hx
    obtain ⟨bit, -, rfl⟩ := List.mem_map.mp hx
    exact fits_bitSymbol bit
  have hlen : ((octetBits b).map bitSymbol).length = 8 := rfl
  rw [crcBits, Lfsr.foldl_feed_eq hfits (by omega), hlen, pack_octetBits, ← Lfsr.reverse_xor, crc8Update_shift,
    UInt8.toBitVec_xor]

theorem foldl_crc8Update_reverse (data : Octets) (c : UInt8) :
    (data.foldl crc8Update c).toBitVec.reverse = crcBits c.toBitVec.reverse (bitsOf data) := by
  induction data generalizing c with
  | nil => rfl
  | cons b data ih =>
    rw [List.foldl_cons, ih, crc8Update_reverse, crcBits, crcBits, crcBits, ← List.foldl_append, ← List.map_append]
    rfl

theorem reverse_eq_zero {x : UInt8} : x.toBitVec.reverse = 0 ↔ x = 0 := by
  have h : x.toBitVec.reverse = 0#8 ↔ x.toBitVec = 0#8 := BitVec.reverse_eq_zero_iff
  exact h.trans UInt8.toBitVec_inj

/-- An octet takes the register to zero exactly where it is what the register holds. -/
theorem crc8Update_eq_zero {c b : UInt8} : crc8Update c b = 0 ↔ b = c := by
  constructor
  · intro h
    have hshift : (Lfsr.shift crc8Poly)^[8] (c ^^^ b).toBitVec.reverse = 0 := by
      rw [← crc8Update_shift, h]
      rfl
    have hxor : c ^^^ b = 0 := reverse_eq_zero.mp (Lfsr.iterate_shift_eq_zero (by decide) hshift)
    exact (UInt8.xor_eq_zero_iff.mp hxor).symm
  · rintro rfl
    rw [crc8Update, UInt8.xor_self]
    decide

theorem iseledCrc8_concat (data : Octets) (c : UInt8) : iseledCrc8 (data ++ [c]) = 0 ↔ c = iseledCrc8 data := by
  rw [iseledCrc8, List.foldl_append, List.foldl_cons, List.foldl_nil]
  exact crc8Update_eq_zero

/-! ### Bursts -/

theorem octetBits_injective {x y : UInt8} (h : octetBits x = octetBits y) : x = y := by
  have hreverse := congrArg (fun bits => Lfsr.pack 1 (bits.map bitSymbol)) h
  simp only [pack_octetBits] at hreverse
  have hbits := congrArg BitVec.reverse hreverse
  rw [BitVec.reverse_reverse_eq, BitVec.reverse_reverse_eq] at hbits
  exact UInt8.toBitVec_inj.mp hbits

theorem bitsOf_length (b : Octets) : (bitsOf b).length = 8 * b.length := by
  induction b with
  | nil => rfl
  | cons x b ih =>
    rw [bitsOf, List.flatMap_cons, List.length_append, ← bitsOf, ih, List.length_cons]
    change 8 + 8 * b.length = _
    omega

theorem bitsOf_injective {b b' : Octets} (hlen : b.length = b'.length) (h : bitsOf b = bitsOf b') : b = b' := by
  induction b generalizing b' with
  | nil => exact (List.length_eq_zero_iff.mp hlen.symm).symm
  | cons x b ih =>
    cases b' with
    | nil => cases hlen
    | cons y b' =>
      obtain ⟨hx, hrest⟩ := List.append_inj h rfl
      rw [octetBits_injective hx, ih (Nat.succ.inj hlen) hrest]

/-- The octets differ in their bits from `p` on, eight of them at most. -/
def AgreeOutsideBits (p : Nat) (b b' : Octets) : Prop := ∀ i, i < p ∨ p + 8 ≤ i → (bitsOf b')[i]? = (bitsOf b)[i]?

/-- Where the bits of two strings differ. -/
def errors (bits bits' : List Bool) : List Bool := (bits.zip bits').map fun q => q.1 ^^ q.2

theorem crcBits_xor {bits bits' : List Bool} (hlen : bits.length = bits'.length) :
    crcBits 0 bits ^^^ crcBits 0 bits' = crcBits 0 (errors bits bits') := by
  have h := @Lfsr.foldl_feed_xor 8 1 crc8Poly _ (bits.zip bits') (fun q => bitSymbol q.1) (fun q => bitSymbol q.2) 0 0
  have hfst : (bits.zip bits').map (fun q => bitSymbol q.1) = bits.map bitSymbol := by
    conv_rhs => rw [← List.map_fst_zip (Nat.le_of_eq hlen), List.map_map]
    rfl
  have hsnd : (bits.zip bits').map (fun q => bitSymbol q.2) = bits'.map bitSymbol := by
    conv_rhs => rw [← List.map_snd_zip (Nat.le_of_eq hlen.symm), List.map_map]
    rfl
  have hxor : (bits.zip bits').map (fun q => bitSymbol q.1 ^^^ bitSymbol q.2) = (errors bits bits').map bitSymbol := by
    rw [errors, List.map_map]
    exact List.map_congr_left fun q _ => bitSymbol_xor q.1 q.2
  rw [hfst, hsnd, hxor, BitVec.xor_self] at h
  exact h.symm

theorem eq_of_errors {bits bits' : List Bool} (hlen : bits.length = bits'.length)
    (h : ∀ e ∈ errors bits bits', e = false) : bits = bits' := by
  induction bits generalizing bits' with
  | nil => exact (List.length_eq_zero_iff.mp hlen.symm).symm
  | cons b bits ih =>
    cases bits' with
    | nil => cases hlen
    | cons b' bits' =>
      have hhead := h (b ^^ b') List.mem_cons_self
      have htail := ih (Nat.succ.inj hlen) fun e he => h e (List.mem_cons_of_mem _ he)
      rw [htail, bne_eq_false_iff_eq.mp hhead]

/-- A list that holds one value outside of a window is the window between copies of it. -/
theorem eq_window {α : Type} {l : List α} {x : α} {p k : Nat}
    (h : ∀ i, i < p ∨ p + k ≤ i → ∀ y, l[i]? = some y → y = x) :
    ∃ i window j, window.length ≤ k ∧ l = List.replicate i x ++ window ++ List.replicate j x := by
  have hbefore : l.take p = List.replicate (l.take p).length x := by
    refine List.eq_replicate_length.mpr fun y hy => ?_
    obtain ⟨i, hi⟩ := List.mem_iff_getElem?.mp hy
    rw [List.getElem?_take] at hi
    split at hi
    · rename_i hip
      exact h i (Or.inl hip) y hi
    · cases hi
  have hbehind : (l.drop p).drop k = List.replicate ((l.drop p).drop k).length x := by
    refine List.eq_replicate_length.mpr fun y hy => ?_
    obtain ⟨i, hi⟩ := List.mem_iff_getElem?.mp hy
    rw [List.drop_drop, List.getElem?_drop] at hi
    exact h (p + k + i) (Or.inr (Nat.le_add_right _ _)) y hi
  refine ⟨(l.take p).length, (l.drop p).take k, ((l.drop p).drop k).length, List.length_take_le _ _, ?_⟩
  rw [← hbefore, ← hbehind, List.append_assoc, List.take_append_drop, List.take_append_drop]

/-- Errors within eight bits are a burst between bits that are right. -/
theorem errors_eq_burst {bits bits' : List Bool} {p : Nat} (h : ∀ i, i < p ∨ p + 8 ≤ i → bits'[i]? = bits[i]?) :
    ∃ i burst j, burst.length ≤ 8 ∧ errors bits bits' = List.replicate i false ++ burst ++ List.replicate j false := by
  refine eq_window (p := p) fun i hi e he => ?_
  rw [errors, List.getElem?_map, Option.map_eq_some_iff] at he
  obtain ⟨q, hq, rfl⟩ := he
  obtain ⟨hfst, hsnd⟩ := List.getElem?_zip_eq_some.mp hq
  have heq : q.2 = q.1 := Option.some.inj (hsnd.symm.trans ((h i hi).trans hfst))
  rw [heq, Bool.xor_self]

/-- A burst of eight bits changes the CRC of a string of any length. -/
theorem iseledCrc8_burst {b b' : Octets} (hlen : b'.length = b.length) (hne : b' ≠ b) {p : Nat}
    (hagree : AgreeOutsideBits p b b') : iseledCrc8 b' ≠ iseledCrc8 b := by
  intro heq
  have hbits : (bitsOf b).length = (bitsOf b').length := by rw [bitsOf_length, bitsOf_length, hlen]
  have hcrc : crcBits 0 (errors (bitsOf b) (bitsOf b')) = 0 := by
    have hb := foldl_crc8Update_reverse b 0
    have hb' := foldl_crc8Update_reverse b' 0
    rw [← iseledCrc8] at hb hb'
    have hzero : (0 : UInt8).toBitVec.reverse = 0 := by decide
    rw [hzero] at hb hb'
    rw [← crcBits_xor hbits, ← hb, ← hb', heq, BitVec.xor_self]
    rfl
  obtain ⟨i, burst, j, hburst, herrors⟩ := errors_eq_burst hagree
  have hfits : ∀ x ∈ burst.map bitSymbol, Lfsr.Fits 1 x := by
    intro x hx
    obtain ⟨bit, -, rfl⟩ := List.mem_map.mp hx
    exact fits_bitSymbol bit
  have hclear : ∀ e ∈ burst, e = false := by
    rw [herrors, crcBits, List.map_append, List.map_append, List.map_replicate, List.map_replicate] at hcrc
    intro e he
    exact bitSymbol_eq_zero (Lfsr.eq_zero_of_burst crc8Poly_msb hfits (by rw [List.length_map]; omega) hcrc _
      (List.mem_map_of_mem he))
  refine hne (bitsOf_injective hlen (eq_of_errors hbits fun e he => ?_).symm)
  rw [herrors, List.mem_append, List.mem_append] at he
  rcases he with (he | he) | he
  · exact List.eq_of_mem_replicate he
  · exact hclear e he
  · exact List.eq_of_mem_replicate he

/-! ### The decoder -/

theorem iseledDecodeBitframe_bad {symbols : Octets} {expectCrc : Bool} (heven : symbols.length % 2 = 0)
    (hpos : 0 < symbols.length) (h : iseledDecodeSymbols symbols = none) :
    iseledDecodeBitframe symbols expectCrc = .error .badSymbol := by
  have hcount : ¬ symbols.length / 2 = 0 := by omega
  simp [iseledDecodeBitframe, heven, hcount, h]

theorem iseledDecodeBitframe_plain {symbols bytes : Octets} (heven : symbols.length % 2 = 0)
    (h : iseledDecodeSymbols symbols = some bytes) : iseledDecodeBitframe symbols false = .ok bytes := by
  simp [iseledDecodeBitframe, heven, h]

/-- With a CRC the octets are accepted exactly where the register is at zero behind them. -/
theorem iseledDecodeBitframe_crc {symbols data : Octets} {c : UInt8} (heven : symbols.length % 2 = 0)
    (h : iseledDecodeSymbols symbols = some (data ++ [c])) :
    iseledDecodeBitframe symbols true = if iseledCrc8 (data ++ [c]) = 0 then .ok data else .error .crcMismatch := by
  have hlen := iseledDecodeSymbols_length h
  rw [List.length_append, List.length_singleton] at hlen
  have hlast : (data ++ [c]).at data.length = c := by simp [Octets.at]
  have htake : (data ++ [c]).take data.length = data := List.take_left
  rw [iseledDecodeBitframe, if_neg (not_not_intro heven)]
  simp only [h, ← hlen, Nat.add_sub_cancel, hlast, htake, iseledCrc8_concat]
  simp only [Nat.add_one_ne_zero, decide_false, Bool.and_false, Bool.false_eq_true, if_false, if_true, ne_eq, ite_not]

/-- A frame is read back; with bits flipped, one of a symbol, it is rejected for a bad symbol; and of the frames with a CRC
    that are valid symbol by symbol, those whose octets differ from the sent ones within eight bits are rejected for it. -/
theorem bitframes_exact (data : Octets) (crc : Bool) :
    iseledDecodeBitframe (iseledEncodeBitframe data crc) crc = .ok data ∧
    (∀ symbols', List.Forall₂ Disturbed (iseledEncodeBitframe data crc) symbols' →
      symbols' ≠ iseledEncodeBitframe data crc → iseledDecodeBitframe symbols' crc = .error .badSymbol) ∧
    ∀ symbols' bytes' p, symbols'.length = (iseledEncodeBitframe data true).length →
      iseledDecodeSymbols symbols' = some bytes' → bytes' ≠ data ++ [iseledCrc8 data] →
      AgreeOutsideBits p (data ++ [iseledCrc8 data]) bytes' →
      iseledDecodeBitframe symbols' true = .error .crcMismatch := by
  have heven : ∀ content : Octets, (iseledEncodeSymbols content).length % 2 = 0 := fun content => by
    rw [iseledEncodeSymbols_length, Nat.mul_mod_right]
  refine ⟨?_, fun symbols' hsymbols hne => ?_, fun symbols' bytes' p hlen hbytes hne hagree => ?_⟩
  · rw [iseledEncodeBitframe]
    cases crc with
    | false => exact iseledDecodeBitframe_plain (heven data) (iseledDecodeSymbols_encode data)
    | true =>
      have hzero := (iseledCrc8_concat data (iseledCrc8 data)).mpr rfl
      exact (iseledDecodeBitframe_crc (heven _) (iseledDecodeSymbols_encode _)).trans (if_pos hzero)
  · rw [iseledEncodeBitframe] at hsymbols hne
    have hlen := hsymbols.length_eq
    have hbad := iseledDecodeSymbols_disturbed hsymbols hne
    have hpos : 0 < symbols'.length := by
      rw [List.length_pos_iff]
      rintro rfl
      exact absurd hbad (by decide)
    exact iseledDecodeBitframe_bad (hlen ▸ heven _) hpos hbad
  · rw [iseledEncodeBitframe, if_pos rfl] at hlen
    have hsent : bytes'.length = (data ++ [iseledCrc8 data]).length := by
      have := iseledDecodeSymbols_length hbytes
      rw [iseledEncodeSymbols_length] at hlen
      omega
    obtain ⟨received, c, rfl⟩ : ∃ received c, bytes' = received ++ [c] := by
      rcases List.eq_nil_or_concat bytes' with rfl | ⟨received, c, rfl⟩
      · simp at hsent
      · exact ⟨received, c, List.concat_eq_append⟩
    have hburst := iseledCrc8_burst hsent hne hagree
    rw [(iseledCrc8_concat data (iseledCrc8 data)).mpr rfl] at hburst
    rw [iseledDecodeBitframe_crc (hlen ▸ heven _) hbytes, if_neg hburst]

end Rcp
