import Rcp.Theorems.RegisterFields
import Mathlib.Data.Nat.Bitwise

/-! What a row shows once its octets were written and parsed: the written octets in the bits it lets be set, and its
    old ones in the rest. -/

namespace Rcp
open Lib

/-! ### Octets -/

/-- A masked word is masked octet by octet. -/
theorem putU16_and (v m : UInt16) : putU16 (v &&& m) = List.zipWith (· &&& ·) (putU16 v) (putU16 m) := by
  simp only [putU16, List.zipWith_cons_cons, List.zipWith_nil_left, List.cons.injEq, and_true]
  constructor
  all_goals
    apply UInt8.toBitVec_inj.mp
    ext i hi
    simp only [UInt16.toBitVec_toUInt8, UInt8.toBitVec_and, UInt16.toBitVec_and, UInt16.toBitVec_shiftRight]
    interval_cases i <;> simp

/-- A word widened is never beyond a word. -/
theorem not_gt_word (v : UInt16) : ¬v.toUInt32 > 0xFFFF := by
  have hlt := v.toNat_lt
  rw [gt_iff_lt, UInt32.lt_iff_toNat_lt, UInt16.toNat_toUInt32]
  exact Nat.not_lt.mpr (Nat.le_of_lt_succ hlt)

theorem not_gt_octet (v : UInt8) : ¬v.toUInt16 > 0xFF := by
  have hlt := v.toNat_lt
  rw [gt_iff_lt, UInt16.lt_iff_toNat_lt, UInt8.toNat_toUInt16]
  exact Nat.not_lt.mpr (Nat.le_of_lt_succ hlt)

/-! ### Bits -/

/-- `new` in the bits of the mask, `old` in the others. -/
def settle (mask old new : UInt8) : UInt8 := (old &&& ~~~mask) ||| (new &&& mask)

section settle
variable {mask old new : UInt8}

@[simp] theorem settle_zero : settle 0 old new = old := by simp [settle]

@[simp] theorem settle_full : settle 0xFF old new = new := by
  have hmask : ~~~(0xFF : UInt8) = 0 := rfl
  have hones : (0xFF : UInt8) = -1 := rfl
  rw [settle, hmask, UInt8.and_zero, UInt8.zero_or, hones, UInt8.and_neg_one]

/-- The bits outside the mask are always shown as zeros. -/
theorem settle_of_clear (h : old &&& ~~~mask = 0) : settle mask old new = new &&& mask := by
  rw [settle, h, UInt8.zero_or]

theorem settle_congr {new' : UInt8} (h : new &&& mask = new' &&& mask) : settle mask old new = settle mask old new' := by
  rw [settle, settle, h]

theorem and_or_mask (x m m' : UInt8) : x &&& (m ||| m') = (x &&& m) ||| (x &&& m') := by
  apply UInt8.toBitVec_inj.mp
  simp only [UInt8.toBitVec_and, UInt8.toBitVec_or]
  ext i hi
  simp [Bool.and_or_distrib_left]

/-- An operation works bit by bit. -/
theorem Ep0WriteOp.apply_masked (op : Ep0WriteOp) {current current' request : UInt8}
    (h : current &&& mask = current' &&& mask) : op.apply current request &&& mask = op.apply current' request &&& mask := by
  have hbit : ∀ i : Nat, (current.toBitVec.getLsbD i && mask.toBitVec.getLsbD i) =
      (current'.toBitVec.getLsbD i && mask.toBitVec.getLsbD i) := fun i => by
    have := congrArg (fun octet : UInt8 => octet.toBitVec.getLsbD i) h
    simpa using this
  apply UInt8.toBitVec_inj.mp
  apply BitVec.eq_of_getLsbD_eq
  intro i hi
  have hi := hbit i
  cases op with
  | set => rfl
  | or =>
    simp only [apply, UInt8.toBitVec_and, UInt8.toBitVec_or, BitVec.getLsbD_and, BitVec.getLsbD_or]
    grind
  | and =>
    simp only [apply, UInt8.toBitVec_and, BitVec.getLsbD_and]
    grind
  | xor =>
    simp only [apply, UInt8.toBitVec_and, UInt8.toBitVec_xor, BitVec.getLsbD_and, BitVec.getLsbD_xor]
    grind

/-- A bit that was read on its own and is written back to its place. -/
theorem flag_bit (x n : Nat) : (if x &&& 2 ^ n ≠ 0 then 2 ^ n else 0) = x &&& 2 ^ n := by
  rw [Nat.and_two_pow]
  cases x.testBit n with
  | false => simp
  | true => simp

theorem flag_octet (x : UInt8) {m : UInt8} (n : Nat) (hm : m.toNat = 2 ^ n) :
    (if x &&& m != 0 then m else 0) = x &&& m := by
  have hset : (x &&& m != 0) = true ↔ x.toNat &&& 2 ^ n ≠ 0 := by
    rw [bne_iff_ne, ← hm, ← UInt8.toNat_and, ne_eq, ne_eq, ← UInt8.toNat_inj]
    rfl
  apply UInt8.toNat_inj.mp
  rw [apply_ite UInt8.toNat, UInt8.toNat_and, hm, ← flag_bit]
  exact if_congr hset rfl rfl

theorem flag_register (x : UInt16) {m : UInt16} (n : Nat) (hm : m.toNat = 2 ^ n) :
    (if x &&& m != 0 then m else 0) = x &&& m := by
  have hset : (x &&& m != 0) = true ↔ x.toNat &&& 2 ^ n ≠ 0 := by
    rw [bne_iff_ne, ← hm, ← UInt16.toNat_and, ne_eq, ne_eq, ← UInt16.toNat_inj]
    rfl
  apply UInt16.toNat_inj.mp
  rw [apply_ite UInt16.toNat, UInt16.toNat_and, hm, ← flag_bit]
  exact if_congr hset rfl rfl

end settle

/-! ### Rows -/

/-- What a row shows of the octets it was parsed from: each is taken over in its writable bits, or it is kept as the
    row showed it before. -/
structure Settles {ρ : Type} (c : RowCodec ρ UInt8) (shown : Nat → ρ → Octets) (mask : Nat → UInt8)
    (kept : Octets → Nat → Prop) : Prop where
  length_shown : ∀ i r, (shown i r).length = c.stride
  writable : ∀ i r, ∀ j < c.stride, Octets.at (c.render r) j &&& mask j = (shown i r).at j &&& mask j
  settled : ∀ i r (b : Octets), ∀ j < c.stride, ¬kept b j →
    (shown i (c.parse r b)).at j = settle (mask j) ((shown i r).at j) (b.at j)
  unsettled : ∀ i r (b : Octets), ∀ j < c.stride, kept b j → (shown i (c.parse r b)).at j = (shown i r).at j

/-- The image of the rows with the written octets in it, before it is parsed. -/
def imageWritten {ρ : Type} (c : RowCodec ρ UInt8) (op : Ep0WriteOp) (relative : Nat) (data : Octets) (rows : List ρ) :
    Octets := patch (c.image rows) relative (ep0CombineWriteOp op ((c.image rows).drop relative) data)

section Settles
variable {ρ : Type} {c : RowCodec ρ UInt8} {shown : Nat → ρ → Octets} {mask : Nat → UInt8}
  {kept : Octets → Nat → Prop} {op : Ep0WriteOp} {relative i j : Nat} {data : Octets} {rows : List ρ} {r : ρ}

theorem imageWritten_at (hr : rows[i]? = some r) (hj : j < c.stride)
    (hreach : Reaches relative data.length (c.stride * i + j)) :
    (imageWritten c op relative data rows).at (c.stride * i + j) =
      op.apply (Octets.at (c.render r) j) (data.at (c.stride * i + j - relative)) := by
  have hcell := c.getElem?_image hr hj
  have hlt : c.stride * i + j < (c.image rows).length := by
    have hi : i < rows.length := (List.getElem?_eq_some_iff.mp hr).1
    have hle : c.stride * (i + 1) ≤ c.stride * rows.length := Nat.mul_le_mul_left _ hi
    rw [c.length_image]
    rw [Nat.mul_succ] at hle
    omega
  have hin := hreach.1
  have hdata : c.stride * i + j - relative < data.length := by
    have := hreach.2
    omega
  rw [imageWritten, Octets.at_eq, getElem?_patch_of_reaches (by rwa [length_ep0CombineWriteOp]) hlt,
    getElem?_ep0CombineWriteOp, Octets.at_drop, Nat.add_sub_cancel' hin, List.getElem?_eq_getElem hdata,
    Octets.at_eq (c.image rows), hcell, ← Octets.at_eq, Octets.at_eq data, List.getElem?_eq_getElem hdata]
  rfl

namespace Settles
variable (h : Settles c shown mask kept)
include h

theorem imageOf_at (hr : rows[i]? = some r) (hj : j < c.stride) :
    Octets.at (imageOf shown rows) (c.stride * i + j) = (shown i r).at j := by
  rw [Octets.at_eq, getElem?_imageOf h.length_shown hr hj, ← Octets.at_eq]

theorem imageOf_rowsWritten_at (hr : rows[i]? = some r) (hj : j < c.stride) :
    Octets.at (imageOf shown (rowsWritten c op relative data rows)) (c.stride * i + j) =
      (shown i (c.parse r ((imageWritten c op relative data rows).drop (c.stride * i)))).at j :=
  h.imageOf_at (c.getElem?_write hr) hj

/-- An octet of the write, read back. -/
theorem read_written (hr : rows[i]? = some r) (hj : j < c.stride)
    (hreach : Reaches relative data.length (c.stride * i + j))
    (hkept : ¬kept ((imageWritten c op relative data rows).drop (c.stride * i)) j) :
    let old := Octets.at (imageOf shown rows) (c.stride * i + j)
    Octets.at (imageOf shown (rowsWritten c op relative data rows)) (c.stride * i + j) =
      settle (mask j) old (op.apply old (data.at (c.stride * i + j - relative))) := by
  intro old
  have hold : old = (shown i r).at j := h.imageOf_at hr hj
  rw [h.imageOf_rowsWritten_at hr hj, h.settled i r _ j hj hkept, Octets.at_drop, imageWritten_at hr hj hreach, hold]
  exact settle_congr (op.apply_masked (h.writable i r j hj))

/-- An octet whose new value has no meaning for the row, read back. -/
theorem read_kept (hr : rows[i]? = some r) (hj : j < c.stride)
    (hkept : kept ((imageWritten c op relative data rows).drop (c.stride * i)) j) :
    Octets.at (imageOf shown (rowsWritten c op relative data rows)) (c.stride * i + j) =
      Octets.at (imageOf shown rows) (c.stride * i + j) := by
  rw [h.imageOf_rowsWritten_at hr hj, h.unsettled i r _ j hj hkept, h.imageOf_at hr hj]

end Settles
end Settles

/-! ### Each table -/

/-- A table that shows what it renders: the octets parsed are shown back under the mask, and zeros outside it. -/
theorem Settles.ofParse {ρ : Type} {c : RowCodec ρ UInt8} {mask : Nat → UInt8}
    (hclear : ∀ r, ∀ j < c.stride, Octets.at (c.render r) j &&& ~~~mask j = 0)
    (hparse : ∀ r (b : Octets), ∀ j < c.stride, Octets.at (c.render (c.parse r b)) j = b.at j &&& mask j) :
    Settles c (fun _ => c.render) mask (fun _ _ => False) where
  length_shown _ := c.length_render
  writable _ _ _ _ := rfl
  settled _ r b j hj _ := by rw [hparse r b j hj, settle_of_clear (hclear r j hj)]
  unsettled _ _ _ _ _ h := h.elim

/-- Every bit of every octet is written. -/
theorem Settles.ofExact {ρ : Type} {c : RowCodec ρ UInt8}
    (hparse : ∀ r (b : Octets), ∀ j < c.stride, Octets.at (c.render (c.parse r b)) j = b.at j) :
    Settles c (fun _ => c.render) (fun _ => 0xFF) (fun _ _ => False) where
  length_shown _ := c.length_render
  writable _ _ _ _ := rfl
  settled _ r b j hj _ := by rw [hparse r b j hj, settle_full]
  unsettled _ _ _ _ _ h := h.elim

theorem hwPinMap_settles : Settles hwPinMapCodec (fun _ => hwPinMapCodec.render) (fun _ => 0xFF) (fun _ _ => False) :=
  .ofExact fun _ _ j hj => by
    change j < 3 at hj
    interval_cases j <;> rfl

theorem sequencer_settles : Settles sequencerCodec (fun _ => sequencerCodec.render) (fun _ => 0xFF) (fun _ _ => False) :=
  .ofExact fun _ _ j hj => by
    change j < 2 at hj
    interval_cases j <;> rfl

theorem responseQueue_settles :
    Settles responseQueueCodec (fun _ => responseQueueCodec.render) (fun _ => 0xFF) (fun _ _ => False) :=
  .ofExact fun r b j hj => by
    have hflush : (if (be16 b 8).toUInt32 > 0xFFFF then 0xFFFF else (be16 b 8).toUInt32.toUInt16) = be16 b 8 := by
      rw [if_neg (not_gt_word _)]
      exact UInt16.toUInt16_toUInt32 _
    have himage : responseQueueCodec.render (responseQueueCodec.parse r b) =
        putU16 (be16 b 0) ++ putU16 (be16 b 2) ++ putU16 (be16 b 4) ++ putU16 (be16 b 6) ++ putU16 (be16 b 8) := by
      change _ ++ putU16 (if (be16 b 8).toUInt32 > 0xFFFF then 0xFFFF else (be16 b 8).toUInt32.toUInt16) = _
      rw [hflush]
      rfl
    rw [himage]
    simp only [putU16_be16]
    change j < 10 at hj
    interval_cases j <;> rfl

/-! #### The identifier map -/

/-- Channel_selection, the low bits of the last octet, is always 0. -/
def epIdMapBits (j : Nat) : UInt8 := if j = 3 then 0xF0 else 0xFF

theorem bbidCtrl_parse (r : EpIdMapRow) (b : Octets) : (epIdMapCodec.parse r b).bbidCtrl = be16 b 2 &&& 0xFFF0 := by
  change ((((be16 b 2 >>> 5) &&& 0x07FF) &&& 0x07FF) <<< 5) ||| (if be16 b 2 &&& 0x10 != 0 then 0x10 else 0) = _
  rw [flag_register _ 4 rfl]
  generalize be16 b 2 = v
  apply UInt16.toBitVec_inj.mp
  simp only [UInt16.toBitVec_or, UInt16.toBitVec_and, UInt16.toBitVec_shiftLeft, UInt16.toBitVec_shiftRight]
  ext i hi
  interval_cases i <;> simp

theorem putU16_be16_masked (b : Octets) (n : Nat) :
    putU16 (be16 b n &&& 0xFFF0) = [b.at n, b.at (n + 1) &&& 0xF0] := by
  have hmask : putU16 0xFFF0 = [-1, 0xF0] := rfl
  rw [putU16_and, putU16_be16, hmask, List.zipWith_cons_cons, List.zipWith_cons_cons, List.zipWith_nil_left,
    UInt8.and_neg_one]

theorem bbidCtrl_clear (e : EpIdMapRow) : (e.bbidCtrl &&& 0xFF).toUInt8 &&& ~~~0xF0 = 0 := by
  unfold EpIdMapRow.bbidCtrl
  cases e.crcRequired
  all_goals
    apply UInt8.toBitVec_inj.mp
    ext i hi
    simp only [UInt8.toBitVec_and, UInt8.toBitVec_not, UInt16.toBitVec_toUInt8, UInt16.toBitVec_or, UInt16.toBitVec_and,
      UInt16.toBitVec_shiftLeft]
    interval_cases i <;> simp

theorem epIdMap_settles : Settles epIdMapCodec (fun _ => epIdMapCodec.render) epIdMapBits (fun _ _ => False) := by
  refine .ofParse (fun r j hj => ?_) fun r b j hj => ?_
  · change j < 4 at hj
    by_cases hlast : j = 3
    · subst hlast
      exact bbidCtrl_clear r
    · rw [epIdMapBits, if_neg hlast]
      exact UInt8.and_zero
  · have himage : epIdMapCodec.render (epIdMapCodec.parse r b) =
        [b.at 0, (b.at 1).toUInt16.toUInt8] ++ putU16 (be16 b 2 &&& 0xFFF0) := by
      rw [← bbidCtrl_parse r b]
      rfl
    rw [himage, putU16_be16_masked, UInt8.toUInt8_toUInt16]
    change j < 4 at hj
    interval_cases j
    · exact UInt8.and_neg_one.symm
    · exact UInt8.and_neg_one.symm
    · exact UInt8.and_neg_one.symm
    · rfl

/-! #### The request streams -/

/-- The flags of octet 0x0D; what follows the stream indices is reserved. -/
def requestStreamBits (j : Nat) : UInt8 := if j = 0x0D then 0x0F else if 0x12 ≤ j then 0 else 0xFF

/-- The ticks do not convert, so that the row keeps its timeout. -/
def TicksKept (msPerTick : UInt32) (b : Octets) (j : Nat) : Prop :=
  (j = 0x0A ∨ j = 0x0B) ∧ wdTimeoutTicksToMs (be16 b 0x0A) msPerTick = none

instance (msPerTick : UInt32) (b : Octets) (j : Nat) : Decidable (TicksKept msPerTick b j) :=
  inferInstanceAs (Decidable (_ ∧ _))

/-- A number of ticks that converts is shown again. -/
theorem wdTimeoutMsToTicks_of_ticksToMs {ticks : UInt16} {msPerTick ms : UInt32}
    (h : wdTimeoutTicksToMs ticks msPerTick = some ms) : wdTimeoutMsToTicks ms msPerTick = some ticks := by
  have hprod := wdTimeoutTicksToMs_product ticks msPerTick
  unfold wdTimeoutTicksToMs at h
  by_cases hms : msPerTick = 0
  · rw [if_pos hms] at h
    cases h
  rw [if_neg hms] at h
  dsimp only at h
  by_cases hbig : ticks.toUInt64 * msPerTick.toUInt64 > 0xFFFFFFFF
  · rw [if_pos hbig] at h
    cases h
  rw [if_neg hbig] at h
  obtain rfl := Option.some.inj h
  have hpos : 0 < msPerTick.toNat := Nat.pos_of_ne_zero fun h => hms (UInt32.toNat_inj.mp h)
  have hfits : ticks.toNat * msPerTick.toNat ≤ 0xFFFFFFFF := by
    rw [← hprod]
    exact UInt64.le_iff_toNat_le.mp (UInt64.not_lt.mp hbig)
  have hquot : ((ticks.toUInt64 * msPerTick.toUInt64).toUInt32 / msPerTick).toNat = ticks.toNat := by
    rw [UInt32.toNat_div, UInt64.toNat_toUInt32, hprod, Nat.mod_eq_of_lt (by omega), Nat.mul_div_cancel _ hpos]
  have hlt := ticks.toNat_lt
  unfold wdTimeoutMsToTicks
  dsimp only
  rw [if_neg hms, if_neg (by
    rw [gt_iff_lt, UInt32.lt_iff_toNat_lt, hquot]
    exact Nat.not_lt.mpr (Nat.le_of_lt_succ hlt))]
  refine congrArg some (UInt16.toNat_inj.mp ?_)
  rw [UInt32.toNat_toUInt16, hquot]
  exact Nat.mod_eq_of_lt hlt

theorem Octets.at_middle {a x c : Octets} {n k : Nat} (ha : a.length = n) (hk : k < x.length) :
    Octets.at (a ++ x ++ c) (n + k) = x.at k := by
  subst ha
  rw [Octets.at_append_left (by rw [List.length_append]; omega), Octets.at_append_right]

namespace RequestStreamRow
variable (msPerTick : UInt32) (blocked : Bool) (r : RequestStreamRow) (b : Octets)

/-- The ticks a row shows after it was parsed. -/
theorem ticks_parse :
    (wdTimeoutMsToTicks (r.parse msPerTick b).rxWdTimeoutMs msPerTick).getD 0 =
      if wdTimeoutTicksToMs (be16 b 0x0A) msPerTick = none then (wdTimeoutMsToTicks r.rxWdTimeoutMs msPerTick).getD 0
      else be16 b 0x0A := by
  change (wdTimeoutMsToTicks ((wdTimeoutTicksToMs (be16 b 0x0A) msPerTick).getD r.rxWdTimeoutMs) msPerTick).getD 0 = _
  cases hms : wdTimeoutTicksToMs (be16 b 0x0A) msPerTick with
  | none => rfl
  | some ms => rw [Option.getD_some, wdTimeoutMsToTicks_of_ticksToMs hms, Option.getD_some, if_neg (Option.some_ne_none ms)]

theorem statusOctet_live : statusOctet blocked r &&& ~~~0x0F = if blocked then 0x80 else 0 := by
  unfold statusOctet
  cases r.rxEnforceE2e <;> cases r.rxEnforceSeq && r.rxSeqSafestateEnable <;>
    cases r.rxWdEnable && r.rxWdSafestateEnable <;> cases r.rxOvrflwSafestateEnable <;> cases blocked <;> decide

theorem statusOctet_flags : statusOctet false r &&& 0x0F = statusOctet blocked r &&& 0x0F := by
  unfold statusOctet
  cases r.rxEnforceE2e <;> cases r.rxEnforceSeq && r.rxSeqSafestateEnable <;>
    cases r.rxWdEnable && r.rxWdSafestateEnable <;> cases r.rxOvrflwSafestateEnable <;> cases blocked <;> decide

/-- The flags are those of the parsed octet, the live status is not. -/
theorem statusOctet_parse :
    statusOctet blocked (r.parse msPerTick b) = settle 0x0F (statusOctet blocked r) (b.at 0x0D) := by
  generalize hbits : b.at 0x0D = bits
  have hflags : bits &&& 0x0F = (bits &&& 0x01) ||| (bits &&& 0x02) ||| (bits &&& 0x04) ||| (bits &&& 0x08) := by
    rw [← and_or_mask, ← and_or_mask, ← and_or_mask]
    rfl
  have hparsed : statusOctet blocked (r.parse msPerTick b) = (bits &&& 0x01) ||| (bits &&& 0x02) ||| (bits &&& 0x04) |||
      (bits &&& 0x08) ||| (if blocked then 0x80 else 0) := by
    rw [← flag_octet bits 0 (m := 0x01) rfl, ← flag_octet bits 1 (m := 0x02) rfl, ← flag_octet bits 2 (m := 0x04) rfl,
      ← flag_octet bits 3 (m := 0x08) rfl, ← hbits]
    simp only [statusOctet, parse, Bool.and_self]
    rfl
  rw [hparsed, ← hflags, settle, statusOctet_live, UInt8.or_comm]

theorem render_parse :
    (r.parse msPerTick b).render msPerTick blocked =
      putU64 (getU64 b 0) ++ putU16 (be16 b 0x08) ++
      putU16 (if wdTimeoutTicksToMs (be16 b 0x0A) msPerTick = none then
        (wdTimeoutMsToTicks r.rxWdTimeoutMs msPerTick).getD 0 else be16 b 0x0A) ++
      [b.at 0x0C, settle 0x0F (statusOctet blocked r) (b.at 0x0D), b.at 0x0E, b.at 0x0F, b.at 0x10, b.at 0x11,
       0, 0, 0, 0, 0, 0] := by
  have hsize : (if (be16 b 0x08).toNat > 0xFFFF then (0xFFFF : UInt16) else UInt16.ofNat (be16 b 0x08).toNat) =
      be16 b 0x08 := by
    have hlt := (be16 b 0x08).toNat_lt
    rw [if_neg (by omega), UInt16.ofNat_toNat]
  have hseq : (if (b.at 0x0E).toUInt16 > 0xFF then (0xFF : UInt8) else (b.at 0x0E).toUInt16.toUInt8) = b.at 0x0E := by
    rw [if_neg (not_gt_octet _)]
    exact UInt8.toUInt8_toUInt16 _
  rw [← ticks_parse, ← statusOctet_parse msPerTick]
  change putU64 (getU64 b 0) ++ putU16 (if (be16 b 0x08).toNat > 0xFFFF then 0xFFFF else
    UInt16.ofNat (be16 b 0x08).toNat) ++ _ ++ [_, _, if (b.at 0x0E).toUInt16 > 0xFF then 0xFF else
    (b.at 0x0E).toUInt16.toUInt8, _, _, _, _, _, _, _, _, _] = _
  rw [hsize, hseq]
  rfl

end RequestStreamRow

theorem requestStream_settles (msPerTick : UInt32) (blocked : Nat → Bool) :
    Settles (requestStreamCodec msPerTick) (fun i e => e.render msPerTick (blocked i)) requestStreamBits
      (TicksKept msPerTick) where
  length_shown _ _ := rfl
  writable i r j hj := by
    change j < 24 at hj
    by_cases hflags : j = 0x0D
    · subst hflags
      exact r.statusOctet_flags (blocked i)
    · have hsame : Octets.at (r.render msPerTick false) j = (r.render msPerTick (blocked i)).at j := by
        interval_cases j <;> first | rfl | exact absurd rfl hflags
      exact congrArg (· &&& requestStreamBits j) hsame
  settled i r b j hj hkept := by
    change j < 24 at hj
    change Octets.at ((r.parse msPerTick b).render msPerTick (blocked i)) j = _
    rw [r.render_parse, putU64_getU64, putU16_be16]
    by_cases hflags : j = 0x0D
    · subst hflags
      rfl
    by_cases hreserved : 0x12 ≤ j
    · have hbits : requestStreamBits j = 0 := by rw [requestStreamBits, if_neg hflags, if_pos hreserved]
      rw [hbits, settle_zero]
      interval_cases j <;> rfl
    have hbits : requestStreamBits j = 0xFF := by rw [requestStreamBits, if_neg hflags, if_neg hreserved]
    rw [hbits, settle_full]
    by_cases hticks : j = 0x0A ∨ j = 0x0B
    · rw [if_neg fun hnone => hkept ⟨hticks, hnone⟩, putU16_be16]
      rcases hticks with rfl | rfl <;> rfl
    · rw [not_or] at hticks
      interval_cases j <;> first | rfl | exact absurd rfl hflags | exact absurd rfl hticks.1 | exact absurd rfl hticks.2
  unsettled i r b j hj hkept := by
    change Octets.at ((r.parse msPerTick b).render msPerTick (blocked i)) j = _
    rw [r.render_parse, if_pos hkept.2]
    have hticks {a c : Octets} (ha : a.length = 0x0A) (k : Nat) (hk : k < 2) :
        Octets.at (a ++ putU16 ((wdTimeoutMsToTicks r.rxWdTimeoutMs msPerTick).getD 0) ++ c) (0x0A + k) =
          (putU16 ((wdTimeoutMsToTicks r.rxWdTimeoutMs msPerTick).getD 0)).at k := Octets.at_middle ha hk
    rcases hkept.1 with rfl | rfl
    · exact (hticks rfl 0 Nat.two_pos).trans (hticks rfl 0 Nat.two_pos).symm
    · exact (hticks rfl 1 Nat.one_lt_two).trans (hticks rfl 1 Nat.one_lt_two).symm

end Rcp
