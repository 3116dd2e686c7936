import Rcp.Theorems.ReadBack

/-! What the endpoint configuration shows after a write, which is applied to it field by field. -/

namespace Rcp
open Lib

/-- Offset and width of the field that octet `j` of a row belongs to. -/
def epGenericField (j : Nat) : Nat × Nat :=
  if j < 2 then (j, 1) else if j < 4 then (2, 2) else if j < 8 then (4, 4) else if j < 10 then (8, 2) else (10, 2)

/-- The write has only a part of the field that the octet at `k` belongs to. -/
def FieldCut (relative dataLen k : Nat) : Prop :=
  let field := epGenericField (k % 12)
  let first := k / 12 * 12 + field.1
  ¬(relative ≤ first ∧ first + field.2 ≤ relative + dataLen)

instance (relative dataLen k : Nat) : Decidable (FieldCut relative dataLen k) := inferInstanceAs (Decidable (¬_))

/-- ep_type is read-only, as is the ep_used of EP0; ep_used and ep_delay_time share an octet with reserved bits. -/
def epGenericBits (k : Nat) : UInt8 :=
  if k % 12 = 0 then 0 else if k = 1 then 0x30 else if k % 12 = 1 then 0x31 else 0xFF

theorem epDelayTime_readBack (reg : UInt8) : epDelayTimeUsToReg (epDelayTimeRegToUs reg) = some (reg &&& 0x3) := by
  have hle : (reg &&& 0x3).toNat ≤ 3 := by
    rw [UInt8.toNat_and]
    exact Nat.and_le_right
  unfold epDelayTimeRegToUs
  generalize reg &&& 0x3 = delay at hle ⊢
  obtain ⟨⟨n, hn⟩⟩ := delay
  change n ≤ 3 at hle
  interval_cases n <;> rfl

theorem reqStorageWords_readBack (words : UInt16) :
    epReqStorageSizeOctetsToWords (epReqStorageSizeWordsToOctets words) = some words := by
  have hlt := words.toNat_lt
  have hoctets : (words.toUInt32 * 4).toNat = words.toNat * 4 := by
    rw [UInt32.toNat_mul, UInt16.toNat_toUInt32]
    exact Nat.mod_eq_of_lt (show words.toNat * 4 < 2 ^ 32 by omega)
  have hwords : words.toUInt32 * 4 / 4 = words.toUInt32 := by
    apply UInt32.toNat_inj.mp
    rw [UInt32.toNat_div, hoctets, UInt16.toNat_toUInt32]
    exact Nat.mul_div_cancel _ (by decide)
  have hrem : words.toUInt32 * 4 % 4 = 0 := by
    apply UInt32.toNat_inj.mp
    rw [UInt32.toNat_mod, hoctets]
    exact Nat.mul_mod_left _ _
  unfold epReqStorageSizeOctetsToWords epReqStorageSizeWordsToOctets
  dsimp only
  rw [hrem, if_neg (by simp), hwords, if_neg (not_gt_word words)]
  exact congrArg some (UInt16.toUInt16_toUInt32 _)

namespace EpGenericCfg

/-- The octet that ep_used and ep_delay_time share. -/
def usedOctet (e : EpGenericCfg) : UInt8 :=
  (if e.epUsed then (0x01 : UInt8) else 0) ||| ((((epDelayTimeUsToReg e.epDelayTime).getD 0) &&& 0x3) <<< 4)

theorem usedOctet_bits (e : EpGenericCfg) :
    e.usedOctet &&& ~~~0x31 = 0 ∧ (e.usedOctet &&& ~~~0x30) ||| 0x01 = 0x01 := by
  unfold usedOctet
  generalize (epDelayTimeUsToReg e.epDelayTime).getD 0 = reg
  cases e.epUsed
  all_goals
    constructor
    all_goals
      apply UInt8.toBitVec_inj.mp
      ext i hi
      simp only [UInt8.toBitVec_and, UInt8.toBitVec_or, UInt8.toBitVec_not, UInt8.toBitVec_shiftLeft]
      interval_cases i <;> simp

theorem delay_octet (octet : UInt8) : (((octet >>> 4) &&& 0x3 &&& 0x3) &&& 0x3) <<< 4 = octet &&& 0x30 := by
  apply UInt8.toBitVec_inj.mp
  ext i hi
  simp only [UInt8.toBitVec_and, UInt8.toBitVec_shiftLeft, UInt8.toBitVec_shiftRight]
  interval_cases i <;> simp

section applyRow
variable (start : Nat) (data : Octets) (i : Nat) (e : EpGenericCfg)

/-- The write has the whole field of row `i`. -/
abbrev Whole (start dataLen i offset width : Nat) : Prop :=
  start ≤ i * 12 + offset ∧ i * 12 + offset + width ≤ start + dataLen

theorem render_eq :
    e.render = [e.epType, e.usedOctet] ++ putU16 e.reqStorageWords ++ putU32 e.epDescription ++
      putU16 e.epTxBufferSize ++ putU16 e.epRxBufferSize := rfl

theorem usedOctet_applyRow :
    (e.applyRow start data i).usedOctet =
      if Whole start data.length i 1 1 then
        let octet1 := data.at (i * 12 + 1 - start)
        if i = 0 then 0x01 ||| (octet1 &&& 0x30) else octet1 &&& 0x31
      else e.usedOctet := by
  by_cases hwhole : Whole start data.length i 1 1
  · rw [if_pos hwhole]
    generalize hoctet : data.at (i * 12 + 1 - start) = octet1
    have hdelay : (e.applyRow start data i).epDelayTime = epDelayTimeRegToUs ((octet1 >>> 4) &&& 0x3) := by
      rw [← hoctet]
      exact if_pos hwhole
    have hused : (e.applyRow start data i).epUsed = if i = 0 then true else octet1 &&& 0x01 != 0 := by
      rw [← hoctet]
      exact if_pos hwhole
    rw [usedOctet, hdelay, epDelayTime_readBack, Option.getD_some, delay_octet, hused]
    by_cases hzero : i = 0
    · rw [if_pos hzero, if_pos hzero]
      rfl
    · rw [if_neg hzero, if_neg hzero, flag_octet octet1 0 rfl, ← and_or_mask]
      rfl
  · have hdelay : (e.applyRow start data i).epDelayTime = e.epDelayTime := if_neg hwhole
    have hused : (e.applyRow start data i).epUsed = e.epUsed := if_neg hwhole
    rw [if_neg hwhole, usedOctet, hdelay, hused, usedOctet]

theorem reqStorageWords_applyRow :
    (e.applyRow start data i).reqStorageWords =
      if Whole start data.length i 2 2 then be16 data (i * 12 + 2 - start) else e.reqStorageWords := by
  by_cases hwhole : Whole start data.length i 2 2
  · have hsize : (e.applyRow start data i).epReqStorageSize =
        epReqStorageSizeWordsToOctets (be16 data (i * 12 + 2 - start)) := if_pos hwhole
    rw [if_pos hwhole, reqStorageWords, hsize, reqStorageWords_readBack]
  · have hsize : (e.applyRow start data i).epReqStorageSize = e.epReqStorageSize := if_neg hwhole
    rw [if_neg hwhole, reqStorageWords, hsize, reqStorageWords]

theorem ite_putU16 {c : Prop} [Decidable c] (a b : UInt8) (v : UInt16) :
    (if c then [a, b] else putU16 v) = [if c then a else (putU16 v).at 0, if c then b else (putU16 v).at 1] := by
  split <;> rfl

theorem ite_putU32 {c : Prop} [Decidable c] (a b b' b'' : UInt8) (v : UInt32) :
    (if c then [a, b, b', b''] else putU32 v) =
      [if c then a else (putU32 v).at 0, if c then b else (putU32 v).at 1, if c then b' else (putU32 v).at 2,
       if c then b'' else (putU32 v).at 3] := by
  split <;> rfl

/-- The octets of a field are taken over where the write has the whole field. -/
theorem render_applyRow :
    (e.applyRow start data i).render =
      let cell (offset width k : Nat) : UInt8 :=
        if Whole start data.length i offset width then data.at (i * 12 + offset - start + k) else e.render.at (offset + k)
      [e.epType, (e.applyRow start data i).usedOctet, cell 2 2 0, cell 2 2 1, cell 4 4 0, cell 4 4 1, cell 4 4 2,
       cell 4 4 3, cell 8 2 0, cell 8 2 1, cell 10 2 0, cell 10 2 1] := by
  rw [render_eq, reqStorageWords_applyRow]
  simp only [applyRow, apply_ite putU16, apply_ite putU32, putU16_be16, putU32_getU32, ite_putU16, ite_putU32]
  rfl

theorem applyRow_at {j : Nat} (hlo : 2 ≤ j) (hhi : j < 12) :
    (e.applyRow start data i).render.at j =
      if Whole start data.length i (epGenericField j).1 (epGenericField j).2 then data.at (i * 12 + j - start)
      else e.render.at j := by
  have hcell (offset width k : Nat) :
      (if Whole start data.length i offset width then data.at (i * 12 + offset - start + k)
        else e.render.at (offset + k)) =
      if Whole start data.length i offset width then data.at (i * 12 + (offset + k) - start)
        else e.render.at (offset + k) := by
    refine if_ctx_congr Iff.rfl (fun hwhole => congrArg data.at ?_) fun _ => rfl
    have hstart := hwhole.1
    omega
  rw [render_applyRow]
  simp only [hcell]
  interval_cases j <;> rfl

theorem length_render : e.render.length = 12 := rfl

/-- An octet of the write, read back from its row. -/
theorem applyRow_read {j : Nat} (hj : j < 12) (hreach : Reaches start data.length (12 * i + j)) :
    (e.applyRow start data i).render.at j =
      if FieldCut start data.length (12 * i + j) then e.render.at j
      else
        let new := settle (epGenericBits (12 * i + j)) (e.render.at j) (data.at (12 * i + j - start))
        if 12 * i + j = 1 then new ||| 0x01 else new := by
  have hmod : (12 * i + j) % 12 = j := by omega
  have hdiv : (12 * i + j) / 12 = i := by omega
  have hcut : FieldCut start data.length (12 * i + j) ↔
      ¬Whole start data.length i (epGenericField j).1 (epGenericField j).2 := by
    unfold FieldCut
    rw [hmod, hdiv]
  have hlo := hreach.1
  have hend := hreach.2
  by_cases hfirst : j < 2
  · have hwhole : Whole start data.length i (epGenericField j).1 (epGenericField j).2 := by
      rw [epGenericField, if_pos hfirst]
      dsimp only
      omega
    rw [if_neg (by rwa [hcut, not_not]), epGenericBits, hmod]
    interval_cases j
    · rw [if_pos rfl, settle_zero, if_neg (by omega), render_applyRow]
      rfl
    · have hwhole1 : Whole start data.length i 1 1 := hwhole
      have hnew : (e.applyRow start data i).render.at 1 = (e.applyRow start data i).usedOctet := rfl
      have hold : e.render.at 1 = e.usedOctet := rfl
      obtain ⟨hclear, hone⟩ := e.usedOctet_bits
      rw [hnew, hold, usedOctet_applyRow, if_pos hwhole1, Nat.mul_comm 12 i]
      generalize data.at (i * 12 + 1 - start) = octet1
      by_cases hzero : i = 0
      · subst hzero
        change 0x01 ||| (octet1 &&& 0x30) = ((e.usedOctet &&& ~~~0x30) ||| (octet1 &&& 0x30)) ||| 0x01
        rw [UInt8.or_assoc, UInt8.or_comm (octet1 &&& 0x30), ← UInt8.or_assoc, hone]
      · have hbits : (if i * 12 + 1 = 1 then (0x30 : UInt8) else if 1 = 1 then 0x31 else 0xFF) = 0x31 := by
          rw [if_neg (by omega), if_pos rfl]
        dsimp only
        rw [if_neg hzero, if_neg Nat.one_ne_zero, hbits, if_neg (by omega), settle_of_clear hclear]
  · have hbits : epGenericBits (12 * i + j) = 0xFF := by
      rw [epGenericBits, hmod, if_neg (by omega), if_neg (by omega), if_neg (by omega)]
    rw [e.applyRow_at start data i (by omega) hj, hbits, settle_full]
    dsimp only
    rw [if_neg (show 12 * i + j ≠ 1 by omega), Nat.mul_comm 12 i]
    by_cases hwhole : Whole start data.length i (epGenericField j).1 (epGenericField j).2
    · rw [if_pos hwhole, if_neg (by rwa [Nat.mul_comm i 12, hcut, not_not])]
    · rw [if_neg hwhole, if_pos (by rwa [Nat.mul_comm i 12, hcut])]

end applyRow

end EpGenericCfg

theorem epGenericCfgRender_at {rows : List EpGenericCfg} {i j : Nat} {e : EpGenericCfg} (hr : rows[i]? = some e)
    (hj : j < 12) : (epGenericCfgRender rows).at (12 * i + j) = e.render.at j := by
  rw [epGenericCfgRender, flatMap_eq_imageOf, Octets.at_eq,
    getElem?_imageOf (fun _ => EpGenericCfg.length_render) hr hj, ← Octets.at_eq]

/-- An octet of the write, read back from the endpoint configuration. -/
theorem epGenericCfg_read_written {rows : List EpGenericCfg} {relative i j : Nat} {writeData : Octets}
    {e : EpGenericCfg} (hr : rows[i]? = some e) (hj : j < 12)
    (hreach : Reaches relative writeData.length (12 * i + j)) :
    let old := (epGenericCfgRender rows).at (12 * i + j)
    (epGenericCfgRender (epGenericCfgWritten relative writeData rows)).at (12 * i + j) =
      if FieldCut relative writeData.length (12 * i + j) then old
      else
        let new := settle (epGenericBits (12 * i + j)) old (writeData.at (12 * i + j - relative))
        if 12 * i + j = 1 then new ||| 0x01 else new := by
  intro old
  have hold : old = e.render.at j := epGenericCfgRender_at hr hj
  have hlo := hreach.1
  have hend := hreach.2
  have hwritten : (epGenericCfgWritten relative writeData rows)[i]? = some (e.applyRow relative writeData i) := by
    rw [epGenericCfgWritten, List.getElem?_mapIdx, hr, Option.map_some, if_pos (by omega)]
  rw [epGenericCfgRender_at hwritten hj, hold, e.applyRow_read relative writeData i hj hreach]

end Rcp
