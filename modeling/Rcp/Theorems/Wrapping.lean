import Rcp.Theorems.Codec

/-! The CRC trailer over the whole frame format: where wrapping puts it, and that unwrapping takes it out again. -/

namespace Rcp

/-! ### The length field -/

/-- The nine-bit length field of a frame. -/
def lenField (b : Octets) : UInt16 := ((b.at 0 &&& 0x01).toUInt16 <<< 8) ||| (b.at 1).toUInt16

/-- The frame with that field replaced. -/
def putLenField (b : Octets) (v : UInt16) : Octets :=
  ((b.at 0 &&& (0xFE : UInt8)) ||| ((v >>> 8) &&& 0x01).toUInt8) :: (v &&& 0xFF).toUInt8 :: b.drop 2

theorem adaptAcfMsgLength_eq_some {b data : Octets} {delta : Int} :
    adaptAcfMsgLength b delta = some data ↔
      2 ≤ b.length ∧ 0 ≤ (lenField b).toNat + delta ∧ (lenField b).toNat + delta ≤ 0x1FF ∧
        putLenField b (UInt16.ofNat ((lenField b).toNat + delta).toNat) = data := by
  unfold adaptAcfMsgLength
  change (if b.length < 2 then none else if (lenField b).toNat + delta < 0 ∨ (lenField b).toNat + delta > 0x1FF then none
    else some (putLenField b (UInt16.ofNat ((lenField b).toNat + delta).toNat))) = some data ↔ _
  split
  · simp only [reduceCtorEq, false_iff]
    omega
  split
  · simp only [reduceCtorEq, false_iff]
    omega
  · simp only [Option.some.injEq]
    constructor
    · intro hdata
      exact ⟨by omega, by omega, by omega, hdata⟩
    · exact fun h => h.2.2.2

theorem Octets.at_take {b : Octets} {n i : Nat} (h : i < n) : Octets.at (b.take n) i = b.at i := by
  simp only [Octets.at, List.getD_eq_getElem?_getD]
  rw [List.getElem?_take_of_lt h]

theorem lenField_take {b : Octets} {n : Nat} (h : 2 ≤ n) : lenField (b.take n) = lenField b := by
  rw [lenField, lenField, Octets.at_take (by omega), Octets.at_take (by omega)]

theorem lenField_putLenField {b : Octets} {v : UInt16} (hv : v.toNat ≤ 0x1FF) : lenField (putLenField b v) = v := by
  have hmask : lenField (putLenField b v) = v &&& 0x1FF := by
    apply UInt16.toBitVec_inj.mp
    simp only [lenField, putLenField, Octets.at, List.getD_cons_zero, List.getD_cons_succ, UInt16.toBitVec_or,
      UInt16.toBitVec_and, UInt16.toBitVec_shiftLeft, UInt16.toBitVec_shiftRight, UInt16.toBitVec_toUInt8,
      UInt8.toBitVec_toUInt16, UInt8.toBitVec_and, UInt8.toBitVec_or]
    ext i hi
    interval_cases i <;> simp
  rw [hmask, Acf.and_quadletMask hv]

theorem putLenField_putLenField (b : Octets) (v v' : UInt16) : putLenField (putLenField b v) v' = putLenField b v' := by
  have hfirst : ((b.at 0 &&& (0xFE : UInt8)) ||| ((v >>> 8) &&& 0x01).toUInt8) &&& (0xFE : UInt8) =
      b.at 0 &&& (0xFE : UInt8) := by
    apply UInt8.toBitVec_inj.mp
    simp only [UInt8.toBitVec_or, UInt8.toBitVec_and, UInt16.toBitVec_toUInt8, UInt16.toBitVec_and,
      UInt16.toBitVec_shiftRight]
    ext i hi
    interval_cases i <;> simp
  change (((b.at 0 &&& (0xFE : UInt8)) ||| ((v >>> 8) &&& 0x01).toUInt8) &&& (0xFE : UInt8) |||
    ((v' >>> 8) &&& 0x01).toUInt8) :: (v' &&& 0xFF).toUInt8 :: b.drop 2 = putLenField b v'
  rw [hfirst, putLenField]

theorem putLenField_lenField {b : Octets} (h : 2 ≤ b.length) : putLenField b (lenField b) = b := by
  obtain ⟨x, y, rest, rfl⟩ : ∃ x y rest, b = x :: y :: rest := by
    match b, h with
    | x :: y :: rest, _ => exact ⟨x, y, rest, rfl⟩
  simp only [putLenField, lenField, Octets.at, List.getD_cons_zero, List.getD_cons_succ, List.drop_succ_cons,
    List.drop_zero, List.cons.injEq, and_true]
  constructor
  all_goals
    apply UInt8.toBitVec_inj.mp
    simp only [UInt8.toBitVec_or, UInt8.toBitVec_and, UInt16.toBitVec_toUInt8, UInt16.toBitVec_and, UInt16.toBitVec_or,
      UInt16.toBitVec_shiftRight, UInt16.toBitVec_shiftLeft, UInt8.toBitVec_toUInt16]
    ext i hi
    interval_cases i <;> simp

theorem putLenField_length {b : Octets} (h : 2 ≤ b.length) (v : UInt16) : (putLenField b v).length = b.length := by
  simp only [putLenField, List.length_cons, List.length_drop]
  omega

theorem putLenField_at {b : Octets} {i : Nat} (v : UInt16) (h : 2 ≤ i) : Octets.at (putLenField b v) i = b.at i := by
  obtain ⟨j, rfl⟩ := Nat.exists_eq_add_of_le h
  simp only [putLenField, Octets.at, Nat.add_comm 2 j, List.getD_cons_succ]
  simp [List.getElem?_drop, Nat.add_comm 2 j]

/-! ### Inserting a trailer -/

/-- `rcp_e2e_wrap` with the octets of the trailer left open: the number they hold is `crc` of the covered
    octets. -/
def insertCrc (crc : Octets → UInt32) (acfFrame : Octets) : Option Octets :=
  if acfFrame.length % 4 ≠ 0 then none else
  let padOctets := acfPadOctets acfFrame
  if padOctets > acfFrame.length then none else
  let realLen := acfFrame.length - padOctets
  match adaptAcfMsgLength (acfFrame.take realLen) 1 with
  | none => none
  | some data => some (data ++ putU32 (crc data) ++ acfFrame.drop realLen)

theorem e2eWrap_eq_insertCrc (h : E2eHeader) : e2eWrap h = insertCrc (e2eComputeCrc h) := rfl

/-- The octets before the pad. -/
def realLen (frame : Octets) : Nat := frame.length - acfPadOctets frame

/-- The octets a CRC covers: those before the pad, with the length counting the trailer. -/
def covered (frame : Octets) : Octets :=
  putLenField (frame.take (realLen frame)) (UInt16.ofNat ((lenField (frame.take (realLen frame))).toNat + 1))

theorem take_realLen_length (frame : Octets) : (frame.take (realLen frame)).length = realLen frame := by
  rw [List.length_take]
  simp only [realLen]
  omega

theorem insertCrc_eq_some {crc : Octets → UInt32} {frame w : Octets} :
    insertCrc crc frame = some w ↔
      frame.length % 4 = 0 ∧ acfPadOctets frame ≤ frame.length ∧ 2 ≤ realLen frame ∧
        (lenField (frame.take (realLen frame))).toNat + 1 ≤ 0x1FF ∧
        covered frame ++ putU32 (crc (covered frame)) ++ frame.drop (realLen frame) = w := by
  have htake := take_realLen_length frame
  unfold insertCrc
  split
  · simp only [reduceCtorEq, false_iff]
    omega
  dsimp only
  split
  · simp only [reduceCtorEq, false_iff]
    omega
  change (match adaptAcfMsgLength (frame.take (realLen frame)) 1 with
    | none => none
    | some data => some (data ++ putU32 (crc data) ++ frame.drop (realLen frame))) = some w ↔ _
  rcases hadapt : adaptAcfMsgLength (frame.take (realLen frame)) 1 with _ | data
  · simp only [reduceCtorEq, false_iff, not_and]
    intro _ _ hlen hfits _
    have hsome : adaptAcfMsgLength (frame.take (realLen frame)) 1 = some _ :=
      adaptAcfMsgLength_eq_some.mpr ⟨by rw [htake]; exact hlen, by omega, by exact_mod_cast hfits, rfl⟩
    rw [hadapt] at hsome
    cases hsome
  · obtain ⟨hlen, -, hfits, rfl⟩ := adaptAcfMsgLength_eq_some.mp hadapt
    rw [htake] at hlen
    have hdata : putLenField (frame.take (realLen frame))
        (UInt16.ofNat ((lenField (frame.take (realLen frame))).toNat + (1 : Int)).toNat) = covered frame := rfl
    simp only [hdata, Option.some.injEq]
    constructor
    · exact fun hw => ⟨by omega, by omega, hlen, by exact_mod_cast hfits, hw⟩
    · exact fun h => h.2.2.2.2

theorem covered_length {frame : Octets} (h : 2 ≤ realLen frame) : (covered frame).length = realLen frame := by
  rw [covered, putLenField_length (by rw [take_realLen_length]; exact h), take_realLen_length]

theorem adapt_covered {frame : Octets} (h : 2 ≤ realLen frame)
    (hfits : (lenField (frame.take (realLen frame))).toNat + 1 ≤ 0x1FF) :
    adaptAcfMsgLength (covered frame) (-1) = some (frame.take (realLen frame)) := by
  have htake := take_realLen_length frame
  generalize hbody : frame.take (realLen frame) = body at *
  have hv : (UInt16.ofNat ((lenField body).toNat + 1)).toNat = (lenField body).toNat + 1 :=
    UInt16.toNat_ofNat_of_lt' (by rw [UInt16.size]; omega)
  have hfield : lenField (covered frame) = UInt16.ofNat ((lenField body).toNat + 1) := by
    rw [covered, hbody, lenField_putLenField (by rw [hv]; exact hfits)]
  have hrestored : ((lenField (covered frame)).toNat + (-1 : Int)).toNat = (lenField body).toNat := by
    rw [hfield, hv]
    omega
  refine adaptAcfMsgLength_eq_some.mpr ⟨?_, ?_, ?_, ?_⟩
  · rw [covered_length h]
    exact h
  · rw [hfield, hv]
    omega
  · rw [hfield, hv]
    omega
  · rw [hrestored, UInt16.ofNat_toNat, covered, hbody, putLenField_putLenField, putLenField_lenField (by omega)]

/-- With the pad field before the trailer, a wrapped frame has the pad of the frame it wraps. -/
theorem acfPadOctets_insert {frame : Octets} (h : 3 ≤ realLen frame) (rest : Octets) :
    acfPadOctets (covered frame ++ rest) = acfPadOctets frame := by
  have hlen := covered_length (show 2 ≤ realLen frame by omega)
  have hframe : realLen frame ≤ frame.length := Nat.sub_le _ _
  have hat : Octets.at (covered frame ++ rest) 2 = frame.at 2 := by
    rw [Octets.at_append_left (by omega), covered, putLenField_at _ (Nat.le_refl 2), Octets.at_take (by omega)]
  rw [acfPadOctets, acfPadOctets, if_neg (by rw [List.length_append]; omega), if_neg (by omega), hat]

theorem acfPadOctets_le (b : Octets) : acfPadOctets b ≤ 3 := by
  unfold acfPadOctets
  split
  · exact Nat.zero_le _
  · rw [UInt8.toNat_and]
    exact Nat.and_le_right

theorem unpackHeader_pad {b : Octets} (h : 3 ≤ b.length) : (Acf.unpackHeader b).pad.toNat = acfPadOctets b := by
  rw [acfPadOctets, if_neg (by omega)]
  rfl

/-- The trailer stands before the pad. -/
theorem getU32_insertCrc {crc : Octets → UInt32} {frame w : Octets} (hw : insertCrc crc frame = some w) :
    getU32 w (w.length - e2eCrcLen - acfPadOctets frame) = crc (covered frame) := by
  obtain ⟨-, hpad, hreal, -, rfl⟩ := insertCrc_eq_some.mp hw
  have hcov := covered_length hreal
  have hat : (covered frame ++ putU32 (crc (covered frame)) ++ frame.drop (realLen frame)).length - e2eCrcLen -
      acfPadOctets frame = (covered frame).length := by
    simp only [List.length_append, putU32_length, List.length_drop, e2eCrcLen, hcov]
    simp only [realLen] at hreal ⊢
    omega
  rw [hat, List.append_assoc, getU32_append rfl, getU32_append_left (by rw [putU32_length]), getU32_putU32]

/-- Unwrapping takes any trailer out again; the verdict compares it with the CRC of the covered octets. -/
theorem e2eUnwrap_insertCrc {crc : Octets → UInt32} {frame w : Octets} (h : E2eHeader)
    (hw : insertCrc crc frame = some w) (hlong : 3 ≤ realLen frame) :
    e2eUnwrap h w =
      (if crc (covered frame) ≠ e2eComputeCrc h (covered frame) then .error .crcMismatch else .ok (), frame) := by
  obtain ⟨-, hpad, -, hfits, rfl⟩ := insertCrc_eq_some.mp hw
  have hcov := covered_length (show 2 ≤ realLen frame by omega)
  have hreal : realLen frame + acfPadOctets frame = frame.length := by simp only [realLen]; omega
  have hdrop : (frame.drop (realLen frame)).length = acfPadOctets frame := by rw [List.length_drop]; omega
  have hlen : (covered frame ++ putU32 (crc (covered frame)) ++ frame.drop (realLen frame)).length =
      realLen frame + 4 + acfPadOctets frame := by
    simp only [List.length_append, hcov, hdrop, putU32_length]
  have hpads : acfPadOctets (covered frame ++ putU32 (crc (covered frame)) ++ frame.drop (realLen frame)) =
      acfPadOctets frame := by
    rw [List.append_assoc, acfPadOctets_insert hlong]
  generalize hcrc : crc (covered frame) = value at *
  have hcut : (covered frame ++ putU32 value ++ frame.drop (realLen frame)).take (realLen frame) = covered frame := by
    rw [List.append_assoc, List.take_left' hcov]
  have hgot : getU32 (covered frame ++ putU32 value ++ frame.drop (realLen frame)) (realLen frame) = value := by
    rw [List.append_assoc, getU32_append hcov.symm, getU32_append_left (by rw [putU32_length]), getU32_putU32]
  have hrest : (covered frame ++ putU32 value ++ frame.drop (realLen frame)).drop (realLen frame + 4) =
      frame.drop (realLen frame) :=
    List.drop_left' (by rw [List.length_append, hcov, putU32_length])
  have hback : (adaptAcfMsgLength (covered frame) (-1)).getD (covered frame) = frame.take (realLen frame) := by
    rw [adapt_covered (by omega) hfits, Option.getD_some]
  have hpadding : (frame.drop (realLen frame)).take (acfPadOctets frame) = frame.drop (realLen frame) :=
    List.take_of_length_le (by omega)
  have hrl : realLen frame + 4 + acfPadOctets frame - 4 - acfPadOctets frame = realLen frame := by omega
  unfold e2eUnwrap
  simp only [hlen, hpads, e2eCrcLen, hrl, hcut, hgot, hrest, hback, hpadding, List.take_append_drop]
  rw [if_neg (by omega), if_neg (by omega)]

/-! ### Messages the encoders build -/

section framed
open Acf
variable (type : UInt8) (info : ByteMessageInfo) (region payload : Octets)

theorem acfPadOctets_framed :
    acfPadOctets (framed type info region payload) = padLen (abbHeaderLen + region.length + payload.length) := by
  have hlen := framed_length type info region payload
  have hmul := quadletsOf_mul (abbHeaderLen + region.length + payload.length)
  have habb : abbHeaderLen = 8 := rfl
  have hpad : (framed type info region payload).at 2 >>> 6 &&& 0x3 = (framedInfo type info region payload).pad :=
    congrArg ByteMessageInfo.pad (unpackHeader_framed type info region payload)
  rw [acfPadOctets, if_neg (by omega), hpad, framedInfo_pad]

theorem realLen_framed :
    realLen (framed type info region payload) = abbHeaderLen + region.length + payload.length := by
  have hmul := quadletsOf_mul (abbHeaderLen + region.length + payload.length)
  rw [realLen, framed_length, acfPadOctets_framed]
  omega

theorem padLen_add_four (n : Nat) : padLen (n + 4) = padLen n := by
  simp only [padLen]
  omega

theorem quadletsOf_add_four (n : Nat) : quadletsOf (n + 4) = quadletsOf n + 1 := by
  simp only [quadletsOf, padLen]
  omega

theorem take_framed :
    (framed type info region payload).take (realLen (framed type info region payload)) =
      packHeader type (UInt16.ofNat (quadletsOf (abbHeaderLen + region.length + payload.length)))
        { info with pad := UInt8.ofNat (padLen (abbHeaderLen + region.length + payload.length)) } ++ (region ++ payload) := by
  rw [realLen_framed]
  simp only [framed]
  rw [List.take_left' (by simp only [List.length_append, packHeader_length, abbHeaderLen]), List.append_assoc]

theorem framed_append (trailer : Octets) (htrailer : trailer.length = 4) :
    framed type info region (payload ++ trailer) =
      packHeader type (UInt16.ofNat (quadletsOf (abbHeaderLen + region.length + payload.length) + 1))
        { info with pad := UInt8.ofNat (padLen (abbHeaderLen + region.length + payload.length)) } ++ (region ++ payload) ++
        trailer ++ List.replicate (padLen (abbHeaderLen + region.length + payload.length)) 0 := by
  simp only [framed, List.length_append, htrailer, ← Nat.add_assoc, padLen_add_four, quadletsOf_add_four,
    List.append_assoc]

variable {type info region payload}

theorem toNat_quadlets {n : Nat} (h : quadletsOf n ≤ 0x1FF) : (UInt16.ofNat (quadletsOf n)).toNat = quadletsOf n :=
  UInt16.toNat_ofNat_of_lt' (by rw [UInt16.size]; omega)

theorem lenField_framed (hfits : quadletsOf (abbHeaderLen + region.length + payload.length) ≤ 0x1FF) :
    (lenField (framed type info region payload)).toNat = quadletsOf (abbHeaderLen + region.length + payload.length) := by
  have hfield : lenField (framed type info region payload) = (framedInfo type info region payload).acfMsgLength :=
    congrArg ByteMessageInfo.acfMsgLength (unpackHeader_framed type info region payload)
  rw [hfield, framedInfo_quadlets _ _ _ _ hfits]

/-- A wrapped message is the message of the payload with the trailer at its end. -/
theorem insertCrc_framed (crc : Octets → UInt32)
    (hfits : quadletsOf (abbHeaderLen + region.length + payload.length) + 1 ≤ 0x1FF) :
    insertCrc crc (framed type info region payload) =
      some (framed type info region (payload ++ putU32 (crc (covered (framed type info region payload))))) := by
  have hadapt : adaptAcfMsgLength ((framed type info region payload).take (realLen (framed type info region payload))) 1 =
      some (packHeader type (UInt16.ofNat (quadletsOf (abbHeaderLen + region.length + payload.length) + 1))
        { info with pad := UInt8.ofNat (padLen (abbHeaderLen + region.length + payload.length)) } ++
          (region ++ payload)) := by
    rw [take_framed]
    have hq := toNat_quadlets (n := abbHeaderLen + region.length + payload.length) (by omega)
    have hr := toNat_quadlets (n := abbHeaderLen + region.length + payload.length + 4)
      (by rw [quadletsOf_add_four]; exact hfits)
    rw [quadletsOf_add_four] at hr
    refine adaptAcfMsgLength_packHeader (by omega) (by omega) ?_
    rw [hq, hr]
    rfl
  obtain ⟨-, -, hfit, hcovered⟩ := adaptAcfMsgLength_eq_some.mp hadapt
  have hcov : covered (framed type info region payload) = _ := hcovered
  have hpad := acfPadOctets_framed type info region payload
  have hlen := framed_length type info region payload
  have hmul := quadletsOf_mul (abbHeaderLen + region.length + payload.length)
  have hreal := realLen_framed type info region payload
  have habb : abbHeaderLen = 8 := rfl
  refine insertCrc_eq_some.mpr ⟨by omega, by omega, by omega, by exact_mod_cast hfit, ?_⟩
  rw [framed_append _ _ _ _ _ (putU32_length _)]
  have hdrop : (framed type info region payload).drop (realLen (framed type info region payload)) =
      List.replicate (padLen (abbHeaderLen + region.length + payload.length)) 0 := by
    rw [hreal]
    simp only [framed]
    rw [List.drop_left' (by simp only [List.length_append, packHeader_length, abbHeaderLen])]
  rw [hdrop, hcov]

/-- The field must have room for the trailer. -/
theorem insertCrc_framed_room {crc : Octets → UInt32} {w : Octets}
    (hfits : quadletsOf (abbHeaderLen + region.length + payload.length) ≤ 0x1FF)
    (hw : insertCrc crc (framed type info region payload) = some w) :
    quadletsOf (abbHeaderLen + region.length + payload.length) + 1 ≤ 0x1FF := by
  obtain ⟨-, -, hreal, hlen, -⟩ := insertCrc_eq_some.mp hw
  rwa [lenField_take hreal, lenField_framed hfits] at hlen

end framed

/-- The messages the encoders of `acf.c` and `request.c` produce. -/
inductive Encoded : Octets → Prop where
  | abb {hdr : Acf.ByteMessageInfo} {payload m : Octets} : Acf.encodeAbb hdr payload = some m → Encoded m
  | gbb {hdr : Acf.GbbHeader} {payload m : Octets} : Acf.encodeGbb hdr payload = some m → Encoded m
  | compound {requestType : UInt8} {byteBusId : ByteBusId} {step : CompoundStep} {evt transactionNum : UInt8}
      {payload m : Octets} :
      compoundEncodeRequest requestType byteBusId step evt transactionNum payload = some m → Encoded m
  | clearNonSafestate {byteBusId : ByteBusId} {transactionNum : UInt8} {m : Octets} :
      compoundEncodeClearNonSafestate byteBusId transactionNum = some m → Encoded m
  | triggered {requestType : UInt8} {byteBusId : ByteBusId} {step : TriggeredStep} {transactionNum : UInt8}
      {payload m : Octets} :
      triggeredEncodeRequest requestType byteBusId step transactionNum payload = some m → Encoded m
  | chained {byteBusId : ByteBusId} {chainExecDelay : UInt16} {cs transactionNum : UInt8} {payload m : Octets} :
      chainedEncodeMember byteBusId chainExecDelay cs transactionNum payload = some m → Encoded m
  | timed {byteBusId : ByteBusId} {presentationTime : UInt64} {transactionNum : UInt8} {payload m : Octets} :
      timedEncodeRequest byteBusId presentationTime transactionNum payload = some m → Encoded m
  | clearAll (byteBusId : ByteBusId) (transactionNum : UInt8) : Encoded (cancelEncodeClearAll byteBusId transactionNum)
  | clearSingle (byteBusId : ByteBusId) (clearTransactionNum transactionNum : UInt8) :
      Encoded (cancelEncodeClearSingle byteBusId clearTransactionNum transactionNum)

open Acf in
theorem encodeGbbRepurposed_framed {byteBusId : ByteBusId} {cs evt transactionNum : UInt8} {ts : UInt64}
    {payload m : Octets} (h : encodeGbbRepurposed byteBusId cs evt transactionNum ts payload = some m) :
    ∃ info ts payload, quadletsOf (gbbHeaderLen + payload.length) ≤ 0x1FF ∧ framed msgTypeGbb info (putU64 ts) payload = m :=
  ⟨_, _, _, Acf.encodeGbbRepurposed_eq_some.mp h⟩

open Acf in
theorem Encoded.shape {m : Octets} (h : Encoded m) :
    (∃ info payload, quadletsOf (abbHeaderLen + payload.length) ≤ 0x1FF ∧ framed msgTypeAbb info [] payload = m) ∨
      ∃ info ts payload,
        quadletsOf (gbbHeaderLen + payload.length) ≤ 0x1FF ∧ framed msgTypeGbb info (putU64 ts) payload = m := by
  cases h with
  | abb h => exact Or.inl ⟨_, _, encodeAbb_eq_some.mp h⟩
  | gbb h => exact Or.inr ⟨_, _, _, encodeGbb_eq_some.mp h⟩
  | compound h =>
    unfold compoundEncodeRequest at h
    split at h
    · cases h
    · exact Or.inr (encodeGbbRepurposed_framed h)
  | clearNonSafestate h => exact Or.inr (encodeGbbRepurposed_framed h)
  | triggered h =>
    unfold triggeredEncodeRequest at h
    split at h
    · cases h
    · exact Or.inr (encodeGbbRepurposed_framed h)
  | chained h => exact Or.inr (encodeGbbRepurposed_framed h)
  | timed h =>
    unfold timedEncodeRequest at h
    split at h
    · cases h
    · exact Or.inr (encodeGbbRepurposed_framed h)
  | clearAll byteBusId transactionNum =>
    exact Or.inr ⟨_, _, [], by decide, (cancelEncodeGbbRepurposed_eq ..).symm⟩
  | clearSingle byteBusId clearTransactionNum transactionNum =>
    exact Or.inr ⟨_, _, [], by decide, (cancelEncodeGbbRepurposed_eq ..).symm⟩

/-! ### The round trip -/

/-- `w` decodes as `m` does, one quadlet longer, with four more octets at the end of the payload. -/
def DecodesLonger (m w : Octets) : Prop :=
  (∃ hdr payload trailer, trailer.length = 4 ∧ Acf.decodeAbb m = .ok (hdr, payload) ∧
    Acf.decodeAbb w = .ok ({ hdr with acfMsgLength := hdr.acfMsgLength + 1 }, payload ++ trailer)) ∨
  ∃ hdr payload trailer, trailer.length = 4 ∧ Acf.decodeGbb m = .ok (hdr, payload) ∧
    Acf.decodeGbb w =
      .ok ({ hdr with info := { hdr.info with acfMsgLength := hdr.info.acfMsgLength + 1 } }, payload ++ trailer)

open Acf in
theorem framedInfo_append {type : UInt8} {info : ByteMessageInfo} {region payload trailer : Octets}
    (htrailer : trailer.length = 4)
    (hfits : quadletsOf (abbHeaderLen + region.length + payload.length) + 1 ≤ 0x1FF) :
    framedInfo type info region (payload ++ trailer) =
      { framedInfo type info region payload with
        acfMsgLength := (framedInfo type info region payload).acfMsgLength + 1 } := by
  have hmask : ∀ n ≤ 0x1FF, (UInt16.ofNat n).toNat ≤ 0x1FF := by
    intro n hn
    rw [UInt16.toNat_ofNat_of_lt' (by rw [UInt16.size]; omega)]
    exact hn
  have hq : UInt16.ofNat (quadletsOf (abbHeaderLen + region.length + payload.length)) &&& 0x1FF =
      UInt16.ofNat (quadletsOf (abbHeaderLen + region.length + payload.length)) :=
    and_quadletMask (hmask _ (Nat.le_of_succ_le hfits))
  have hsucc : UInt16.ofNat (quadletsOf (abbHeaderLen + region.length + payload.length) + 1) &&& 0x1FF =
      UInt16.ofNat (quadletsOf (abbHeaderLen + region.length + payload.length)) + 1 :=
    (and_quadletMask (hmask _ hfits)).trans (UInt16.ofNat_add ..)
  simp only [framedInfo, List.length_append, htrailer, ← Nat.add_assoc, padLen_add_four, quadletsOf_add_four,
    ByteMessageInfo.onWire, hq, hsucc]

open Acf in
theorem Encoded.decodesLonger {m w : Octets} (h : Encoded m) {crc : Octets → UInt32} (hw : insertCrc crc m = some w) :
    DecodesLonger m w := by
  rcases h.shape with ⟨info, payload, hfits, rfl⟩ | ⟨info, ts, payload, hfits, rfl⟩
  · have hroom : quadletsOf (abbHeaderLen + ([] : Octets).length + payload.length) + 1 ≤ 0x1FF :=
      insertCrc_framed_room hfits hw
    rw [insertCrc_framed crc hroom, Option.some.injEq] at hw
    generalize crc (covered _) = value at hw
    have hlonger : quadletsOf (abbHeaderLen + (payload ++ putU32 value).length) ≤ 0x1FF := by
      rw [List.length_append, putU32_length, ← Nat.add_assoc, quadletsOf_add_four]
      exact hroom
    refine Or.inl ⟨_, _, putU32 value, putU32_length _, decodeAbb_framed info payload hfits, ?_⟩
    rw [← hw, decodeAbb_framed info _ hlonger, framedInfo_append (putU32_length _) hroom]
  · have hroom : quadletsOf (abbHeaderLen + (putU64 ts).length + payload.length) + 1 ≤ 0x1FF :=
      insertCrc_framed_room hfits hw
    rw [insertCrc_framed crc hroom, Option.some.injEq] at hw
    generalize crc (covered _) = value at hw
    have hlonger : quadletsOf (gbbHeaderLen + (payload ++ putU32 value).length) ≤ 0x1FF := by
      rw [List.length_append, putU32_length, ← Nat.add_assoc, quadletsOf_add_four]
      exact hroom
    refine Or.inr ⟨_, _, putU32 value, putU32_length _, decodeGbb_framed info payload ts hfits, ?_⟩
    rw [← hw, decodeGbb_framed info _ ts hlonger, framedInfo_append (putU32_length _) hroom]

/-- Three octets of a frame of eight or more come before its pad. -/
theorem realLen_of_long {frame : Octets} (h : 8 ≤ frame.length) : 3 ≤ realLen frame := by
  have hpad := acfPadOctets_le frame
  simp only [realLen]
  omega

open Acf in
/-- A message an encoder built is at least a header long, and has a length field below or at its end. -/
theorem Encoded.wraps {m : Octets} (h : Encoded m) (crc : Octets → UInt32) :
    8 ≤ m.length ∧ ((unpackHeader m).acfMsgLength < 0x1FF → (insertCrc crc m).isSome) ∧
      ((unpackHeader m).acfMsgLength = 0x1FF → insertCrc crc m = none) := by
  obtain ⟨type, info, region, payload, hfits, rfl⟩ : ∃ type info region payload,
      quadletsOf (abbHeaderLen + region.length + payload.length) ≤ 0x1FF ∧ framed type info region payload = m := by
    rcases h.shape with ⟨info, payload, hfits, rfl⟩ | ⟨info, ts, payload, hfits, rfl⟩
    · exact ⟨_, info, [], payload, hfits, rfl⟩
    · exact ⟨_, info, putU64 ts, payload, hfits, rfl⟩
  have hlen := framed_length type info region payload
  have hmul := quadletsOf_mul (abbHeaderLen + region.length + payload.length)
  have habb : abbHeaderLen = 8 := rfl
  have hq := framedInfo_quadlets type info region payload hfits
  rw [unpackHeader_framed]
  refine ⟨by omega, ?_, ?_⟩
  · intro hlt
    rw [UInt16.lt_iff_toNat_lt, hq] at hlt
    rw [insertCrc_framed crc hlt]
    rfl
  · intro hfull
    rw [hfull] at hq
    rcases hw : insertCrc crc (framed type info region payload) with _ | w
    · rfl
    · have hroom := insertCrc_framed_room hfits hw
      rw [← hq] at hroom
      exact absurd hroom (by decide)

/-- Wrapping and unwrapping are inverse over the whole frame format. -/
theorem unwrap_wrap_framed (streamId : UInt64) (isNtscfFramed : Bool) (headerOctet1 : UInt8) (tu : Bool)
    (avtpTimestamp : UInt32) :
    (∀ m, Encoded m → (Acf.unpackHeader m).acfMsgLength < 0x1FF →
      ∃ w, e2eWrapFramed streamId isNtscfFramed headerOctet1 tu avtpTimestamp m = some w ∧
        e2eUnwrapFramed streamId isNtscfFramed headerOctet1 tu avtpTimestamp w = (.ok (), m) ∧
        w.length = m.length + 4 ∧ DecodesLonger m w) ∧
    (∀ m, Encoded m → (Acf.unpackHeader m).acfMsgLength = 0x1FF →
      e2eWrapFramed streamId isNtscfFramed headerOctet1 tu avtpTimestamp m = none) ∧
    ∀ frame w, 8 ≤ frame.length → frame.length % 4 = 0 →
      e2eWrapFramed streamId isNtscfFramed headerOctet1 tu avtpTimestamp frame = some w →
      e2eUnwrapFramed streamId isNtscfFramed headerOctet1 tu avtpTimestamp w = (.ok (), frame) := by
  simp only [e2eWrapFramed, e2eUnwrapFramed, e2eWrap_eq_insertCrc]
  generalize e2eFramedHeader streamId isNtscfFramed headerOctet1 tu avtpTimestamp = h
  have hround : ∀ frame w, 8 ≤ frame.length → insertCrc (e2eComputeCrc h) frame = some w →
      e2eUnwrap h w = (.ok (), frame) := by
    intro frame w hlong hw
    rw [e2eUnwrap_insertCrc h hw (realLen_of_long hlong), if_neg (not_not.mpr rfl)]
  refine ⟨?_, ?_, fun frame w hlong _ hw => hround frame w hlong hw⟩
  · intro m hm hlt
    obtain ⟨hlong, hwraps, -⟩ := hm.wraps (e2eComputeCrc h)
    obtain ⟨w, hw⟩ := Option.isSome_iff_exists.mp (hwraps hlt)
    refine ⟨w, hw, hround m w hlong hw, ?_, hm.decodesLonger hw⟩
    obtain ⟨-, hpad, hreal, -, rfl⟩ := insertCrc_eq_some.mp hw
    simp only [List.length_append, covered_length hreal, putU32_length, List.length_drop, realLen]
    omega
  · intro m hm hfull
    exact (hm.wraps (e2eComputeCrc h)).2.2 hfull

/-- An ACF_ABB message with one pad octet. -/
theorem unwrap_wrap_framed_padded :
    ∃ w, e2eWrapFramed 7 false 0 true 9 [0x1C, 3, 0x40, 5, 0, 1, 0x80, 0, 0xAA, 0xBB, 0xCC, 0] = some w ∧
      e2eUnwrapFramed 7 false 0 true 9 w = (.ok (), [0x1C, 3, 0x40, 5, 0, 1, 0x80, 0, 0xAA, 0xBB, 0xCC, 0]) :=
  let ⟨w, hw, hunwrap, _⟩ :=
    (unwrap_wrap_framed 7 false 0 true 9).1 _
      (.abb (show Acf.encodeAbb { byteBusId := 5, transactionNum := 1, op := Acf.opWrite } [0xAA, 0xBB, 0xCC] = _ from rfl))
      (by decide)
  ⟨w, hw, hunwrap⟩

end Rcp
