import Rcp.E2e
import Mathlib.Tactic.IntervalCases

/-! Round trips of the message codec: what the wire carries of a header, and the messages an encoder builds. -/

namespace Rcp

/-! ### Integers -/

@[simp] theorem putU16_length (v : UInt16) : (putU16 v).length = 2 := rfl
@[simp] theorem putU64_length (v : UInt64) : (putU64 v).length = 8 := rfl
@[simp] theorem putU32_length (v : UInt32) : (putU32 v).length = 4 := rfl

theorem Octets.at_append_left {a b : Octets} {i : Nat} (h : i < a.length) : Octets.at (a ++ b) i = a.at i := by
  simp [Octets.at, List.getElem?_append_left h]

theorem Octets.at_append_right (a b : Octets) (i : Nat) : Octets.at (a ++ b) (a.length + i) = b.at i := by
  simp [Octets.at, List.getElem?_append_right]

theorem getLsbD_octetMask (j : Nat) : (255#64).getLsbD j = decide (j < 8) := by
  have hbits : (255#64).getLsbD j = (decide (j < 64) && Nat.testBit (2 ^ 8 - 1) j) := BitVec.getLsbD_ofNat ..
  rw [hbits, Nat.testBit_two_pow_sub_one]
  grind

theorem be16_putU16 (v : UInt16) : be16 (putU16 v) 0 = v := by
  simp only [be16, putU16, Octets.at, List.getD_cons_zero, List.getD_cons_succ]
  apply UInt16.toBitVec_inj.mp
  simp only [UInt16.toBitVec_or, UInt16.toBitVec_shiftLeft, UInt16.toBitVec_shiftRight, UInt8.toBitVec_toUInt16,
    UInt16.toBitVec_toUInt8, UInt16.toBitVec_and]
  ext i hi
  interval_cases i <;> simp

theorem putU16_be16 (b : Octets) (n : Nat) : putU16 (be16 b n) = [b.at n, b.at (n + 1)] := by
  simp only [putU16, be16, List.cons.injEq, and_true]
  constructor
  all_goals
    apply UInt8.toBitVec_inj.mp
    ext i hi
    simp only [UInt16.toBitVec_toUInt8, UInt16.toBitVec_and, UInt16.toBitVec_or, UInt16.toBitVec_shiftLeft,
      UInt16.toBitVec_shiftRight, UInt8.toBitVec_toUInt16]
    interval_cases i <;> simp

theorem getU32_putU32 (v : UInt32) : getU32 (putU32 v) 0 = v := by
  simp only [getU32, putU32, Octets.at, List.getD_cons_zero, List.getD_cons_succ, Nat.zero_add]
  apply UInt32.toBitVec_inj.mp
  apply BitVec.eq_of_getLsbD_eq
  intro i hi
  simp only [UInt32.toBitVec_or, UInt32.toBitVec_shiftLeft, UInt32.toBitVec_shiftRight, UInt8.toBitVec_toUInt32,
    UInt32.toBitVec_toUInt8, UInt32.toBitVec_ofNat, BitVec.shiftLeft_eq', BitVec.ushiftRight_eq',
    BitVec.getLsbD_or, BitVec.getLsbD_shiftLeft, BitVec.getLsbD_ushiftRight, BitVec.getLsbD_setWidth]
  grind

theorem getU64_putU64 (v : UInt64) : getU64 (putU64 v) 0 = v := by
  simp only [getU64, putU64, Octets.at, List.getD_cons_zero, List.getD_cons_succ, Nat.zero_add]
  apply UInt64.toBitVec_inj.mp
  apply BitVec.eq_of_getLsbD_eq
  intro i hi
  simp only [UInt64.toBitVec_or, UInt64.toBitVec_and, UInt64.toBitVec_shiftLeft, UInt64.toBitVec_shiftRight,
    UInt8.toBitVec_toUInt64, UInt64.toBitVec_toUInt8, UInt64.toBitVec_ofNat, BitVec.shiftLeft_eq',
    BitVec.ushiftRight_eq', BitVec.getLsbD_or, BitVec.getLsbD_and, BitVec.getLsbD_shiftLeft,
    BitVec.getLsbD_ushiftRight, BitVec.getLsbD_setWidth, getLsbD_octetMask]
  grind

theorem putU32_getU32 (b : Octets) (n : Nat) :
    putU32 (getU32 b n) = [b.at n, b.at (n + 1), b.at (n + 2), b.at (n + 3)] := by
  simp only [putU32, getU32, List.cons.injEq, and_true]
  refine ⟨?_, ?_, ?_, ?_⟩
  all_goals
    apply UInt8.toBitVec_inj.mp
    apply BitVec.eq_of_getLsbD_eq
    intro i hi
    simp only [UInt32.toBitVec_or, UInt32.toBitVec_shiftLeft, UInt32.toBitVec_shiftRight, UInt8.toBitVec_toUInt32,
      UInt32.toBitVec_toUInt8, UInt32.toBitVec_ofNat, BitVec.shiftLeft_eq', BitVec.ushiftRight_eq',
      BitVec.getLsbD_or, BitVec.getLsbD_shiftLeft, BitVec.getLsbD_ushiftRight, BitVec.getLsbD_setWidth]
    grind

theorem putU64_getU64 (b : Octets) (n : Nat) :
    putU64 (getU64 b n) =
      [b.at n, b.at (n + 1), b.at (n + 2), b.at (n + 3), b.at (n + 4), b.at (n + 5), b.at (n + 6), b.at (n + 7)] := by
  simp only [putU64, getU64, List.cons.injEq, and_true]
  refine ⟨?_, ?_, ?_, ?_, ?_, ?_, ?_, ?_⟩
  all_goals
    apply UInt8.toBitVec_inj.mp
    apply BitVec.eq_of_getLsbD_eq
    intro i hi
    simp only [UInt64.toBitVec_or, UInt64.toBitVec_and, UInt64.toBitVec_shiftLeft, UInt64.toBitVec_shiftRight,
      UInt8.toBitVec_toUInt64, UInt64.toBitVec_toUInt8, UInt64.toBitVec_ofNat, BitVec.shiftLeft_eq',
      BitVec.ushiftRight_eq', BitVec.getLsbD_or, BitVec.getLsbD_and, BitVec.getLsbD_shiftLeft,
      BitVec.getLsbD_ushiftRight, BitVec.getLsbD_setWidth, getLsbD_octetMask]
    grind

theorem getU32_append {a b : Octets} {n : Nat} (h : n = a.length) : getU32 (a ++ b) n = getU32 b 0 := by
  subst h
  have hzero : Octets.at (a ++ b) a.length = b.at 0 := Octets.at_append_right a b 0
  simp only [getU32, hzero, Octets.at_append_right, Nat.zero_add]

theorem getU64_append {a b : Octets} {n : Nat} (h : n = a.length) : getU64 (a ++ b) n = getU64 b 0 := by
  subst h
  have hzero : Octets.at (a ++ b) a.length = b.at 0 := Octets.at_append_right a b 0
  simp only [getU64, hzero, Octets.at_append_right, Nat.zero_add]

theorem getU32_append_left {a b : Octets} (h : 4 ≤ a.length) : getU32 (a ++ b) 0 = getU32 a 0 := by
  simp only [getU32]
  rw [Octets.at_append_left (by omega), Octets.at_append_left (by omega), Octets.at_append_left (by omega),
    Octets.at_append_left (by omega)]

theorem getU64_append_left {a b : Octets} (h : 8 ≤ a.length) : getU64 (a ++ b) 0 = getU64 a 0 := by
  have hat : ∀ i < 8, Octets.at (a ++ b) i = a.at i := fun i hi => Octets.at_append_left (by omega)
  simp only [getU64, Nat.zero_add, hat, Nat.reduceLT]

namespace Acf

/-! ### The header -/

@[simp] theorem packHeader_length (t : UInt8) (q : UInt16) (hdr : ByteMessageInfo) : (packHeader t q hdr).length = 8 := rfl

/-- What the wire carries of a header. -/
def ByteMessageInfo.onWire (hdr : ByteMessageInfo) (t : UInt8) (q : UInt16) : ByteMessageInfo where
  acfMsgType := t &&& 0x7F
  acfMsgLength := q &&& 0x1FF
  pad := hdr.pad &&& 0x3
  mtv := hdr.mtv &&& 0x1
  byteBusId := hdr.byteBusId &&& 0x7FF
  evt := hdr.evt &&& 0xF
  hs := hdr.hs &&& 0x1
  cs := hdr.cs &&& 0x1
  transactionNum := hdr.transactionNum
  op := if hdr.op = opRead then opRead else opWrite
  rsp := hdr.rsp &&& 0x1
  err := hdr.err &&& 0x1
  ms := hdr.ms &&& 0x1
  readSizeOrSegmentNum := hdr.readSizeOrSegmentNum &&& 0xFFF

theorem unpackHeader_append {b rest : Octets} (h : 8 ≤ b.length) : unpackHeader (b ++ rest) = unpackHeader b := by
  have hat : ∀ i < 8, Octets.at (b ++ rest) i = b.at i := fun i hi => Octets.at_append_left (by omega)
  simp only [unpackHeader, hat, Nat.reduceLT]

/-! The octets that carry several fields, read back bit by bit. -/

/-- A field of some low bits of an octet and the whole of the next one is no wider than these. -/
theorem wideField_and (x y m : UInt8) :
    ((x &&& m).toUInt16 <<< 8 ||| y.toUInt16) &&& (m.toUInt16 <<< 8 ||| (0xFF : UInt16)) =
      (x &&& m).toUInt16 <<< 8 ||| y.toUInt16 := by
  apply UInt16.toBitVec_inj.mp
  simp only [UInt16.toBitVec_or, UInt16.toBitVec_and, UInt16.toBitVec_shiftLeft, UInt8.toBitVec_toUInt16,
    UInt8.toBitVec_and]
  ext i hi
  interval_cases i <;> simp

theorem wideField_le (x y m : UInt8) :
    ((x &&& m).toUInt16 <<< 8 ||| y.toUInt16).toNat ≤ (m.toUInt16 <<< 8 ||| (0xFF : UInt16)).toNat := by
  rw [← wideField_and, UInt16.toNat_and]
  exact Nat.and_le_right

theorem octets01_unpack (t : UInt8) (q : UInt16) :
    let octet : UInt8 := t <<< 1 ||| (q >>> 8 &&& 0x01).toUInt8
    octet >>> 1 = t &&& 0x7F ∧
      (octet &&& 0x01).toUInt16 <<< 8 ||| (q &&& 0xFF).toUInt8.toUInt16 = q &&& 0x1FF := by
  refine ⟨?_, ?_⟩
  all_goals
    first | apply UInt8.toBitVec_inj.mp | apply UInt16.toBitVec_inj.mp
    simp only [UInt8.toBitVec_or, UInt8.toBitVec_and, UInt8.toBitVec_shiftLeft, UInt8.toBitVec_shiftRight,
      UInt8.toBitVec_toUInt16, UInt16.toBitVec_toUInt8, UInt16.toBitVec_and, UInt16.toBitVec_or,
      UInt16.toBitVec_shiftRight, UInt16.toBitVec_shiftLeft]
    ext i hi
    interval_cases i <;> simp

theorem octets23_unpack (pad mtv : UInt8) (byteBusId : UInt16) :
    let octet : UInt8 := (pad &&& 0x3) <<< 6 ||| (mtv &&& 0x1) <<< 5 ||| (byteBusId >>> 8 &&& 0x7).toUInt8
    octet >>> 6 &&& 0x3 = pad &&& 0x3 ∧ octet >>> 5 &&& 0x1 = mtv &&& 0x1 ∧
      (octet &&& 0x07).toUInt16 <<< 8 ||| (byteBusId &&& 0xFF).toUInt8.toUInt16 = byteBusId &&& 0x7FF := by
  refine ⟨?_, ?_, ?_⟩
  all_goals
    first | apply UInt8.toBitVec_inj.mp | apply UInt16.toBitVec_inj.mp
    simp only [UInt8.toBitVec_or, UInt8.toBitVec_and, UInt8.toBitVec_shiftLeft, UInt8.toBitVec_shiftRight,
      UInt8.toBitVec_toUInt16, UInt16.toBitVec_toUInt8, UInt16.toBitVec_and, UInt16.toBitVec_or,
      UInt16.toBitVec_shiftRight, UInt16.toBitVec_shiftLeft]
    ext i hi
    interval_cases i <;> simp

theorem octet4_unpack (evt hs cs : UInt8) :
    let octet : UInt8 := (evt &&& 0xF) <<< 4 ||| (hs &&& 0x1) <<< 1 ||| (cs &&& 0x1)
    octet >>> 4 &&& 0xF = evt &&& 0xF ∧ octet >>> 1 &&& 0x1 = hs &&& 0x1 ∧ octet &&& 0x1 = cs &&& 0x1 := by
  refine ⟨?_, ?_, ?_⟩
  all_goals
    apply UInt8.toBitVec_inj.mp
    simp only [UInt8.toBitVec_or, UInt8.toBitVec_and, UInt8.toBitVec_shiftLeft, UInt8.toBitVec_shiftRight]
    ext i hi
    interval_cases i <;> simp

theorem octets67_unpack (opBit rsp err ms : UInt8) (segmentNum : UInt16) :
    let octet : UInt8 := opBit <<< 7 ||| (rsp &&& 0x1) <<< 6 ||| (err &&& 0x1) <<< 5 ||| (ms &&& 0x1) <<< 4 |||
      (segmentNum >>> 8 &&& 0xF).toUInt8
    octet >>> 7 &&& 0x1 = opBit &&& 0x1 ∧ octet >>> 6 &&& 0x1 = rsp &&& 0x1 ∧ octet >>> 5 &&& 0x1 = err &&& 0x1 ∧
      octet >>> 4 &&& 0x1 = ms &&& 0x1 ∧
      (octet &&& 0x0F).toUInt16 <<< 8 ||| (segmentNum &&& 0xFF).toUInt8.toUInt16 = segmentNum &&& 0xFFF := by
  refine ⟨?_, ?_, ?_, ?_, ?_⟩
  all_goals
    first | apply UInt8.toBitVec_inj.mp | apply UInt16.toBitVec_inj.mp
    simp only [UInt8.toBitVec_or, UInt8.toBitVec_and, UInt8.toBitVec_shiftLeft, UInt8.toBitVec_shiftRight,
      UInt8.toBitVec_toUInt16, UInt16.toBitVec_toUInt8, UInt16.toBitVec_and, UInt16.toBitVec_or,
      UInt16.toBitVec_shiftRight, UInt16.toBitVec_shiftLeft]
    ext i hi
    interval_cases i <;> simp

theorem unpackHeader_packHeader (t : UInt8) (q : UInt16) (hdr : ByteMessageInfo) :
    unpackHeader (packHeader t q hdr) = hdr.onWire t q := by
  obtain ⟨htype, hlength⟩ := octets01_unpack t q
  obtain ⟨hpad, hmtv, hbus⟩ := octets23_unpack hdr.pad hdr.mtv hdr.byteBusId
  obtain ⟨hevt, hhs, hcs⟩ := octet4_unpack hdr.evt hdr.hs hdr.cs
  obtain ⟨hop, hrsp, herr, hms, hsegment⟩ :=
    octets67_unpack (if hdr.op = opRead then 0 else 1) hdr.rsp hdr.err hdr.ms hdr.readSizeOrSegmentNum
  simp only [unpackHeader, packHeader, ByteMessageInfo.onWire, Octets.at, List.getD_cons_zero, List.getD_cons_succ,
    ByteMessageInfo.mk.injEq]
  refine ⟨htype, hlength, hpad, hmtv, hbus, hevt, hhs, hcs, trivial, ?_, hrsp, herr, hms, hsegment⟩
  rw [hop]
  by_cases hread : hdr.op = opRead
  · simp only [hread, if_true]
    decide
  · simp only [hread, if_false]
    decide

/-- A header that was read back goes out again as it came, whatever its new pad. -/
theorem packHeader_onWire (t t' : UInt8) (q q' : UInt16) (hdr : ByteMessageInfo) (pad : UInt8) :
    packHeader t q { hdr.onWire t' q' with pad := pad } = packHeader t q { hdr with pad := pad } := by
  have hand : ∀ x m : UInt8, x &&& m &&& m = x &&& m := by
    intro x m
    rw [UInt8.and_assoc, UInt8.and_self]
  have hop : ((if hdr.op = opRead then opRead else opWrite) = opRead) = (hdr.op = opRead) := by
    by_cases h : hdr.op = opRead
    · simp only [h, if_true]
    · simp only [h, if_false]
      decide
  simp only [packHeader, ByteMessageInfo.onWire, hand, hop, List.cons.injEq, and_true, true_and]
  refine ⟨congrArg _ ?_, ?_, congrArg _ ?_, ?_⟩
  all_goals
    apply UInt8.toBitVec_inj.mp
    simp only [UInt16.toBitVec_toUInt8, UInt16.toBitVec_and, UInt16.toBitVec_shiftRight]
    ext i hi
    interval_cases i <;> simp

theorem and_quadletMask {q : UInt16} (h : q.toNat ≤ 0x1FF) : q &&& 0x1FF = q := by
  apply UInt16.toNat_inj.mp
  rw [UInt16.toNat_and]
  exact Nat.and_two_pow_sub_one_of_lt_two_pow (n := 9) (by omega)

theorem adaptAcfMsgLength_packHeader {t : UInt8} {q r : UInt16} {hdr : ByteMessageInfo} {rest : Octets} {delta : Int}
    (hq : q.toNat ≤ 0x1FF) (hr : r.toNat ≤ 0x1FF) (hdelta : (q.toNat : Int) + delta = r.toNat) :
    adaptAcfMsgLength (packHeader t q hdr ++ rest) delta = some (packHeader t r hdr ++ rest) := by
  have hlen : ((t <<< 1 ||| (q >>> 8 &&& 0x01).toUInt8) &&& 0x01).toUInt16 <<< 8 ||| (q &&& 0xFF).toUInt8.toUInt16 = q := by
    have hfield := congrArg ByteMessageInfo.acfMsgLength (unpackHeader_packHeader t q hdr)
    exact hfield.trans (and_quadletMask hq)
  have hpos : ¬((q.toNat : Int) + delta < 0 ∨ (q.toNat : Int) + delta > 0x1FF) := by omega
  have hof : UInt16.ofNat ((q.toNat : Int) + delta).toNat = r := by
    rw [hdelta, Int.toNat_natCast, UInt16.ofNat_toNat]
  have hfirst : ((t <<< 1 ||| (q >>> 8 &&& 0x01).toUInt8) &&& (0xFE : UInt8)) ||| (r >>> 8 &&& 0x01).toUInt8 =
      t <<< 1 ||| (r >>> 8 &&& 0x01).toUInt8 := by
    apply UInt8.toBitVec_inj.mp
    simp only [UInt8.toBitVec_or, UInt8.toBitVec_and, UInt8.toBitVec_shiftLeft, UInt16.toBitVec_toUInt8,
      UInt16.toBitVec_and, UInt16.toBitVec_shiftRight]
    ext i hi
    interval_cases i <;> simp
  have hlong : ¬(packHeader t q hdr ++ rest).length < 2 := by
    rw [List.length_append, packHeader_length]
    omega
  rw [adaptAcfMsgLength, if_neg hlong]
  simp only [packHeader, Octets.at, List.cons_append, List.getD_cons_zero, List.getD_cons_succ,
     hlen, hpos, hof, hfirst, if_false, List.drop_succ_cons, List.drop_zero]

/-! ### Messages -/

theorem padLen_lt (n : Nat) : padLen n < 4 := Nat.mod_lt _ (by decide)

/-- The quadlets of a message with `unpadded` octets before its pad. -/
def quadletsOf (unpadded : Nat) : Nat := (unpadded + padLen unpadded) / 4

theorem quadletsOf_mul (n : Nat) : quadletsOf n * 4 = n + padLen n := by
  simp only [quadletsOf, padLen]
  omega

/-- The octets every encoder builds: the header with the length and the pad filled in, the timestamp
    region where the form has one, the payload, the pad. -/
def framed (type : UInt8) (info : ByteMessageInfo) (region payload : Octets) : Octets :=
  let unpadded := abbHeaderLen + region.length + payload.length
  packHeader type (UInt16.ofNat (quadletsOf unpadded)) { info with pad := UInt8.ofNat (padLen unpadded) } ++ region ++
    payload ++ List.replicate (padLen unpadded) 0

/-- The header of such a message as it reads back. -/
def framedInfo (type : UInt8) (info : ByteMessageInfo) (region payload : Octets) : ByteMessageInfo :=
  let unpadded := abbHeaderLen + region.length + payload.length
  { info with pad := UInt8.ofNat (padLen unpadded) }.onWire type (UInt16.ofNat (quadletsOf unpadded))

section framed
variable (type : UInt8) (info : ByteMessageInfo) (region payload : Octets)

theorem framed_length :
    (framed type info region payload).length = quadletsOf (abbHeaderLen + region.length + payload.length) * 4 := by
  rw [quadletsOf_mul]
  simp only [framed, List.length_append, packHeader_length, List.length_replicate, abbHeaderLen]

theorem unpackHeader_framed : unpackHeader (framed type info region payload) = framedInfo type info region payload := by
  simp only [framed, framedInfo, List.append_assoc]
  rw [unpackHeader_append (by rw [packHeader_length]), unpackHeader_packHeader]

theorem framedInfo_pad :
    (framedInfo type info region payload).pad.toNat = padLen (abbHeaderLen + region.length + payload.length) := by
  have hlt := padLen_lt (abbHeaderLen + region.length + payload.length)
  generalize hpad : padLen (abbHeaderLen + region.length + payload.length) = pad at hlt
  simp only [framedInfo, ByteMessageInfo.onWire, hpad]
  interval_cases pad <;> rfl

/-- Re-framing what was read back. -/
theorem framed_framedInfo (region' payload' : Octets) :
    framed type (framedInfo type info region' payload') region payload = framed type info region payload := by
  simp only [framed, framedInfo, packHeader_onWire]

theorem framed_drop :
    (framed type info region payload).drop (abbHeaderLen + region.length) =
      payload ++ List.replicate (padLen (abbHeaderLen + region.length + payload.length)) 0 := by
  simp only [framed, List.append_assoc]
  rw [← List.append_assoc, List.drop_left' (by rw [List.length_append, packHeader_length, abbHeaderLen])]

theorem framedInfo_quadlets (hfits : quadletsOf (abbHeaderLen + region.length + payload.length) ≤ 0x1FF) :
    (framedInfo type info region payload).acfMsgLength.toNat =
      quadletsOf (abbHeaderLen + region.length + payload.length) := by
  have hof : (UInt16.ofNat (quadletsOf (abbHeaderLen + region.length + payload.length))).toNat =
      quadletsOf (abbHeaderLen + region.length + payload.length) := UInt16.toNat_ofNat_of_lt' (by
    rw [UInt16.size]
    omega)
  simp only [framedInfo, ByteMessageInfo.onWire]
  rw [and_quadletMask (by rw [hof]; exact hfits), hof]

theorem framed_type (htype : type = msgTypeAbb ∨ type = msgTypeGbb) :
    (framed type info region payload).at 0 >>> 1 = type := by
  have hfield : (framed type info region payload).at 0 >>> 1 = type &&& 0x7F :=
    congrArg ByteMessageInfo.acfMsgType (unpackHeader_framed type info region payload)
  rw [hfield]
  rcases htype with rfl | rfl <;> rfl

/-- What both decoders cut out of such a message. -/
theorem framed_body (hfits : quadletsOf (abbHeaderLen + region.length + payload.length) ≤ 0x1FF) :
    let hdr := framedInfo type info region payload
    let bodyLen := hdr.acfMsgLength.toNat * 4 - (abbHeaderLen + region.length)
    ((framed type info region payload).drop (abbHeaderLen + region.length)).take (bodyLen - hdr.pad.toNat) = payload := by
  intro hdr bodyLen
  have hmul := quadletsOf_mul (abbHeaderLen + region.length + payload.length)
  have hbody : bodyLen - hdr.pad.toNat = payload.length := by
    simp only [bodyLen, hdr, framedInfo_quadlets type info region payload hfits, framedInfo_pad]
    omega
  rw [framed_drop, hbody, List.take_left]

theorem decodeAbb_framed (hfits : quadletsOf (abbHeaderLen + payload.length) ≤ 0x1FF) :
    decodeAbb (framed msgTypeAbb info [] payload) =
      .ok ({ framedInfo msgTypeAbb info [] payload with mtv := mtvUntimed }, payload) := by
  have hlen := framed_length msgTypeAbb info [] payload
  have hq := framedInfo_quadlets msgTypeAbb info [] payload hfits
  have hpad := framedInfo_pad msgTypeAbb info [] payload
  have hmul := quadletsOf_mul (abbHeaderLen + ([] : Octets).length + payload.length)
  have hbody := framed_body msgTypeAbb info [] payload hfits
  have hregion : ([] : Octets).length = 0 := rfl
  have habb : abbHeaderLen = 8 := rfl
  rw [decodeAbb, if_neg (by omega), if_neg (not_not.mpr (framed_type _ _ _ _ (Or.inl rfl)))]
  simp only [unpackHeader_framed]
  rw [if_neg (by omega), if_neg (by omega), if_neg (by omega)]
  rw [show abbHeaderLen + ([] : Octets).length = abbHeaderLen from rfl] at hbody
  rw [hbody]

theorem decodeGbb_framed (ts : UInt64) (hfits : quadletsOf (gbbHeaderLen + payload.length) ≤ 0x1FF) :
    decodeGbb (framed msgTypeGbb info (putU64 ts) payload) =
      .ok ({ info := framedInfo msgTypeGbb info (putU64 ts) payload, messageTimestamp := ts }, payload) := by
  have hlen := framed_length msgTypeGbb info (putU64 ts) payload
  have hq := framedInfo_quadlets msgTypeGbb info (putU64 ts) payload hfits
  have hpad := framedInfo_pad msgTypeGbb info (putU64 ts) payload
  have hmul := quadletsOf_mul (abbHeaderLen + (putU64 ts).length + payload.length)
  have hbody := framed_body msgTypeGbb info (putU64 ts) payload hfits
  have hregion := putU64_length ts
  have habb : abbHeaderLen = 8 := rfl
  have hgbb : gbbHeaderLen = 16 := rfl
  have hts : getU64 (framed msgTypeGbb info (putU64 ts) payload) abbHeaderLen = ts := by
    simp only [framed, List.append_assoc]
    refine (getU64_append rfl).trans ?_
    rw [getU64_append_left (by rw [putU64_length]), getU64_putU64]
  rw [decodeGbb, if_neg (by omega), if_neg (not_not.mpr (framed_type _ _ _ _ (Or.inr rfl)))]
  simp only [unpackHeader_framed]
  rw [if_neg (by omega), if_neg (by omega), if_neg (by omega), hts]
  rw [show abbHeaderLen + (putU64 ts).length = gbbHeaderLen from rfl] at hbody
  rw [hbody]

end framed

/-! ### The encoders -/

theorem quadletsOf_le (n : Nat) : quadletsOf n ≤ 0x1FF ↔ n ≤ 0x1FF * 4 := by
  simp only [quadletsOf, padLen]
  omega

theorem quadlets_not_gt {n : Nat} (h : quadletsOf n ≤ 0x1FF) : ¬UInt16.ofNat ((n + padLen n) / 4) > maxQuadlets := by
  change ¬maxQuadlets < UInt16.ofNat (quadletsOf n)
  rw [UInt16.lt_iff_toNat_lt, UInt16.toNat_ofNat_of_lt' (by rw [UInt16.size]; omega)]
  exact Nat.not_lt.mpr h

theorem encodeAbb_eq_some {hdr : ByteMessageInfo} {payload m : Octets} :
    encodeAbb hdr payload = some m ↔
      quadletsOf (abbHeaderLen + payload.length) ≤ 0x1FF ∧ framed msgTypeAbb hdr [] payload = m := by
  by_cases hfits : quadletsOf (abbHeaderLen + payload.length) ≤ 0x1FF
  · have hle : ¬payload.length > abbMaxPayload := by
      have := (quadletsOf_le _).mp hfits
      simp only [abbMaxPayload, abbHeaderLen] at this ⊢
      omega
    simp only [encodeAbb, if_neg hle, if_neg (quadlets_not_gt hfits), Option.some.injEq, and_iff_right hfits]
    simp only [framed, List.length_nil, Nat.add_zero, List.append_nil, quadletsOf]
  · have hgt : payload.length > abbMaxPayload := by
      rw [quadletsOf_le] at hfits
      simp only [abbMaxPayload, abbHeaderLen] at hfits ⊢
      omega
    rw [encodeAbb, if_pos hgt]
    simp only [hfits, false_and, reduceCtorEq]

theorem gbb_fits_iff (payload : Octets) :
    quadletsOf (gbbHeaderLen + payload.length) ≤ 0x1FF ↔ ¬payload.length > gbbMaxPayload := by
  rw [quadletsOf_le]
  simp only [gbbMaxPayload, gbbHeaderLen]
  omega

/-- The timestamp region `rcp_acf_encode_gbb` writes. -/
def GbbHeader.region (hdr : GbbHeader) : UInt64 := if hdr.info.mtv = mtvUntimed then 0 else hdr.messageTimestamp

theorem encodeGbb_eq_some {hdr : GbbHeader} {payload m : Octets} :
    encodeGbb hdr payload = some m ↔
      quadletsOf (gbbHeaderLen + payload.length) ≤ 0x1FF ∧ framed msgTypeGbb hdr.info (putU64 hdr.region) payload = m := by
  by_cases hfits : quadletsOf (gbbHeaderLen + payload.length) ≤ 0x1FF
  · simp only [encodeGbb, if_neg ((gbb_fits_iff payload).mp hfits), if_neg (quadlets_not_gt hfits), Option.some.injEq,
      and_iff_right hfits]
    rfl
  · rw [encodeGbb, if_pos (not_not.mp (mt (gbb_fits_iff payload).mpr hfits))]
    simp only [hfits, false_and, reduceCtorEq]

/-- The header fields of a message that `encode_gbb_repurposed` builds. -/
def repurposedInfo (byteBusId : ByteBusId) (cs evt transactionNum : UInt8) : ByteMessageInfo :=
  { byteBusId := byteBusId, cs := cs, evt := evt, transactionNum := transactionNum }

theorem encodeGbbRepurposed_eq_some {byteBusId : ByteBusId} {cs evt transactionNum : UInt8} {ts : UInt64}
    {payload m : Octets} :
    encodeGbbRepurposed byteBusId cs evt transactionNum ts payload = some m ↔
      quadletsOf (gbbHeaderLen + payload.length) ≤ 0x1FF ∧
        framed msgTypeGbb (repurposedInfo byteBusId cs evt transactionNum) (putU64 ts) payload = m := by
  by_cases hfits : quadletsOf (gbbHeaderLen + payload.length) ≤ 0x1FF
  · simp only [encodeGbbRepurposed, if_neg ((gbb_fits_iff payload).mp hfits), Option.some.injEq, and_iff_right hfits]
    rfl
  · rw [encodeGbbRepurposed, if_pos (not_not.mp (mt (gbb_fits_iff payload).mpr hfits))]
    simp only [hfits, false_and, reduceCtorEq]

/-- `cancel_encode_gbb_repurposed` builds the same message, without a payload. -/
theorem cancelEncodeGbbRepurposed_eq (byteBusId : ByteBusId) (transactionNum : UInt8) (ts : UInt64) :
    cancelEncodeGbbRepurposed byteBusId transactionNum ts =
      framed msgTypeGbb (repurposedInfo byteBusId 0 0 transactionNum) (putU64 ts) [] := by
  simp only [framed, putU64_length, List.length_nil, List.append_nil]
  rfl

end Acf
end Rcp
