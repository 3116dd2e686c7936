import Rcp.Theorems.Canonical

/-! Both directions of the AVTP framing. The fixed part of a frame is an explicit list of octets, so that each
    field is read back at its own place; a frame that was accepted is that list again, octet by octet, with the
    payload the decoder cut out behind it. -/

namespace Rcp

/-! ### Stream identifiers -/

theorem lowOctet_word (v : UInt16) : (v &&& 0xFF).toUInt8 = v.toUInt8 := by
  apply UInt8.toBitVec_inj.mp
  simp only [UInt16.toBitVec_toUInt8, UInt16.toBitVec_and]
  ext i hi
  interval_cases i <;> simp

/-- A stream identifier is its eight octets. -/
theorem StreamId.exists_octets (id : StreamId) :
    ∃ a b c d e f uniqueId, id = { mac := #v[a, b, c, d, e, f], uniqueId } := by
  refine ⟨id.mac[0], id.mac[1], id.mac[2], id.mac[3], id.mac[4], id.mac[5], id.uniqueId, ?_⟩
  refine congrArg (StreamId.mk · id.uniqueId) (Vector.ext fun i hi => ?_)
  interval_cases i <;> rfl

theorem putStreamId_mk (a b c d e f : UInt8) (uniqueId : UInt16) :
    putStreamId { mac := #v[a, b, c, d, e, f], uniqueId } =
      [a, b, c, d, e, f, (uniqueId >>> 8).toUInt8, uniqueId.toUInt8] := by
  rw [putStreamId, putU16, lowOctet_word]
  rfl

theorem putStreamId_octets (id : StreamId) :
    ∃ a b c d e f x y, putStreamId id = [a, b, c, d, e, f, x, y] := by
  obtain ⟨a, b, c, d, e, f, uniqueId, rfl⟩ := id.exists_octets
  exact ⟨_, _, _, _, _, _, _, _, putStreamId_mk a b c d e f uniqueId⟩

theorem putStreamId_length (id : StreamId) : (putStreamId id).length = 8 := by
  obtain ⟨a, b, c, d, e, f, x, y, hoctets⟩ := putStreamId_octets id
  rw [hoctets]
  rfl

/-- The 64-bit form of a stream identifier is the big-endian value of its octets. -/
theorem getU64_putStreamId (id : StreamId) : getU64 (putStreamId id) 0 = id.toU64 := by
  obtain ⟨a, b, c, d, e, f, uniqueId, rfl⟩ := id.exists_octets
  rw [putStreamId_mk]
  simp only [getU64, StreamId.toU64, Octets.at, List.getD_cons_zero, List.getD_cons_succ, Nat.zero_add,
    Vector.getElem_mk, List.getElem_toArray, List.getElem_cons_zero, List.getElem_cons_succ]
  apply UInt64.toBitVec_inj.mp
  apply BitVec.eq_of_getLsbD_eq
  intro i hi
  simp only [UInt64.toBitVec_or, UInt64.toBitVec_shiftLeft, UInt8.toBitVec_toUInt64, UInt16.toBitVec_toUInt64,
    UInt16.toBitVec_toUInt8, UInt16.toBitVec_shiftRight, UInt64.toBitVec_ofNat, UInt16.toBitVec_ofNat,
    BitVec.shiftLeft_eq', BitVec.ushiftRight_eq', BitVec.getLsbD_or, BitVec.getLsbD_shiftLeft,
    BitVec.getLsbD_ushiftRight, BitVec.getLsbD_setWidth]
  grind

theorem putStreamId_fromU64 (v : UInt64) : putStreamId (StreamId.fromU64 v) = putU64 v := by
  simp only [StreamId.fromU64, putStreamId_mk, putU64, List.cons.injEq, and_true, true_and]
  refine ⟨?_, ?_, ?_, ?_, ?_, ?_, ?_⟩
  all_goals
    apply UInt8.toBitVec_inj.mp
    simp only [UInt64.toBitVec_toUInt8, UInt64.toBitVec_and, UInt64.toBitVec_shiftRight, UInt16.toBitVec_toUInt8,
      UInt16.toBitVec_shiftRight, UInt64.toBitVec_toUInt16]
    ext i hi
    interval_cases i <;> simp

theorem getStreamId_append {a b : Octets} {n : Nat} (h : n = a.length) : getStreamId (a ++ b) n = getStreamId b 0 := by
  subst h
  have hzero : Octets.at (a ++ b) a.length = b.at 0 := Octets.at_append_right a b 0
  simp only [getStreamId, be16, hzero, Nat.add_assoc, Octets.at_append_right, Nat.zero_add]

theorem getStreamId_putStreamId (id : StreamId) (rest : Octets) : getStreamId (putStreamId id ++ rest) 0 = id := by
  obtain ⟨a, b, c, d, e, f, uniqueId, rfl⟩ := id.exists_octets
  have huid : be16 (putU16 uniqueId) 0 = uniqueId := be16_putU16 uniqueId
  change StreamId.mk #v[a, b, c, d, e, f] (be16 (putU16 uniqueId) 0) = _
  rw [huid]

theorem putStreamId_getStreamId (b : Octets) (n : Nat) :
    putStreamId (getStreamId b n) =
      [b.at n, b.at (n + 1), b.at (n + 2), b.at (n + 3), b.at (n + 4), b.at (n + 5), b.at (n + 6), b.at (n + 7)] := by
  rw [putStreamId, getStreamId, putU16_be16]
  rfl

namespace StreamId

theorem fromU64_toU64 (id : StreamId) : fromU64 id.toU64 = id := by
  have hoctets : putStreamId (fromU64 id.toU64) = putStreamId id := by
    obtain ⟨a, b, c, d, e, f, x, y, hoctets⟩ := putStreamId_octets id
    rw [putStreamId_fromU64, ← getU64_putStreamId, putU64_getU64, hoctets]
    rfl
  have hback := getStreamId_putStreamId (fromU64 id.toU64) []
  rw [hoctets, getStreamId_putStreamId] at hback
  exact hback.symm

theorem toU64_fromU64 (v : UInt64) : (fromU64 v).toU64 = v := by
  rw [← getU64_putStreamId, putStreamId_fromU64, getU64_putU64]

end StreamId

theorem putStreamId_eq_putU64 (id : StreamId) : putStreamId id = putU64 id.toU64 := by
  rw [← putStreamId_fromU64, StreamId.fromU64_toU64]

/-! ### Frames -/

/-- The payload of a frame is what stands behind its fixed part, whatever follows. -/
theorem payload_of_append {fixed : Octets} {n : Nat} (h : fixed.length = n) (payload rest : Octets) :
    ((fixed ++ payload ++ rest).drop n).take payload.length = payload := by
  rw [List.append_assoc, List.drop_left' h, List.take_left' rfl]

/-- A frame is put together again from its fixed part and the payload cut out behind it. -/
theorem take_eq_fixed_append {b fixed : Octets} {n k : Nat} (h : n ≤ b.length)
    (hfixed : fixed = (List.range n).map b.at) : fixed ++ (b.drop n).take k = b.take (n + k) := by
  have hzero : (b.drop 0).take n = (List.range n).map fun i => b.at (0 + i) := Acf.take_drop_eq_at (by omega)
  simp only [List.drop_zero, Nat.zero_add] at hzero
  rw [List.take_add, hzero, hfixed]

theorem toNat_ofNat_length {payload : Octets} {m : Nat} (h : payload.length ≤ m) (hm : m < 65536) :
    (UInt16.ofNat payload.length).toNat = payload.length :=
  UInt16.toNat_ofNat_of_lt' (Nat.lt_of_le_of_lt h hm)

/-! ### NTSCF -/

/-- What the wire carries of a header in front of `n` payload octets. -/
def NtscfHeader.onWire (hdr : NtscfHeader) (n : Nat) : NtscfHeader where
  sv := hdr.sv &&& 0x1
  version := hdr.version &&& 0x7
  ntscfDataLength := UInt16.ofNat n
  sequenceNum := hdr.sequenceNum
  streamId := hdr.streamId

/-- The reserved bit of an NTSCF frame is zero. -/
def NtscfReservedZero (b : Octets) : Prop := b.at 1 &&& 0x08 = 0

theorem ntscfOctets_unpack (sv version : UInt8) (len : UInt16) :
    let octet : UInt8 := (sv &&& 0x1) <<< 7 ||| (version &&& 0x7) <<< 4 ||| (len >>> 8 &&& 0x7).toUInt8
    octet >>> 7 &&& 0x1 = sv &&& 0x1 ∧ octet >>> 4 &&& 0x7 = version &&& 0x7 ∧
      (octet &&& 0x07).toUInt16 <<< 8 ||| (len &&& 0xFF).toUInt8.toUInt16 = len &&& 0x7FF := by
  refine ⟨?_, ?_, ?_⟩
  all_goals
    first | apply UInt8.toBitVec_inj.mp | apply UInt16.toBitVec_inj.mp
    simp only [UInt8.toBitVec_or, UInt8.toBitVec_and, UInt8.toBitVec_shiftLeft, UInt8.toBitVec_shiftRight,
      UInt8.toBitVec_toUInt16, UInt16.toBitVec_toUInt8, UInt16.toBitVec_and, UInt16.toBitVec_or,
      UInt16.toBitVec_shiftRight, UInt16.toBitVec_shiftLeft]
    ext i hi
    interval_cases i <;> simp

theorem ntscfOctet1_pack {x : UInt8} (hx : x &&& 0x08 = 0) :
    (x >>> 7 &&& 0x1) <<< 7 ||| (x >>> 4 &&& 0x7) <<< 4 ||| (x &&& 0x07) = x := by
  have h3 := Acf.getLsbD_of_and_eq_zero hx (i := 3) (by decide)
  simp only [BitVec.getLsbD_eq_getElem, Nat.reduceLT] at h3
  apply UInt8.toBitVec_inj.mp
  simp only [UInt8.toBitVec_or, UInt8.toBitVec_and, UInt8.toBitVec_shiftLeft, UInt8.toBitVec_shiftRight]
  ext i hi
  interval_cases i <;> simp [h3]

theorem and_lengthMask {n : Nat} (h : n ≤ avtpNtscfMaxPayload) : UInt16.ofNat n &&& 0x7FF = UInt16.ofNat n := by
  have hn : n < UInt16.size := Nat.lt_of_le_of_lt h (by decide)
  apply UInt16.toNat_inj.mp
  rw [UInt16.toNat_and, UInt16.toNat_ofNat_of_lt' hn]
  exact Nat.and_two_pow_sub_one_of_lt_two_pow (n := 11) (Nat.lt_succ_of_le h)

/-- What the decoder reads of a frame whose length field is right. -/
theorem avtpDecodeNtscf_framed (o1 o2 seq : UInt8) (id : StreamId) {payload : Octets} (rest : Octets)
    (hdlen : ((o1 &&& 0x07).toUInt16 <<< 8 ||| o2.toUInt16).toNat = payload.length) :
    avtpDecodeNtscf ([avtpSubtypeNtscf, o1, o2, seq] ++ putStreamId id ++ payload ++ rest) =
      .ok ({ sv := o1 >>> 7 &&& 0x1, version := o1 >>> 4 &&& 0x7,
             ntscfDataLength := (o1 &&& 0x07).toUInt16 <<< 8 ||| o2.toUInt16, sequenceNum := seq, streamId := id },
           payload) := by
  have hfixed : ([avtpSubtypeNtscf, o1, o2, seq] ++ putStreamId id).length = avtpNtscfHeaderLen := by
    rw [List.length_append, putStreamId_length]
    rfl
  have hlen : ([avtpSubtypeNtscf, o1, o2, seq] ++ putStreamId id ++ payload ++ rest).length =
      avtpNtscfHeaderLen + payload.length + rest.length := by
    rw [List.length_append, List.length_append, hfixed]
  have hid : getStreamId ([avtpSubtypeNtscf, o1, o2, seq] ++ putStreamId id ++ payload ++ rest) 4 = id := by
    rw [List.append_assoc, List.append_assoc, getStreamId_append (n := 4) rfl, getStreamId_putStreamId]
  have hbody := payload_of_append hfixed payload rest
  generalize hb : [avtpSubtypeNtscf, o1, o2, seq] ++ putStreamId id ++ payload ++ rest = b at *
  have h0 : Octets.at b 0 = avtpSubtypeNtscf := by rw [← hb]; rfl
  have h1 : Octets.at b 1 = o1 := by rw [← hb]; rfl
  have h2 : Octets.at b 2 = o2 := by rw [← hb]; rfl
  have h3 : Octets.at b 3 = seq := by rw [← hb]; rfl
  unfold avtpDecodeNtscf
  rw [if_neg (by omega), if_neg (not_not.mpr h0)]
  simp only [h1, h2, h3, hid, hdlen, hbody]
  rw [if_neg (by omega)]

theorem avtpDecodeNtscf_encode (hdr : NtscfHeader) {payload : Octets} (hlen : payload.length ≤ avtpNtscfMaxPayload) :
    ∃ f, avtpEncodeNtscf hdr payload = some f ∧ f.length = avtpNtscfHeaderLen + payload.length ∧
      (∀ rest, avtpDecodeNtscf (f ++ rest) = .ok (hdr.onWire payload.length, payload)) ∧
      (f.drop 4).take 8 = putU64 hdr.streamId.toU64 := by
  rw [avtpEncodeNtscf, if_neg (Nat.not_lt.mpr hlen)]
  refine ⟨_, rfl, ?_, ?_, ?_⟩
  · simp only [List.length_append, List.length_cons, List.length_nil, putStreamId_length, avtpNtscfHeaderLen]
  · intro rest
    obtain ⟨hsv, hversion, hdlen⟩ := ntscfOctets_unpack hdr.sv hdr.version (UInt16.ofNat payload.length)
    rw [and_lengthMask hlen] at hdlen
    rw [avtpDecodeNtscf_framed]
    · rw [hdlen, hsv, hversion]
      rfl
    · rw [hdlen, toNat_ofNat_length hlen (by decide)]
  · rw [List.append_assoc]
    exact (List.take_left' (putStreamId_length _)).trans (putStreamId_eq_putU64 _)

theorem avtpDecodeNtscf_eq_ok {b payload : Octets} {hdr : NtscfHeader} (h : avtpDecodeNtscf b = .ok (hdr, payload)) :
    b.at 0 = avtpSubtypeNtscf ∧ avtpNtscfHeaderLen + hdr.ntscfDataLength.toNat ≤ b.length ∧
      hdr = { sv := b.at 1 >>> 7 &&& 0x1, version := b.at 1 >>> 4 &&& 0x7,
              ntscfDataLength := (b.at 1 &&& 0x07).toUInt16 <<< 8 ||| (b.at 2).toUInt16, sequenceNum := b.at 3,
              streamId := getStreamId b 4 } ∧
      payload = (b.drop avtpNtscfHeaderLen).take hdr.ntscfDataLength.toNat := by
  unfold avtpDecodeNtscf at h
  split at h
  · cases h
  split at h
  · cases h
  rename_i hsubtype
  simp only at h
  split at h
  · cases h
  rename_i hshort
  obtain ⟨rfl, rfl⟩ := Prod.mk.inj (Except.ok.inj h)
  exact ⟨not_not.mp hsubtype, Nat.not_lt.mp hshort, rfl, rfl⟩

theorem avtpDecodeNtscf_inside {b payload : Octets} {hdr : NtscfHeader} (h : avtpDecodeNtscf b = .ok (hdr, payload)) :
    payload.length = hdr.ntscfDataLength.toNat ∧ avtpNtscfHeaderLen + payload.length ≤ b.length ∧
      payload = (b.drop avtpNtscfHeaderLen).take payload.length := by
  obtain ⟨-, hin, -, hpayload⟩ := avtpDecodeNtscf_eq_ok h
  have hlen : payload.length = hdr.ntscfDataLength.toNat := by
    rw [hpayload, List.length_take, List.length_drop]
    omega
  rw [hlen]
  exact ⟨rfl, hin, hpayload⟩

theorem ntscfLength_le (x y : UInt8) : ((x &&& 0x07).toUInt16 <<< 8 ||| y.toUInt16).toNat ≤ avtpNtscfMaxPayload :=
  Acf.wideField_le x y 0x07

theorem avtpEncodeNtscf_decode {b payload : Octets} {hdr : NtscfHeader} (h : avtpDecodeNtscf b = .ok (hdr, payload))
    (hres : NtscfReservedZero b) :
    avtpEncodeNtscf hdr payload = some (b.take (avtpNtscfHeaderLen + hdr.ntscfDataLength.toNat)) := by
  obtain ⟨hsubtype, hin, hhdr, hpayload⟩ := avtpDecodeNtscf_eq_ok h
  have hlen := (avtpDecodeNtscf_inside h).1
  have hmax : payload.length ≤ avtpNtscfMaxPayload := by
    rw [hlen, hhdr]
    exact ntscfLength_le (b.at 1) (b.at 2)
  have hhigh : (((b.at 1 &&& 0x07).toUInt16 <<< 8 ||| (b.at 2).toUInt16) >>> 8 &&& (0x7 : UInt16)).toUInt8 =
      b.at 1 &&& 0x07 := Acf.highOctet_masked (b.at 1) (b.at 2) 0x07
  have hback : UInt16.ofNat payload.length = hdr.ntscfDataLength := by rw [hlen, UInt16.ofNat_toNat]
  rw [avtpEncodeNtscf, if_neg (Nat.not_lt.mpr hmax), hback]
  simp only [Option.some.injEq]
  rw [hpayload]
  apply take_eq_fixed_append (by omega)
  rw [hhdr]
  simp only [putStreamId_getStreamId, Acf.and_and_mask, hhigh, ntscfOctet1_pack hres, Acf.lowOctet_pack, ← hsubtype]
  rfl

/-! ### TSCF -/

/-- What the wire carries of a header in front of `n` payload octets. The reserved fields are not carried. -/
def TscfHeader.onWire (hdr : TscfHeader) (n : Nat) : TscfHeader where
  sv := hdr.sv &&& 0x1
  version := hdr.version &&& 0x7
  mr := hdr.mr &&& 0x1
  tv := hdr.tv &&& 0x1
  sequenceNum := hdr.sequenceNum
  tu := hdr.tu &&& 0x1
  streamId := hdr.streamId
  avtpTimestamp := hdr.avtpTimestamp
  streamDataLength := UInt16.ofNat n
  reserved0 := 0
  reserved1 := 0

/-- The reserved bits of a TSCF frame are zero: octet 1 bits 2:1, octet 3 bits 7:1, octets 16 to 19, 22 and 23. -/
def TscfReservedZero (b : Octets) : Prop :=
  b.at 1 &&& 0x06 = 0 ∧ b.at 3 &&& 0xFE = 0 ∧ ∀ i ∈ [16, 17, 18, 19, 22, 23], b.at i = 0

theorem tscfOctet1_unpack (sv version mr tv : UInt8) :
    let octet : UInt8 :=
      (sv &&& 0x1) <<< 7 ||| (version &&& 0x7) <<< 4 ||| (mr &&& 0x1) <<< 3 ||| (tv &&& 0x1)
    octet >>> 7 &&& 0x1 = sv &&& 0x1 ∧ octet >>> 4 &&& 0x7 = version &&& 0x7 ∧
      octet >>> 3 &&& 0x1 = mr &&& 0x1 ∧ octet &&& 0x1 = tv &&& 0x1 := by
  refine ⟨?_, ?_, ?_, ?_⟩
  all_goals
    apply UInt8.toBitVec_inj.mp
    simp only [UInt8.toBitVec_or, UInt8.toBitVec_and, UInt8.toBitVec_shiftLeft, UInt8.toBitVec_shiftRight]
    ext i hi
    interval_cases i <;> simp

theorem tscfOctet1_pack {x : UInt8} (hx : x &&& 0x06 = 0) :
    (x >>> 7 &&& 0x1) <<< 7 ||| (x >>> 4 &&& 0x7) <<< 4 ||| (x >>> 3 &&& 0x1) <<< 3 ||| (x &&& 0x1) = x := by
  have h1 := Acf.getLsbD_of_and_eq_zero hx (i := 1) (by decide)
  have h2 := Acf.getLsbD_of_and_eq_zero hx (i := 2) (by decide)
  simp only [BitVec.getLsbD_eq_getElem, Nat.reduceLT] at h1 h2
  apply UInt8.toBitVec_inj.mp
  simp only [UInt8.toBitVec_or, UInt8.toBitVec_and, UInt8.toBitVec_shiftLeft, UInt8.toBitVec_shiftRight]
  ext i hi
  interval_cases i <;> simp [h1, h2]

theorem tscfOctet3_pack {x : UInt8} (hx : x &&& 0xFE = 0) : x &&& 0x1 = x := by
  have hsplit : (x &&& 0x1) ||| (x &&& 0xFE) = x := by
    apply UInt8.toBitVec_inj.mp
    simp only [UInt8.toBitVec_or, UInt8.toBitVec_and]
    ext i hi
    interval_cases i <;> simp
  rw [hx, UInt8.or_zero] at hsplit
  exact hsplit

/-- The fixed part of a TSCF frame. -/
def tscfFixed (o1 seq o3 : UInt8) (id : StreamId) (ts : UInt32) (len : UInt16) : Octets :=
  [avtpSubtypeTscf, o1, seq, o3] ++ putStreamId id ++ putU32 ts ++ [0, 0, 0, 0] ++ putU16 len ++ [0, 0]

theorem tscfFixed_length (o1 seq o3 : UInt8) (id : StreamId) (ts : UInt32) (len : UInt16) :
    (tscfFixed o1 seq o3 id ts len).length = avtpTscfHeaderLen := by
  simp only [tscfFixed, List.length_append, putStreamId_length, putU32_length, putU16_length, List.length_cons,
    List.length_nil, avtpTscfHeaderLen]

/-- What the decoder reads of a frame whose length field is right. -/
theorem avtpDecodeTscf_framed (o1 seq o3 : UInt8) (id : StreamId) (ts : UInt32) {len : UInt16} {payload : Octets}
    (rest : Octets) (hlen : len.toNat = payload.length) :
    avtpDecodeTscf (tscfFixed o1 seq o3 id ts len ++ payload ++ rest) =
      .ok ({ sv := o1 >>> 7 &&& 0x1, version := o1 >>> 4 &&& 0x7, mr := o1 >>> 3 &&& 0x1, tv := o1 &&& 0x1,
             sequenceNum := seq, tu := o3 &&& 0x1, streamId := id, avtpTimestamp := ts, streamDataLength := len,
             reserved0 := 0, reserved1 := 0 }, payload) := by
  have hfixed := tscfFixed_length o1 seq o3 id ts len
  have hbody := payload_of_append hfixed payload rest
  have hall : (tscfFixed o1 seq o3 id ts len ++ payload ++ rest).length =
      avtpTscfHeaderLen + payload.length + rest.length := by
    rw [List.length_append, List.length_append, hfixed]
  have hid : getStreamId (tscfFixed o1 seq o3 id ts len ++ payload ++ rest) 4 = id := by
    simp only [tscfFixed, List.append_assoc]
    rw [getStreamId_append (n := 4) rfl, getStreamId_putStreamId]
  obtain ⟨a, b, c, d, e, f, x, y, hoctets⟩ := putStreamId_octets id
  have hts : getU32 (tscfFixed o1 seq o3 id ts len ++ payload ++ rest) 12 = ts := by
    rw [tscfFixed, hoctets]
    exact getU32_putU32 ts
  have hdlen : be16 (tscfFixed o1 seq o3 id ts len ++ payload ++ rest) 20 = len := by
    rw [tscfFixed, hoctets]
    exact be16_putU16 len
  have hzero : getU32 (tscfFixed o1 seq o3 id ts len ++ payload ++ rest) 16 = 0 := by
    rw [tscfFixed, hoctets]
    exact (by decide : getU32 [0, 0, 0, 0] 0 = 0)
  have hzero' : be16 (tscfFixed o1 seq o3 id ts len ++ payload ++ rest) 22 = 0 := by
    rw [tscfFixed, hoctets]
    exact (by decide : be16 [0, 0] 0 = 0)
  generalize hb : tscfFixed o1 seq o3 id ts len ++ payload ++ rest = b at *
  have h0 : Octets.at b 0 = avtpSubtypeTscf := by rw [← hb]; rfl
  have h1 : Octets.at b 1 = o1 := by rw [← hb]; rfl
  have h2 : Octets.at b 2 = seq := by rw [← hb]; rfl
  have h3 : Octets.at b 3 = o3 := by rw [← hb]; rfl
  unfold avtpDecodeTscf
  rw [if_neg (by omega), if_neg (not_not.mpr h0)]
  simp only [h1, h2, h3, hid, hts, hdlen, hzero, hzero', hlen, hbody]
  rw [if_neg (by omega)]

theorem avtpDecodeTscf_encode (hdr : TscfHeader) {payload : Octets} (hlen : payload.length ≤ avtpTscfMaxPayload) :
    ∃ f, avtpEncodeTscf hdr payload = some f ∧ f.length = avtpTscfHeaderLen + payload.length ∧
      (∀ rest, avtpDecodeTscf (f ++ rest) = .ok (hdr.onWire payload.length, payload)) ∧
      (f.drop 4).take 8 = putU64 hdr.streamId.toU64 := by
  rw [avtpEncodeTscf, if_neg (Nat.not_lt.mpr hlen), ← tscfFixed]
  refine ⟨_, rfl, ?_, ?_, ?_⟩
  · rw [List.length_append, tscfFixed_length]
  · intro rest
    obtain ⟨hsv, hversion, hmr, htv⟩ := tscfOctet1_unpack hdr.sv hdr.version hdr.mr hdr.tv
    rw [avtpDecodeTscf_framed _ _ _ _ _ rest (toNat_ofNat_length hlen (by decide)), hsv, hversion, hmr, htv,
      Acf.and_and_mask]
    rfl
  · simp only [tscfFixed, List.append_assoc]
    exact (List.take_left' (putStreamId_length _)).trans (putStreamId_eq_putU64 _)

theorem avtpDecodeTscf_eq_ok {b payload : Octets} {hdr : TscfHeader} (h : avtpDecodeTscf b = .ok (hdr, payload)) :
    b.at 0 = avtpSubtypeTscf ∧ avtpTscfHeaderLen + hdr.streamDataLength.toNat ≤ b.length ∧
      hdr = { sv := b.at 1 >>> 7 &&& 0x1, version := b.at 1 >>> 4 &&& 0x7, mr := b.at 1 >>> 3 &&& 0x1,
              tv := b.at 1 &&& 0x1, sequenceNum := b.at 2, tu := b.at 3 &&& 0x1, streamId := getStreamId b 4,
              avtpTimestamp := getU32 b 12, streamDataLength := be16 b 20, reserved0 := getU32 b 16,
              reserved1 := be16 b 22 } ∧
      payload = (b.drop avtpTscfHeaderLen).take hdr.streamDataLength.toNat := by
  unfold avtpDecodeTscf at h
  split at h
  · cases h
  split at h
  · cases h
  rename_i hsubtype
  simp only at h
  split at h
  · cases h
  rename_i hshort
  obtain ⟨rfl, rfl⟩ := Prod.mk.inj (Except.ok.inj h)
  exact ⟨not_not.mp hsubtype, Nat.not_lt.mp hshort, rfl, rfl⟩

theorem avtpDecodeTscf_inside {b payload : Octets} {hdr : TscfHeader} (h : avtpDecodeTscf b = .ok (hdr, payload)) :
    payload.length = hdr.streamDataLength.toNat ∧ avtpTscfHeaderLen + payload.length ≤ b.length ∧
      payload = (b.drop avtpTscfHeaderLen).take payload.length := by
  obtain ⟨-, hin, -, hpayload⟩ := avtpDecodeTscf_eq_ok h
  have hlen : payload.length = hdr.streamDataLength.toNat := by
    rw [hpayload, List.length_take, List.length_drop]
    omega
  rw [hlen]
  exact ⟨rfl, hin, hpayload⟩

theorem avtpEncodeTscf_decode {b payload : Octets} {hdr : TscfHeader} (h : avtpDecodeTscf b = .ok (hdr, payload))
    (hres : TscfReservedZero b) :
    avtpEncodeTscf hdr payload = some (b.take (avtpTscfHeaderLen + hdr.streamDataLength.toNat)) := by
  obtain ⟨hsubtype, hin, hhdr, hpayload⟩ := avtpDecodeTscf_eq_ok h
  have hlen := (avtpDecodeTscf_inside h).1
  have hmax : payload.length ≤ avtpTscfMaxPayload := by
    rw [hlen]
    exact Nat.le_of_lt_succ hdr.streamDataLength.toNat_lt
  have hback : UInt16.ofNat payload.length = hdr.streamDataLength := by rw [hlen, UInt16.ofNat_toNat]
  rw [avtpEncodeTscf, if_neg (Nat.not_lt.mpr hmax), hback]
  simp only [Option.some.injEq]
  rw [hpayload]
  apply take_eq_fixed_append (by omega)
  obtain ⟨h1, h3, hzero⟩ := hres
  simp only [List.forall_mem_cons, List.not_mem_nil, false_implies, implies_true, and_true] at hzero
  obtain ⟨h16, h17, h18, h19, h22, h23⟩ := hzero
  have hrange : (List.range avtpTscfHeaderLen).map b.at =
      [b.at 0, b.at 1, b.at 2, b.at 3] ++ [b.at 4, b.at 5, b.at 6, b.at 7, b.at 8, b.at 9, b.at 10, b.at 11] ++
        [b.at 12, b.at 13, b.at 14, b.at 15] ++ [b.at 16, b.at 17, b.at 18, b.at 19] ++ [b.at 20, b.at 21] ++
        [b.at 22, b.at 23] := rfl
  rw [hrange, h16, h17, h18, h19, h22, h23, hhdr]
  simp only [putStreamId_getStreamId, putU32_getU32, putU16_be16, Acf.and_and_mask, tscfOctet1_pack h1,
    tscfOctet3_pack h3, ← hsubtype]

/-! ### The codec -/

/-- The framing. What is sent comes back whatever follows the frame, save the reserved fields of a TSCF header,
    which are sent as zero; a frame that was accepted is built again octet for octet once its reserved bits are
    zero; a payload lies inside its frame; and a stream identifier is the big-endian number of its octets. -/
theorem framing_exact :
    (∀ (hdr : NtscfHeader) (payload : Octets), payload.length ≤ avtpNtscfMaxPayload →
      ∃ f, avtpEncodeNtscf hdr payload = some f ∧ f.length = avtpNtscfHeaderLen + payload.length ∧
        (∀ rest, avtpDecodeNtscf (f ++ rest) = .ok (hdr.onWire payload.length, payload)) ∧
        (hdr.onWire payload.length).ntscfDataLength.toNat = payload.length ∧
        (f.drop 4).take 8 = putU64 hdr.streamId.toU64) ∧
    (∀ (hdr : TscfHeader) (payload : Octets), payload.length ≤ avtpTscfMaxPayload →
      ∃ f, avtpEncodeTscf hdr payload = some f ∧ f.length = avtpTscfHeaderLen + payload.length ∧
        (∀ rest, avtpDecodeTscf (f ++ rest) = .ok (hdr.onWire payload.length, payload)) ∧
        (hdr.onWire payload.length).streamDataLength.toNat = payload.length ∧
        (f.drop 4).take 8 = putU64 hdr.streamId.toU64) ∧
    (∀ (b : Octets) (hdr : NtscfHeader) (payload : Octets), avtpDecodeNtscf b = .ok (hdr, payload) →
      (payload.length = hdr.ntscfDataLength.toNat ∧ avtpNtscfHeaderLen + payload.length ≤ b.length ∧
        payload = (b.drop avtpNtscfHeaderLen).take payload.length) ∧
      (NtscfReservedZero b →
        avtpEncodeNtscf hdr payload = some (b.take (avtpNtscfHeaderLen + hdr.ntscfDataLength.toNat)))) ∧
    (∀ (b : Octets) (hdr : TscfHeader) (payload : Octets), avtpDecodeTscf b = .ok (hdr, payload) →
      (payload.length = hdr.streamDataLength.toNat ∧ avtpTscfHeaderLen + payload.length ≤ b.length ∧
        payload = (b.drop avtpTscfHeaderLen).take payload.length) ∧
      (TscfReservedZero b →
        avtpEncodeTscf hdr payload = some (b.take (avtpTscfHeaderLen + hdr.streamDataLength.toNat)))) ∧
    (∀ id : StreamId, StreamId.fromU64 id.toU64 = id ∧ putStreamId id = putU64 id.toU64) ∧
    (∀ v : UInt64, (StreamId.fromU64 v).toU64 = v) := by
  refine ⟨?_, ?_, ?_, ?_, ?_, StreamId.toU64_fromU64⟩
  · intro hdr payload hlen
    obtain ⟨f, hf, hflen, hback, hid⟩ := avtpDecodeNtscf_encode hdr hlen
    exact ⟨f, hf, hflen, hback, toNat_ofNat_length hlen (by decide), hid⟩
  · intro hdr payload hlen
    obtain ⟨f, hf, hflen, hback, hid⟩ := avtpDecodeTscf_encode hdr hlen
    exact ⟨f, hf, hflen, hback, toNat_ofNat_length hlen (by decide), hid⟩
  · intro b hdr payload h
    exact ⟨avtpDecodeNtscf_inside h, avtpEncodeNtscf_decode h⟩
  · intro b hdr payload h
    exact ⟨avtpDecodeTscf_inside h, avtpEncodeTscf_decode h⟩
  · intro id
    exact ⟨id.fromU64_toU64, putStreamId_eq_putU64 id⟩

/-- The stream of the frames below. -/
def plainStream : StreamId where
  mac := #v[0x02, 0, 0, 0, 0, 0x01]
  uniqueId := 0x0203

/-- An NTSCF frame of two payload octets, and the header it carries. -/
def ntscfFrame : Octets := [0x82, 0x80, 2, 9, 0x02, 0, 0, 0, 0, 0x01, 0x02, 0x03, 0xAA, 0xBB]

def ntscfFrameHeader : NtscfHeader where
  sv := 1
  version := 0
  ntscfDataLength := 2
  sequenceNum := 9
  streamId := plainStream

/-- A TSCF frame of one payload octet, and the header it carries. -/
def tscfFrame : Octets :=
  [0x05, 0x81, 9, 0, 0x02, 0, 0, 0, 0, 0x01, 0x02, 0x03, 0, 0, 1, 0, 0, 0, 0, 0, 0, 1, 0, 0, 0xAA]

def tscfFrameHeader : TscfHeader where
  sv := 1
  version := 0
  mr := 0
  tv := 1
  sequenceNum := 9
  tu := 0
  streamId := plainStream
  avtpTimestamp := 0x100
  streamDataLength := 1
  reserved0 := 0
  reserved1 := 0

theorem framing_exact_frames :
    (∃ f, avtpEncodeNtscf ntscfFrameHeader [0xAA, 0xBB] = some f ∧
        avtpDecodeNtscf (f ++ [7]) = .ok (ntscfFrameHeader, [0xAA, 0xBB])) ∧
      (∃ f, avtpEncodeTscf tscfFrameHeader [0xAA] = some f ∧
        avtpDecodeTscf (f ++ [7]) = .ok (tscfFrameHeader, [0xAA])) ∧
      avtpEncodeNtscf ntscfFrameHeader [0xAA, 0xBB] = some ntscfFrame ∧
      avtpEncodeTscf tscfFrameHeader [0xAA] = some tscfFrame := by
  obtain ⟨hntscf, htscf, hntscfBack, htscfBack, -⟩ := framing_exact
  have hplain : avtpDecodeNtscf (ntscfFrame ++ [7]) = .ok (ntscfFrameHeader, [0xAA, 0xBB]) := by decide +kernel
  have htimed : avtpDecodeTscf (tscfFrame ++ [7]) = .ok (tscfFrameHeader, [0xAA]) := by decide +kernel
  obtain ⟨f, hf, -, hdec, -⟩ := hntscf ntscfFrameHeader [0xAA, 0xBB] (by decide)
  obtain ⟨g, hg, -, hdec', -⟩ := htscf tscfFrameHeader [0xAA] (by decide)
  refine ⟨⟨f, hf, hdec [7]⟩, ⟨g, hg, hdec' [7]⟩, ?_, ?_⟩
  · exact (hntscfBack _ _ _ hplain).2 rfl
  · exact (htscfBack _ _ _ htimed).2 ⟨by decide, by decide, by decide⟩

/-- A header with something in a reserved field comes back without it. -/
theorem reserved_not_carried :
    ∃ f h, avtpEncodeTscf { tscfFrameHeader with reserved0 := 5 } [0xAA] = some f ∧
      avtpDecodeTscf f = .ok (h, [0xAA]) ∧ h.reserved0 ≠ { tscfFrameHeader with reserved0 := 5 }.reserved0 :=
  ⟨tscfFrame, tscfFrameHeader, by decide +kernel, by decide +kernel, by decide⟩

end Rcp
