import Rcp.Lib.Tiling
import Rcp.RegmapGeneral
import Rcp.Theorems.Canonical

/-! Reads of a prefix of the general register map. What a response does not carry is parsed from zeros, and all
    registers past the first fourteen octets are parsed as soon as one octet of them was received. -/

namespace Rcp
open Acf Lib

/-- A register of the map: its octets, and where they are in the image. -/
structure GeneralRegister where
  octets : RegmapGeneral → Octets
  offset : Nat
  width : Nat

namespace GeneralRegister

def octet (get : RegmapGeneral → UInt8) (offset : Nat) : GeneralRegister := ⟨fun map => [get map], offset, 1⟩
def word (get : RegmapGeneral → UInt16) (offset : Nat) : GeneralRegister := ⟨fun map => putU16 (get map), offset, 2⟩
def long (get : RegmapGeneral → UInt32) (offset : Nat) : GeneralRegister := ⟨fun map => putU32 (get map), offset, 4⟩

/-- The octets of the register that the first `k` octets of an image carry, and zeros for the others. -/
def carried (f : GeneralRegister) (map : RegmapGeneral) (k : Nat) : Octets :=
  (f.octets map).take (k - f.offset) ++ List.replicate (f.width - (k - f.offset)) 0

/-- A response of `k` octets writes the register. -/
def Written (f : GeneralRegister) (k : Nat) : Prop := f.offset < 0x0E ∨ 0x0E < k

instance (f : GeneralRegister) (k : Nat) : Decidable (f.Written k) := inferInstanceAs (Decidable (_ ∨ _))

end GeneralRegister

section registers
open GeneralRegister

/-- The registers before the alignment gap. -/
def generalRegistersLow : List GeneralRegister :=
  [long (·.magic) 0x00, long (·.svrVersion) 0x04, word (·.vendorId) 0x08, word (·.deviceId) 0x0A,
   word (·.svrEpCount) 0x0C, octet (·.svrReqStreamMax) 0x0E, octet (·.svrResponderStreamsMax) 0x0F,
   word (·.svrResponderMemSize) 0x10, word (·.svrReqMemSize) 0x12, octet (·.svrSequencersMax) 0x14,
   octet (·.svrConfigurationLock) 0x15, octet (·.svrImplementedOptions) 0x16, octet (·.reserved0x17) 0x17,
   word (·.svrIoPinCount) 0x18, word (·.svrHwCfgPtr) 0x1A, octet (·.svrRequestStreamCfgCapacity) 0x1C,
   octet (·.svrResponseStreamCfgCapacity) 0x1D, word (·.svrRequestStreamCfgPtr) 0x1E,
   word (·.svrResponseStreamCfgPtr) 0x20, word (·.reserved0x22) 0x22, word (·.svrEpGenericCfgPtr) 0x24,
   word (·.svrEpGenericCfgCapacity) 0x26, word (·.svrEpBytebusIdMapPtr) 0x28,
   octet (·.svrEpBytebusIdMapCapacity) 0x2A]

/-- The registers after it. -/
def generalRegistersHigh : List GeneralRegister :=
  [word (·.svrEpFunctionalCfgPtr) 0x2C, word (·.svrSequencerStatePtr) 0x2E,
   word (·.svrNetworkInterfaceCfgPtr) 0x30, word (·.svrNetworkInterfaceCfgCapacity) 0x32,
   word (·.svrPhysicalLayerCfgPtr) 0x34, word (·.svrPhysicalLayerCfgCapacity) 0x36, word (·.svrTimeSynchCfgPtr) 0x38,
   word (·.svrTimeSynchCfgCapacity) 0x3A, word (·.svrSecurityCfgPtr) 0x3C, word (·.svrSecurityCfgCapacity) 0x3E,
   word (·.svrDeviceSpecificCfgPtr) 0x40, word (·.svrDeviceSpecificCfgCapacity) 0x42]

/-- The registers of the image. -/
def generalRegisters : List GeneralRegister := generalRegistersLow ++ generalRegistersHigh

end registers

/-! ### The image -/

/-- The registers with the gap between them. -/
def generalTiles (map : RegmapGeneral) : List ((Nat × Nat) × Octets) :=
  (generalRegistersLow ++ ⟨fun _ => [0], 0x2B, 1⟩ :: generalRegistersHigh).map fun f =>
    ((f.offset, f.width), f.octets map)

theorem generalTiles_tiles (map : RegmapGeneral) : Tiles 0 ((generalTiles map).map Prod.fst) regmapGeneralLen := by
  simp [generalTiles, generalRegistersLow, generalRegistersHigh, GeneralRegister.octet, GeneralRegister.word,
    GeneralRegister.long, Tiles, regmapGeneralLen]

theorem generalTiles_length (map : RegmapGeneral) : ∀ t ∈ generalTiles map, t.2.length = t.1.2 := by
  simp [generalTiles, generalRegistersLow, generalRegistersHigh, GeneralRegister.octet, GeneralRegister.word,
    GeneralRegister.long]

theorem render_eq_tiles (map : RegmapGeneral) : map.render = ((generalTiles map).map Prod.snd).flatten := by
  unfold RegmapGeneral.render
  simp only [generalTiles, generalRegistersLow, generalRegistersHigh, GeneralRegister.octet, GeneralRegister.word,
    GeneralRegister.long, List.map_cons, List.map_nil, List.flatten_cons, List.flatten_nil, List.append_assoc,
    List.cons_append, List.nil_append, List.append_nil]

theorem render_length (map : RegmapGeneral) : map.render.length = regmapGeneralLen := by
  unfold RegmapGeneral.render
  simp [regmapGeneralLen]

theorem slice_render (map : RegmapGeneral) {f : GeneralRegister} (hf : f ∈ generalRegisters) :
    slice map.render (f.offset, f.width) = f.octets map := by
  have htiles : Tiles ([] : Octets).length ((generalTiles map).map Prod.fst) regmapGeneralLen := generalTiles_tiles map
  have hslice := htiles.slice_eq (generalTiles_length map) ((f.offset, f.width), f.octets map)
  rw [List.nil_append, ← render_eq_tiles] at hslice
  refine hslice (List.mem_map.mpr ⟨f, ?_, rfl⟩)
  rw [generalRegisters, List.mem_append] at hf
  rw [List.mem_append, List.mem_cons]
  exact hf.imp id Or.inr

/-- What the registers have in common: they lie in the image, in its first fourteen octets or after them. -/
structure GeneralRegister.Placed (f : GeneralRegister) : Prop where
  pos : 0 < f.width
  fits : f.offset + f.width ≤ regmapGeneralLen
  split : f.offset < 0x0E → f.offset + f.width ≤ 0x0E
  length : ∀ map, (f.octets map).length = f.width

theorem register_placed : ∀ f ∈ generalRegisters, f.Placed := by
  have hoctet : ∀ get offset, offset + 1 ≤ 0x44 → (GeneralRegister.octet get offset).Placed :=
    fun get offset h => ⟨Nat.one_pos, h, fun hlow => hlow, fun _ => rfl⟩
  have hword : ∀ get offset, offset + 2 ≤ 0x44 → (offset < 0x0E → offset + 2 ≤ 0x0E) →
      (GeneralRegister.word get offset).Placed := fun get offset h hlow => ⟨Nat.two_pos, h, hlow, fun _ => rfl⟩
  have hlong : ∀ get offset, offset + 4 ≤ 0x0E → (GeneralRegister.long get offset).Placed := fun get offset h =>
    ⟨Nat.zero_lt_succ 3, Nat.le_trans h (by decide), fun _ => h, fun _ => rfl⟩
  simp only [generalRegisters, generalRegistersLow, generalRegistersHigh, List.forall_mem_append, List.forall_mem_cons]
  simp [hoctet, hword, hlong]

/-! ### What is parsed -/

theorem slice_octet {image : Octets} {o : Nat} (h : o + 1 ≤ image.length) : slice image (o, 1) = [image.at o] := by
  rw [slice, take_drop_eq_at h]
  rfl

theorem slice_word {image : Octets} {o : Nat} (h : o + 2 ≤ image.length) :
    slice image (o, 2) = putU16 (be16 image o) := by
  rw [slice, take_drop_eq_at h, putU16_be16]
  rfl

theorem slice_long {image : Octets} {o : Nat} (h : o + 4 ≤ image.length) :
    slice image (o, 4) = putU32 (getU32 image o) := by
  rw [slice, take_drop_eq_at h, putU32_getU32]
  rfl

/-- A register that is written holds what the image holds for it, any other what it held. -/
theorem octets_parse (outMap : RegmapGeneral) {image : Octets} (hlen : image.length = regmapGeneralLen) (k : Nat) :
    ∀ f ∈ generalRegisters,
      f.octets (outMap.parse image k) =
        if f.Written k then slice image (f.offset, f.width) else f.octets outMap := by
  have hoctet : ∀ o, o + 1 ≤ 0x44 → slice image (o, 1) = [image.at o] := fun o h => slice_octet (hlen ▸ h)
  have hword : ∀ o, o + 2 ≤ 0x44 → slice image (o, 2) = putU16 (be16 image o) := fun o h => slice_word (hlen ▸ h)
  have hlong : ∀ o, o + 4 ≤ 0x44 → slice image (o, 4) = putU32 (getU32 image o) := fun o h => slice_long (hlen ▸ h)
  unfold RegmapGeneral.parse
  simp only [generalRegisters, generalRegistersLow, generalRegistersHigh, GeneralRegister.octet, GeneralRegister.word,
    GeneralRegister.long, GeneralRegister.Written, List.forall_mem_append, List.forall_mem_cons]
  by_cases hk : k ≤ 0x0E
  · simp [hk, Nat.not_lt.mpr hk, hword, hlong]
  · simp [hk, Nat.not_le.mp hk, hoctet, hword, hlong]

/-- An image of which the first `k` octets were received and the others are zero. -/
theorem slice_received {a : Octets} {o w n k : Nat} (hlen : a.length = n) (h : o + w ≤ n) :
    slice (a.take k ++ List.replicate (n - k) 0) (o, w) =
      (slice a (o, w)).take (k - o) ++ List.replicate (w - (k - o)) 0 := by
  apply List.ext_getElem?
  intro i
  simp only [slice, List.getElem?_take, List.getElem?_drop, List.getElem?_append, List.length_take, List.length_drop,
    List.getElem?_replicate, hlen]
  grind

/-- The octets of a response of `n` octets: a prefix of the image, and zeros past it. -/
theorem responsePayload_eq {image : Octets} {len n : Nat} (hlen : image.length = len) (hn : n < 256) :
    (image.take (min n len) ++ List.replicate (256 - min n len) 0).take n =
      image.take n ++ List.replicate (n - len) 0 := by
  apply List.ext_getElem?
  intro i
  simp only [List.getElem?_take, List.getElem?_append, List.length_take, List.getElem?_replicate, hlen]
  grind

/-- A read response of `k` octets, encoded and decoded. -/
theorem decode_encode_general (m : RegmapGeneral) (k transactionNum : UInt8) :
    ∃ b, regmapGeneralEncodeReadResponse m k transactionNum = some b ∧ ∀ prior,
      regmapGeneralDecodeReadResponse b prior =
        .ok (prior.parse (m.render.take k.toNat ++ List.replicate (regmapGeneralLen - k.toNat) 0)
          (min k.toNat regmapGeneralLen)) := by
  have hk : k.toNat < 256 := k.toNat_lt
  have hmin : ∀ n, (if n < regmapGeneralLen then n else regmapGeneralLen) = min n regmapGeneralLen := by
    intro n
    split <;> omega
  generalize hp : m.render.take k.toNat ++ List.replicate (k.toNat - regmapGeneralLen) 0 = payload
  have hlen : payload.length = k.toNat := by
    rw [← hp, List.length_append, List.length_take, List.length_replicate, render_length]
    omega
  have htake : payload.take (min k.toNat regmapGeneralLen) = m.render.take k.toNat := by
    rw [← hp, List.take_append_of_le_length (by rw [List.length_take, render_length]), List.take_take,
      List.take_eq_take_iff, render_length]
    omega
  have hrest : regmapGeneralLen - min k.toNat regmapGeneralLen = regmapGeneralLen - k.toNat := by omega
  have hbus : (0 : ByteBusId) &&& 0x7FF = 0 := by decide
  obtain ⟨b, hb, hdecode, -⟩ := decodeAbb_encodeAbb
    { byteBusId := 0, op := opRead, rsp := 1, readSizeOrSegmentNum := k.toUInt16, transactionNum }
    (show payload.length ≤ abbMaxPayload by rw [hlen, abbMaxPayload, abbHeaderLen]; omega)
  refine ⟨b, ?_, fun prior => ?_⟩
  · rw [← hb, ← hp, regmapGeneralEncodeReadResponse]
    simp only [hmin, responsePayload_eq (render_length m) hk]
  · simp only [regmapGeneralDecodeReadResponse, hdecode, hmin, hlen, htake, hrest, ByteMessageInfo.sent, hbus]
    rfl

/-! ### Reads of a prefix -/

/-- A read of `k` octets sets the registers it carries whole, and no other field. -/
def PrefixRead (m : RegmapGeneral) (k transactionNum : UInt8) (prior : RegmapGeneral) : Prop :=
  ∃ b out, regmapGeneralEncodeReadResponse m k transactionNum = some b ∧
    regmapGeneralDecodeReadResponse b prior = .ok out ∧
    (∀ f ∈ generalRegisters, f.octets out = if f.offset + f.width ≤ k.toNat then f.octets m else f.octets prior) ∧
    out.svrLifecycleState = prior.svrLifecycleState ∧ out.svrRootClientIndex = prior.svrRootClientIndex

/-- The registers, with the two fields that are not in the image, make up the map. -/
theorem generalRegisters_separate {map map' : RegmapGeneral} (h : ∀ f ∈ generalRegisters, f.octets map = f.octets map')
    (hlifecycle : map.svrLifecycleState = map'.svrLifecycleState)
    (hroot : map.svrRootClientIndex = map'.svrRootClientIndex) : map = map' := by
  have hword : ∀ {v w : UInt16}, putU16 v = putU16 w ↔ v = w := by
    intro v w
    refine ⟨fun hvw => ?_, fun hvw => hvw ▸ rfl⟩
    rw [← be16_putU16 v, hvw, be16_putU16]
  have hlong : ∀ {v w : UInt32}, putU32 v = putU32 w ↔ v = w := by
    intro v w
    refine ⟨fun hvw => ?_, fun hvw => hvw ▸ rfl⟩
    rw [← getU32_putU32 v, hvw, getU32_putU32]
  simp only [generalRegisters, generalRegistersLow, generalRegistersHigh, GeneralRegister.octet, GeneralRegister.word,
    GeneralRegister.long, List.forall_mem_append, List.forall_mem_cons, hword, hlong, List.cons.injEq, and_true] at h
  cases map
  cases map'
  simp_all

/-- What a read of `k` octets leaves in a register. -/
theorem octets_after_read (m prior : RegmapGeneral) (k transactionNum : UInt8) :
    ∃ b out, regmapGeneralEncodeReadResponse m k transactionNum = some b ∧
      regmapGeneralDecodeReadResponse b prior = .ok out ∧
      (∀ f ∈ generalRegisters,
        f.octets out = if f.Written k.toNat then f.carried m k.toNat else f.octets prior) ∧
      out.svrLifecycleState = prior.svrLifecycleState ∧ out.svrRootClientIndex = prior.svrRootClientIndex := by
  obtain ⟨b, hb, hdecode⟩ := decode_encode_general m k transactionNum
  refine ⟨b, _, hb, hdecode prior, fun f hf => ?_, ?_, ?_⟩
  · have hlen : (m.render.take k.toNat ++ List.replicate (regmapGeneralLen - k.toNat) 0).length = regmapGeneralLen := by
      rw [List.length_append, List.length_take, List.length_replicate, render_length]
      omega
    have hwritten : f.Written (min k.toNat regmapGeneralLen) ↔ f.Written k.toNat := by
      unfold GeneralRegister.Written regmapGeneralLen
      omega
    rw [octets_parse prior hlen _ f hf, slice_received (render_length m) (register_placed f hf).fits, slice_render m hf]
    simp only [hwritten, GeneralRegister.carried]
  · unfold RegmapGeneral.parse
    split <;> rfl
  · unfold RegmapGeneral.parse
    split <;> rfl

theorem GeneralRegister.Placed.carried_whole {f : GeneralRegister} (h : f.Placed) (m : RegmapGeneral) {k : Nat}
    (hk : f.offset + f.width ≤ k) : f.carried m k = f.octets m := by
  have hlen := h.length m
  rw [GeneralRegister.carried, List.take_of_length_le (by omega), Nat.sub_eq_zero_of_le (by omega),
    List.replicate_zero, List.append_nil]

/-- A read does what it should for the registers that hold already what is parsed for them. -/
theorem prefixRead_iff (m prior : RegmapGeneral) (k transactionNum : UInt8) :
    PrefixRead m k transactionNum prior ↔ ∀ f ∈ generalRegisters,
      f.Written k.toNat → k.toNat < f.offset + f.width → f.octets prior = f.carried m k.toNat := by
  obtain ⟨b, out, hb, hout, hoctets, hlifecycle, hroot⟩ := octets_after_read m prior k transactionNum
  constructor
  · rintro ⟨b', out', hb', hout', hoctets', -⟩ f hf hwritten hshort
    rw [hb] at hb'
    cases hb'
    rw [hout] at hout'
    cases hout'
    have hafter := hoctets f hf
    rw [hoctets' f hf, if_pos hwritten, if_neg (Nat.not_le.mpr hshort)] at hafter
    exact hafter
  · intro h
    refine ⟨b, out, hb, hout, fun f hf => ?_, hlifecycle, hroot⟩
    have hplaced := register_placed f hf
    rw [hoctets f hf]
    by_cases hwritten : f.Written k.toNat
    · rw [if_pos hwritten]
      split
      · rename_i hwhole
        exact hplaced.carried_whole m hwhole
      · rename_i hshort
        exact (h f hf hwritten (Nat.not_le.mp hshort)).symm
    · have hpos := hplaced.pos
      have hshort : ¬f.offset + f.width ≤ k.toNat := by
        unfold GeneralRegister.Written at hwritten
        omega
      rw [if_neg hwritten, if_neg hshort]

/-- A read of `k` octets keeps the fields it does not carry exactly where every register it writes in part, or from
    nothing, held already what is carried of it with zeros for the rest. For every map and every prior content it does
    so for fourteen octets and from sixty-eight octets on. -/
theorem generalRead_prefix_iff (k : UInt8) :
    (∀ m prior transactionNum, PrefixRead m k transactionNum prior ↔ ∀ f ∈ generalRegisters,
      f.Written k.toNat → k.toNat < f.offset + f.width → f.octets prior = f.carried m k.toNat) ∧
    ((∀ m prior transactionNum, PrefixRead m k transactionNum prior) ↔ k = 0x0E ∨ 0x44 ≤ k) ∧
    ∀ map map' : RegmapGeneral, (∀ f ∈ generalRegisters, f.octets map = f.octets map') →
      map.svrLifecycleState = map'.svrLifecycleState → map.svrRootClientIndex = map'.svrRootClientIndex → map = map' := by
  refine ⟨fun m prior transactionNum => prefixRead_iff m prior k transactionNum, ?_,
    fun _ _ => generalRegisters_separate⟩
  have hk : (k = 0x0E ∨ 0x44 ≤ k) ↔ k.toNat = 0x0E ∨ 0x44 ≤ k.toNat := by
    rw [← UInt8.toNat_inj, UInt8.le_iff_toNat_le]
    rfl
  rw [hk]
  constructor
  · intro h
    by_contra hno
    rw [not_or] at hno
    have hone : putU16 1 ≠ putU16 0 := by decide
    have hzero : ∀ n, (putU16 0).take n ++ List.replicate (2 - n) 0 = putU16 0 := by
      intro n
      rcases n with _ | _ | n
      · decide
      · decide
      · rw [List.take_of_length_le (by simp), Nat.sub_eq_zero_of_le (by omega), List.replicate_zero, List.append_nil]
    by_cases hlow : k.toNat < 0x0E
    · have hcount := (prefixRead_iff {} { svrEpCount := 1 } k 0).mp (h _ _ _) (.word (·.svrEpCount) 0x0C)
        (by simp [generalRegisters, generalRegistersLow]) (Or.inl (by decide)) hlow
      exact hone (hcount.trans (hzero _))
    · have hlast := (prefixRead_iff {} { svrDeviceSpecificCfgCapacity := 1 } k 0).mp (h _ _ _)
        (.word (·.svrDeviceSpecificCfgCapacity) 0x42) (by simp [generalRegisters, generalRegistersHigh])
        (Or.inr (by omega)) (Nat.not_le.mp hno.2)
      exact hone (hlast.trans (hzero _))
  · intro h m prior transactionNum
    refine (prefixRead_iff m prior k transactionNum).mpr fun f hf hwritten hshort => ?_
    have hplaced := register_placed f hf
    have hfits := hplaced.fits
    have hsplit := hplaced.split
    unfold GeneralRegister.Written at hwritten
    unfold regmapGeneralLen at hfits
    omega

/-- A read of fifteen octets carries neither octet of svr_io_pin_count, and sets it to zero. -/
theorem generalRead_overwrites :
    ¬∀ (m : RegmapGeneral) (k transactionNum : UInt8) (prior : RegmapGeneral), PrefixRead m k transactionNum prior := by
  intro h
  have hpins := (prefixRead_iff { svrIoPinCount := 8 } { svrIoPinCount := 8 } 15 0).mp (h _ _ _ _)
    (.word (·.svrIoPinCount) 0x18) (by simp [generalRegisters, generalRegistersLow]) (Or.inr (by decide)) (by decide)
  revert hpins
  decide

end Rcp
