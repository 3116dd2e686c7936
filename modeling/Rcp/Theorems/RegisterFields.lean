import Rcp.RegmapFields
import Rcp.Theorems.RegisterWrites
import Mathlib.Tactic.IntervalCases

/-! The fields of a row are parsed from their own octets, and an untouched field survives the rendering of its row
    exactly when its contents are representable there. -/

namespace Rcp
open Lib

/-! ### Octets -/

/-- Bit 4 of a register is in its low octet. -/
theorem be16_and_bit4 (b : Octets) (n : Nat) : be16 b n &&& 0x10 = (b.at (n + 1)).toUInt16 &&& 0x10 := by
  unfold be16
  apply UInt16.toBitVec_inj.mp
  simp only [UInt16.toBitVec_and, UInt16.toBitVec_or, UInt16.toBitVec_shiftLeft, UInt8.toBitVec_toUInt16]
  ext i hi
  interval_cases i <;> simp

section congr
variable {b b' : Octets} {n : Nat}

theorem be16_congr (h : ∀ k, n ≤ k → k < n + 2 → b[k]? = b'[k]?) : be16 b n = be16 b' n := by
  unfold be16
  rw [Octets.at_congr (h n (by omega) (by omega)), Octets.at_congr (h (n + 1) (by omega) (by omega))]

theorem getU64_congr (h : ∀ k, n ≤ k → k < n + 8 → b[k]? = b'[k]?) : getU64 b n = getU64 b' n := by
  have hat : ∀ j < 8, b.at (n + j) = b'.at (n + j) := fun j hj => Octets.at_congr (h _ (by omega) (by omega))
  have hzero : b.at n = b'.at n := hat 0 (by omega)
  unfold getU64
  rw [hzero, hat 1 (by omega), hat 2 (by omega), hat 3 (by omega), hat 4 (by omega), hat 5 (by omega),
    hat 6 (by omega), hat 7 (by omega)]

end congr

/-! ### Narrow fields -/

theorem toUInt8_toUInt16_eq_iff (v : UInt16) : v.toUInt8.toUInt16 = v ↔ v ≤ 0xFF := by
  rw [← UInt16.toNat_inj, UInt8.toNat_toUInt16, UInt16.toNat_toUInt8, UInt16.le_iff_toNat_le]
  have hmask : (0xFF : UInt16).toNat = 255 := rfl
  omega

theorem saturate8_eq_iff (v : UInt16) : (if v > 0xFF then (0xFF : UInt8) else v.toUInt8).toUInt16 = v ↔ v ≤ 0xFF := by
  by_cases h : v > 0xFF
  · rw [if_pos h]
    constructor
    · intro heq
      rw [← heq]
      decide
    · exact fun hle => absurd h (UInt16.not_lt.mpr hle)
  · rw [if_neg h]
    exact toUInt8_toUInt16_eq_iff v

theorem saturate16_eq_iff (v : UInt32) :
    (if v > 0xFFFF then (0xFFFF : UInt16) else v.toUInt16).toUInt32 = v ↔ v ≤ 0xFFFF := by
  by_cases h : v > 0xFFFF
  · rw [if_pos h]
    constructor
    · intro heq
      rw [← heq]
      decide
    · exact fun hle => absurd h (UInt32.not_lt.mpr hle)
  · rw [if_neg h, ← UInt32.toNat_inj, UInt16.toNat_toUInt32, UInt32.toNat_toUInt16]
    have hle : v ≤ 0xFFFF := UInt32.not_lt.mp h
    have hnat : v.toNat ≤ 0xFFFF := UInt32.le_iff_toNat_le.mp hle
    exact ⟨fun _ => hle, fun _ => Nat.mod_eq_of_lt (by omega)⟩

theorem saturateNat_eq_iff (n : Nat) :
    (if n > 0xFFFF then (0xFFFF : UInt16) else UInt16.ofNat n).toNat = n ↔ n ≤ 0xFFFF := by
  by_cases h : n > 0xFFFF
  · rw [if_pos h]
    have hmask : (0xFFFF : UInt16).toNat = 0xFFFF := rfl
    omega
  · rw [if_neg h, UInt16.toNat_ofNat']
    omega

section bbidCtrl
variable (e : EpIdMapRow)

theorem bbidCtrl_byteBusId : (e.bbidCtrl >>> 5) &&& 0x07FF = e.byteBusId &&& 0x07FF := by
  unfold EpIdMapRow.bbidCtrl
  cases e.crcRequired
  all_goals
    apply UInt16.toBitVec_inj.mp
    simp only [UInt16.toBitVec_or, UInt16.toBitVec_and, UInt16.toBitVec_shiftLeft, UInt16.toBitVec_shiftRight]
    ext i hi
    interval_cases i <;> simp

theorem bbidCtrl_crcRequired : (e.bbidCtrl &&& 0x10 != 0) = e.crcRequired := by
  have hbit : e.bbidCtrl &&& 0x10 = if e.crcRequired then 0x10 else 0 := by
    unfold EpIdMapRow.bbidCtrl
    cases e.crcRequired
    all_goals
      apply UInt16.toBitVec_inj.mp
      simp only [UInt16.toBitVec_or, UInt16.toBitVec_and, UInt16.toBitVec_shiftLeft]
      ext i hi
      interval_cases i <;> simp
  rw [hbit]
  cases e.crcRequired <;> rfl

theorem byteBusId_mask_iff (v : UInt16) : v &&& 0x07FF = v ↔ v ≤ 0x07FF := by
  rw [← UInt16.toNat_inj, UInt16.toNat_and, UInt16.le_iff_toNat_le]
  have hmask : (0x07FF : UInt16).toNat = 2 ^ 11 - 1 := rfl
  rw [hmask, Nat.and_two_pow_sub_one_eq_mod]
  omega

end bbidCtrl

/-! ### The watchdog timeout -/

section wdTimeout
variable {msPerTick : UInt32}

theorem wdTimeoutTicksToMs_product (ticks : UInt16) (msPerTick : UInt32) :
    (ticks.toUInt64 * msPerTick.toUInt64).toNat = ticks.toNat * msPerTick.toNat := by
  rw [UInt64.toNat_mul, UInt16.toNat_toUInt64, UInt32.toNat_toUInt64]
  have hlt : ticks.toNat * msPerTick.toNat < 2 ^ 16 * 2 ^ 32 :=
    Nat.mul_lt_mul'' ticks.toNat_lt msPerTick.toNat_lt
  exact Nat.mod_eq_of_lt (by omega)

/-- The ticks convert while there is a tick and the product fits. -/
theorem wdTimeoutTicksToMs_eq_some {ticks : UInt16} (hms : msPerTick ≠ 0)
    (hfits : ticks.toNat * msPerTick.toNat ≤ 0xFFFFFFFF) :
    wdTimeoutTicksToMs ticks msPerTick = some (UInt32.ofNat (ticks.toNat * msPerTick.toNat)) := by
  have hprod := wdTimeoutTicksToMs_product ticks msPerTick
  unfold wdTimeoutTicksToMs
  dsimp only
  rw [if_neg hms, if_neg]
  · refine congrArg some (UInt32.toNat_inj.mp ?_)
    rw [UInt64.toNat_toUInt32, hprod, UInt32.toNat_ofNat']
  · rw [gt_iff_lt, UInt64.lt_iff_toNat_lt, hprod]
    exact Nat.not_lt.mpr hfits

/-- What the register shows of a timeout, read back: the timeout itself exactly when it is a whole number of ticks. -/
theorem wdTimeout_readBack_iff (timeoutMs : UInt32) :
    (wdTimeoutTicksToMs ((wdTimeoutMsToTicks timeoutMs msPerTick).getD 0) msPerTick).getD timeoutMs = timeoutMs ↔
      WdTimeoutRepresentable msPerTick timeoutMs := by
  by_cases hms : msPerTick = 0
  · simp [wdTimeoutTicksToMs, hms, WdTimeoutRepresentable]
  have hpos : 0 < msPerTick.toNat := Nat.pos_of_ne_zero fun h => hms (UInt32.toNat_inj.mp h)
  have hquot : (timeoutMs / msPerTick).toNat = timeoutMs.toNat / msPerTick.toNat := UInt32.toNat_div ..
  have hrepr : WdTimeoutRepresentable msPerTick timeoutMs ↔
      ∃ ticks : UInt16, ticks.toNat * msPerTick.toNat = timeoutMs.toNat := or_iff_right hms
  have hlt := timeoutMs.toNat_lt
  rw [hrepr]
  by_cases hbig : timeoutMs / msPerTick > 0xFFFF
  · -- more ticks than the register counts: it shows none
    have hnat : 0xFFFF < timeoutMs.toNat / msPerTick.toNat := by
      rw [← hquot]
      exact UInt32.lt_iff_toNat_lt.mp hbig
    have hshown : wdTimeoutMsToTicks timeoutMs msPerTick = none := by
      simp [wdTimeoutMsToTicks, hms, hbig]
    rw [hshown, Option.getD_none, wdTimeoutTicksToMs_eq_some hms (by simp), Option.getD_some]
    constructor
    · intro hzero
      rw [← hzero] at hnat
      simp at hnat
    · rintro ⟨ticks, hticks⟩
      rw [← hticks, Nat.mul_div_cancel _ hpos] at hnat
      have := ticks.toNat_lt
      omega
  · have hnat : timeoutMs.toNat / msPerTick.toNat ≤ 0xFFFF := by
      rw [← hquot]
      exact UInt32.le_iff_toNat_le.mp (UInt32.not_lt.mp hbig)
    have hshown : wdTimeoutMsToTicks timeoutMs msPerTick = some (timeoutMs / msPerTick).toUInt16 := by
      simp [wdTimeoutMsToTicks, hms, hbig]
    have hticks : (timeoutMs / msPerTick).toUInt16.toNat = timeoutMs.toNat / msPerTick.toNat := by
      rw [UInt32.toNat_toUInt16, hquot]
      exact Nat.mod_eq_of_lt (by omega)
    have hle : timeoutMs.toNat / msPerTick.toNat * msPerTick.toNat ≤ timeoutMs.toNat := Nat.div_mul_le_self ..
    rw [hshown, Option.getD_some, wdTimeoutTicksToMs_eq_some hms (by rw [hticks]; omega), Option.getD_some, hticks,
      ← UInt32.toNat_inj, UInt32.toNat_ofNat', Nat.mod_eq_of_lt (by omega)]
    constructor
    · exact fun heq => ⟨(timeoutMs / msPerTick).toUInt16, by rw [hticks, heq]⟩
    · rintro ⟨ticks, heq⟩
      rw [← heq, Nat.mul_div_cancel _ hpos]

end wdTimeout

/-! ### Octet 0x0D -/

section statusOctet
variable (e : RequestStreamRow)

theorem statusOctet_bits :
    (e.statusOctet false &&& 0x01 != 0) = e.rxEnforceE2e ∧
    (e.statusOctet false &&& 0x02 != 0) = (e.rxEnforceSeq && e.rxSeqSafestateEnable) ∧
    (e.statusOctet false &&& 0x04 != 0) = (e.rxWdEnable && e.rxWdSafestateEnable) ∧
    (e.statusOctet false &&& 0x08 != 0) = e.rxOvrflwSafestateEnable := by
  unfold RequestStreamRow.statusOctet
  cases e.rxEnforceE2e <;> cases e.rxEnforceSeq && e.rxSeqSafestateEnable <;>
    cases e.rxWdEnable && e.rxWdSafestateEnable <;> cases e.rxOvrflwSafestateEnable <;> decide

end statusOctet

/-! ### Each table -/

/-- The field is read back from its own octets, and unchanged exactly where it is representable. -/
structure WireField.Faithful {ρ : Type} (f : WireField ρ) (c : RowCodec ρ UInt8) : Prop extends
    RowField.Local f.toRowField c where
  exact_iff : ∀ r, f.toRowField.Exact c r ↔ f.representable r

section
variable {ρ : Type} {c : RowCodec ρ UInt8}

/-- A field no octet of which is written keeps its value exactly where it is representable. -/
theorem WireField.Faithful.kept_iff_representable {f : WireField ρ} (hf : f.Faithful c) (op : Ep0WriteOp)
    {relative i : Nat} {data : Octets} {rows : List ρ} {r : ρ} (hr : rows[i]? = some r)
    (h : f.toRowField.Untouched c.stride i relative data.length) :
    (rowsWritten c op relative data rows)[i]?.map f.get = rows[i]?.map f.get ↔ f.representable r := by
  rw [rowsWritten, hf.toLocal.kept_iff hr (by rwa [length_ep0CombineWriteOp])]
  exact hf.exact_iff r

/-- A representable field that changes has an octet in the write. -/
theorem WireField.Faithful.reached {f : WireField ρ} (hf : f.Faithful c) {op : Ep0WriteOp} {relative i : Nat}
    {data : Octets} {rows : List ρ} {r r' : ρ} (hr : rows[i]? = some r)
    (hr' : (rowsWritten c op relative data rows)[i]? = some r') (hrep : f.representable r) (hne : f.get r' ≠ f.get r) :
    ∃ k, f.offset ≤ k ∧ k < f.offset + f.width ∧ Reaches relative data.length (c.stride * i + k) := by
  by_contra hno
  have huntouched : f.toRowField.Untouched c.stride i relative data.length :=
    fun k hlo hhi hreach => hno ⟨k, hlo, hhi, hreach⟩
  have hkept := (hf.kept_iff_representable op hr huntouched).mpr hrep
  rw [hr, hr'] at hkept
  exact hne (Option.some.inj hkept)

/-- A field of one octet, untransformed. -/
theorem WireField.Faithful.octet {α : Type} {get : ρ → α} {offset : Nat} (decode : UInt8 → α)
    (hwithin : offset + 1 ≤ c.stride) (hget : ∀ r b, get (c.parse r b) = decode (Octets.at b offset))
    (hexact : ∀ r, get (c.parse r (c.render r)) = get r) : (WireField.plain get offset 1).Faithful c where
  within := hwithin
  parsed {r b b'} h := by
    rw [show (WireField.plain get offset 1).get = get from rfl, hget, hget,
      Octets.at_congr (h offset (Nat.le_refl _) (Nat.lt_succ_self _))]
  exact_iff r := iff_of_true (hexact r) trivial

end

theorem hwPinMapFields_faithful : ∀ f ∈ hwPinMapFields, f.Faithful hwPinMapCodec := by
  intro f hf
  simp only [hwPinMapFields, List.mem_cons, List.not_mem_nil, or_false] at hf
  rcases hf with rfl | rfl | rfl
  all_goals exact .octet id (by decide) (fun _ _ => rfl) fun _ => rfl

theorem epIdMapFields_faithful : ∀ f ∈ epIdMapFields, f.Faithful epIdMapCodec := by
  intro f hf
  simp only [epIdMapFields, List.mem_cons, List.not_mem_nil, or_false] at hf
  rcases hf with rfl | rfl | rfl | rfl
  · exact .octet id (by decide) (fun _ _ => rfl) fun _ => rfl
  · exact ⟨⟨by decide, fun h => congrArg UInt8.toUInt16 (Octets.at_congr (h 1 (by decide) (by decide)))⟩,
      fun r => toUInt8_toUInt16_eq_iff r.epId⟩
  · refine ⟨⟨by decide, fun h => ?_⟩, fun r => ?_⟩
    · exact congrArg (fun ctrl : UInt16 => (ctrl >>> 5) &&& 0x07FF) (be16_congr h)
    · have hctrl : be16 (epIdMapCodec.render r) 2 = r.bbidCtrl := be16_putU16 _
      change (be16 (epIdMapCodec.render r) 2 >>> 5) &&& 0x07FF = r.byteBusId ↔ r.byteBusId ≤ 0x07FF
      rw [hctrl, bbidCtrl_byteBusId, byteBusId_mask_iff]
  · refine ⟨⟨by decide, fun {r b b'} h => ?_⟩, fun r => iff_of_true ?_ trivial⟩
    · have hbit : be16 b 2 &&& 0x10 = be16 b' 2 &&& 0x10 := by
        rw [be16_and_bit4, be16_and_bit4, Octets.at_congr (h 3 (by decide) (by decide))]
      exact congrArg (· != 0) hbit
    · have hctrl : be16 (epIdMapCodec.render r) 2 = r.bbidCtrl := be16_putU16 _
      change (be16 (epIdMapCodec.render r) 2 &&& 0x10 != 0) = r.crcRequired
      rw [hctrl, bbidCtrl_crcRequired]

/-- A field of two octets, most significant first. -/
theorem WireField.Faithful.register {ρ : Type} {c : RowCodec ρ UInt8} {get : ρ → UInt16} {offset : Nat}
    (hwithin : offset + 2 ≤ c.stride) (hget : ∀ r b, get (c.parse r b) = be16 b offset)
    (hexact : ∀ r, be16 (c.render r) offset = get r) : (WireField.plain get offset 2).Faithful c where
  within := hwithin
  parsed {r b b'} h := (hget r b).trans ((be16_congr h).trans (hget r b').symm)
  exact_iff r := iff_of_true ((hget r _).trans (hexact r)) trivial

theorem responseQueueCfgFields_faithful : ∀ f ∈ responseQueueCfgFields, f.Faithful responseQueueCodec := by
  intro f hf
  simp only [responseQueueCfgFields, List.mem_cons, List.not_mem_nil, or_false] at hf
  rcases hf with rfl | rfl | rfl | rfl | rfl
  · exact .register (by decide) (fun _ _ => rfl) fun _ => be16_putU16 _
  · exact .register (by decide) (fun _ _ => rfl) fun _ => be16_putU16 _
  · exact .register (by decide) (fun _ _ => rfl) fun _ => be16_putU16 _
  · exact .register (by decide) (fun _ _ => rfl) fun _ => be16_putU16 _
  · refine ⟨⟨by decide, fun h => congrArg UInt16.toUInt32 (be16_congr h)⟩, fun r => ?_⟩
    have hflush : be16 (responseQueueCodec.render r) 8 =
        if r.flushTimeUs > 0xFFFF then 0xFFFF else r.flushTimeUs.toUInt16 := be16_putU16 _
    change (be16 (responseQueueCodec.render r) 8).toUInt32 = r.flushTimeUs ↔ r.flushTimeUs ≤ 0xFFFF
    rw [hflush, saturate16_eq_iff]

theorem sequencerFields_faithful : ∀ f ∈ sequencerFields, f.Faithful sequencerCodec := by
  intro f hf
  simp only [sequencerFields, List.mem_cons, List.not_mem_nil, or_false] at hf
  rcases hf with rfl | rfl
  all_goals exact .octet id (by decide) (fun _ _ => rfl) fun _ => rfl

/-- A field that is not on the wire is kept by every parse. -/
theorem WireField.Faithful.hidden {ρ α : Type} {c : RowCodec ρ UInt8} {get : ρ → α}
    (hget : ∀ r b, get (c.parse r b) = get r) : (WireField.hidden get).Faithful c where
  within := Nat.zero_le _
  parsed {r b b'} _ := (hget r b).trans (hget r b').symm
  exact_iff r := iff_of_true (hget r _) trivial

section requestStream
variable (msPerTick : UInt32) (r : RequestStreamRow)

/-- A flag in the octet 0x0D. -/
theorem WireField.Faithful.flag {get : RequestStreamRow → Bool} {representable : RequestStreamRow → Prop}
    (mask : UInt8) (hget : ∀ r b, get ((requestStreamCodec msPerTick).parse r b) = (Octets.at b 0x0D &&& mask != 0))
    (hexact : ∀ r, (r.statusOctet false &&& mask != 0) = get r ↔ representable r) :
    WireField.Faithful { get, offset := 0x0D, width := 1, representable } (requestStreamCodec msPerTick) where
  within := show 0x0D + 1 ≤ 24 by decide
  parsed {r b b'} h := by
    have hat : Octets.at b 0x0D = Octets.at b' 0x0D := Octets.at_congr (h 0x0D (Nat.le_refl _) (Nat.lt_succ_self _))
    exact (hget r b).trans ((congrArg (· &&& mask != 0) hat).trans (hget r b').symm)
  exact_iff r := by
    have hrendered : get ((requestStreamCodec msPerTick).parse r ((requestStreamCodec msPerTick).render r)) =
        (r.statusOctet false &&& mask != 0) := hget r _
    change get _ = get r ↔ _
    rw [hrendered]
    exact hexact r

theorem requestStreamCfgFields_faithful :
    ∀ f ∈ requestStreamCfgFields msPerTick, f.Faithful (requestStreamCodec msPerTick) := by
  have hle (n : Nat) (h : n ≤ 24) : n ≤ (requestStreamCodec msPerTick).stride := h
  intro f hf
  simp only [requestStreamCfgFields, List.mem_cons, List.not_mem_nil, or_false] at hf
  rcases hf with rfl | rfl | rfl | rfl | rfl | rfl | rfl | rfl | rfl | rfl | rfl | rfl | rfl | rfl | rfl | rfl | rfl |
    rfl
  · exact .hidden fun _ _ => rfl
  · exact ⟨⟨hle 8 (by decide), fun h => getU64_congr h⟩, fun r => iff_of_true (getU64_putU64 r.rxStreamId) trivial⟩
  · exact .octet id (hle 0x0D (by decide)) (fun _ _ => rfl) fun _ => rfl
  · exact .octet id (hle 0x11 (by decide)) (fun _ _ => rfl) fun _ => rfl
  · exact .octet id (hle 0x12 (by decide)) (fun _ _ => rfl) fun _ => rfl
  · exact .flag msPerTick 0x01 (fun _ _ => rfl) fun r => iff_of_true (statusOctet_bits r).1 trivial
  · exact .flag msPerTick 0x02 (fun _ _ => rfl) fun r => by
      rw [(statusOctet_bits r).2.1]
      cases r.rxEnforceSeq <;> simp
  · exact .flag msPerTick 0x02 (fun _ _ => rfl) fun r => by
      rw [(statusOctet_bits r).2.1]
      cases r.rxSeqSafestateEnable <;> simp
  · exact .flag msPerTick 0x04 (fun _ _ => rfl) fun r => by
      rw [(statusOctet_bits r).2.2.1]
      cases r.rxWdEnable <;> simp
  · refine ⟨⟨hle 0x0C (by decide), fun {r b b'} h => ?_⟩, fun r => ?_⟩
    · exact congrArg (fun ticks => (wdTimeoutTicksToMs ticks msPerTick).getD r.rxWdTimeoutMs) (be16_congr h)
    · have hticks : be16 ((requestStreamCodec msPerTick).render r) 0x0A =
          (wdTimeoutMsToTicks r.rxWdTimeoutMs msPerTick).getD 0 := be16_putU16 _
      change (wdTimeoutTicksToMs (be16 ((requestStreamCodec msPerTick).render r) 0x0A) msPerTick).getD
        r.rxWdTimeoutMs = r.rxWdTimeoutMs ↔ WdTimeoutRepresentable msPerTick r.rxWdTimeoutMs
      rw [hticks, wdTimeout_readBack_iff]
  · exact .hidden fun _ _ => rfl
  · exact .flag msPerTick 0x04 (fun _ _ => rfl) fun r => by
      rw [(statusOctet_bits r).2.2.1]
      cases r.rxWdSafestateEnable <;> simp
  · exact .hidden fun _ _ => rfl
  · exact .flag msPerTick 0x08 (fun _ _ => rfl) fun r => iff_of_true (statusOctet_bits r).2.2.2 trivial
  · exact .hidden fun _ _ => rfl
  · refine ⟨⟨hle 0x0F (by decide), fun h => congrArg UInt8.toUInt16 (Octets.at_congr (h 0x0E (by decide) (by decide)))⟩,
      fun r => ?_⟩
    exact saturate8_eq_iff r.rxSafestateSequencer
  · exact .octet id (hle 0x10 (by decide)) (fun _ _ => rfl) fun _ => rfl
  · refine ⟨⟨hle 0x0A (by decide), fun h => congrArg UInt16.toNat (be16_congr h)⟩, fun r => ?_⟩
    have hsize : be16 ((requestStreamCodec msPerTick).render r) 0x08 =
        if r.rxStreamMaxRequestSize > 0xFFFF then 0xFFFF else UInt16.ofNat r.rxStreamMaxRequestSize := be16_putU16 _
    change (be16 ((requestStreamCodec msPerTick).render r) 0x08).toNat = r.rxStreamMaxRequestSize ↔
      r.rxStreamMaxRequestSize ≤ 0xFFFF
    rw [hsize, saturateNat_eq_iff]

end requestStream

/-! ### The lists are complete -/

/-- The fields of the list tell two rows apart. -/
def FieldsComplete {ρ : Type} (fields : List (WireField ρ)) : Prop :=
  ∀ r r' : ρ, (∀ f ∈ fields, f.get r = f.get r') → r = r'

theorem hwPinMapFields_complete : FieldsComplete hwPinMapFields := by
  rintro ⟨⟩ ⟨⟩ h
  simpa [hwPinMapFields, WireField.plain] using h

theorem epIdMapFields_complete : FieldsComplete epIdMapFields := by
  rintro ⟨⟨⟩, _⟩ ⟨⟨⟩, _⟩ h
  simpa [epIdMapFields, WireField.plain, and_assoc] using h

theorem responseQueueCfgFields_complete : FieldsComplete responseQueueCfgFields := by
  rintro ⟨⟩ ⟨⟩ h
  simpa [responseQueueCfgFields, WireField.plain] using h

theorem requestStreamCfgFields_complete (msPerTick : UInt32) : FieldsComplete (requestStreamCfgFields msPerTick) := by
  rintro ⟨⟨⟩, _⟩ ⟨⟨⟩, _⟩ h
  simp only [requestStreamCfgFields, WireField.plain, WireField.hidden, List.forall_mem_cons] at h
  grind

theorem epGenericCfgFields_complete : FieldsComplete epGenericCfgFields := by
  rintro ⟨⟩ ⟨⟩ h
  simpa [epGenericCfgFields, WireField.plain] using h

theorem sequencerFields_complete : FieldsComplete sequencerFields := by
  rintro ⟨⟩ ⟨⟩ h
  simpa [sequencerFields, WireField.plain] using h

/-- A row is worth what its octets say exactly when all of it is representable. -/
theorem parse_render_eq_iff {ρ : Type} {c : RowCodec ρ UInt8} {fields : List (WireField ρ)}
    (hfaithful : ∀ f ∈ fields, f.Faithful c) (hcomplete : FieldsComplete fields) (r : ρ) :
    c.parse r (c.render r) = r ↔ ∀ f ∈ fields, f.representable r := by
  constructor
  · intro heq f hf
    exact ((hfaithful f hf).exact_iff r).mp (congrArg f.get heq)
  · exact fun h => hcomplete _ _ fun f hf => ((hfaithful f hf).exact_iff r).mpr (h f hf)

end Rcp
