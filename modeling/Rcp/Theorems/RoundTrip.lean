import Rcp.Theorems.EndpointRows

/-! A confirmed register write and the reads of the same address before and after it. -/

namespace Rcp
open Lib Acf

/-! ### What is read back -/

/-- The row counts are within the tables' bounds. -/
structure Ep0Tables.InBounds (tables : Ep0Tables) : Prop where
  hwPinMap : tables.hwPinMap.length ≤ hwPinMapMaxEntries
  epIdMap : tables.epIdMap.length ≤ epIdMapMaxEntries
  responseQueueCfg : tables.responseQueueCfg.length ≤ responseQueueCfgMaxEntries
  requestStreamCfg : tables.requestStreamCfg.length ≤ requestStreamCfgMaxEntries
  epGenericCfg : tables.epGenericCfg.length ≤ epGenericCfgMaxEntries
  sequencers : tables.sequencers.count ≤ sequencerStateMaxEntries

namespace Ep0Table
variable (t : Ep0Table)

/-- The bits of the octet at `k` of a table that a write sets. The others are read-only, reserved or live status. -/
def writableBits : Ep0Table → Nat → UInt8
  | .general, _ => 0
  | .epIdMap, k => epIdMapBits (k % 4)
  | .requestStreamCfg, k => requestStreamBits (k % 24)
  | .epGenericCfg, k => epGenericBits k
  | _, _ => 0xFF

/-- The old octet combined with octet `i` of the write in the writable bits, and the old octet elsewhere: outside those
    bits, and in a field of the endpoint configuration that the write has only a part of. -/
def combinedOctet (op : Ep0WriteOp) (relative : Nat) (data : Octets) (old : UInt8) (i : Nat) : UInt8 :=
  if t = .epGenericCfg ∧ FieldCut relative data.length (relative + i) then old
  else settle (t.writableBits (relative + i)) old (op.apply old (data.at i))

end Ep0Table

namespace Ep0Tables
variable (tables : Ep0Tables)

/-- The written ticks of a request stream's timeout do not convert at this tick length. -/
def TicksRefused (msPerTick : UInt32) (op : Ep0WriteOp) (relative : Nat) (data : Octets) (k : Nat) : Prop :=
  TicksKept msPerTick
    ((imageWritten (requestStreamCodec msPerTick) op relative data tables.requestStreamCfg).drop (24 * (k / 24))) (k % 24)

instance (msPerTick : UInt32) (op : Ep0WriteOp) (relative : Nat) (data : Octets) (k : Nat) :
    Decidable (tables.TicksRefused msPerTick op relative data k) := inferInstanceAs (Decidable (TicksKept _ _ _))

/-- The octet a read shows after the write: the combined one, but ticks that do not convert leave both octets of
    rx_wd_timeout as they were, and EP0 is in use after every write of its octet. -/
def settledOctet (msPerTick : UInt32) (t : Ep0Table) (op : Ep0WriteOp) (relative : Nat) (data : Octets) (old : UInt8)
    (i : Nat) : UInt8 :=
  let octet := t.combinedOctet op relative data old i
  match t with
  | .requestStreamCfg => if tables.TicksRefused msPerTick op relative data (relative + i) then old else octet
  | .epGenericCfg => if relative + i = 1 then octet ||| 0x01 else octet
  | _ => octet

end Ep0Tables

/-- The octets a read is answered with; none where it is answered with an error. -/
def ep0Read (ctx : Ep0ReadCtx) (tables : Ep0Tables) (addr : UInt16) (readSize transactionNum : UInt8) : Option Octets :=
  match ep0EncodeReadResponse ctx tables addr readSize transactionNum with
  | (.none, some frame) => (decodeAbb frame).toOption.map Prod.snd
  | _ => none

/-- After every confirmed write, a read of its octets shows `octet` of what the same read showed before it. -/
def WritesReadBack (octet : Ep0Table → Ep0WriteOp → Nat → Octets → UInt8 → Nat → UInt8) (ctx : Ep0WriteCtx)
    (tables : Ep0Tables) : Prop :=
  ∀ (b : Octets) (tn : UInt8) (tables' : Ep0Tables),
    ep0DecodeWriteRequest ctx tables b = (.ok (.none, tn), tables') →
    ∃ request op t, ep0ParseWriteRequest b = .ok request ∧ Ep0WriteOp.ofEvt request.evt = some op ∧
      tables.writeRoute ctx.map request.addr.toNat = some t ∧
      ∀ (blocked : Nat → Bool) (readSize tn' : UInt8), readSize.toNat ≤ request.data.length →
        let readCtx : Ep0ReadCtx :=
          { map := ctx.map, watchdogMsPerTick := ctx.watchdogMsPerTick, requestStreamStatusBlocked := blocked }
        ∃ old new, ep0Read readCtx tables request.addr readSize tn' = some old ∧
          ep0Read readCtx tables' request.addr readSize tn' = some new ∧
          old.length = readSize.toNat ∧ new.length = readSize.toNat ∧
          ∀ i < readSize.toNat,
            new.at i = octet t op (request.addr.toNat - ctx.map.tablePtr t) request.data (old.at i) i

/-! ### The dispatchers -/

section route
variable {tables tables' : Ep0Tables} {ctx : Ep0WriteCtx}

/-- Within their bounds no count is clamped. -/
theorem Ep0Tables.InBounds.readRoute_eq (h : tables.InBounds) (map : RegmapGeneral) (addr : Nat) :
    tables.readRoute map addr = tables.writeRoute map addr := by
  unfold readRoute writeRoute
  rw [Nat.min_eq_left h.hwPinMap, Nat.min_eq_left h.epIdMap, Nat.min_eq_left h.responseQueueCfg,
    Nat.min_eq_left h.requestStreamCfg, Nat.min_eq_left h.epGenericCfg]

/-- No table grows or shrinks. -/
structure SameCounts (tables tables' : Ep0Tables) : Prop where
  hwPinMap : tables'.hwPinMap.length = tables.hwPinMap.length
  epIdMap : tables'.epIdMap.length = tables.epIdMap.length
  responseQueueCfg : tables'.responseQueueCfg.length = tables.responseQueueCfg.length
  requestStreamCfg : tables'.requestStreamCfg.length = tables.requestStreamCfg.length
  epGenericCfg : tables'.epGenericCfg.length = tables.epGenericCfg.length
  sequencers : tables'.sequencers.count = tables.sequencers.count
  optionalCfg : ∀ s, (tables'.optionalCfg s).length = (tables.optionalCfg s).length

theorem SameCounts.writeRoute_eq (h : SameCounts tables tables') (map : RegmapGeneral) (addr : Nat) :
    tables'.writeRoute map addr = tables.writeRoute map addr := by
  unfold Ep0Tables.writeRoute
  simp only [h.hwPinMap, h.epIdMap, h.responseQueueCfg, h.requestStreamCfg, h.epGenericCfg, h.sequencers, h.optionalCfg]

theorem SameCounts.inBounds (h : SameCounts tables tables') (hbounds : tables.InBounds) : tables'.InBounds where
  hwPinMap := h.hwPinMap ▸ hbounds.hwPinMap
  epIdMap := h.epIdMap ▸ hbounds.epIdMap
  responseQueueCfg := h.responseQueueCfg ▸ hbounds.responseQueueCfg
  requestStreamCfg := h.requestStreamCfg ▸ hbounds.requestStreamCfg
  epGenericCfg := h.epGenericCfg ▸ hbounds.epGenericCfg
  sequencers := h.sequencers ▸ hbounds.sequencers

theorem SameCounts.refl (tables : Ep0Tables) : SameCounts tables tables :=
  ⟨rfl, rfl, rfl, rfl, rfl, rfl, fun _ => rfl⟩

theorem AcceptedWrite.sameCounts {op : Ep0WriteOp} {addr : Nat} {data : Octets}
    (h : AcceptedWrite ctx tables op addr data tables') : SameCounts tables tables' := by
  have hrefl := SameCounts.refl tables
  cases h with
  | hwPinMap => exact { hrefl with hwPinMap := length_rowsWritten }
  | epIdMap => exact { hrefl with epIdMap := length_rowsWritten }
  | responseQueueCfg => exact { hrefl with responseQueueCfg := length_rowsWritten }
  | requestStreamCfg => exact { hrefl with requestStreamCfg := length_rowsWritten }
  | epGenericCfg => exact { hrefl with epGenericCfg := List.length_mapIdx }
  | sequencers => exact { hrefl with sequencers := length_rowsWritten }
  | optionalCfg s =>
    refine { hrefl with optionalCfg := fun s' => ?_ }
    by_cases hs : s' = s
    · subst hs
      dsimp only
      rw [Function.update_self, length_patch]
    · dsimp only
      rw [Function.update_of_ne hs]

end route

/-! ### Reads -/

section read
variable {ctx : Ep0ReadCtx} {tables : Ep0Tables} {addr : UInt16} {readSize tn : UInt8}

theorem length_ep0ReadPayload (image : Octets) (offset : Nat) :
    (ep0ReadPayload image offset readSize).length = readSize.toNat := by
  unfold ep0ReadPayload
  dsimp only
  rw [List.length_append, List.length_replicate, List.length_take]
  omega

theorem ep0ReadPayload_at (image : Octets) (offset : Nat) {i : Nat} (hi : i < readSize.toNat) :
    (ep0ReadPayload image offset readSize).at i = image.at (offset + i) := by
  unfold ep0ReadPayload
  dsimp only
  generalize hcopied : (image.drop offset).take readSize.toNat = copied
  have hcell : copied[i]? = image[offset + i]? := by
    rw [← hcopied, List.getElem?_take_of_lt hi, List.getElem?_drop]
  by_cases hlt : i < copied.length
  · rw [Octets.at_append_left hlt]
    rw [Octets.at_eq, hcell, ← Octets.at_eq]
  · -- behind the image the payload is zero, as is the default
    rw [List.getElem?_eq_none (Nat.le_of_not_lt hlt)] at hcell
    rw [Octets.at_eq image, ← hcell, Octets.at_eq, List.getElem?_append_right (Nat.le_of_not_lt hlt),
      List.getElem?_replicate]
    split <;> rfl

/-- A read that is led to a table is answered with the octets of its image. -/
theorem ep0Read_eq {t : Ep0Table} (hroute : tables.readRoute ctx.map addr.toNat = some t) :
    ep0Read ctx tables addr readSize tn =
      some (ep0ReadPayload (tables.readImage ctx t) (addr.toNat - ctx.map.tablePtr t) readSize) := by
  have hfits : quadletsOf (abbHeaderLen +
      (ep0ReadPayload (tables.readImage ctx t) (addr.toNat - ctx.map.tablePtr t) readSize).length) ≤ 0x1FF := by
    have hlt := readSize.toNat_lt
    have hheader : abbHeaderLen = 8 := rfl
    rw [length_ep0ReadPayload, quadletsOf_le]
    omega
  unfold ep0Read ep0EncodeReadResponse ep0ReadResponseFromSlice
  rw [hroute]
  dsimp only
  rw [encodeAbb_eq_some.mpr ⟨hfits, rfl⟩]
  dsimp only
  rw [decodeAbb_framed _ _ hfits]
  rfl

end read

/-! ### Each table -/

section table
variable {ρ : Type} {c : RowCodec ρ UInt8} {shown : Nat → ρ → Octets} {mask : Nat → UInt8}
  {kept : Octets → Nat → Prop} {op : Ep0WriteOp} {maxEntries relative i k : Nat} {data : Octets} {rows : List ρ}

/-- An octet within a table belongs to one of its rows. -/
theorem row_of_octet (rows : List ρ) (stride : Nat) (hk : k < rows.length * stride) :
    ∃ r, rows[k / stride]? = some r ∧ k % stride < stride ∧ stride * (k / stride) + k % stride = k := by
  have hpos : 0 < stride := by
    rcases Nat.eq_zero_or_pos stride with rfl | hpos
    · exact absurd hk (Nat.not_lt_zero k)
    · exact hpos
  exact ⟨_, List.getElem?_eq_getElem (Nat.div_lt_of_lt_mul (by rwa [Nat.mul_comm])), Nat.mod_lt k hpos,
    Nat.div_add_mod k stride⟩

/-- Octet `i` of a write of a row table, read back. -/
theorem Settles.read_back [∀ b j, Decidable (kept b j)] (h : Settles c shown mask kept)
    (hfits : FitsTable c maxEntries relative data rows) (hi : i < data.length) :
    let old := Octets.at (imageOf shown rows) (relative + i)
    Octets.at (imageOf shown (rowsWritten c op relative data rows)) (relative + i) =
      if kept ((imageWritten c op relative data rows).drop (c.stride * ((relative + i) / c.stride)))
          ((relative + i) % c.stride) then old
      else settle (mask ((relative + i) % c.stride)) old (op.apply old (data.at i)) := by
  intro old
  have hwithin := hfits.2.within
  have hreach : Reaches relative data.length (relative + i) := ⟨Nat.le_add_right _ _, by omega⟩
  have hlast : relative + i < rows.length * c.stride := by omega
  obtain ⟨r, hr, hj, hk⟩ := row_of_octet rows c.stride hlast
  by_cases hkept : kept ((imageWritten c op relative data rows).drop (c.stride * ((relative + i) / c.stride)))
      ((relative + i) % c.stride)
  · have hread := h.read_kept hr hj hkept
    rw [if_pos hkept]
    rwa [hk] at hread
  · have hread := h.read_written hr hj (hk.symm ▸ hreach) hkept
    rw [if_neg hkept]
    rwa [hk, Nat.add_sub_cancel_left] at hread

/-- A table whose rows are shown as they are rendered and whose octets are all taken over. -/
theorem Settles.read_back_plain (h : Settles c (fun _ => c.render) mask fun _ _ => False)
    (hfits : FitsTable c maxEntries relative data rows) (hi : i < data.length) :
    Octets.at (c.image (rowsWritten c op relative data rows)) (relative + i) =
      settle (mask ((relative + i) % c.stride)) (Octets.at (c.image rows) (relative + i))
        (op.apply (Octets.at (c.image rows) (relative + i)) (data.at i)) := by
  rw [c.image_eq_imageOf, c.image_eq_imageOf, h.read_back hfits hi, if_neg not_false]

end table

section accepted
variable {ctx : Ep0WriteCtx} {tables tables' : Ep0Tables} {op : Ep0WriteOp} {addr : Nat} {data : Octets}

/-- The octets a write of the endpoint configuration applies are the combined ones. -/
theorem epGenericWriteData_at {rows : List EpGenericCfg} {relative i : Nat} (hcount : rows.length ≤ epGenericCfgMaxEntries)
    (hin : InTable (rows.length * 12) relative data.length) (hi : i < data.length) :
    (ctx.epGenericWriteData op relative data rows).at i =
      op.apply ((epGenericCfgRender rows).at (relative + i)) (data.at i) := by
  have hlen : (epGenericCfgRender rows).length = 12 * rows.length := by
    rw [epGenericCfgRender, flatMap_eq_imageOf, length_imageOf fun _ => EpGenericCfg.length_render]
  rw [Ep0WriteCtx.epGenericWriteData, ep0WriteData_eq hlen hcount hin, Octets.at_eq, getElem?_ep0CombineWriteOp,
    List.getElem?_eq_getElem hi, Octets.at_drop, Octets.at_eq data, List.getElem?_eq_getElem hi]
  rfl

/-- Octet `i` of a write of the endpoint configuration, read back. -/
theorem epGenericCfg_read_back {rows : List EpGenericCfg} {relative i : Nat} (hcount : rows.length ≤ epGenericCfgMaxEntries)
    (hin : InTable (rows.length * 12) relative data.length) (hi : i < data.length) :
    (epGenericCfgRender (epGenericCfgWritten relative (ctx.epGenericWriteData op relative data rows) rows)).at
        (relative + i) =
      let octet := Ep0Table.epGenericCfg.combinedOctet op relative data ((epGenericCfgRender rows).at (relative + i)) i
      if relative + i = 1 then octet ||| 0x01 else octet := by
  have hlen : (ctx.epGenericWriteData op relative data rows).length = data.length := length_ep0WriteData
  have hwithin := hin.within
  have hreach : Reaches relative (ctx.epGenericWriteData op relative data rows).length (relative + i) :=
    ⟨Nat.le_add_right _ _, by omega⟩
  have hlast : relative + i < rows.length * 12 := by omega
  obtain ⟨e, hr, hj, hk⟩ := row_of_octet rows 12 hlast
  have hread := epGenericCfg_read_written hr hj (hk.symm ▸ hreach)
  rw [hk, hlen, Nat.add_sub_cancel_left, epGenericWriteData_at hcount hin hi] at hread
  rw [hread]
  generalize (epGenericCfgRender rows).at (relative + i) = old
  by_cases hcut : FieldCut relative data.length (relative + i)
  · -- EP0's octet is a field of its own, which the write has
    have hnotEp0 : relative + i ≠ 1 := fun h => by
      have hfield : epGenericField (1 % 12) = (1, 1) := rfl
      rw [h, FieldCut, hfield] at hcut
      exact hcut (by dsimp only; omega)
    have hkept : Ep0Table.epGenericCfg.combinedOctet op relative data old i = old := if_pos ⟨rfl, hcut⟩
    rw [hkept, if_pos hcut]
    exact (if_neg hnotEp0).symm
  · have hcombined : Ep0Table.epGenericCfg.combinedOctet op relative data old i =
        settle (epGenericBits (relative + i)) old (op.apply old (data.at i)) := if_neg fun h => hcut h.2
    rw [hcombined, if_neg hcut]

/-- The octets a write of an optional section applies are the combined ones. -/
theorem optionalWriteData_at {cfg : Octets} {relative i : Nat} (hin : InTable cfg.length relative data.length)
    (hdata : data.length ≤ abbMaxPayload) (hi : i < data.length) :
    Octets.at (patch cfg relative (Ep0WriteCtx.optionalWriteData op relative data cfg)) (relative + i) =
      op.apply (cfg.at (relative + i)) (data.at i) := by
  have hcombined : Ep0WriteCtx.optionalWriteData op relative data cfg = ep0CombineWriteOp op (cfg.drop relative) data := by
    unfold Ep0WriteCtx.optionalWriteData
    by_cases hop : op = .set
    · subst hop
      rw [if_neg (by simp), ep0CombineWriteOp_set]
    · rw [if_pos ⟨hop, hin.within, hdata⟩]
  have hwithin := hin.within
  have hlen : (ep0CombineWriteOp op (cfg.drop relative) data).length = data.length := length_ep0CombineWriteOp ..
  have hreach : Reaches relative (ep0CombineWriteOp op (cfg.drop relative) data).length (relative + i) :=
    ⟨Nat.le_add_right _ _, by omega⟩
  rw [hcombined, Octets.at_eq, getElem?_patch_of_reaches hreach (by omega), Nat.add_sub_cancel_left,
    getElem?_ep0CombineWriteOp, List.getElem?_eq_getElem hi, Octets.at_drop, Octets.at_eq data,
    List.getElem?_eq_getElem hi]
  rfl

theorem combinedOctet_of_ne {t : Ep0Table} (ht : t ≠ .epGenericCfg) (relative : Nat) (old : UInt8) (i : Nat) :
    t.combinedOctet op relative data old i = settle (t.writableBits (relative + i)) old (op.apply old (data.at i)) :=
  if_neg fun h => ht h.1

/-- What a read of the written octets shows after an accepted write. -/
theorem AcceptedWrite.read_back (h : AcceptedWrite ctx tables op addr data tables') (hbounds : tables.InBounds)
    (hdata : data.length ≤ abbMaxPayload) :
    ∃ t, tables.writeRoute ctx.map addr = some t ∧ ∀ (blocked : Nat → Bool) (i : Nat), i < data.length →
      let readCtx : Ep0ReadCtx :=
        { map := ctx.map, watchdogMsPerTick := ctx.watchdogMsPerTick, requestStreamStatusBlocked := blocked }
      let relative := addr - ctx.map.tablePtr t
      Octets.at (tables'.readImage readCtx t) (relative + i) =
        tables.settledOctet ctx.watchdogMsPerTick t op relative data
          (Octets.at (tables.readImage readCtx t) (relative + i)) i := by
  have hcounts := h.sameCounts
  have hbounds' := hcounts.inBounds hbounds
  cases h with
  | hwPinMap hroute hrel hwritable hfits =>
    refine ⟨.hwPinMap, hroute, fun blocked i hi => ?_⟩
    dsimp only [Ep0Tables.readImage, Ep0Tables.settledOctet]
    rw [← hrel, List.take_of_length_le hbounds.hwPinMap, List.take_of_length_le hbounds'.hwPinMap,
      combinedOctet_of_ne Ep0Table.noConfusion]
    exact hwPinMap_settles.read_back_plain hfits hi
  | epIdMap hroute hrel hwritable hfits =>
    refine ⟨.epIdMap, hroute, fun blocked i hi => ?_⟩
    dsimp only [Ep0Tables.readImage, Ep0Tables.settledOctet]
    rw [← hrel, List.take_of_length_le hbounds.epIdMap, List.take_of_length_le hbounds'.epIdMap,
      combinedOctet_of_ne Ep0Table.noConfusion]
    exact epIdMap_settles.read_back_plain hfits hi
  | responseQueueCfg hroute hrel hauth hfits =>
    refine ⟨.responseQueueCfg, hroute, fun blocked i hi => ?_⟩
    dsimp only [Ep0Tables.readImage, Ep0Tables.settledOctet]
    rw [← hrel, List.take_of_length_le hbounds.responseQueueCfg, List.take_of_length_le hbounds'.responseQueueCfg,
      combinedOctet_of_ne Ep0Table.noConfusion]
    exact responseQueue_settles.read_back_plain hfits hi
  | requestStreamCfg hroute hrel hauth hfits =>
    refine ⟨.requestStreamCfg, hroute, fun blocked i hi => ?_⟩
    dsimp only [Ep0Tables.readImage, Ep0Tables.settledOctet]
    rw [← hrel, List.take_of_length_le hbounds.requestStreamCfg, List.take_of_length_le hbounds'.requestStreamCfg,
      combinedOctet_of_ne Ep0Table.noConfusion]
    exact (requestStream_settles ctx.watchdogMsPerTick blocked).read_back hfits hi
  | epGenericCfg hroute hrel hwritable hin =>
    refine ⟨.epGenericCfg, hroute, fun blocked i hi => ?_⟩
    dsimp only [Ep0Tables.readImage, Ep0Tables.settledOctet]
    rw [← hrel, List.take_of_length_le hbounds.epGenericCfg, List.take_of_length_le hbounds'.epGenericCfg]
    exact epGenericCfg_read_back hbounds.epGenericCfg hin hi
  | sequencers hroute hrel hauth hfits =>
    refine ⟨.sequencers, hroute, fun blocked i hi => ?_⟩
    dsimp only [Ep0Tables.readImage, Ep0Tables.settledOctet]
    rw [← hrel, List.take_of_length_le hbounds.sequencers, List.take_of_length_le hbounds'.sequencers,
      combinedOctet_of_ne Ep0Table.noConfusion]
    exact sequencer_settles.read_back_plain hfits hi
  | optionalCfg s hroute hrel hwritable hin =>
    refine ⟨.optionalCfg s, hroute, fun blocked i hi => ?_⟩
    dsimp only [Ep0Tables.readImage, Ep0Tables.settledOctet]
    rw [← hrel, combinedOctet_of_ne Ep0Table.noConfusion, Function.update_self]
    exact (optionalWriteData_at hin hdata hi).trans settle_full.symm

end accepted

/-! ### Requests -/

theorem unpackHeader_acfMsgLength (b : Octets) : (unpackHeader b).acfMsgLength.toNat ≤ 0x1FF := by
  have hhigh : (b.at 0 &&& 0x01).toNat ≤ 1 := by
    rw [UInt8.toNat_and]
    exact Nat.and_le_right
  have hlow := (b.at 1).toNat_lt
  have hlt : (((b.at 0 &&& 0x01).toUInt16 <<< 8) ||| (b.at 1).toUInt16).toNat < 2 ^ 9 := by
    rw [UInt16.toNat_or]
    refine Nat.or_lt_two_pow ?_ ?_
    · rw [UInt16.toNat_shiftLeft, UInt8.toNat_toUInt16]
      change (b.at 0 &&& 0x01).toNat <<< 8 % 2 ^ 16 < 2 ^ 9
      rw [Nat.shiftLeft_eq]
      omega
    · rw [UInt8.toNat_toUInt16]
      omega
  exact Nat.le_of_lt_succ hlt

/-- A request has no more data than a message has payload. -/
theorem length_data_of_parse {b : Octets} {request : Ep0WriteRequest} (h : ep0ParseWriteRequest b = .ok request) :
    request.data.length ≤ abbMaxPayload := by
  unfold ep0ParseWriteRequest at h
  cases hdecode : decodeAbb b with
  | error e =>
    rw [hdecode] at h
    cases e <;> cases h
  | ok decoded =>
    obtain ⟨hdr, payload⟩ := decoded
    have hpayload : payload.length ≤ abbMaxPayload := by
      have hmax := unpackHeader_acfMsgLength b
      unfold decodeAbb at hdecode
      dsimp only at hdecode
      split_ifs at hdecode
      obtain ⟨-, rfl⟩ := Prod.mk.inj (Except.ok.inj hdecode)
      rw [List.length_take]
      unfold abbMaxPayload
      omega
    rw [hdecode] at h
    dsimp only at h
    split_ifs at h
    obtain rfl := Except.ok.inj h
    rw [List.length_drop]
    omega

/-- Every confirmed write is read back octet by octet; every other request leaves the tables as they are; and reads and
    writes agree on the table an address leads to. -/
theorem register_writes_read_back (ctx : Ep0WriteCtx) (tables : Ep0Tables) (hbounds : tables.InBounds) :
    WritesReadBack (tables.settledOctet ctx.watchdogMsPerTick) ctx tables ∧
    (∀ b : Octets, (∀ tn, (ep0DecodeWriteRequest ctx tables b).1 ≠ .ok (.none, tn)) →
      (ep0DecodeWriteRequest ctx tables b).2 = tables) ∧
    ∀ addr, tables.readRoute ctx.map addr = tables.writeRoute ctx.map addr := by
  refine ⟨fun b tn tables' h => ?_, fun b => ep0DecodeWriteRequest_refused, hbounds.readRoute_eq ctx.map⟩
  obtain ⟨request, op, hparse, hop, hacc⟩ := ep0DecodeWriteRequest_accepted h
  obtain ⟨t, hroute, hread⟩ := hacc.read_back hbounds (length_data_of_parse hparse)
  refine ⟨request, op, t, hparse, hop, hroute, fun blocked readSize tn' hsize => ?_⟩
  have hcounts := hacc.sameCounts
  have hold := hbounds.readRoute_eq ctx.map request.addr.toNat
  have hnew := (hcounts.inBounds hbounds).readRoute_eq ctx.map request.addr.toNat
  rw [hroute] at hold
  rw [hcounts.writeRoute_eq, hroute] at hnew
  refine ⟨_, _, ep0Read_eq hold, ep0Read_eq hnew, length_ep0ReadPayload _ _, length_ep0ReadPayload _ _, fun i hi => ?_⟩
  rw [ep0ReadPayload_at _ _ hi, ep0ReadPayload_at _ _ hi]
  exact hread blocked i (Nat.lt_of_lt_of_le hi hsize)

/-- XOR of the AVTPDU size of a response queue. -/
theorem register_writes_read_back_xor :
    let ctx : Ep0WriteCtx := { map := { svrResponseStreamCfgPtr := 0x100 }, writer := { viaDiscoveryStream := true } }
    let tables : Ep0Tables := { responseQueueCfg := [{ maxAvtpduSize := 0x0123 }] }
    let b : Octets := [0x1C, 3, 0x00, 0, 0x30, 7, 0x80, 0, 0x01, 0x02, 0x0F, 0xF0]
    ∃ new, ep0Read { map := ctx.map } (ep0DecodeWriteRequest ctx tables b).2 0x0102 2 8 = some new ∧
      new.at 0 = 0x0E ∧ new.at 1 = 0xD3 := by
  intro ctx tables b
  have hbounds : tables.InBounds :=
    ⟨by decide, by decide, by decide, by decide, by decide, by decide⟩
  have hconfirmed : (ep0DecodeWriteRequest ctx tables b).1 = .ok (.none, 7) := by decide +kernel
  have hparsed : ep0ParseWriteRequest b =
      .ok { evt := 3, transactionNum := 7, addr := 0x0102, data := [0x0F, 0xF0] } := by decide +kernel
  have hroutes : tables.writeRoute ctx.map 0x0102 = some .responseQueueCfg := by decide +kernel
  have hshown : ep0Read { map := ctx.map } tables 0x0102 2 8 = some [0x01, 0x23] := by decide +kernel
  obtain ⟨request, op, t, hparse, hop, hroute, hread⟩ :=
    (register_writes_read_back ctx tables hbounds).1 b 7 _ (Prod.ext hconfirmed rfl)
  rw [hparsed] at hparse
  obtain rfl := Except.ok.inj hparse
  obtain rfl : Ep0WriteOp.xor = op := Option.some.inj hop
  obtain rfl : Ep0Table.responseQueueCfg = t := Option.some.inj (hroutes.symm.trans hroute)
  obtain ⟨old, new, hold, hnew, -, -, hoctets⟩ := hread (fun _ => false) 2 8 (by decide)
  obtain rfl : [0x01, 0x23] = old := Option.some.inj (hshown.symm.trans hold)
  refine ⟨new, hnew, ?_, ?_⟩
  · rw [hoctets 0 (by decide)]
    decide +kernel
  · rw [hoctets 1 (by decide)]
    decide +kernel

/-- Without a tick length, ticks that are written are not shown afterwards. -/
theorem write_of_ticks_not_read_back :
    ¬∀ (ctx : Ep0WriteCtx) (tables : Ep0Tables), tables.InBounds →
      WritesReadBack Ep0Table.combinedOctet ctx tables := by
  intro hclaim
  let ctx : Ep0WriteCtx := { map := { svrRequestStreamCfgPtr := 0x100 } }
  let tables : Ep0Tables := { requestStreamCfg := [{}] }
  let b : Octets := [0x1C, 3, 0x00, 0, 0x00, 7, 0x80, 0, 0x01, 0x0A, 0x00, 0x05]
  have hconfirmed : (ep0DecodeWriteRequest ctx tables b).1 = .ok (.none, 7) := by decide +kernel
  have hparsed : ep0ParseWriteRequest b =
      .ok { evt := 0, transactionNum := 7, addr := 0x010A, data := [0x00, 0x05] } := by decide +kernel
  have hroutes : tables.writeRoute ctx.map 0x010A = some .requestStreamCfg := by decide +kernel
  have hshown : ep0Read { map := ctx.map } (ep0DecodeWriteRequest ctx tables b).2 0x010A 2 8 = some [0x00, 0x00] := by
    decide +kernel
  obtain ⟨request, op, t, hparse, hop, hroute, hread⟩ :=
    hclaim ctx tables ⟨by decide, by decide, by decide, by decide, by decide, by decide⟩ b 7 _ (Prod.ext hconfirmed rfl)
  rw [hparsed] at hparse
  obtain rfl := Except.ok.inj hparse
  obtain rfl : Ep0WriteOp.set = op := Option.some.inj hop
  obtain rfl : Ep0Table.requestStreamCfg = t := Option.some.inj (hroutes.symm.trans hroute)
  obtain ⟨old, new, hold, hnew, -, -, hoctets⟩ := hread (fun _ => false) 2 8 (by decide)
  obtain rfl : [0x00, 0x00] = new := Option.some.inj (hshown.symm.trans hnew)
  have hfive := hoctets 1 (by decide)
  unfold Ep0Table.combinedOctet at hfive
  rw [if_neg fun h => Ep0Table.noConfusion h.1] at hfive
  exact absurd (hfive.trans settle_full) (show (0x00 : UInt8) ≠ 0x05 by decide)

end Rcp
