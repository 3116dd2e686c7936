import Rcp.Theorems.RegisterFields

/-! What a register write leaves alone. The fields whose octets it does not reach keep their values exactly where they
    are representable in those octets; a write to rx_stream_status alone is parsed back like any other. -/

namespace Rcp
open Lib

/-! ### The frame of a write -/

section
variable {ρ : Type}

/-- No octet of field `f` of row `i` of the table at `base` is in the span. -/
def OffWrite (f : WireField ρ) (stride base i start len : Nat) : Prop :=
  ∀ k, f.offset ≤ k → k < f.offset + f.width → ¬Reaches start len (base + (stride * i + k))

/-- Every field off the write keeps its value. -/
def FieldsKept (fields : List (WireField ρ)) (stride base start len : Nat) (old new : List ρ) : Prop :=
  ∀ f ∈ fields, ∀ i, OffWrite f stride base i start len → new[i]?.map f.get = old[i]?.map f.get

/-- Every field off the write is representable. -/
def LosslessOffWrite (fields : List (WireField ρ)) (stride base start len : Nat) (rows : List ρ) : Prop :=
  ∀ f ∈ fields, ∀ i r, rows[i]? = some r → OffWrite f stride base i start len → f.representable r

theorem FieldsKept.refl (fields : List (WireField ρ)) (stride base start len : Nat) (rows : List ρ) :
    FieldsKept fields stride base start len rows rows := fun _ _ _ _ => rfl

theorem fieldsKept_rowsWritten_iff {c : RowCodec ρ UInt8} {fields : List (WireField ρ)}
    (hfaithful : ∀ f ∈ fields, f.Faithful c) (op : Ep0WriteOp) {relative base start : Nat} (data : Octets)
    (rows : List ρ) (hstart : start = base + relative) :
    FieldsKept fields c.stride base start data.length rows (rowsWritten c op relative data rows) ↔
      LosslessOffWrite fields c.stride base start data.length rows := by
  have huntouched {f : WireField ρ} {i : Nat} (h : OffWrite f c.stride base i start data.length) :
      f.toRowField.Untouched c.stride i relative data.length := by
    intro k hlo hhi hreach
    refine h k hlo hhi ?_
    unfold Reaches at hreach ⊢
    omega
  constructor
  · intro hkept f hf i r hr hoff
    exact ((hfaithful f hf).kept_iff_representable op hr (huntouched hoff)).mp (hkept f hf i hoff)
  · intro hlossless f hf i hoff
    cases hr : rows[i]? with
    | none =>
      have hnone : (rowsWritten c op relative data rows)[i]? = none := by
        rw [List.getElem?_eq_none_iff, length_rowsWritten]
        exact List.getElem?_eq_none_iff.mp hr
      rw [hnone]
    | some r =>
      rw [← hr]
      exact ((hfaithful f hf).kept_iff_representable op hr (huntouched hoff)).mpr (hlossless f hf i r hr hoff)

end

/-! ### The endpoint configuration is written field by field -/

section epGenericCfg
variable {relative : Nat} {writeData : Octets} {i : Nat} {e : EpGenericCfg}

theorem fieldsKept_epGenericCfgWritten {base start : Nat} (rows : List EpGenericCfg) (hstart : start = base + relative) :
    FieldsKept epGenericCfgFields 12 base start writeData.length rows
      (epGenericCfgWritten relative writeData rows) := by
  intro f hf i hoff
  have hnot : ∀ k, f.offset ≤ k → k < f.offset + f.width → ¬Reaches relative writeData.length (12 * i + k) := by
    intro k hlo hhi hreach
    refine hoff k hlo hhi ?_
    unfold Reaches at hreach ⊢
    omega
  rw [epGenericCfgWritten, List.getElem?_mapIdx]
  cases rows[i]? with
  | none => rfl
  | some e =>
    rw [Option.map_some, Option.map_some, Option.map_some, Option.some.injEq]
    split
    · -- a field is updated only where the write has all of its octets
      have hpart {offset width : Nat} (hwidth : 0 < width) (hoffset : f.offset = offset) (hfw : f.width = width) :
          ¬(relative ≤ i * 12 + offset ∧ i * 12 + offset + width ≤ relative + writeData.length) := by
        rintro ⟨hlo, hhi⟩
        refine hnot offset (by omega) (by omega) ?_
        unfold Reaches
        omega
      simp only [epGenericCfgFields, List.mem_cons, List.not_mem_nil, or_false] at hf
      rcases hf with rfl | rfl | rfl | rfl | rfl | rfl | rfl
      · rfl
      · exact if_neg (hpart (by decide) rfl rfl)
      · exact if_neg (hpart (by decide) rfl rfl)
      · exact if_neg (hpart (by decide) rfl rfl)
      · exact if_neg (hpart (by decide) rfl rfl)
      · exact if_neg (hpart (by decide) rfl rfl)
      · exact if_neg (hpart (by decide) rfl rfl)
    · rfl

end epGenericCfg

/-! ### A write of rx_stream_status -/

namespace Ep0WriteCtx

/-- Each octet of the span is an rx_stream_status octet, and the write leaves its other seven bits as rendered. -/
def WritesStatusOnly (ctx : Ep0WriteCtx) (op : Ep0WriteOp) (relative : Nat) (data : Octets)
    (rows : List RequestStreamRow) : Prop :=
  let image := (requestStreamCodec ctx.watchdogMsPerTick).image rows
  ∀ i < data.length, (relative + i) % 24 = 0x0D ∧
    Octets.at (ep0CombineWriteOp op (image.drop relative) data) i &&& 0x7F = Octets.at image (relative + i) &&& 0x7F

/-- The two ways a write to the request-stream table is authorized. -/
theorem requestStreamAuthorized_iff (ctx : Ep0WriteCtx) (op : Ep0WriteOp) (relative : Nat) (data : Octets)
    (rows : List RequestStreamRow) :
    ctx.RequestStreamAuthorized op relative data rows ↔
      ctx.fieldWritable .functionalWStar = true ∨ ctx.WritesStatusOnly op relative data rows := by
  unfold RequestStreamAuthorized requestStreamCfgRowWriteAuthorize WritesStatusOnly
  dsimp only
  by_cases hgate : ctx.fieldWritable .functionalWStar = true
  · simp [hgate]
  · rw [if_neg hgate, List.all_eq_true, length_ep0CombineWriteOp]
    simp [hgate]

end Ep0WriteCtx

section statusOnly
variable {ctx : Ep0WriteCtx} {op : Ep0WriteOp} {relative : Nat} {data : Octets} {rows : List RequestStreamRow}

/-- A row is parsed from its octets other than 0x0D, and from the low seven bits of that. -/
theorem requestStream_parse_congr {msPerTick : UInt32} {r : RequestStreamRow} {b b' : Octets}
    (hcells : ∀ k < 24, k ≠ 0x0D → b[k]? = b'[k]?) (hstatus : b.at 0x0D &&& 0x7F = b'.at 0x0D &&& 0x7F) :
    r.parse msPerTick b = r.parse msPerTick b' := by
  have hat : ∀ k < 24, k ≠ 0x0D → b.at k = b'.at k := fun k hk hne => Octets.at_congr (hcells k hk hne)
  have hbit (mask : UInt8) (hmask : 0x7F &&& mask = mask) : b.at 0x0D &&& mask = b'.at 0x0D &&& mask := by
    rw [← hmask, ← UInt8.and_assoc, ← UInt8.and_assoc, hstatus]
  unfold RequestStreamRow.parse
  dsimp only
  rw [hbit 0x01 rfl, hbit 0x02 rfl, hbit 0x04 rfl, hbit 0x08 rfl, hat 0x0C (by decide) (by decide),
    hat 0x0E (by decide) (by decide), hat 0x0F (by decide) (by decide), hat 0x10 (by decide) (by decide),
    hat 0x11 (by decide) (by decide), getU64_congr fun k _ hk => hcells k (by omega) (by omega),
    be16_congr (n := 0x08) fun k _ hk => hcells k (by omega) (by omega),
    be16_congr (n := 0x0A) fun k _ hk => hcells k (by omega) (by omega)]

/-- A write of rx_stream_status leaves of every row what its octets said. -/
theorem rowsWritten_of_writesStatusOnly (h : ctx.WritesStatusOnly op relative data rows) :
    rowsWritten (requestStreamCodec ctx.watchdogMsPerTick) op relative data rows =
      rows.map fun r =>
        (requestStreamCodec ctx.watchdogMsPerTick).parse r ((requestStreamCodec ctx.watchdogMsPerTick).render r) := by
  let c := requestStreamCodec ctx.watchdogMsPerTick
  refine List.ext_getElem? fun i => ?_
  rw [List.getElem?_map]
  cases hr : rows[i]? with
  | none =>
    rw [Option.map_none, List.getElem?_eq_none_iff, length_rowsWritten]
    exact List.getElem?_eq_none_iff.mp hr
  | some r =>
    have hdata : (ep0CombineWriteOp op ((c.image rows).drop relative) data).length = data.length :=
      length_ep0CombineWriteOp ..
    rw [rowsWritten, RowCodec.getElem?_write _ hr, Option.map_some]
    refine congrArg some (requestStream_parse_congr (fun k hk hne => ?_) ?_)
    · rw [List.getElem?_drop, getElem?_patch_of_not_reaches]
      · exact c.getElem?_image hr hk
      · -- the span has no octet of a row other than 0x0D
        rw [hdata]
        rintro ⟨hlo, hhi⟩
        change relative ≤ 24 * i + k at hlo
        change 24 * i + k < relative + data.length at hhi
        have hmod := (h (24 * i + k - relative) (by omega)).1
        omega
    · have himage : (c.image rows)[24 * i + 0x0D]? = (c.render r)[0x0D]? :=
        c.getElem?_image hr (show 0x0D < 24 by decide)
      have hcell : Octets.at (c.render r) 0x0D = Octets.at (c.image rows) (24 * i + 0x0D) := by
        rw [Octets.at_eq, Octets.at_eq, himage]
      have hlen : (c.image rows).length = 24 * rows.length := c.length_image rows
      have hi : i < rows.length := (List.getElem?_eq_some_iff.mp hr).1
      change _ = Octets.at (c.render r) 0x0D &&& 0x7F
      rw [hcell, Octets.at_drop]
      by_cases hreach : Reaches relative data.length (24 * i + 0x0D)
      · have hbits := (h (24 * i + 0x0D - relative) (by
          unfold Reaches at hreach
          omega)).2
        have hindex : relative + (24 * i + 0x0D - relative) = 24 * i + 0x0D := Nat.add_sub_cancel' hreach.1
        rw [hindex] at hbits
        rw [← hbits]
        refine congrArg (· &&& 0x7F) ?_
        have hpatched : (patch (c.image rows) relative (ep0CombineWriteOp op ((c.image rows).drop relative) data))[
            24 * i + 0x0D]? =
            (ep0CombineWriteOp op ((c.image rows).drop relative) data)[24 * i + 0x0D - relative]? :=
          getElem?_patch_of_reaches (by rwa [hdata]) (by omega)
        rw [Octets.at_eq, Octets.at_eq]
        exact congrArg (·.getD 0) hpatched
      · refine congrArg (· &&& 0x7F) (Octets.at_congr ?_)
        exact getElem?_patch_of_not_reaches (by rwa [hdata])

/-- So it changes nothing exactly when every row is representable. -/
theorem statusOnly_kept_iff (h : ctx.WritesStatusOnly op relative data rows) :
    rowsWritten (requestStreamCodec ctx.watchdogMsPerTick) op relative data rows = rows ↔
      ∀ r ∈ rows, ∀ f ∈ requestStreamCfgFields ctx.watchdogMsPerTick, f.representable r := by
  rw [rowsWritten_of_writesStatusOnly h]
  have hrow (r : RequestStreamRow) := parse_render_eq_iff (requestStreamCfgFields_faithful ctx.watchdogMsPerTick)
    (requestStreamCfgFields_complete ctx.watchdogMsPerTick) r
  constructor
  · intro heq r hr
    exact (hrow r).mp (List.map_eq_map_iff.mp (heq.trans (List.map_id rows).symm) r hr)
  · intro hall
    exact (List.map_congr_left fun r hr => (hrow r).mpr (hall r hr)).trans (List.map_id _)

end statusOnly

end Rcp
