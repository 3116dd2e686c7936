import Rcp.RegmapEp0
import Rcp.Theorems.Codec

/-! What a register write does to the table it is led to: it is refused and changes nothing, or it was allowed, lies
    within the table, and rewrites the table's image. -/

namespace Rcp
open Lib Acf

/-! ### Octets -/

theorem Octets.at_eq (b : Octets) (i : Nat) : b.at i = b[i]?.getD 0 := List.getD_eq_getElem?_getD

theorem Octets.at_drop (b : Octets) (n i : Nat) : Octets.at (b.drop n) i = b.at (n + i) := by
  rw [Octets.at_eq, Octets.at_eq, List.getElem?_drop]

theorem Octets.at_congr {b b' : Octets} {i : Nat} (h : b[i]? = b'[i]?) : b.at i = b'.at i := by
  rw [Octets.at_eq, Octets.at_eq, h]

section combine
variable (op : Ep0WriteOp) (current request : Octets)

@[simp] theorem length_ep0CombineWriteOp : (ep0CombineWriteOp op current request).length = request.length :=
  List.length_mapIdx

theorem getElem?_ep0CombineWriteOp (i : Nat) :
    (ep0CombineWriteOp op current request)[i]? = request[i]?.map (op.apply (current.at i)) := List.getElem?_mapIdx

theorem ep0CombineWriteOp_set : ep0CombineWriteOp .set current request = request := by
  refine List.ext_getElem? fun i => ?_
  rw [getElem?_ep0CombineWriteOp]
  cases request[i]? <;> rfl

variable {op current request}

theorem ep0CombineWriteOp_congr {current' : Octets} (h : ∀ i < request.length, current.at i = current'.at i) :
    ep0CombineWriteOp op current request = ep0CombineWriteOp op current' request := by
  refine List.ext_getElem? fun i => ?_
  rw [getElem?_ep0CombineWriteOp, getElem?_ep0CombineWriteOp]
  by_cases hi : i < request.length
  · rw [h i hi]
  · rw [List.getElem?_eq_none (Nat.le_of_not_lt hi)]
    rfl

/-- Inside the image the buffer holds the image. -/
theorem combine_renderedInto {stale image : Octets} {relative : Nat}
    (h : relative + request.length ≤ image.length) :
    ep0CombineWriteOp op ((renderedInto stale image).drop relative) request =
      ep0CombineWriteOp op (image.drop relative) request := by
  refine ep0CombineWriteOp_congr fun i hi => ?_
  rw [Octets.at_drop, Octets.at_drop, renderedInto, Octets.at_append_left (by omega)]

end combine

/-! ### One branch -/

/-- A span of a table of `len` octets. -/
structure InTable (len relative dataLen : Nat) : Prop where
  nonempty : dataLen ≠ 0
  within : relative + dataLen ≤ len

/-- What a branch of the dispatcher leaves of its table. -/
inductive WriteOutcome {τ : Type} (old new : τ) (accepted : Prop) : WireError × τ → Prop
  | refused {err : WireError} (h : err ≠ .none) : WriteOutcome old new accepted (err, old)
  | written (h : accepted) : WriteOutcome old new accepted (.none, new)

namespace WriteOutcome
variable {τ : Type} {old new : τ} {accepted : Prop} {r : WireError × τ}

theorem cases_with {err : WireError} {left : τ} (h : WriteOutcome old new accepted r) (hr : r = (err, left)) :
    err ≠ .none ∧ left = old ∨ err = .none ∧ accepted ∧ left = new := by
  subst hr
  cases h with
  | refused hne => exact .inl ⟨hne, rfl⟩
  | written hacc => exact .inr ⟨rfl, hacc, rfl⟩

theorem map {υ : Type} (put : τ → υ) (h : WriteOutcome old new accepted r) :
    WriteOutcome (put old) (put new) accepted (r.1, put r.2) := by
  cases h with
  | refused hne => exact .refused hne
  | written hacc => exact .written hacc

theorem mono {accepted' : Prop} (himp : accepted → accepted') (h : WriteOutcome old new accepted r) :
    WriteOutcome old new accepted' r := by
  cases h with
  | refused hne => exact .refused hne
  | written hacc => exact .written (himp hacc)

/-- A check comes first. -/
theorem gate {refused allowed : Prop} [Decidable refused] {err : WireError} (herr : refused → err ≠ .none)
    (hall : ¬refused → allowed) (h : WriteOutcome old new accepted r) :
    WriteOutcome old new (allowed ∧ accepted) (if refused then (err, old) else r) := by
  by_cases href : refused
  · rw [if_pos href]
    exact .refused (herr href)
  · rw [if_neg href]
    cases h with
    | refused hne => exact .refused hne
    | written hacc => exact .written ⟨hall href, hacc⟩

end WriteOutcome

theorem lifecycleFieldWriteError_ne_none {state : LifecycleState} {kind : LifecycleFieldKind} {writer : FieldWriterCtx}
    (h : lifecycleFieldWritable state kind writer = false) : lifecycleFieldWriteError state kind writer ≠ .none := by
  unfold lifecycleFieldWriteError
  rw [h, if_neg Bool.false_ne_true]
  split <;> exact WireError.noConfusion

theorem lifecycleFieldWriteErrorWPlus_ne_none {state : LifecycleState} {writer : FieldWriterCtx} {locked : Bool}
    (h : lifecycleFieldWritableWPlus state writer locked = false) :
    lifecycleFieldWriteErrorWPlus state writer locked ≠ .none := by
  unfold lifecycleFieldWriteErrorWPlus
  rw [h, if_neg Bool.false_ne_true]
  split
  · exact WireError.noConfusion
  · split <;> exact WireError.noConfusion

/-- The rows after a write of the table's image. -/
def rowsWritten {ρ : Type} (c : RowCodec ρ UInt8) (op : Ep0WriteOp) (relative : Nat) (data : Octets) (rows : List ρ) :
    List ρ :=
  c.write rows relative (ep0CombineWriteOp op ((c.image rows).drop relative) data)

/-- The rows after a write of the endpoint configuration: `writeData` is applied field by field. -/
def epGenericCfgWritten (relative : Nat) (writeData : Octets) (rows : List EpGenericCfg) : List EpGenericCfg :=
  rows.mapIdx fun i e =>
    if relative / 12 ≤ i ∧ i ≤ (relative + writeData.length - 1) / 12 then e.applyRow relative writeData i else e

section
variable {ρ : Type} {c : RowCodec ρ UInt8} {op : Ep0WriteOp} {stale image data : Octets}
  {stride count maxEntries relative : Nat} {rows : List ρ}

@[simp] theorem length_rowsWritten : (rowsWritten c op relative data rows).length = rows.length := c.length_write

@[simp] theorem length_ep0WriteData :
    (ep0WriteData op stale image stride count maxEntries relative data).length = data.length := by
  unfold ep0WriteData
  split
  · exact length_ep0CombineWriteOp _ _ _
  · rfl

theorem ep0WriteData_eq (himage : image.length = stride * count) (hcount : count ≤ maxEntries)
    (h : InTable (count * stride) relative data.length) :
    ep0WriteData op stale image stride count maxEntries relative data =
      ep0CombineWriteOp op (image.drop relative) data := by
  have hle : count * stride ≤ maxEntries * stride := Nat.mul_le_mul_right _ hcount
  have hwithin := h.within
  have hlen : image.length = count * stride := himage.trans (Nat.mul_comm _ _)
  unfold ep0WriteData
  by_cases hop : op = .set
  · subst hop
    rw [if_neg (by simp), ep0CombineWriteOp_set]
  · rw [if_pos ⟨hop, by omega, hcount⟩]
    exact combine_renderedInto (by omega)

/-- The span of a write that a row table takes. -/
abbrev FitsTable (c : RowCodec ρ UInt8) (maxEntries relative : Nat) (data : Octets) (rows : List ρ) : Prop :=
  rows.length ≤ maxEntries ∧ InTable (rows.length * c.stride) relative data.length

theorem applyReconfig_of_fits {writeData : Octets} (hlen : writeData.length = data.length)
    (h : FitsTable c maxEntries relative data rows) :
    applyReconfig c maxEntries rows relative writeData = .ok (c.write rows relative writeData) := by
  obtain ⟨hcount, hnonempty, hwithin⟩ := h
  unfold applyReconfig
  rw [if_neg (by omega), if_neg (by omega), if_neg (by omega)]

theorem applyReconfig_of_not_fits {writeData : Octets} (hlen : writeData.length = data.length)
    (h : ¬FitsTable c maxEntries relative data rows) :
    ∃ err, applyReconfig c maxEntries rows relative writeData = .error err := by
  unfold applyReconfig
  by_cases hzero : writeData.length = 0
  · exact ⟨.short, if_pos hzero⟩
  rw [if_neg hzero]
  by_cases hmax : rows.length > maxEntries
  · exact ⟨.outOfRange, if_pos hmax⟩
  rw [if_neg hmax]
  refine ⟨.outOfRange, if_pos ?_⟩
  by_contra hend
  exact h ⟨by omega, by omega, by omega⟩

/-- The shared body of `apply_reconfig`, given octets that are the combined ones wherever the span is good. -/
theorem applyReconfig_outcome {writeData : Octets} (hlen : writeData.length = data.length)
    (heq : FitsTable c maxEntries relative data rows →
      writeData = ep0CombineWriteOp op ((c.image rows).drop relative) data) :
    WriteOutcome rows (rowsWritten c op relative data rows) (FitsTable c maxEntries relative data rows)
      (reconfigResult rows (applyReconfig c maxEntries rows relative writeData)) := by
  by_cases hfits : FitsTable c maxEntries relative data rows
  · rw [applyReconfig_of_fits hlen hfits, heq hfits]
    exact .written hfits
  · obtain ⟨err, herr⟩ := applyReconfig_of_not_fits hlen hfits
    rw [herr]
    exact .refused WireError.noConfusion

theorem reconfig_outcome (hstride : c.stride = stride) :
    WriteOutcome rows (rowsWritten c op relative data rows) (FitsTable c maxEntries relative data rows)
      (reconfigResult rows (applyReconfig c maxEntries rows relative
        (ep0WriteData op stale (c.image rows) stride rows.length maxEntries relative data))) := by
  subst hstride
  exact applyReconfig_outcome length_ep0WriteData fun hfits => ep0WriteData_eq (c.length_image rows) hfits.1 hfits.2

end

namespace Ep0WriteCtx
variable (ctx : Ep0WriteCtx) (op : Ep0WriteOp) (relative : Nat) (data : Octets)

theorem fieldWriteError_ne_none {kind : LifecycleFieldKind} (h : (!ctx.fieldWritable kind) = true) :
    ctx.fieldWriteError kind ≠ .none := lifecycleFieldWriteError_ne_none (by simpa [fieldWritable] using h)

theorem writeHwPinMap_outcome (entries : List HwPinMapEntry) :
    WriteOutcome entries (rowsWritten hwPinMapCodec op relative data entries)
      (ctx.fieldWritable .hwGeneric = true ∧ FitsTable hwPinMapCodec hwPinMapMaxEntries relative data entries)
      (ctx.writeHwPinMap op relative data entries) :=
  .gate ctx.fieldWriteError_ne_none (fun h => by simpa using h) (reconfig_outcome rfl)

theorem writeEpIdMap_outcome (entries : List EpIdMapRow) :
    WriteOutcome entries (rowsWritten epIdMapCodec op relative data entries)
      (lifecycleFieldWritableWPlus ctx.state ctx.writer ctx.locked = true ∧
        FitsTable epIdMapCodec epIdMapMaxEntries relative data entries)
      (ctx.writeEpIdMap op relative data entries) := by
  refine .gate (fun h => lifecycleFieldWriteErrorWPlus_ne_none (by simpa using h)) (fun h => by simpa using h) ?_
  dsimp only
  split
  · exact .refused WireError.noConfusion
  · exact reconfig_outcome rfl

theorem respqueueCfgRowWriteAuthorize_none {dataLen : Nat}
    (h : ctx.respqueueCfgRowWriteAuthorize relative dataLen = .none) : ctx.fieldWritable .hwGeneric = true := by
  unfold respqueueCfgRowWriteAuthorize at h
  by_contra hgate
  rw [if_pos (by simpa using hgate)] at h
  exact ctx.fieldWriteError_ne_none (by simpa using hgate) h

theorem writeResponseQueueCfg_outcome (entries : List ResponseQueueCfg) :
    WriteOutcome entries (rowsWritten responseQueueCodec op relative data entries)
      (ctx.respqueueCfgRowWriteAuthorize relative data.length = .none ∧
        FitsTable responseQueueCodec responseQueueCfgMaxEntries relative data entries)
      (ctx.writeResponseQueueCfg op relative data entries) :=
  .gate (fun h => h) (fun h => by simpa using h) (reconfig_outcome rfl)

theorem sequencerRowWriteAuthorize_none {rows : List SequencerRow} {dataLen : Nat}
    (h : ctx.sequencerRowWriteAuthorize rows relative dataLen = .none) :
    ctx.fieldWritable .functionalWStar = true := by
  unfold sequencerRowWriteAuthorize at h
  by_contra hgate
  rw [if_pos (by simpa using hgate)] at h
  exact ctx.fieldWriteError_ne_none (by simpa using hgate) h

theorem writeSequencers_outcome (rows : List SequencerRow) :
    WriteOutcome rows (rowsWritten sequencerCodec op relative data rows)
      (ctx.sequencerRowWriteAuthorize rows relative data.length = .none ∧
        FitsTable sequencerCodec sequencerStateMaxEntries relative data rows)
      (ctx.writeSequencers op relative data rows) :=
  .gate (fun h => h) (fun h => by simpa using h) (reconfig_outcome rfl)

/-- What a write to the request-stream table needs: the W* window, or a span of rx_stream_status octets whose other
    bits are as rendered. -/
def RequestStreamAuthorized (entries : List RequestStreamRow) : Prop :=
  let image := (requestStreamCodec ctx.watchdogMsPerTick).image entries
  ctx.requestStreamCfgRowWriteAuthorize relative (ep0CombineWriteOp op (image.drop relative) data) (some image) = true

theorem requestStreamCfgRowWriteAuthorize_refused {writeData : Octets} {rendered : Option Octets}
    (h : (!ctx.requestStreamCfgRowWriteAuthorize relative writeData rendered) = true) :
    ctx.fieldWriteError .functionalWStar ≠ .none := by
  refine ctx.fieldWriteError_ne_none ?_
  unfold requestStreamCfgRowWriteAuthorize at h
  by_contra hgate
  rw [if_pos (by simpa using hgate)] at h
  exact Bool.noConfusion h

/-- The carve-out looks at the octets of the span only. -/
theorem requestStreamCfgRowWriteAuthorize_congr {writeData b b' : Octets}
    (h : ∀ i < writeData.length, b.at (relative + i) = b'.at (relative + i)) :
    ctx.requestStreamCfgRowWriteAuthorize relative writeData (some b) =
      ctx.requestStreamCfgRowWriteAuthorize relative writeData (some b') := by
  unfold requestStreamCfgRowWriteAuthorize
  split
  · rfl
  · rw [Bool.eq_iff_iff, List.all_eq_true, List.all_eq_true]
    constructor
    · intro hall i hi
      rw [← h i (List.mem_range.mp hi)]
      exact hall i hi
    · intro hall i hi
      rw [h i (List.mem_range.mp hi)]
      exact hall i hi

/-- Within the table, the octets combined with are those rendered. -/
theorem writeRequestStreamCfg_of_fits {entries : List RequestStreamRow}
    (hfits : FitsTable (requestStreamCodec ctx.watchdogMsPerTick) requestStreamCfgMaxEntries relative data entries) :
    let image := (requestStreamCodec ctx.watchdogMsPerTick).image entries
    let writeData := ep0CombineWriteOp op (image.drop relative) data
    ctx.writeRequestStreamCfg op relative data entries =
      if !ctx.requestStreamCfgRowWriteAuthorize relative writeData (some image) then
        (ctx.fieldWriteError .functionalWStar, entries)
      else reconfigResult entries (requestStreamCfgApplyReconfig ctx.watchdogMsPerTick entries relative writeData) := by
  intro image writeData
  have hrows : entries.length ≤ 64 := hfits.1
  have hspan : relative + data.length ≤ entries.length * 24 := hfits.2.within
  have himage : image.length = 24 * entries.length :=
    (requestStreamCodec ctx.watchdogMsPerTick).length_image entries
  have hrendered : decide (relative + data.length ≤ requestStreamCfgMaxEntries * 24) = true :=
    decide_eq_true (by omega)
  have hdata : (if (op != .set) = true then
      ep0CombineWriteOp op ((renderedInto ctx.stale image).drop relative) data else data) = writeData := by
    by_cases hop : op = .set
    · subst hop
      rw [if_neg (by decide)]
      exact (ep0CombineWriteOp_set _ _).symm
    · rw [if_pos (by simpa using hop)]
      exact combine_renderedInto (by omega)
  unfold writeRequestStreamCfg
  dsimp only
  rw [hrendered, Bool.true_and, if_pos rfl, hdata,
    ctx.requestStreamCfgRowWriteAuthorize_congr relative fun i hi => ?_]
  have hlen : writeData.length = data.length := length_ep0CombineWriteOp ..
  exact Octets.at_append_left (show relative + i < image.length by omega)

theorem writeRequestStreamCfg_outcome (entries : List RequestStreamRow) :
    WriteOutcome entries (rowsWritten (requestStreamCodec ctx.watchdogMsPerTick) op relative data entries)
      (ctx.RequestStreamAuthorized op relative data entries ∧
        FitsTable (requestStreamCodec ctx.watchdogMsPerTick) requestStreamCfgMaxEntries relative data entries)
      (ctx.writeRequestStreamCfg op relative data entries) := by
  by_cases hfits : FitsTable (requestStreamCodec ctx.watchdogMsPerTick) requestStreamCfgMaxEntries relative data entries
  · rw [ctx.writeRequestStreamCfg_of_fits op relative data hfits]
    exact .gate (ctx.requestStreamCfgRowWriteAuthorize_refused relative)
      (fun h => by rwa [Bool.not_eq_true', Bool.not_eq_false] at h)
      (applyReconfig_outcome (length_ep0CombineWriteOp _ _ _) fun _ => rfl)
  · -- a span that leaves the table is refused whatever the buffers hold
    refine .mono (fun h => absurd h.2 hfits)
      (.gate (ctx.requestStreamCfgRowWriteAuthorize_refused relative) (fun _ => trivial)
        (applyReconfig_outcome ?_ fun h => absurd h hfits))
    split
    · exact length_ep0CombineWriteOp _ _ _
    · rfl

/-- What is authorized and lies within the table is confirmed. -/
theorem writeRequestStreamCfg_of_authorized {entries : List RequestStreamRow}
    (hauth : ctx.RequestStreamAuthorized op relative data entries)
    (hfits : FitsTable (requestStreamCodec ctx.watchdogMsPerTick) requestStreamCfgMaxEntries relative data entries) :
    ctx.writeRequestStreamCfg op relative data entries =
      (.none, rowsWritten (requestStreamCodec ctx.watchdogMsPerTick) op relative data entries) := by
  have hallowed : (!ctx.requestStreamCfgRowWriteAuthorize relative
      (ep0CombineWriteOp op (((requestStreamCodec ctx.watchdogMsPerTick).image entries).drop relative) data)
      (some ((requestStreamCodec ctx.watchdogMsPerTick).image entries))) ≠ true := by
    rw [Ne, Bool.not_eq_true', Bool.not_eq_false]
    exact hauth
  rw [ctx.writeRequestStreamCfg_of_fits op relative data hfits, if_neg hallowed, requestStreamCfgApplyReconfig,
    applyReconfig_of_fits (length_ep0CombineWriteOp _ _ _) hfits]
  rfl

/-- The octets a write of the endpoint configuration applies. -/
def epGenericWriteData (entries : List EpGenericCfg) : Octets :=
  ep0WriteData op ctx.stale (epGenericCfgRender entries) 12 entries.length epGenericCfgMaxEntries relative data

theorem writeEpGenericCfg_outcome (entries : List EpGenericCfg) :
    WriteOutcome entries
      (epGenericCfgWritten relative (ctx.epGenericWriteData op relative data entries) entries)
      (ctx.fieldWritable .hwGeneric = true ∧ InTable (entries.length * 12) relative data.length)
      (ctx.writeEpGenericCfg op relative data entries) := by
  refine .gate ctx.fieldWriteError_ne_none (fun h => by simpa using h) ?_
  have hlen : (ctx.epGenericWriteData op relative data entries).length = data.length := length_ep0WriteData
  change WriteOutcome _ _ _ (reconfigResult entries (epGenericCfgApplyReconfig entries relative
    (ctx.epGenericWriteData op relative data entries)))
  unfold epGenericCfgApplyReconfig
  by_cases hzero : (ctx.epGenericWriteData op relative data entries).length = 0
  · rw [if_pos hzero]
    exact .refused WireError.noConfusion
  rw [if_neg hzero]
  dsimp only
  by_cases hend : relative + (ctx.epGenericWriteData op relative data entries).length > entries.length * 12
  · rw [if_pos hend]
    exact .refused WireError.noConfusion
  rw [if_neg hend]
  have hin : InTable (entries.length * 12) relative data.length := by
    constructor <;> omega
  exact .written hin

/-- The octets a write of an optional section applies. -/
def optionalWriteData (cfg : Octets) : Octets :=
  if op ≠ .set ∧ relative + data.length ≤ cfg.length ∧ data.length ≤ abbMaxPayload then
    ep0CombineWriteOp op (cfg.drop relative) data
  else data

@[simp] theorem length_optionalWriteData (cfg : Octets) :
    (optionalWriteData op relative data cfg).length = data.length := by
  unfold optionalWriteData
  split
  · exact length_ep0CombineWriteOp _ _ _
  · rfl

theorem writeOptionalCfg_outcome (cfg : Octets) :
    WriteOutcome cfg (patch cfg relative (optionalWriteData op relative data cfg))
      (ctx.fieldWritable .functionalWStar = true ∧ InTable cfg.length relative data.length)
      (ctx.writeOptionalCfg op relative data cfg) := by
  refine .gate ctx.fieldWriteError_ne_none (fun h => by simpa using h) ?_
  have hlen : (optionalWriteData op relative data cfg).length = data.length := length_optionalWriteData _ _ _ _
  change WriteOutcome _ _ _ (reconfigResult cfg (optionalSubsystemCfgApplyReconfig cfg relative
    (optionalWriteData op relative data cfg)))
  unfold optionalSubsystemCfgApplyReconfig
  by_cases hzero : (optionalWriteData op relative data cfg).length = 0
  · rw [if_pos hzero]
    exact .refused WireError.noConfusion
  rw [if_neg hzero]
  by_cases hend : relative + (optionalWriteData op relative data cfg).length > cfg.length
  · rw [if_pos hend]
    exact .refused WireError.noConfusion
  rw [if_neg hend]
  have hin : InTable cfg.length relative data.length := by
    constructor <;> omega
  exact .written hin

end Ep0WriteCtx

/-! ### The dispatcher -/

/-- An accepted write: the table it was led to, what allowed it, and the tables it leaves. -/
inductive AcceptedWrite (ctx : Ep0WriteCtx) (tables : Ep0Tables) (op : Ep0WriteOp) (addr : Nat) (data : Octets) :
    Ep0Tables → Prop
  | hwPinMap {relative : Nat} (hroute : tables.writeRoute ctx.map addr = some .hwPinMap)
      (hrel : relative = addr - ctx.map.tablePtr .hwPinMap) (hwritable : ctx.fieldWritable .hwGeneric = true)
      (hfits : FitsTable hwPinMapCodec hwPinMapMaxEntries relative data tables.hwPinMap) :
      AcceptedWrite ctx tables op addr data
        { tables with hwPinMap := rowsWritten hwPinMapCodec op relative data tables.hwPinMap }
  | epIdMap {relative : Nat} (hroute : tables.writeRoute ctx.map addr = some .epIdMap)
      (hrel : relative = addr - ctx.map.tablePtr .epIdMap)
      (hwritable : lifecycleFieldWritableWPlus ctx.state ctx.writer ctx.locked = true)
      (hfits : FitsTable epIdMapCodec epIdMapMaxEntries relative data tables.epIdMap) :
      AcceptedWrite ctx tables op addr data
        { tables with epIdMap := rowsWritten epIdMapCodec op relative data tables.epIdMap }
  | responseQueueCfg {relative : Nat} (hroute : tables.writeRoute ctx.map addr = some .responseQueueCfg)
      (hrel : relative = addr - ctx.map.tablePtr .responseQueueCfg)
      (hauth : ctx.respqueueCfgRowWriteAuthorize relative data.length = .none)
      (hfits : FitsTable responseQueueCodec responseQueueCfgMaxEntries relative data tables.responseQueueCfg) :
      AcceptedWrite ctx tables op addr data
        { tables with responseQueueCfg := rowsWritten responseQueueCodec op relative data tables.responseQueueCfg }
  | requestStreamCfg {relative : Nat} (hroute : tables.writeRoute ctx.map addr = some .requestStreamCfg)
      (hrel : relative = addr - ctx.map.tablePtr .requestStreamCfg)
      (hauth : ctx.RequestStreamAuthorized op relative data tables.requestStreamCfg)
      (hfits : FitsTable (requestStreamCodec ctx.watchdogMsPerTick) requestStreamCfgMaxEntries relative data
        tables.requestStreamCfg) :
      AcceptedWrite ctx tables op addr data
        { tables with
          requestStreamCfg := rowsWritten (requestStreamCodec ctx.watchdogMsPerTick) op relative data
            tables.requestStreamCfg }
  | epGenericCfg {relative : Nat} (hroute : tables.writeRoute ctx.map addr = some .epGenericCfg)
      (hrel : relative = addr - ctx.map.tablePtr .epGenericCfg) (hwritable : ctx.fieldWritable .hwGeneric = true)
      (hin : InTable (tables.epGenericCfg.length * 12) relative data.length) :
      AcceptedWrite ctx tables op addr data
        { tables with
          epGenericCfg := epGenericCfgWritten relative (ctx.epGenericWriteData op relative data tables.epGenericCfg)
            tables.epGenericCfg }
  | sequencers {relative : Nat} (hroute : tables.writeRoute ctx.map addr = some .sequencers)
      (hrel : relative = addr - ctx.map.tablePtr .sequencers)
      (hauth : ctx.sequencerRowWriteAuthorize tables.sequencers.rows relative data.length = .none)
      (hfits : FitsTable sequencerCodec sequencerStateMaxEntries relative data tables.sequencers.rows) :
      AcceptedWrite ctx tables op addr data
        { tables with sequencers := { rows := rowsWritten sequencerCodec op relative data tables.sequencers.rows } }
  | optionalCfg {relative : Nat} (s : OptionalSection) (hroute : tables.writeRoute ctx.map addr = some (.optionalCfg s))
      (hrel : relative = addr - ctx.map.tablePtr (.optionalCfg s))
      (hwritable : ctx.fieldWritable .functionalWStar = true)
      (hin : InTable (tables.optionalCfg s).length relative data.length) :
      AcceptedWrite ctx tables op addr data
        { tables with
          optionalCfg := Function.update tables.optionalCfg s
            (patch (tables.optionalCfg s) relative
              (Ep0WriteCtx.optionalWriteData op relative data (tables.optionalCfg s))) }

section
variable {ctx : Ep0WriteCtx} {tables tables' : Ep0Tables} {op : Ep0WriteOp} {addr : Nat} {data b : Octets}
  {err : WireError} {tn : UInt8}

namespace Ep0Tables

theorem writeAt_cases (h : tables.writeAt ctx op addr data = (err, tables')) :
    err ≠ .none ∧ tables' = tables ∨ err = .none ∧ AcceptedWrite ctx tables op addr data tables' := by
  unfold writeAt at h
  cases hroute : tables.writeRoute ctx.map addr with
  | none =>
    rw [hroute] at h
    obtain ⟨rfl, rfl⟩ := h
    exact .inl ⟨WireError.noConfusion, rfl⟩
  | some t =>
    rw [hroute] at h
    cases t with
    | general =>
      obtain ⟨rfl, rfl⟩ := h
      exact .inl ⟨lifecycleFieldWriteError_ne_none rfl, rfl⟩
    | hwPinMap =>
      have hout := (ctx.writeHwPinMap_outcome op (addr - ctx.map.tablePtr .hwPinMap) data tables.hwPinMap).map
        fun rows => { tables with hwPinMap := rows }
      rcases hout.cases_with h with ⟨hne, hkept⟩ | ⟨hnone, ⟨hwritable, hfits⟩, hnew⟩
      · exact .inl ⟨hne, hkept⟩
      · exact .inr ⟨hnone, hnew ▸ .hwPinMap hroute rfl hwritable hfits⟩
    | epIdMap =>
      have hout := (ctx.writeEpIdMap_outcome op (addr - ctx.map.tablePtr .epIdMap) data tables.epIdMap).map
        fun rows => { tables with epIdMap := rows }
      rcases hout.cases_with h with ⟨hne, hkept⟩ | ⟨hnone, ⟨hwritable, hfits⟩, hnew⟩
      · exact .inl ⟨hne, hkept⟩
      · exact .inr ⟨hnone, hnew ▸ .epIdMap hroute rfl hwritable hfits⟩
    | responseQueueCfg =>
      have hout := (ctx.writeResponseQueueCfg_outcome op (addr - ctx.map.tablePtr .responseQueueCfg) data tables.responseQueueCfg).map
        fun rows => { tables with responseQueueCfg := rows }
      rcases hout.cases_with h with ⟨hne, hkept⟩ | ⟨hnone, ⟨hauth, hfits⟩, hnew⟩
      · exact .inl ⟨hne, hkept⟩
      · exact .inr ⟨hnone, hnew ▸ .responseQueueCfg hroute rfl hauth hfits⟩
    | requestStreamCfg =>
      have hout := (ctx.writeRequestStreamCfg_outcome op (addr - ctx.map.tablePtr .requestStreamCfg) data tables.requestStreamCfg).map
        fun rows => { tables with requestStreamCfg := rows }
      rcases hout.cases_with h with ⟨hne, hkept⟩ | ⟨hnone, ⟨hauth, hfits⟩, hnew⟩
      · exact .inl ⟨hne, hkept⟩
      · exact .inr ⟨hnone, hnew ▸ .requestStreamCfg hroute rfl hauth hfits⟩
    | epGenericCfg =>
      have hout := (ctx.writeEpGenericCfg_outcome op (addr - ctx.map.tablePtr .epGenericCfg) data tables.epGenericCfg).map
        fun rows => { tables with epGenericCfg := rows }
      rcases hout.cases_with h with ⟨hne, hkept⟩ | ⟨hnone, ⟨hwritable, hin⟩, hnew⟩
      · exact .inl ⟨hne, hkept⟩
      · exact .inr ⟨hnone, hnew ▸ .epGenericCfg hroute rfl hwritable hin⟩
    | sequencers =>
      have hout := (ctx.writeSequencers_outcome op (addr - ctx.map.tablePtr .sequencers) data tables.sequencers.rows).map
        fun rows => { tables with sequencers := { rows := rows } }
      rcases hout.cases_with h with ⟨hne, hkept⟩ | ⟨hnone, ⟨hauth, hfits⟩, hnew⟩
      · exact .inl ⟨hne, hkept⟩
      · exact .inr ⟨hnone, hnew ▸ .sequencers hroute rfl hauth hfits⟩
    | optionalCfg s =>
      have hout := (ctx.writeOptionalCfg_outcome op (addr - ctx.map.tablePtr (.optionalCfg s)) data (tables.optionalCfg s)).map
        fun rows => { tables with optionalCfg := Function.update tables.optionalCfg s rows }
      rcases hout.cases_with h with ⟨hne, hkept⟩ | ⟨hnone, ⟨hwritable, hin⟩, hnew⟩
      · exact .inl ⟨hne, by rw [hkept, Function.update_eq_self]⟩
      · exact .inr ⟨hnone, hnew ▸ .optionalCfg s hroute rfl hwritable hin⟩

end Ep0Tables

/-- Only a request confirmed with `RCP_ERROR_NONE` changes a table. -/
theorem ep0DecodeWriteRequest_refused (h : ∀ tn, (ep0DecodeWriteRequest ctx tables b).1 ≠ .ok (.none, tn)) :
    (ep0DecodeWriteRequest ctx tables b).2 = tables := by
  unfold ep0DecodeWriteRequest at h ⊢
  cases hparse : ep0ParseWriteRequest b with
  | error e => rfl
  | ok request =>
    cases hop : Ep0WriteOp.ofEvt request.evt with
    | none => simp only [hop]
    | some op =>
      cases hwrite : tables.writeAt ctx op request.addr.toNat request.data with
      | mk err tables' =>
        simp only [hparse, hop, hwrite] at h ⊢
        rcases Ep0Tables.writeAt_cases hwrite with ⟨-, hkept⟩ | ⟨hnone, -⟩
        · exact hkept
        · exact absurd (by rw [hnone]) (h request.transactionNum)

theorem ep0DecodeWriteRequest_accepted (h : ep0DecodeWriteRequest ctx tables b = (.ok (.none, tn), tables')) :
    ∃ request op, ep0ParseWriteRequest b = .ok request ∧ Ep0WriteOp.ofEvt request.evt = some op ∧
      AcceptedWrite ctx tables op request.addr.toNat request.data tables' := by
  unfold ep0DecodeWriteRequest at h
  cases hparse : ep0ParseWriteRequest b with
  | error e =>
    simp only [hparse] at h
    cases h
  | ok request =>
    cases hop : Ep0WriteOp.ofEvt request.evt with
    | none =>
      simp only [hparse, hop] at h
      cases h
    | some op =>
      cases hwrite : tables.writeAt ctx op request.addr.toNat request.data with
      | mk err left =>
        simp only [hparse, hop, hwrite] at h
        cases h
        rcases Ep0Tables.writeAt_cases hwrite with ⟨hne, -⟩ | ⟨-, hacc⟩
        · exact absurd rfl hne
        · exact ⟨request, op, rfl, hop, hacc⟩

/-- A request changes nothing, or is accepted. -/
theorem Ep0Tables.call_cases (tables : Ep0Tables) (c : Ep0Call) :
    tables.call c = tables ∨ ∃ request op, ep0ParseWriteRequest c.frame = .ok request ∧
      AcceptedWrite c.ctx tables op request.addr.toNat request.data (tables.call c) := by
  by_cases h : ∃ tn, (ep0DecodeWriteRequest c.ctx tables c.frame).1 = .ok (.none, tn)
  · obtain ⟨tn, htn⟩ := h
    obtain ⟨request, op, hparse, -, hacc⟩ := ep0DecodeWriteRequest_accepted (Prod.ext htn rfl)
    exact .inr ⟨request, op, hparse, hacc⟩
  · exact .inl (ep0DecodeWriteRequest_refused fun tn htn => h ⟨tn, htn⟩)

/-- An address is led to a table at or beyond the table's beginning. -/
theorem Ep0Tables.tablePtr_le_of_writeRoute {tables : Ep0Tables} {map : RegmapGeneral} {addr : Nat} {t : Ep0Table}
    (h : tables.writeRoute map addr = some t) : map.tablePtr t ≤ addr := by
  have hext {t' : Ep0Table} {len : Nat} (h : map.inExtent addr t' len = true) : map.tablePtr t' ≤ addr :=
    (of_decide_eq_true h).1
  unfold writeRoute at h
  split at h
  · obtain rfl := Option.some.inj h
    exact Nat.zero_le _
  iterate 6
    split at h
    · obtain rfl := Option.some.inj h
      exact hext ‹_›
  obtain ⟨s, hs, rfl⟩ := Option.map_eq_some_iff.mp h
  have hin : map.inExtent addr (.optionalCfg s) (tables.optionalCfg s).length = true := by
    simpa using List.find?_some hs
  exact hext hin

end
end Rcp
