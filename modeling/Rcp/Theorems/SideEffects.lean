import Rcp.Theorems.RegisterFrame

/-! Side effects of an accepted register write: there are none exactly when what the write does not reach of the table
    it rewrites is representable in that table's octets. -/

namespace Rcp
open Lib

/-- The request writes rx_stream_status alone. -/
def Ep0WriteRequest.StatusWrite (request : Ep0WriteRequest) (ctx : Ep0WriteCtx) (tables : Ep0Tables) : Prop :=
  ∃ op, Ep0WriteOp.ofEvt request.evt = some op ∧
    tables.writeRoute ctx.map request.addr.toNat = some .requestStreamCfg ∧
    ctx.WritesStatusOnly op (request.addr.toNat - ctx.map.tablePtr .requestStreamCfg) request.data
      tables.requestStreamCfg

section
variable (ctx : Ep0WriteCtx) (tables tables' : Ep0Tables) (request : Ep0WriteRequest)

/-- The span of the request against the rows of a table. -/
abbrev KeptOffRequest {ρ : Type} (fields : List (WireField ρ)) (stride : Nat) (t : Ep0Table) (old new : List ρ) : Prop :=
  FieldsKept fields stride (ctx.map.tablePtr t) request.addr.toNat request.data.length old new

/-- Every field of every row keeps its value unless the request's span has an octet of it, and a write of
    rx_stream_status alone keeps all of them. -/
structure NoSideEffects : Prop where
  hwPinMap : KeptOffRequest ctx request hwPinMapFields 3 .hwPinMap tables.hwPinMap tables'.hwPinMap
  epIdMap : KeptOffRequest ctx request epIdMapFields 4 .epIdMap tables.epIdMap tables'.epIdMap
  responseQueueCfg : KeptOffRequest ctx request responseQueueCfgFields 10 .responseQueueCfg tables.responseQueueCfg
    tables'.responseQueueCfg
  requestStreamCfg : KeptOffRequest ctx request (requestStreamCfgFields ctx.watchdogMsPerTick) 24 .requestStreamCfg
    tables.requestStreamCfg tables'.requestStreamCfg
  epGenericCfg : KeptOffRequest ctx request epGenericCfgFields 12 .epGenericCfg tables.epGenericCfg tables'.epGenericCfg
  sequencers : KeptOffRequest ctx request sequencerFields 2 .sequencers tables.sequencers.rows tables'.sequencers.rows
  optionalCfg : ∀ (s : OptionalSection) (k : Nat),
    ¬Reaches request.addr.toNat request.data.length (ctx.map.tablePtr (.optionalCfg s) + k) →
      (tables'.optionalCfg s)[k]? = (tables.optionalCfg s)[k]?
  status : request.StatusWrite ctx tables → tables'.requestStreamCfg = tables.requestStreamCfg

/-- What the write does not reach of its table is representable in its own octets. -/
structure LosslessRequest : Prop where
  epIdMap : tables.writeRoute ctx.map request.addr.toNat = some .epIdMap →
    LosslessOffWrite epIdMapFields 4 (ctx.map.tablePtr .epIdMap) request.addr.toNat request.data.length tables.epIdMap
  responseQueueCfg : tables.writeRoute ctx.map request.addr.toNat = some .responseQueueCfg →
    LosslessOffWrite responseQueueCfgFields 10 (ctx.map.tablePtr .responseQueueCfg) request.addr.toNat
      request.data.length tables.responseQueueCfg
  requestStreamCfg : tables.writeRoute ctx.map request.addr.toNat = some .requestStreamCfg →
    LosslessOffWrite (requestStreamCfgFields ctx.watchdogMsPerTick) 24 (ctx.map.tablePtr .requestStreamCfg)
      request.addr.toNat request.data.length tables.requestStreamCfg
  status : request.StatusWrite ctx tables →
    ∀ r ∈ tables.requestStreamCfg, ∀ f ∈ requestStreamCfgFields ctx.watchdogMsPerTick, f.representable r

end

section
variable {ctx : Ep0WriteCtx} {tables tables' : Ep0Tables} {request : Ep0WriteRequest} {op : Ep0WriteOp} {b : Octets}
  {tn : UInt8}

/-- Nothing of a table is touched that another one is written in place of. -/
theorem NoSideEffects.refl (ctx : Ep0WriteCtx) (tables : Ep0Tables) (request : Ep0WriteRequest) :
    NoSideEffects ctx tables tables request where
  hwPinMap := .refl _ _ _ _ _ _
  epIdMap := .refl _ _ _ _ _ _
  responseQueueCfg := .refl _ _ _ _ _ _
  requestStreamCfg := .refl _ _ _ _ _ _
  epGenericCfg := .refl _ _ _ _ _ _
  sequencers := .refl _ _ _ _ _ _
  optionalCfg _ _ _ := rfl
  status _ := rfl

theorem hwPinMapFields_representable : ∀ f ∈ hwPinMapFields, ∀ r, f.representable r := by
  simp [hwPinMapFields, WireField.plain]

theorem sequencerFields_representable : ∀ f ∈ sequencerFields, ∀ r, f.representable r := by
  simp [sequencerFields, WireField.plain]

theorem LosslessRequest.of_route {t : Ep0Table} (hroute : tables.writeRoute ctx.map request.addr.toNat = some t)
    (h₁ : t ≠ .epIdMap) (h₂ : t ≠ .responseQueueCfg) (h₃ : t ≠ .requestStreamCfg) :
    LosslessRequest ctx tables request where
  epIdMap h := absurd (Option.some.inj (hroute.symm.trans h)) h₁
  responseQueueCfg h := absurd (Option.some.inj (hroute.symm.trans h)) h₂
  requestStreamCfg h := absurd (Option.some.inj (hroute.symm.trans h)) h₃
  status := by
    rintro ⟨_, -, h, -⟩
    exact absurd (Option.some.inj (hroute.symm.trans h)) h₃

theorem noSideEffects_iff_of_accepted (hop : Ep0WriteOp.ofEvt request.evt = some op)
    (h : AcceptedWrite ctx tables op request.addr.toNat request.data tables') :
    NoSideEffects ctx tables tables' request ↔ LosslessRequest ctx tables request := by
  have hrefl := NoSideEffects.refl ctx tables request
  have hstart {t : Ep0Table} {relative : Nat} (hroute : tables.writeRoute ctx.map request.addr.toNat = some t)
      (hrel : relative = request.addr.toNat - ctx.map.tablePtr t) :
      request.addr.toNat = ctx.map.tablePtr t + relative := by
    have hle := Ep0Tables.tablePtr_le_of_writeRoute hroute
    omega
  cases h with
  | hwPinMap hroute hrel _ _ =>
    refine iff_of_true { hrefl with hwPinMap := ?_ } (.of_route hroute nofun nofun nofun)
    exact (fieldsKept_rowsWritten_iff hwPinMapFields_faithful op _ _ (hstart hroute hrel)).mpr
      fun f hf _ r _ _ => hwPinMapFields_representable f hf r
  | sequencers hroute hrel _ _ =>
    refine iff_of_true { hrefl with sequencers := ?_ } (.of_route hroute nofun nofun nofun)
    exact (fieldsKept_rowsWritten_iff sequencerFields_faithful op _ _ (hstart hroute hrel)).mpr
      fun f hf _ r _ _ => sequencerFields_representable f hf r
  | @epGenericCfg relative hroute hrel _ _ =>
    refine iff_of_true { hrefl with epGenericCfg := ?_ } (.of_route hroute nofun nofun nofun)
    have hlen : (ctx.epGenericWriteData op relative request.data tables.epGenericCfg).length =
        request.data.length := length_ep0WriteData
    rw [KeptOffRequest, ← hlen]
    exact fieldsKept_epGenericCfgWritten tables.epGenericCfg (hstart hroute hrel)
  | optionalCfg s hroute hrel _ _ =>
    refine iff_of_true { hrefl with optionalCfg := fun s' k hoff => ?_ } (.of_route hroute nofun nofun nofun)
    by_cases hs : s' = s
    · subst hs
      have haddr := hstart hroute hrel
      dsimp only
      rw [Function.update_self]
      refine getElem?_patch_of_not_reaches fun hreach => hoff ?_
      rw [Ep0WriteCtx.length_optionalWriteData] at hreach
      unfold Reaches at hreach ⊢
      omega
    · dsimp only
      rw [Function.update_of_ne hs]
  | epIdMap hroute hrel _ _ =>
    have hiff := fieldsKept_rowsWritten_iff epIdMapFields_faithful op request.data tables.epIdMap (hstart hroute hrel)
    constructor
    · intro h
      exact {
        epIdMap := fun _ => hiff.mp h.epIdMap
        responseQueueCfg := fun h' => nomatch hroute.symm.trans h'
        requestStreamCfg := fun h' => nomatch hroute.symm.trans h'
        status := fun ⟨_, _, h', _⟩ => nomatch hroute.symm.trans h' }
    · exact fun h => { hrefl with epIdMap := hiff.mpr (h.epIdMap hroute) }
  | responseQueueCfg hroute hrel _ _ =>
    have hiff := fieldsKept_rowsWritten_iff responseQueueCfgFields_faithful op request.data tables.responseQueueCfg
      (hstart hroute hrel)
    constructor
    · intro h
      exact {
        epIdMap := fun h' => nomatch hroute.symm.trans h'
        responseQueueCfg := fun _ => hiff.mp h.responseQueueCfg
        requestStreamCfg := fun h' => nomatch hroute.symm.trans h'
        status := fun ⟨_, _, h', _⟩ => nomatch hroute.symm.trans h' }
    · exact fun h => { hrefl with responseQueueCfg := hiff.mpr (h.responseQueueCfg hroute) }
  | @requestStreamCfg relative hroute hrel _ _ =>
    have hiff := fieldsKept_rowsWritten_iff (requestStreamCfgFields_faithful ctx.watchdogMsPerTick) op request.data
      tables.requestStreamCfg (hstart hroute hrel)
    -- a write of rx_stream_status reparses every row from the octets it had
    have honly (h : request.StatusWrite ctx tables) :
        ctx.WritesStatusOnly op relative request.data tables.requestStreamCfg := by
      obtain ⟨op', hop', -, honly⟩ := h
      obtain rfl : op = op' := Option.some.inj (hop.symm.trans hop')
      rwa [← hrel] at honly
    constructor
    · intro h
      exact {
        epIdMap := fun h' => nomatch hroute.symm.trans h'
        responseQueueCfg := fun h' => nomatch hroute.symm.trans h'
        requestStreamCfg := fun _ => hiff.mp h.requestStreamCfg
        status := fun hs => (statusOnly_kept_iff (honly hs)).mp (h.status hs) }
    · exact fun h =>
        { hrefl with
          requestStreamCfg := hiff.mpr (h.requestStreamCfg hroute)
          status := fun hs => (statusOnly_kept_iff (honly hs)).mpr (h.status hs) }

/-- An accepted write has no side effect exactly when it is lossless off the octets it writes. -/
theorem noSideEffects_iff_lossless (hparse : ep0ParseWriteRequest b = .ok request)
    (hconfirmed : ep0DecodeWriteRequest ctx tables b = (.ok (.none, tn), tables')) :
    NoSideEffects ctx tables tables' request ↔ LosslessRequest ctx tables request := by
  obtain ⟨request', op, hparse', hop, hacc⟩ := ep0DecodeWriteRequest_accepted hconfirmed
  obtain rfl : request = request' := Except.ok.inj (hparse.symm.trans hparse')
  exact noSideEffects_iff_of_accepted hop hacc

end

/-! ### One octet of row 1 -/

/-- Row 1's ack-stream index is set to 1. -/
def ackIndexWrite : Octets := [0x1C, 3, 0x40, 0, 0, 5, 0x80, 0, 0x01, 0x28, 0x01, 0]

/-- The write has no side effect on rows that are representable. -/
theorem noSideEffects_lossless_rows :
    let ctx : Ep0WriteCtx := { map := { svrRequestStreamCfgPtr := 0x100 } }
    let tables : Ep0Tables := { requestStreamCfg := [{}, {}] }
    NoSideEffects ctx tables (ep0DecodeWriteRequest ctx tables ackIndexWrite).2
      { evt := 0, transactionNum := 5, addr := 0x128, data := [1] } := by
  intro ctx tables
  have hroute : tables.writeRoute ctx.map 0x128 = some .requestStreamCfg := by decide +kernel
  have hrow : ∀ r ∈ tables.requestStreamCfg, ∀ f ∈ requestStreamCfgFields ctx.watchdogMsPerTick, f.representable r := by
    simp [tables, ctx, requestStreamCfgFields, WireField.plain, WireField.hidden, WdTimeoutRepresentable]
  refine (noSideEffects_iff_lossless (b := ackIndexWrite) (by decide +kernel)
    (Prod.ext (by decide +kernel : _ = Except.ok (WireError.none, (5 : UInt8))) rfl)).mpr ?_
  exact {
    epIdMap := fun h => Ep0Table.noConfusion (Option.some.inj (hroute.symm.trans h))
    responseQueueCfg := fun h => Ep0Table.noConfusion (Option.some.inj (hroute.symm.trans h))
    requestStreamCfg := fun _ f hf _ r hr _ => hrow r (List.mem_of_getElem? hr) f hf
    status := fun _ => hrow }

/-- Row 0 blocks its stream on a sequence error without entering the safe state: no bit says so, and the write of row 1
    clears the flag. -/
theorem write_of_row_clears_enforce_seq :
    ¬∀ (ctx : Ep0WriteCtx) (tables tables' : Ep0Tables) (b : Octets) (request : Ep0WriteRequest) (tn : UInt8),
      ep0ParseWriteRequest b = .ok request → ep0DecodeWriteRequest ctx tables b = (.ok (.none, tn), tables') →
        NoSideEffects ctx tables tables' request := by
  intro hclaim
  let ctx : Ep0WriteCtx := { map := { svrRequestStreamCfgPtr := 0x100 } }
  let tables : Ep0Tables := { requestStreamCfg := [{ rxEnforceSeq := true }, {}] }
  have heffects := hclaim ctx tables (ep0DecodeWriteRequest ctx tables ackIndexWrite).2 ackIndexWrite
    { evt := 0, transactionNum := 5, addr := 0x128, data := [1] } 5 (by decide +kernel)
    (Prod.ext (by decide +kernel) rfl)
  have hkept := heffects.requestStreamCfg
    { get := (·.rxEnforceSeq), offset := 0x0D, width := 1,
      representable := fun e => e.rxEnforceSeq = true → e.rxSeqSafestateEnable = true }
    (List.mem_of_getElem? (i := 6) rfl) 0 (fun k hlo hhi => by
      dsimp only at hlo hhi
      obtain rfl : k = 0x0D := by omega
      decide +kernel)
  have hcleared : ((ep0DecodeWriteRequest ctx tables ackIndexWrite).2.requestStreamCfg)[0]?.map (·.rxEnforceSeq) =
      some false := by decide +kernel
  exact absurd (hkept.symm.trans hcleared) (by decide +kernel)

end Rcp
