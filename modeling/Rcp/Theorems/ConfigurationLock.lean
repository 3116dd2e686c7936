import Rcp.Theorems.SideEffects

/-! The lock on the configuration. Once RCP_CONFIGURED, and for a non-unicast frame in any state, every branch of the
    dispatcher refuses but for the rx_stream_status octets of the request-stream table; a write let through there
    reparses the table, which changes what is not representable. -/

namespace Rcp
open Lib

/-- No register is writable to this writer in this state. -/
def Ep0WriteCtx.Locked (ctx : Ep0WriteCtx) : Prop :=
  ctx.state = .rcpConfigured ∨ ctx.writer.viaNonUnicastFrame = true

/-- The frame is a write of rx_stream_status octets within the request-stream table. -/
def StatusWriteFrame (ctx : Ep0WriteCtx) (tables : Ep0Tables) (b : Octets) : Prop :=
  ∃ request, ep0ParseWriteRequest b = .ok request ∧ request.StatusWrite ctx tables ∧
    FitsTable (requestStreamCodec ctx.watchdogMsPerTick) requestStreamCfgMaxEntries
      (request.addr.toNat - ctx.map.tablePtr .requestStreamCfg) request.data tables.requestStreamCfg

/-- What the lock promises: no field of any table changes, and only a write of rx_stream_status is confirmed. -/
structure ConfigurationLocked (ctx : Ep0WriteCtx) (tables : Ep0Tables) (b : Octets) : Prop where
  unchanged : (ep0DecodeWriteRequest ctx tables b).2 = tables
  confirmed : ∀ tn, (ep0DecodeWriteRequest ctx tables b).1 = .ok (.none, tn) → StatusWriteFrame ctx tables b

section
variable {ctx : Ep0WriteCtx} {tables : Ep0Tables} {b : Octets} {kind : LifecycleFieldKind}

theorem Ep0WriteCtx.Locked.not_writable (h : ctx.Locked) (hkind : kind = .hwGeneric ∨ kind = .functionalWStar) :
    ctx.fieldWritable kind = false := by
  unfold fieldWritable lifecycleFieldWritable
  rcases h with hstate | hframe
  · rcases hkind with rfl | rfl <;> simp [hstate]
  · simp [hframe]

theorem Ep0WriteCtx.Locked.not_writable_w_plus (h : ctx.Locked) :
    lifecycleFieldWritableWPlus ctx.state ctx.writer ctx.locked = false := by
  have hstar : lifecycleFieldWritable ctx.state .functionalWStar ctx.writer = false := h.not_writable (.inr rfl)
  unfold lifecycleFieldWritableWPlus
  rw [hstar, ite_self]

/-- A locked write that is accepted is one of rx_stream_status. -/
theorem Ep0WriteCtx.Locked.accepted (h : ctx.Locked) {tables' : Ep0Tables} {op : Ep0WriteOp} {addr : Nat}
    {data : Octets} (hacc : AcceptedWrite ctx tables op addr data tables') :
    ∃ relative, tables.writeRoute ctx.map addr = some .requestStreamCfg ∧
      relative = addr - ctx.map.tablePtr .requestStreamCfg ∧
      ctx.WritesStatusOnly op relative data tables.requestStreamCfg ∧
      FitsTable (requestStreamCodec ctx.watchdogMsPerTick) requestStreamCfgMaxEntries relative data
        tables.requestStreamCfg ∧
      tables' = { tables with
        requestStreamCfg := rowsWritten (requestStreamCodec ctx.watchdogMsPerTick) op relative data
          tables.requestStreamCfg } := by
  have hgeneric := h.not_writable (.inl rfl)
  have hstar := h.not_writable (.inr rfl)
  cases hacc with
  | hwPinMap _ _ hwritable _ => exact absurd (hgeneric.symm.trans hwritable) Bool.false_ne_true
  | epIdMap _ _ hwritable _ => exact absurd (h.not_writable_w_plus.symm.trans hwritable) Bool.false_ne_true
  | responseQueueCfg _ _ hauth _ =>
    have hwritable := ctx.respqueueCfgRowWriteAuthorize_none _ hauth
    exact absurd (hgeneric.symm.trans hwritable) Bool.false_ne_true
  | @requestStreamCfg relative hroute hrel hauth hfits =>
    rcases (ctx.requestStreamAuthorized_iff op relative data _).mp hauth with hwritable | honly
    · exact absurd (hstar.symm.trans hwritable) Bool.false_ne_true
    · exact ⟨relative, hroute, hrel, honly, hfits, rfl⟩
  | epGenericCfg _ _ hwritable _ => exact absurd (hgeneric.symm.trans hwritable) Bool.false_ne_true
  | sequencers _ _ hauth _ =>
    have hwritable := ctx.sequencerRowWriteAuthorize_none _ hauth
    exact absurd (hstar.symm.trans hwritable) Bool.false_ne_true
  | optionalCfg _ _ _ hwritable _ => exact absurd (hstar.symm.trans hwritable) Bool.false_ne_true

/-- Such a write is let through in every state. -/
theorem ep0DecodeWriteRequest_statusWrite {request : Ep0WriteRequest} {op : Ep0WriteOp} {relative : Nat}
    (hparse : ep0ParseWriteRequest b = .ok request) (hop : Ep0WriteOp.ofEvt request.evt = some op)
    (hroute : tables.writeRoute ctx.map request.addr.toNat = some .requestStreamCfg)
    (hrel : relative = request.addr.toNat - ctx.map.tablePtr .requestStreamCfg)
    (honly : ctx.WritesStatusOnly op relative request.data tables.requestStreamCfg)
    (hfits : FitsTable (requestStreamCodec ctx.watchdogMsPerTick) requestStreamCfgMaxEntries relative request.data
      tables.requestStreamCfg) :
    ep0DecodeWriteRequest ctx tables b = (.ok (.none, request.transactionNum), { tables with
      requestStreamCfg := rowsWritten (requestStreamCodec ctx.watchdogMsPerTick) op relative request.data
        tables.requestStreamCfg }) := by
  have hwrite := ctx.writeRequestStreamCfg_of_authorized op relative request.data
    ((ctx.requestStreamAuthorized_iff op relative request.data _).mpr (.inr honly)) hfits
  subst hrel
  unfold ep0DecodeWriteRequest Ep0Tables.writeAt
  simp only [hparse, hop, hroute, hwrite]

/-- The lock holds exactly when a write of rx_stream_status finds every row representable. -/
theorem configurationLocked_iff (h : ctx.Locked) :
    ConfigurationLocked ctx tables b ↔ (StatusWriteFrame ctx tables b →
      ∀ r ∈ tables.requestStreamCfg, ∀ f ∈ requestStreamCfgFields ctx.watchdogMsPerTick, f.representable r) := by
  constructor
  · rintro ⟨hunchanged, -⟩ ⟨request, hparse, ⟨op, hop, hroute, honly⟩, hfits⟩
    refine (statusOnly_kept_iff honly).mp ?_
    rw [ep0DecodeWriteRequest_statusWrite hparse hop hroute rfl honly hfits] at hunchanged
    exact congrArg Ep0Tables.requestStreamCfg hunchanged
  · intro hlossless
    by_cases hconfirmed : ∃ tn, (ep0DecodeWriteRequest ctx tables b).1 = .ok (.none, tn)
    · obtain ⟨tn, htn⟩ := hconfirmed
      obtain ⟨request, op, hparse, hop, hacc⟩ := ep0DecodeWriteRequest_accepted (Prod.ext htn rfl)
      obtain ⟨relative, hroute, hrel, honly, hfits, hleft⟩ := h.accepted hacc
      have hframe : StatusWriteFrame ctx tables b := by
        subst hrel
        exact ⟨request, hparse, ⟨op, hop, hroute, honly⟩, hfits⟩
      refine ⟨hleft.trans ?_, fun _ _ => hframe⟩
      rw [(statusOnly_kept_iff honly).mpr (hlossless hframe)]
    · have hrefused : ∀ tn, (ep0DecodeWriteRequest ctx tables b).1 ≠ .ok (.none, tn) :=
        fun tn htn => hconfirmed ⟨tn, htn⟩
      exact ⟨ep0DecodeWriteRequest_refused hrefused, fun tn htn => absurd htn (hrefused tn)⟩

/-- rx_stream_status of row 0 is written with the bits of its octet as they read. -/
def statusWrite : Octets := [0x1C, 3, 0x40, 0, 0, 5, 0x80, 0, 0x01, 0x0D, 0x81, 0]

/-- A row with its end-to-end flag set is left as it is. -/
theorem configurationLocked_representable :
    ConfigurationLocked { map := { svrRequestStreamCfgPtr := 0x100 }, state := .rcpConfigured }
      { requestStreamCfg := [{ rxEnforceE2e := true }] } statusWrite := by
  refine (configurationLocked_iff (.inl rfl)).mpr fun _ => ?_
  simp [requestStreamCfgFields, WireField.plain, WireField.hidden, WdTimeoutRepresentable]

/-- A row that also blocks on a sequence error without entering the safe state reads the same, and loses that flag. -/
theorem status_write_clears_enforce_seq :
    ¬∀ (ctx : Ep0WriteCtx) (tables : Ep0Tables) (b : Octets), ctx.Locked → ConfigurationLocked ctx tables b := by
  intro hclaim
  have hlocked := (hclaim { map := { svrRequestStreamCfgPtr := 0x100 }, state := .rcpConfigured }
    { requestStreamCfg := [{ rxEnforceE2e := true, rxEnforceSeq := true }] } statusWrite (.inl rfl)).unchanged
  have hrow := congrArg (fun tables : Ep0Tables => tables.requestStreamCfg[0]?.map (·.rxEnforceSeq)) hlocked
  exact absurd hrow (by decide +kernel)

end
end Rcp
