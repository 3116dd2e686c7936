import Rcp.Theorems.RegisterFields

/-! Who may write a sequencer's registers. A request is checked against the owners it finds, octet by octet, before any
    of it is applied. -/

namespace Rcp
open Lib

/-- The state register is its owner's. -/
def SequencerRow.DrivenBy (row : SequencerRow) (requester : UInt8) : Prop := row.owner ≠ 0 ∧ row.owner = requester

/-- The owner register is its owner's, and free while there is none. -/
def SequencerRow.ClaimableBy (row : SequencerRow) (requester : UInt8) : Prop := row.owner = 0 ∨ row.owner = requester

/-- The request's span, led by its own address, has the octet of the sequencer table: `2 * i` is the state of sequencer
    `i`, `2 * i + 1` its owner. -/
def Ep0Call.Covers (c : Ep0Call) (octet : Nat) : Prop :=
  ∃ request, ep0ParseWriteRequest c.frame = .ok request ∧
    Reaches request.addr.toNat request.data.length (c.ctx.map.tablePtr .sequencers + octet)

section authorize
variable {ctx : Ep0WriteCtx} {requester : UInt8} {rows : List SequencerRow} {row : SequencerRow} {i relative dataLen : Nat}

theorem drivenBy_of_permitted (hrow : rows[i]? = some row)
    (h : Ep0WriteCtx.sequencerOctetPermitted requester rows (2 * i) = true) : row.DrivenBy requester := by
  have hindex : 2 * i / 2 = i := by omega
  unfold Ep0WriteCtx.sequencerOctetPermitted at h
  simpa [hindex, hrow, SequencerRow.DrivenBy] using h

theorem claimableBy_of_permitted (hrow : rows[i]? = some row)
    (h : Ep0WriteCtx.sequencerOctetPermitted requester rows (2 * i + 1) = true) : row.ClaimableBy requester := by
  have hindex : (2 * i + 1) / 2 = i := by omega
  have hodd : (2 * i + 1) % 2 = 1 := by omega
  unfold Ep0WriteCtx.sequencerOctetPermitted at h
  simp only [hindex, hrow, hodd] at h
  unfold SequencerRow.ClaimableBy
  by_contra hno
  rw [not_or] at hno
  simp [hno.1, hno.2] at h

/-- Every octet of an authorized span is permitted. -/
theorem sequencerRowWriteAuthorize_permitted (h : ctx.sequencerRowWriteAuthorize rows relative dataLen = .none)
    {octet : Nat} (hreach : Reaches relative dataLen octet) :
    Ep0WriteCtx.sequencerOctetPermitted ctx.requesterStreamIndex rows octet = true := by
  have hgate : ¬(!ctx.fieldWritable .functionalWStar) = true := by
    rw [ctx.sequencerRowWriteAuthorize_none _ h]
    exact Bool.false_ne_true
  unfold Ep0WriteCtx.sequencerRowWriteAuthorize at h
  rw [if_neg hgate] at h
  by_contra hno
  rw [if_neg] at h
  · exact WireError.noConfusion h
  · rw [List.all_eq_true]
    intro hall
    obtain ⟨hlo, hhi⟩ := hreach
    have hoctet := hall (octet - relative) (List.mem_range.mpr (by omega))
    rw [Nat.add_sub_cancel' hlo] at hoctet
    exact hno hoctet

end authorize

/-- What one request may do to the sequencers. -/
structure OwnershipRespected (tables : Ep0Tables) (c : Ep0Call) : Prop where
  count : (tables.call c).sequencers.count = tables.sequencers.count
  state : ∀ (i : Nat) (row row' : SequencerRow), tables.sequencers.rows[i]? = some row → (tables.call c).sequencers.rows[i]? = some row' →
    row'.state ≠ row.state → row.DrivenBy c.ctx.requesterStreamIndex ∧ c.Covers (2 * i)
  owner : ∀ (i : Nat) (row row' : SequencerRow), tables.sequencers.rows[i]? = some row → (tables.call c).sequencers.rows[i]? = some row' →
    row'.owner ≠ row.owner → row.ClaimableBy c.ctx.requesterStreamIndex ∧ c.Covers (2 * i + 1)
  /-- All of the span is allowed, or none of it is applied. -/
  atomic : (tables.call c).sequencers ≠ tables.sequencers → ∀ (i : Nat) (row : SequencerRow),
    tables.sequencers.rows[i]? = some row →
    (c.Covers (2 * i) → row.DrivenBy c.ctx.requesterStreamIndex) ∧
    (c.Covers (2 * i + 1) → row.ClaimableBy c.ctx.requesterStreamIndex)

/-- What a request that changes a sequencer has been allowed. -/
theorem Ep0Tables.call_sequencers (tables : Ep0Tables) (c : Ep0Call) :
    (tables.call c).sequencers = tables.sequencers ∨
      ∃ request op relative, ep0ParseWriteRequest c.frame = .ok request ∧
        request.addr.toNat = c.ctx.map.tablePtr .sequencers + relative ∧
        c.ctx.sequencerRowWriteAuthorize tables.sequencers.rows relative request.data.length = .none ∧
        (tables.call c).sequencers.rows =
          rowsWritten sequencerCodec op relative request.data tables.sequencers.rows := by
  rcases tables.call_cases c with hkept | ⟨request, op, hparse, hacc⟩
  · rw [hkept]
    exact .inl rfl
  generalize tables.call c = left at hacc ⊢
  cases hacc with
  | sequencers hroute hrel hauth _ =>
    have hle := Ep0Tables.tablePtr_le_of_writeRoute hroute
    exact .inr ⟨request, op, _, hparse, by omega, hauth, rfl⟩
  | _ => exact .inl rfl

section call
variable {tables : Ep0Tables} {c : Ep0Call}

theorem Ep0Tables.call_respects (tables : Ep0Tables) (c : Ep0Call) : OwnershipRespected tables c := by
  rcases tables.call_sequencers c with hkept | ⟨request, op, relative, hparse, haddr, hauth, hrows⟩
  · have hsame {i : Nat} {row row' : SequencerRow} (hrow : tables.sequencers.rows[i]? = some row)
        (hrow' : (tables.call c).sequencers.rows[i]? = some row') : row' = row := by
      rw [hkept, hrow] at hrow'
      exact (Option.some.inj hrow').symm
    exact {
      count := by rw [hkept]
      state := fun i row row' hrow hrow' hne => absurd (congrArg SequencerRow.state (hsame hrow hrow')) hne
      owner := fun i row row' hrow hrow' hne => absurd (congrArg SequencerRow.owner (hsame hrow hrow')) hne
      atomic := fun hne => absurd hkept hne }
  · have hpermitted {octet : Nat} (h : Reaches relative request.data.length octet) :=
      sequencerRowWriteAuthorize_permitted hauth h
    have hcovers (octet : Nat) : c.Covers octet ↔ Reaches relative request.data.length octet := by
      have hshift : Reaches request.addr.toNat request.data.length (c.ctx.map.tablePtr .sequencers + octet) ↔
          Reaches relative request.data.length octet := by
        rw [haddr]
        unfold Reaches
        omega
      constructor
      · rintro ⟨request', hparse', hreach⟩
        rw [hparse] at hparse'
        obtain rfl := Except.ok.inj hparse'
        exact hshift.mp hreach
      · exact fun hreach => ⟨request, hparse, hshift.mpr hreach⟩
    refine { count := ?_, state := ?_, owner := ?_, atomic := ?_ }
    · rw [SequencerTable.count, hrows, length_rowsWritten]
      rfl
    · intro i row row' hrow hrow' hne
      rw [hrows] at hrow'
      obtain ⟨k, -, hk, hreach⟩ := (sequencerFields_faithful (.plain (·.state) 0 1) (by simp [sequencerFields])).reached
        hrow hrow' trivial hne
      obtain rfl : k = 0 := Nat.lt_one_iff.mp hk
      exact ⟨drivenBy_of_permitted hrow (hpermitted hreach), (hcovers _).mpr hreach⟩
    · intro i row row' hrow hrow' hne
      rw [hrows] at hrow'
      obtain ⟨k, hlo, hhi, hreach⟩ :=
        (sequencerFields_faithful (.plain (·.owner) 1 1) (by simp [sequencerFields])).reached hrow hrow' trivial hne
      obtain rfl : k = 1 := Nat.le_antisymm (Nat.le_of_lt_succ hhi) hlo
      exact ⟨claimableBy_of_permitted hrow (hpermitted hreach), (hcovers _).mpr hreach⟩
    · intro _ i row hrow
      exact ⟨fun h => drivenBy_of_permitted hrow (hpermitted ((hcovers _).mp h)),
        fun h => claimableBy_of_permitted hrow (hpermitted ((hcovers _).mp h))⟩

end call

namespace Ep0Tables

section call
variable {tables : Ep0Tables} {c : Ep0Call} {i : Nat} {row : SequencerRow}

/-- A stream that is not the owner changes nothing of the sequencer. -/
theorem call_row_kept (hrow : tables.sequencers.rows[i]? = some row) (howner : row.owner ≠ 0)
    (hother : c.ctx.requesterStreamIndex ≠ row.owner) : (tables.call c).sequencers.rows[i]? = some row := by
  have hresp := tables.call_respects c
  obtain ⟨row', hrow'⟩ : ∃ row', (tables.call c).sequencers.rows[i]? = some row' := by
    have hlt : i < tables.sequencers.count := (List.getElem?_eq_some_iff.mp hrow).1
    rw [← hresp.count] at hlt
    exact ⟨_, List.getElem?_eq_getElem hlt⟩
  have hstate : row'.state = row.state := by
    by_contra hne
    exact hother (hresp.state i row row' hrow hrow' hne).1.2.symm
  have howned : row'.owner = row.owner := by
    by_contra hne
    rcases (hresp.owner i row row' hrow hrow' hne).1 with hzero | hmine
    · exact howner hzero
    · exact hother hmine.symm
  rw [hrow']
  obtain ⟨state, owner⟩ := row
  obtain ⟨state', owner'⟩ := row'
  obtain rfl : state' = state := hstate
  obtain rfl : owner' = owner := howned
  rfl

/-- The owner itself gives the sequencer up by writing the owner register only. -/
theorem call_owner_kept (hrow : tables.sequencers.rows[i]? = some row) (howner : row.owner ≠ 0)
    (h : c.ctx.requesterStreamIndex = row.owner → ¬c.Covers (2 * i + 1)) :
    ∃ row', (tables.call c).sequencers.rows[i]? = some row' ∧ row'.owner = row.owner := by
  by_cases hmine : c.ctx.requesterStreamIndex = row.owner
  · have hresp := tables.call_respects c
    have hlt : i < (tables.call c).sequencers.rows.length := by
      have hlt : i < tables.sequencers.count := (List.getElem?_eq_some_iff.mp hrow).1
      rwa [← hresp.count] at hlt
    refine ⟨_, List.getElem?_eq_getElem hlt, ?_⟩
    by_contra hne
    exact h hmine (hresp.owner i row _ hrow (List.getElem?_eq_getElem hlt) hne).2
  · exact ⟨row, call_row_kept hrow howner hmine, rfl⟩

end call

/-- Through a run in which the owner leaves the owner register alone, the owner stays. -/
theorem run_owner_kept {tables : Ep0Tables} {calls : List Ep0Call} {i : Nat} {row : SequencerRow}
    (hrow : tables.sequencers.rows[i]? = some row) (howner : row.owner ≠ 0)
    (h : ∀ c ∈ calls, c.ctx.requesterStreamIndex = row.owner → ¬c.Covers (2 * i + 1)) :
    ∃ row', (tables.run calls).sequencers.rows[i]? = some row' ∧ row'.owner = row.owner := by
  induction calls generalizing tables row with
  | nil => exact ⟨row, hrow, rfl⟩
  | cons c calls ih =>
    obtain ⟨row₁, hrow₁, howned⟩ := call_owner_kept hrow howner (h c (List.mem_cons_self ..))
    obtain ⟨row', hrow', howned'⟩ := ih hrow₁ (by rwa [howned])
      (fun c' hc' => by
        rw [howned]
        exact h c' (List.mem_cons_of_mem _ hc'))
    exact ⟨row', hrow', howned'.trans howned⟩

theorem run_append (tables : Ep0Tables) (calls calls' : List Ep0Call) :
    tables.run (calls ++ calls') = (tables.run calls).run calls' := List.foldl_append

/-- At every point of every run, the next request respects the owners it finds; and once a stream owns a sequencer, it
    keeps it until it writes the owner register itself, and no other stream changes the sequencer. -/
theorem sequencer_ownership (tables : Ep0Tables) (before : List Ep0Call) :
    (∀ c, OwnershipRespected (tables.run before) c) ∧
    ∀ (i : Nat) (row : SequencerRow), (tables.run before).sequencers.rows[i]? = some row → row.owner ≠ 0 →
      ∀ during : List Ep0Call,
        (∀ c ∈ during, c.ctx.requesterStreamIndex = row.owner → ¬c.Covers (2 * i + 1)) →
        ∃ row', (tables.run (before ++ during)).sequencers.rows[i]? = some row' ∧ row'.owner = row.owner ∧
          ∀ c : Ep0Call, c.ctx.requesterStreamIndex ≠ row.owner →
            (tables.run (before ++ during ++ [c])).sequencers.rows[i]? = some row' := by
  refine ⟨fun c => call_respects _ c, fun i row hrow howner during hduring => ?_⟩
  obtain ⟨row', hrow', howned⟩ := run_owner_kept hrow howner hduring
  rw [← run_append] at hrow'
  refine ⟨row', hrow', howned, fun c hother => ?_⟩
  rw [run_append _ (before ++ during)]
  exact call_row_kept hrow' (by rwa [howned]) (by rwa [howned])

/-- Stream 1 claims the sequencer; stream 2 then fails to drive it. -/
theorem sequencer_ownership_claimed :
    let ctx (requester : UInt8) : Ep0WriteCtx :=
      { map := { svrSequencerStatePtr := 0x200 }, requesterStreamIndex := requester }
    let claim : Ep0Call := { ctx := ctx 1, frame := [0x1C, 3, 0x40, 0, 0, 5, 0x80, 0, 0x02, 0x01, 1, 0] }
    let drive : Ep0Call := { ctx := ctx 2, frame := [0x1C, 3, 0x40, 0, 0, 6, 0x80, 0, 0x02, 0x00, 7, 0] }
    let tables : Ep0Tables := { sequencers := { rows := [{ state := 1, owner := 0 }] } }
    (tables.run [claim, drive]).sequencers.rows[0]? = some { state := 1, owner := 1 } := by
  intro ctx claim drive tables
  have hclaimed : (tables.run [claim]).sequencers.rows[0]? = some { state := 1, owner := 1 } := by decide +kernel
  obtain ⟨row', hrow', -, hother⟩ :=
    (sequencer_ownership tables [claim]).2 0 { state := 1, owner := 1 } hclaimed (by decide) [] (by simp)
  rw [List.append_nil, hclaimed] at hrow'
  obtain rfl := Option.some.inj hrow'
  exact hother drive (by decide)

end Ep0Tables

end Rcp
