import Rcp.Theorems.SeqGate

/-! Whose history a stream's receive state is: in a run that leaves every stream its own row, the state of a stream is
    what its own notes make of the initial one. -/

namespace Rcp

/-! ### The notes about one stream -/

/-- What an event notes about the stream, with the settings the stream has then. -/
def Event.notesOn {σ : Type} (streamId : UInt64) (e : Event σ) : List (RequestStreamCfg × StreamNote) :=
  match e.before.requestStreamCfg.resolveRow streamId with
  | none => []
  | some row =>
    (match e with
      | .call srv c => if c.env.streamId = streamId then srv.callNotes c else []
      | .gate _ streamId' sequenceNum => if streamId' = streamId then [.frame sequenceNum] else []
      | .other srv (.checkWatchdog requestStreamIndex elapsed) _ =>
        if srv.watchdogRow requestStreamIndex = some row then [.watchdog elapsed] else []
      | _ => []).map fun n => (e.before.requestStreamCfg.rows row, n)

/-- What becomes of a stream's state with its notes, one after another. -/
def StreamState.replay (st : StreamState) (ns : List (RequestStreamCfg × StreamNote)) : StreamState :=
  ns.foldl (fun st n => st.note n.1 n.2) st

namespace StreamSide
variable {t : StreamSide} {streamId : UInt64} {row : StreamIx}

theorem note_state (hrow : t.cfg.resolveRow streamId = some row) (n : StreamNote) :
    (t.note streamId n).state row = (t.state row).note (t.cfg.rows row) n := by
  rw [MockServer.note_of_row hrow, noteRow, setState_state]
  cases n <;> rfl

theorem notes_state (ns : List StreamNote) : ∀ {t : StreamSide}, t.cfg.resolveRow streamId = some row →
    (t.notes streamId ns).state row = (t.state row).replay (ns.map fun n => (t.cfg.rows row, n)) := by
  induction ns with
  | nil => exact fun _ => rfl
  | cons n ns ih =>
    intro t hrow
    have hcfg := MockServer.note_cfg t streamId n
    have hrow' : (t.note streamId n).cfg.resolveRow streamId = some row := by
      rw [hcfg]
      exact hrow
    refine (ih hrow').trans ?_
    rw [note_state hrow, hcfg]
    rfl

/-- Notes about a stream of another row leave the row alone. -/
theorem notes_state_of_ne (ns : List StreamNote) : ∀ {t : StreamSide}, t.cfg.resolveRow streamId ≠ some row →
    (t.notes streamId ns).state row = t.state row := by
  induction ns with
  | nil => exact fun _ => rfl
  | cons n ns ih =>
    intro t hrow
    have hne : (t.note streamId n).cfg.resolveRow streamId ≠ some row := by
      rw [MockServer.note_cfg]
      exact hrow
    refine (ih hne).trans ?_
    have hfault : ∀ row', (t.noteFault streamId n).state row' = t.state row' := by
      intro row'
      cases n <;> rfl
    cases hfound : t.cfg.resolveRow streamId with
    | none =>
      unfold note
      rw [hfound]
      exact hfault row
    | some row' =>
      have hrr : row ≠ row' := by
        rintro rfl
        exact hrow hfound
      rw [MockServer.note_of_row hfound, noteRow, setState_state_of_ne _ _ hrr, hfault]

end StreamSide

namespace MockServer
variable {σ : Type} {srv srv' : MockServer σ} {streamId : UInt64} {row : StreamIx}

/-- While the row is in use it is the stream's, and the stream has no other. -/
structure OwnRow (srv : MockServer σ) (streamId : UInt64) (row : StreamIx) : Prop where
  only : ∀ row', srv.requestStreamCfg.resolveRow streamId = some row' → row' = row
  own : row.val < srv.requestStreamCfg.count.val → (srv.requestStreamCfg.rows row).rxStreamId = streamId

theorem OwnRow.resolveRow_cases (h : srv.OwnRow streamId row) :
    srv.requestStreamCfg.resolveRow streamId = none ∨ srv.requestStreamCfg.resolveRow streamId = some row := by
  cases hfound : srv.requestStreamCfg.resolveRow streamId with
  | none => exact Or.inl rfl
  | some row' =>
    obtain rfl := h.only row' hfound
    exact Or.inr rfl

theorem OwnRow.other (h : srv.OwnRow streamId row) {streamId' : UInt64} (hne : streamId' ≠ streamId) :
    srv.requestStreamCfg.resolveRow streamId' ≠ some row := by
  intro hrow
  obtain ⟨hlt, hid⟩ := RequestStreamTable.resolveRow_spec hrow
  exact hne (hid.symm.trans (h.own hlt))

/-- A row in use resolves to itself. -/
theorem OwnRow.resolves (h : srv.OwnRow streamId row) (hlt : row.val < srv.requestStreamCfg.count.val) :
    srv.requestStreamCfg.resolveRow streamId = some row := by
  obtain hfound | hfound := h.resolveRow_cases
  · have hnone := Fin.find?_eq_none_iff.mp hfound row
    simp [hlt, h.own hlt] at hnone
  · exact hfound

theorem OwnRow.of_rows
    (hown : row.val < srv.requestStreamCfg.count.val → (srv.requestStreamCfg.rows row).rxStreamId = streamId)
    (hbefore : ∀ i : StreamIx, i < row → i.val < srv.requestStreamCfg.count.val →
      (srv.requestStreamCfg.rows i).rxStreamId ≠ streamId) : srv.OwnRow streamId row := by
  refine ⟨fun row' hfound => ?_, hown⟩
  obtain ⟨hlt, hid⟩ := RequestStreamTable.resolveRow_spec hfound
  rcases lt_trichotomy row' row with hrr | hrr | hrr
  · exact absurd hid (hbefore row' hrr hlt)
  · exact hrr
  · -- The row comes first and is the stream's, so the search would have stopped there.
    have hfirst := (Fin.find?_eq_some_iff.mp hfound).2 row hrr
    have hcount : row.val < srv.requestStreamCfg.count.val := lt_trans hrr hlt
    simp [hcount, hown hcount] at hfirst

/-! ### One event -/

theorem OwnRow.congr (h : srv.OwnRow streamId row) (hcfg : srv'.requestStreamCfg = srv.requestStreamCfg) :
    srv'.OwnRow streamId row := by
  obtain ⟨honly, hown⟩ := h
  rw [← hcfg] at honly hown
  exact ⟨honly, hown⟩

/-- What is noted about any stream shows in the row as far as it is noted about its own. -/
theorem OwnRow.notes_state (h : srv.OwnRow streamId row) (streamId' : UInt64) (ns : List StreamNote) :
    (srv.streamSide.notes streamId' ns).state row = (srv.streamSide.state row).replay
      (match srv.requestStreamCfg.resolveRow streamId with
        | none => []
        | some row => (if streamId' = streamId then ns else []).map fun n => (srv.requestStreamCfg.rows row, n)) := by
  by_cases hid : streamId' = streamId
  · subst hid
    obtain hfound | hfound := h.resolveRow_cases
    · have hne : srv.requestStreamCfg.resolveRow streamId' ≠ some row := by
        rw [hfound]
        exact nofun
      rw [hfound]
      exact StreamSide.notes_state_of_ne (t := srv.streamSide) ns hne
    · rw [hfound, if_pos rfl]
      exact StreamSide.notes_state ns hfound
  · have hother := StreamSide.notes_state_of_ne (t := srv.streamSide) ns (h.other hid)
    rw [if_neg hid, hother]
    cases srv.requestStreamCfg.resolveRow streamId <;> rfl

theorem watchdogRow_lt {requestStreamIndex : UInt8} (h : srv.watchdogRow requestStreamIndex = some row) :
    row.val < srv.requestStreamCfg.count.val := by
  unfold watchdogRow at h
  split at h
  · split at h
    · cases h
    · rename_i hidx
      obtain rfl := Option.some.inj h
      rw [not_or] at hidx
      have hpos : requestStreamIndex.toNat ≠ 0 := fun h0 => hidx.1 (UInt8.toNat_inj.mp h0)
      dsimp only
      omega
  · cases h

theorem OwnRow.checkWatchdog_state (h : srv.OwnRow streamId row) (requestStreamIndex : UInt8) (elapsed : UInt64) :
    (srv.checkWatchdog requestStreamIndex elapsed).2.streamSide.state row = (srv.streamSide.state row).replay
      (match srv.requestStreamCfg.resolveRow streamId with
        | none => []
        | some row => (if srv.watchdogRow requestStreamIndex = some row then [.watchdog elapsed] else []).map
            fun n => (srv.requestStreamCfg.rows row, n)) := by
  rw [checkWatchdog_streamSide]
  cases hwd : srv.watchdogRow requestStreamIndex with
  | none =>
    cases srv.requestStreamCfg.resolveRow streamId <;> rfl
  | some row' =>
    dsimp only
    by_cases hrr : row = row'
    · subst hrr
      rw [h.resolves (watchdogRow_lt hwd)]
      dsimp only
      rw [if_pos rfl, StreamSide.noteRow, StreamSide.setState_state]
      rfl
    · rw [StreamSide.noteRow, StreamSide.setState_state_of_ne _ _ hrr]
      obtain hfound | hfound := h.resolveRow_cases <;> rw [hfound]
      · rfl
      · dsimp only
        rw [if_neg fun heq => hrr (Option.some.inj heq).symm]
        rfl

end MockServer

open MockServer in
theorem Event.after_state {σ : Type} {e : Event σ} {streamId : UInt64} {row : StreamIx}
    (h : e.before.OwnRow streamId row) :
    e.after.streamSide.state row = (e.before.streamSide.state row).replay (e.notesOn streamId) := by
  cases e with
  | call srv c =>
    dsimp only [Event.after, Event.before] at h ⊢
    rw [call_streamSide]
    exact h.notes_state c.env.streamId (srv.callNotes c)
  | gate srv streamId' sequenceNum =>
    dsimp only [Event.after, Event.before] at h ⊢
    rw [frameSeqGateAdmits_streamSide]
    exact h.notes_state streamId' [.frame sequenceNum]
  | other srv op hop =>
    have hquiet : ∀ {t : StreamSide}, t.state row = srv.streamSide.state row →
        t.state row = (srv.streamSide.state row).replay
          (match srv.requestStreamCfg.resolveRow streamId with
            | none => []
            | some row => ([] : List StreamNote).map fun n => (srv.requestStreamCfg.rows row, n)) := by
      intro t ht
      rw [ht]
      cases srv.requestStreamCfg.resolveRow streamId <;> rfl
    cases op with
    | call | dispatchFrame => cases hop
    | checkWatchdog requestStreamIndex elapsed => exact h.checkWatchdog_state requestStreamIndex elapsed
    | tick scope byteBusId ctx =>
      exact hquiet (congrArg (·.state row) (tickScoped_streamSide srv scope byteBusId ctx))
    | setRequestStreamCfg | setSequencerCount | setSequencerOwner | setStreamFaultTracker => exact hquiet rfl
    | _ => exact hquiet (congrArg (·.state row) (step_quiet srv rfl).streams)

/-! ### Runs that leave the stream its row -/

/-- A new table that is taken over gives the row to no other stream, and the stream no row before it. -/
def MockOp.keepsRow {σ : Type} (streamId : UInt64) (row : StreamIx) : MockOp σ → Bool
  | .setRequestStreamCfg entries =>
    decide (requestStreamCfgMaxEntries < entries.length) ||
      entries[row.val]?.all (·.rxStreamId == streamId) && (entries.take row.val).all (·.rxStreamId != streamId)
  | _ => true

namespace MockServer
variable {σ : Type} {srv srv' : MockServer σ} {streamId : UInt64} {row : StreamIx}

theorem OwnRow.setRequestStreamCfg {entries : List RequestStreamCfg} (h : srv.OwnRow streamId row)
    (hkeep : (MockOp.setRequestStreamCfg (σ := σ) entries).keepsRow streamId row = true) :
    (srv.setRequestStreamCfg entries).2.OwnRow streamId row := by
  by_cases hlen : entries.length ≤ requestStreamCfgMaxEntries
  · have hset : (srv.setRequestStreamCfg entries).2.requestStreamCfg =
        { rows := fun i => entries.getD i.val (srv.requestStreamCfg.rows i), count := ⟨entries.length, by omega⟩ } := by
      unfold MockServer.setRequestStreamCfg RequestStreamTable.set
      rw [dif_pos hlen]
    simp only [MockOp.keepsRow, decide_eq_false (not_lt.mpr hlen), Bool.false_or, Bool.and_eq_true] at hkeep
    obtain ⟨hrow, hbefore⟩ := hkeep
    refine .of_rows ?_ ?_ <;> rw [hset]
    · intro hlt
      dsimp only at hlt ⊢
      simpa [hlt] using hrow
    · intro i hi hlt
      dsimp only at hlt ⊢
      rw [List.getD_eq_getElem?_getD, List.getElem?_eq_getElem hlt, Option.getD_some]
      have hmem : entries[i.val] ∈ entries.take row.val := by
        refine List.mem_take_iff_getElem.mpr ⟨i.val, lt_min hi hlt, rfl⟩
      simpa using List.all_eq_true.mp hbefore _ hmem
  · have hset : (srv.setRequestStreamCfg entries).2 = srv := by
      unfold MockServer.setRequestStreamCfg RequestStreamTable.set
      rw [dif_neg hlen]
    rw [hset]
    exact h

theorem step_requestStreamCfg (srv : MockServer σ) {op : MockOp σ} (hop : op.dispatches = false)
    (hset : ∀ entries, op ≠ .setRequestStreamCfg entries) : (srv.step op).requestStreamCfg = srv.requestStreamCfg := by
  obtain h | ⟨requestStreamIndex, elapsed, rfl⟩ | ⟨entries, rfl⟩ | ⟨tracker, rfl⟩ := step_streamSide srv hop
  · exact congrArg StreamSide.cfg h
  · refine (congrArg StreamSide.cfg (checkWatchdog_streamSide srv requestStreamIndex elapsed)).trans ?_
    split <;> rfl
  · exact absurd rfl (hset entries)
  · rfl

theorem OwnRow.after {e : Event σ} (h : e.before.OwnRow streamId row)
    (hkeep : ∀ srv op hop, e = .other srv op hop → op.keepsRow streamId row = true) : e.after.OwnRow streamId row := by
  cases e with
  | call srv c =>
    exact h.congr (call_requestStreamCfg srv c)
  | gate srv streamId' sequenceNum =>
    refine h.congr ?_
    exact (congrArg StreamSide.cfg (frameSeqGateAdmits_streamSide srv streamId' sequenceNum)).trans (note_cfg _ _ _)
  | other srv op hop =>
    by_cases hset : ∃ entries, op = .setRequestStreamCfg entries
    · obtain ⟨entries, rfl⟩ := hset
      exact OwnRow.setRequestStreamCfg h (hkeep srv _ hop rfl)
    · push Not at hset
      exact h.congr (step_requestStreamCfg srv hop hset)

theorem Logs.state {es : List (Event σ)} (hlogs : Logs srv es srv') (h : srv.OwnRow streamId row)
    (hkeep : ∀ srv op hop, .other srv op hop ∈ es → op.keepsRow streamId row = true) :
    srv'.OwnRow streamId row ∧
      srv'.streamSide.state row = (srv.streamSide.state row).replay (es.flatMap (Event.notesOn streamId)) := by
  induction hlogs with
  | @nil s t hst => exact ⟨h.congr (congrArg StreamSide.cfg hst.streams), by rw [hst.streams]; rfl⟩
  | @cons s t e es hse _ ih =>
    have hbefore : e.before.OwnRow streamId row := h.congr (congrArg StreamSide.cfg hse.streams)
    have hafter : e.after.OwnRow streamId row :=
      hbefore.after fun srv op hop he => hkeep srv op hop (he ▸ List.mem_cons_self ..)
    obtain ⟨hown, hstate⟩ := ih hafter fun srv op hop he => hkeep srv op hop (List.mem_cons_of_mem e he)
    refine ⟨hown, ?_⟩
    rw [hstate, Event.after_state hbefore, hse.streams, List.flatMap_cons, StreamState.replay, StreamState.replay,
      StreamState.replay, List.foldl_append]

end MockServer

namespace MockServer
variable {σ : Type}

end MockServer
end Rcp
