import Rcp.Heartbeat
import Rcp.Lib.History
import Rcp.Theorems.Framing

/-! When a response stream owes a heartbeat, told by the calls and the checks before. -/

namespace Rcp
namespace HeartbeatServer
variable {σ : Type}

/-! ### One check -/

/-- The row of a response stream, which is named by its place from 1 on. -/
def row (srv : HeartbeatServer σ) (r : UInt8) : Option ResponseQueueCfg :=
  if r = 0 then none else srv.responseQueueCfg[r.toNat - 1]?

/-- The flush time has passed. -/
def Owed (cfg : ResponseQueueCfg) (lastUs nowUs : UInt64) : Prop :=
  cfg.flushTimeUs ≠ 0 ∧ lastUs.toNat + cfg.flushTimeUs.toNat ≤ nowUs.toNat

theorem row_eq_none {srv : HeartbeatServer σ} {r : UInt8} :
    srv.row r = none ↔ r = 0 ∨ r.toNat > srv.responseQueueCfg.length := by
  unfold row
  split
  · simp [*]
  · rename_i hr
    have hpos : r.toNat ≠ 0 := fun h => hr (UInt8.toNat_inj.mp h)
    rw [List.getElem?_eq_none_iff]
    simp only [hr, false_or]
    omega

theorem row_ne_zero {srv : HeartbeatServer σ} {r : UInt8} {cfg : ResponseQueueCfg} (h : srv.row r = some cfg) :
    r ≠ 0 := by
  rintro rfl
  cases h

theorem row_getD {srv : HeartbeatServer σ} {r : UInt8} {cfg : ResponseQueueCfg} (h : srv.row r = some cfg) :
    srv.responseQueueCfg.getD (r.toNat - 1) {} = cfg := by
  unfold row at h
  rw [if_neg (row_ne_zero h)] at h
  rw [List.getD_eq_getElem?_getD, h, Option.getD_some]

theorem shouldFlush_iff {cfg : ResponseQueueCfg} {lastUs nowUs : UInt64} (hclock : ¬nowUs < lastUs) :
    respqueueShouldFlushByTime (nowUs - lastUs) cfg.flushTimeUs.toUInt64 = true ↔ Owed cfg lastUs nowUs := by
  have hle : lastUs ≤ nowUs := UInt64.not_lt.mp hclock
  have hnat := UInt64.le_iff_toNat_le.mp hle
  have hzero : cfg.flushTimeUs.toUInt64 = 0 ↔ cfg.flushTimeUs = 0 := by
    rw [← UInt64.toNat_inj, ← UInt32.toNat_inj]
    rfl
  unfold respqueueShouldFlushByTime Owed
  by_cases hoff : cfg.flushTimeUs = 0
  · rw [if_pos (hzero.mpr hoff)]
    simp [hoff]
  · rw [if_neg (mt hzero.mp hoff), decide_eq_true_iff, ge_iff_le, UInt64.le_iff_toNat_le,
      UInt64.toNat_sub_of_le _ _ hle, UInt32.toNat_toUInt64]
    simp only [ne_eq, hoff, not_false_eq_true, true_and]
    omega

/-- The first check of a response stream starts its clock. -/
theorem check_first {srv : HeartbeatServer σ} {c : HeartbeatCheck} {cfg : ResponseQueueCfg}
    (hrow : srv.row c.responseStreamIndex = some cfg)
    (hseeded : srv.responseQueueSeeded (c.responseStreamIndex.toNat - 1) = false) :
    srv.checkResponseQueueHeartbeat c = ((false, none),
      { srv with
        responseQueueSeeded := Function.update srv.responseQueueSeeded (c.responseStreamIndex.toNat - 1) true
        responseQueueLastTransmitUs :=
          Function.update srv.responseQueueLastTransmitUs (c.responseStreamIndex.toNat - 1) c.nowUs }) := by
  have hin : ¬(c.responseStreamIndex = 0 ∨ c.responseStreamIndex.toNat > srv.responseQueueCfg.length) := fun h => by
    rw [row_eq_none.mpr h] at hrow
    cases hrow
  unfold checkResponseQueueHeartbeat
  rw [if_neg hin]
  dsimp only
  rw [hseeded]
  rfl

/-- The frame of a heartbeat. -/
def heartbeat (cfg : ResponseQueueCfg) (c : HeartbeatCheck) : Option Octets :=
  if c.allocated then avtpEncodeNtscf (heartbeatHeader (cfg.streamId c.mac)) [] else none

theorem heartbeat_isSome {cfg : ResponseQueueCfg} {c : HeartbeatCheck} : (heartbeat cfg c).isSome = c.allocated := by
  unfold heartbeat
  cases c.allocated <;> rfl

theorem heartbeatHeader_onWire (streamId : StreamId) :
    (heartbeatHeader streamId).onWire 0 = heartbeatHeader streamId := by
  unfold heartbeatHeader NtscfHeader.onWire
  simp

theorem heartbeat_decodes {cfg : ResponseQueueCfg} {c : HeartbeatCheck} {frame : Octets}
    (h : heartbeat cfg c = some frame) :
    avtpDecodeNtscf frame = .ok (heartbeatHeader (cfg.streamId c.mac), []) := by
  have hempty : ([] : Octets).length ≤ avtpNtscfMaxPayload := Nat.zero_le _
  obtain ⟨f, hf, -, hdec, -⟩ := avtpDecodeNtscf_encode (heartbeatHeader (cfg.streamId c.mac)) hempty
  unfold heartbeat at h
  split at h
  · obtain rfl := Option.some.inj (hf.symm.trans h)
    rw [← List.append_nil f, hdec [], List.length_nil, heartbeatHeader_onWire]
  · cases h

/-- Every later check compares with the clock. -/
theorem check_later {srv : HeartbeatServer σ} {c : HeartbeatCheck} {cfg : ResponseQueueCfg}
    (hrow : srv.row c.responseStreamIndex = some cfg)
    (hseeded : srv.responseQueueSeeded (c.responseStreamIndex.toNat - 1) = true) :
    (¬Owed cfg (srv.responseQueueLastTransmitUs (c.responseStreamIndex.toNat - 1)) c.nowUs ∧
      srv.checkResponseQueueHeartbeat c = ((false, none), srv)) ∨
    (Owed cfg (srv.responseQueueLastTransmitUs (c.responseStreamIndex.toNat - 1)) c.nowUs ∧
      srv.checkResponseQueueHeartbeat c = ((true, heartbeat cfg c),
        if c.allocated then
          { srv with
            responseQueueLastTransmitUs :=
              Function.update srv.responseQueueLastTransmitUs (c.responseStreamIndex.toNat - 1) c.nowUs }
        else srv)) := by
  have hin : ¬(c.responseStreamIndex = 0 ∨ c.responseStreamIndex.toNat > srv.responseQueueCfg.length) := fun h => by
    rw [row_eq_none.mpr h] at hrow
    cases hrow
  unfold checkResponseQueueHeartbeat
  rw [if_neg hin]
  dsimp only
  rw [hseeded, row_getD hrow, Bool.not_true, if_neg Bool.false_ne_true]
  by_cases hclock : c.nowUs < srv.responseQueueLastTransmitUs (c.responseStreamIndex.toNat - 1)
  · refine .inl ⟨fun howed => ?_, if_pos hclock⟩
    have hbefore := UInt64.lt_iff_toNat_lt.mp hclock
    have hafter := howed.2
    omega
  rw [if_neg hclock]
  by_cases howed : Owed cfg (srv.responseQueueLastTransmitUs (c.responseStreamIndex.toNat - 1)) c.nowUs
  · rw [(shouldFlush_iff hclock).mpr howed, Bool.not_true, if_neg Bool.false_ne_true]
    refine .inr ⟨howed, ?_⟩
    unfold heartbeat
    cases c.allocated with
    | false => rfl
    | true =>
      have hempty : ([] : Octets).length ≤ avtpNtscfMaxPayload := Nat.zero_le _
      obtain ⟨frame, hframe, -⟩ := avtpDecodeNtscf_encode (heartbeatHeader (cfg.streamId c.mac)) hempty
      rw [if_pos rfl, hframe]
      rfl
  · rw [Bool.eq_false_iff.mpr (mt (shouldFlush_iff hclock).mp howed), Bool.not_false, if_pos rfl]
    exact .inl ⟨howed, rfl⟩

/-! ### What a run says about a response stream -/

/-- A check of the response stream that finds it in the table. -/
def Checks (world : σ) (r : UInt8) (before : List (HeartbeatOp σ)) (op : HeartbeatOp σ) : Prop :=
  ∃ c, op = .check c ∧ c.responseStreamIndex = r ∧ (((new world).run before).row r).isSome = true

/-- A check that transmits a heartbeat, or the first one, at a time with the property `p`. -/
def Starts (world : σ) (r : UInt8) (p : UInt64 → Prop) (before : List (HeartbeatOp σ)) (op : HeartbeatOp σ) : Prop :=
  ∃ c, op = .check c ∧ c.responseStreamIndex = r ∧ p c.nowUs ∧
    ((((new world).run before).checkResponseQueueHeartbeat c).1.2.isSome = true ∨
      (((new world).run before).row r).isSome = true ∧ ¬∃ first, Lib.First (Checks world r) before first)

/-- What the server knows of the transmissions of a response stream. -/
structure Clocked (world : σ) (r : UInt8) (ops : List (HeartbeatOp σ)) : Prop where
  seeded : ((new world).run ops).responseQueueSeeded (r.toNat - 1) = true ↔
    ∃ first, Lib.First (Checks world r) ops first
  last : ∀ p, Lib.Since (Starts world r p) (Starts world r fun _ => True) ops ↔
    ((new world).run ops).responseQueueSeeded (r.toNat - 1) = true ∧
      p (((new world).run ops).responseQueueLastTransmitUs (r.toNat - 1))
  latest : ∀ before op after, ops = before ++ op :: after → ∀ c, op = .check c →
    Starts world r (fun _ => True) before op →
      c.nowUs ≤ ((new world).run ops).responseQueueLastTransmitUs (r.toNat - 1)

theorem run_concat (world : σ) (ops : List (HeartbeatOp σ)) (op : HeartbeatOp σ) :
    (new world).run (ops ++ [op]) = ((new world).run ops).step op := by
  rw [run, run, List.foldl_concat]

variable {world : σ} {r : UInt8} {ops : List (HeartbeatOp σ)}

theorem Clocked.nil : Clocked world r [] where
  seeded := ⟨nofun, fun ⟨_, h⟩ => absurd h Lib.not_first_nil⟩
  last := fun _ => ⟨fun h => absurd h Lib.not_since_nil, nofun⟩
  latest := fun _ _ _ h => absurd h.symm (List.append_ne_nil_of_right_ne_nil _ (List.cons_ne_nil _ _))

/-- An operation that is no check of the stream in the table changes nothing that counts. -/
theorem Clocked.other (h : Clocked world r ops) {op : HeartbeatOp σ} (hchecks : ¬Checks world r ops op)
    (hstarts : ∀ p, ¬Starts world r p ops op)
    (hseeded : ((new world).run (ops ++ [op])).responseQueueSeeded (r.toNat - 1) =
      ((new world).run ops).responseQueueSeeded (r.toNat - 1))
    (hlast : ((new world).run (ops ++ [op])).responseQueueLastTransmitUs (r.toNat - 1) =
      ((new world).run ops).responseQueueLastTransmitUs (r.toNat - 1)) : Clocked world r (ops ++ [op]) where
  seeded := by
    rw [hseeded, h.seeded]
    simp only [Lib.first_concat, hchecks, false_and, and_false, or_false]
  last := fun p => by
    rw [hseeded, hlast, Lib.since_concat, h.last]
    simp only [hstarts, false_or, not_false_eq_true, and_true]
  latest := fun before d after hsplit c hc hs => by
    rw [hlast]
    rcases Lib.concat_eq_split hsplit with ⟨rfl, rfl, -⟩ | ⟨after, -, hops⟩
    · exact absurd hs (hstarts _)
    · exact h.latest before d after hops c hc hs

theorem check_outside {srv : HeartbeatServer σ} {c : HeartbeatCheck} (hrow : srv.row c.responseStreamIndex = none) :
    srv.checkResponseQueueHeartbeat c = ((false, none), srv) := by
  unfold checkResponseQueueHeartbeat
  rw [if_pos (row_eq_none.mp hrow)]

theorem Starts.checks {p : UInt64 → Prop} {before : List (HeartbeatOp σ)} {op : HeartbeatOp σ}
    (h : Starts world r p before op) : Checks world r before op := by
  obtain ⟨c, rfl, rfl, -, hsent | ⟨hrow, -⟩⟩ := h
  · refine ⟨c, rfl, rfl, Option.isSome_iff_ne_none.mpr fun hnone => ?_⟩
    rw [check_outside hnone] at hsent
    cases hsent
  · exact ⟨c, rfl, rfl, hrow⟩

/-- A check that starts the clock anew. -/
theorem Clocked.started (h : Clocked world r ops) {c : HeartbeatCheck}
    (hchecks : Checks world r ops (.check c))
    (hstarts : ∀ p, Starts world r p ops (.check c) ↔ p c.nowUs)
    (hafter : ∀ before op after, ops = before ++ op :: after → ∀ c', op = .check c' →
      Starts world r (fun _ => True) before op → c'.nowUs ≤ c.nowUs)
    (hseeded : ((new world).run (ops ++ [.check c])).responseQueueSeeded (r.toNat - 1) = true)
    (hlast : ((new world).run (ops ++ [.check c])).responseQueueLastTransmitUs (r.toNat - 1) = c.nowUs) :
    Clocked world r (ops ++ [.check c]) where
  seeded := by
    rw [hseeded]
    simp only [Lib.first_concat, true_iff]
    by_cases hfirst : ∃ first, Lib.First (Checks world r) ops first
    · obtain ⟨first, hfirst⟩ := hfirst
      exact ⟨first, .inl hfirst⟩
    · exact ⟨.check c, .inr ⟨hfirst, hchecks, rfl⟩⟩
  last := fun p => by
    rw [hseeded, hlast, Lib.since_concat, hstarts, hstarts]
    simp only [not_true_eq_false, and_false, or_false, true_and]
  latest := fun before op after hsplit c' hc' hs => by
    rw [hlast]
    rcases Lib.concat_eq_split hsplit with ⟨rfl, rfl, -⟩ | ⟨after, -, hops⟩
    · cases hc'
      exact UInt64.le_refl _
    · exact hafter before op after hops c' hc' hs

theorem Clocked.check (h : Clocked world r ops) {c : HeartbeatCheck} {cfg : ResponseQueueCfg}
    (hr : c.responseStreamIndex = r) (hrow : ((new world).run ops).row r = some cfg) :
    Clocked world r (ops ++ [.check c]) := by
  subst hr
  have hchecks : Checks world c.responseStreamIndex ops (.check c) := ⟨c, rfl, rfl, by rw [hrow]; rfl⟩
  cases hseeded : ((new world).run ops).responseQueueSeeded (c.responseStreamIndex.toNat - 1) with
  | false =>
    have hstep := check_first hrow hseeded
    have hnone : ¬∃ first, Lib.First (Checks world c.responseStreamIndex) ops first := fun hfirst => by
      rw [h.seeded.mpr hfirst] at hseeded
      cases hseeded
    refine h.started hchecks (fun p => ⟨?_, fun hp => ?_⟩) ?_ ?_ ?_
    · rintro ⟨c', hc', -, hp, -⟩
      cases hc'
      exact hp
    · exact ⟨c, rfl, rfl, hp, .inr ⟨by rw [hrow]; rfl, hnone⟩⟩
    · intro before op after hops c' hc' hs
      exact absurd hs.checks (Lib.not_exists_first.mp hnone before op after hops)
    · rw [run_concat, step, hstep]
      exact Function.update_self _ _ _
    · rw [run_concat, step, hstep]
      exact Function.update_self _ _ _
  | true =>
    obtain ⟨first, hfirst⟩ := h.seeded.mp hseeded
    have hanswer : ∀ p, Starts world c.responseStreamIndex p ops (.check c) ↔
        p c.nowUs ∧ (((new world).run ops).checkResponseQueueHeartbeat c).1.2.isSome = true := by
      intro p
      constructor
      · rintro ⟨c', hc', -, hp, hsent | ⟨-, hnone⟩⟩
        · cases hc'
          exact ⟨hp, hsent⟩
        · exact absurd ⟨first, hfirst⟩ hnone
      · rintro ⟨hp, hsent⟩
        exact ⟨c, rfl, rfl, hp, .inl hsent⟩
    have hsilent : (((new world).run ops).checkResponseQueueHeartbeat c).1.2 = none →
        (((new world).run ops).checkResponseQueueHeartbeat c).2 = (new world).run ops →
        Clocked world c.responseStreamIndex (ops ++ [.check c]) := by
      intro hsent hstep
      refine ⟨?_, fun p => ?_, fun before op after hsplit c' hc' hs => ?_⟩
      · rw [run_concat, step, hstep, hseeded]
        exact ⟨fun _ => ⟨first, Lib.first_concat.mpr (.inl hfirst)⟩, fun _ => rfl⟩
      · rw [run_concat, step, hstep, Lib.since_concat, hanswer, hanswer, hsent, h.last]
        simp only [Option.isSome_none, Bool.false_eq_true, and_false, false_or, not_false_eq_true, and_true]
      · rw [run_concat, step, hstep]
        rcases Lib.concat_eq_split hsplit with ⟨rfl, rfl, -⟩ | ⟨after, -, hops⟩
        · rw [hanswer, hsent] at hs
          cases hs.2
        · exact h.latest before op after hops c' hc' hs
    rcases check_later hrow hseeded with ⟨-, hstep⟩ | ⟨howed, hstep⟩
    · exact hsilent (by rw [hstep]) (by rw [hstep])
    · cases hallocated : c.allocated with
      | false =>
        rw [hallocated, if_neg Bool.false_ne_true] at hstep
        refine hsilent ?_ (by rw [hstep])
        rw [hstep]
        exact Option.not_isSome_iff_eq_none.mp (by rw [heartbeat_isSome, hallocated]; exact Bool.false_ne_true)
      | true =>
        rw [hallocated, if_pos rfl] at hstep
        refine h.started hchecks (fun p => ?_) ?_ ?_ ?_
        · rw [hanswer, hstep, heartbeat_isSome, hallocated]
          exact and_iff_left rfl
        · intro before op after hops c' hc' hs
          have hlatest := UInt64.le_iff_toNat_le.mp (h.latest before op after hops c' hc' hs)
          have hpassed := howed.2
          exact UInt64.le_iff_toNat_le.mpr (by omega)
        · rw [run_concat, step, hstep]
          exact hseeded
        · rw [run_concat, step, hstep]
          exact Function.update_self _ _ _

/-- A check of another response stream. -/
theorem Clocked.elsewhere (h : Clocked world r ops) (hr : r ≠ 0) {c : HeartbeatCheck}
    (hne : c.responseStreamIndex ≠ r) :
    Clocked world r (ops ++ [.check c]) := by
  have hchecks : ¬Checks world r ops (.check c) := fun ⟨c', hc', hindex, _⟩ => by
    cases hc'
    exact hne hindex
  refine h.other hchecks (fun p hs => hchecks hs.checks) ?_ ?_
  all_goals
    rw [run_concat, step]
    cases hrow : ((new world).run ops).row c.responseStreamIndex with
    | none => rw [check_outside hrow]
    | some cfg =>
      have hidx : r.toNat - 1 ≠ c.responseStreamIndex.toNat - 1 := by
        have hzero : r.toNat ≠ 0 := fun h0 => hr (UInt8.toNat_inj.mp h0)
        have hzero' : c.responseStreamIndex.toNat ≠ 0 := fun h0 => row_ne_zero hrow (UInt8.toNat_inj.mp h0)
        have hindex : c.responseStreamIndex.toNat ≠ r.toNat := fun heq => hne (UInt8.toNat_inj.mp heq)
        omega
      cases hseeded : ((new world).run ops).responseQueueSeeded (c.responseStreamIndex.toNat - 1) with
      | false =>
        rw [check_first hrow hseeded]
        exact Function.update_of_ne hidx _ _
      | true =>
        rcases check_later hrow hseeded with ⟨-, hstep⟩ | ⟨-, hstep⟩
        · rw [hstep]
        · rw [hstep]
          cases c.allocated with
          | false => rfl
          | true => first | rfl | exact Function.update_of_ne hidx _ _

theorem clocked (world : σ) (hr : r ≠ 0) (ops : List (HeartbeatOp σ)) : Clocked world r ops := by
  induction ops using List.reverseRecOn with
  | nil => exact .nil
  | append_singleton ops op ih =>
    cases op with
    | call op =>
      have hchecks : ¬Checks world r ops (.call op) := nofun
      refine ih.other hchecks (fun p hs => hchecks hs.checks) ?_ ?_
      · rw [run_concat, step]
      · rw [run_concat, step]
    | check c =>
      by_cases hindex : c.responseStreamIndex = r
      · cases hrow : ((new world).run ops).row r with
        | some cfg => exact ih.check hindex hrow
        | none =>
          have hchecks : ¬Checks world r ops (.check c) := fun ⟨_, _, _, hin⟩ => by
            rw [hrow] at hin
            cases hin
          have hstep := check_outside (hindex ▸ hrow)
          refine ih.other hchecks (fun p hs => hchecks hs.checks) ?_ ?_
          · rw [run_concat, step, hstep]
          · rw [run_concat, step, hstep]
      · exact ih.elsewhere hr hindex

/-! ### All checks of a run -/

/-- A check finds a heartbeat owed exactly when its response stream is in the table with a flush time, and that time has
    passed since the last heartbeat, or the first check where there was none. This holds whatever happens to the table
    in between, and whatever the clock does. A heartbeat that cannot be allocated stays owed. What is transmitted is an
    empty frame of the stream, later by the flush time than every heartbeat before it. -/
theorem heartbeats_follow_history (world : σ) (ops : List (HeartbeatOp σ)) (c : HeartbeatCheck) :
    let srv := (new world).run ops
    let r := c.responseStreamIndex
    let answer := (srv.checkResponseQueueHeartbeat c).1
    (answer.1 = true ↔ ∃ cfg, srv.row r = some cfg ∧ cfg.flushTimeUs ≠ 0 ∧
      Lib.Since (Starts world r fun t => t.toNat + cfg.flushTimeUs.toNat ≤ c.nowUs.toNat)
        (Starts world r fun _ => True) ops) ∧
    (answer.2.isSome = true ↔ answer.1 = true ∧ c.allocated = true) ∧
    ∀ frame, answer.2 = some frame → ∃ cfg, srv.row r = some cfg ∧
      avtpDecodeNtscf frame = .ok (heartbeatHeader (cfg.streamId c.mac), []) ∧
      ∀ before op after, ops = before ++ op :: after → ∀ c', op = .check c' →
        Starts world r (fun _ => True) before op → c'.nowUs.toNat + cfg.flushTimeUs.toNat ≤ c.nowUs.toNat := by
  intro srv r answer
  cases hrow : srv.row r with
  | none =>
    have hanswer : answer = (false, none) := congrArg Prod.fst (check_outside hrow)
    rw [hanswer]
    exact ⟨⟨nofun, nofun⟩, ⟨nofun, nofun⟩, nofun⟩
  | some cfg =>
    have h := clocked world (row_ne_zero hrow) ops
    have howed : Lib.Since (Starts world r fun t => t.toNat + cfg.flushTimeUs.toNat ≤ c.nowUs.toNat)
        (Starts world r fun _ => True) ops ↔
          srv.responseQueueSeeded (r.toNat - 1) = true ∧
            (srv.responseQueueLastTransmitUs (r.toNat - 1)).toNat + cfg.flushTimeUs.toNat ≤ c.nowUs.toNat := h.last _
    simp only [Option.some.injEq, exists_eq_left', howed]
    cases hseeded : srv.responseQueueSeeded (r.toNat - 1) with
    | false =>
      have hanswer : answer = (false, none) := congrArg Prod.fst (check_first hrow hseeded)
      rw [hanswer]
      exact ⟨⟨nofun, fun h => nomatch h.2.1⟩, ⟨nofun, nofun⟩, nofun⟩
    | true =>
      rcases check_later hrow hseeded with ⟨hnot, hstep⟩ | ⟨hpassed, hstep⟩
      · have hanswer : answer = (false, none) := congrArg Prod.fst hstep
        rw [hanswer]
        exact ⟨⟨nofun, fun h => absurd ⟨h.1, h.2.2⟩ hnot⟩, ⟨nofun, nofun⟩, nofun⟩
      · have hanswer : answer = (true, heartbeat cfg c) := congrArg Prod.fst hstep
        rw [hanswer]
        refine ⟨⟨fun _ => ⟨hpassed.1, rfl, hpassed.2⟩, fun _ => rfl⟩, ?_, fun frame hframe => ⟨?_, ?_⟩⟩
        · rw [heartbeat_isSome]
          exact (and_iff_right rfl).symm
        · exact heartbeat_decodes hframe
        · intro before op after hops c' hc' hs
          have hlatest := UInt64.le_iff_toNat_le.mp (h.latest before op after hops c' hc' hs)
          exact Nat.le_trans (Nat.add_le_add_right hlatest _) hpassed.2

end HeartbeatServer
end Rcp
