import Rcp.Deadline
import Rcp.Lib.Edges
import Rcp.Lib.Keyed

/-! What a deadline monitor reports of a stream, under any interleaving of its threads: when a change is decided, what
    the two halves of a report can miss, and what a monitor that is used by one thread at a time reports. -/

namespace Rcp

/-- What is reported of the stream in place `i`. -/
def reportsOf (i : Nat) (reports : List LivenessReport) : List Bool :=
  (reports.filter (·.place = i)).map (·.alive)

theorem reportsOf_append (i : Nat) (reports more : List LivenessReport) :
    reportsOf i (reports ++ more) = reportsOf i reports ++ reportsOf i more := by
  rw [reportsOf, List.filter_append, List.map_append, reportsOf, reportsOf]

theorem reportsOf_self {i : Nat} {report : LivenessReport} (h : report.place = i) :
    reportsOf i [report] = [report.alive] := by
  simp [reportsOf, h]

theorem reportsOf_other {i : Nat} {report : LivenessReport} (h : report.place ≠ i) : reportsOf i [report] = [] := by
  simp [reportsOf, h]

/-- The times of the heartbeats of a stream. -/
def heartbeatTimes (streamId : UInt64) : List DeadlineOp → List UInt64
  | [] => []
  | .heartbeat _ streamId' nowMs :: ops =>
    if streamId' = streamId then nowMs :: heartbeatTimes streamId ops else heartbeatTimes streamId ops
  | .notifyOverflow _ _ :: ops | .check _ _ _ :: ops | .emit _ :: ops => heartbeatTimes streamId ops

namespace StreamWatch

/-- The stream after a heartbeat of `streamId`. -/
def signalled (st : StreamWatch) (streamId nowMs : UInt64) : StreamWatch :=
  { st with lastSignalMs := if streamId = st.streamId then nowMs else st.lastSignalMs }

/-- The stream in place `i` after a report. -/
def reported (st : StreamWatch) (i : Nat) (report : LivenessReport) : StreamWatch :=
  if report.place = i then { st with alive := report.alive, everReported := true } else st

/-- The stream in place `i` as a history of heartbeats and reports leaves it. -/
def after (st : StreamWatch) (i : Nat) (ops : List DeadlineOp) (reports : List LivenessReport) : StreamWatch :=
  { st with
    lastSignalMs := (heartbeatTimes st.streamId ops).getLastD st.lastSignalMs
    alive := (reportsOf i reports).getLastD st.alive
    everReported := st.everReported || !(reportsOf i reports).isEmpty }

theorem after_heartbeat (st : StreamWatch) (i thread : Nat) (streamId nowMs : UInt64) :
    st.after i [.heartbeat thread streamId nowMs] [] = st.signalled streamId nowMs := by
  have hreports : reportsOf i [] = [] := rfl
  simp only [after, signalled, heartbeatTimes, hreports, List.isEmpty_nil, Bool.not_true, Bool.or_false]
  split <;> rfl

theorem after_quiet (st : StreamWatch) (i : Nat) {ops : List DeadlineOp} (h : heartbeatTimes st.streamId ops = []) :
    st.after i ops [] = st := by
  have hreports : reportsOf i [] = [] := rfl
  simp only [after, h, hreports, List.isEmpty_nil, Bool.not_true, Bool.or_false]
  rfl

theorem after_emit (st : StreamWatch) (i thread : Nat) (report : LivenessReport) :
    st.after i [.emit thread] [report] = st.reported i report := by
  unfold reported
  split
  · rename_i hi
    simp only [after, heartbeatTimes, reportsOf_self hi, List.isEmpty_cons, Bool.not_false, Bool.or_true]
    rfl
  · rename_i hi
    simp only [after, heartbeatTimes, reportsOf_other hi, List.isEmpty_nil, Bool.not_true, Bool.or_false]
    rfl

theorem after_append (st : StreamWatch) (i : Nat) (op : DeadlineOp) (ops : List DeadlineOp)
    (reports more : List LivenessReport) :
    st.after i (op :: ops) (reports ++ more) = (st.after i [op] reports).after i ops more := by
  have htimes : heartbeatTimes st.streamId (op :: ops) =
      heartbeatTimes st.streamId [op] ++ heartbeatTimes st.streamId ops := by
    cases op <;> simp only [heartbeatTimes, List.nil_append]
    split <;> rfl
  have hempty : (reportsOf i reports ++ reportsOf i more).isEmpty =
      ((reportsOf i reports).isEmpty && (reportsOf i more).isEmpty) := by
    cases reportsOf i reports <;> rfl
  simp only [after, htimes, reportsOf_append, Lib.getLastD_append, hempty, Bool.not_and, Bool.or_assoc]

end StreamWatch

namespace DeadlineMonitor
variable {m m' : DeadlineMonitor} {i : Nat} {st : StreamWatch}

/-! ### One stream -/

/-- The stream in place `i`, the first with its id. -/
structure Watches (m : DeadlineMonitor) (i : Nat) (st : StreamWatch) : Prop where
  state : m.states[i]? = some st
  found : m.findState st.streamId = some i

theorem Watches.change {st' : StreamWatch} (h : m.Watches i st) (hlast : m'.states[i]? = some st')
    (hids : m'.states.map StreamWatch.streamId = m.states.map StreamWatch.streamId)
    (hid : st'.streamId = st.streamId) : m'.Watches i st' :=
  ⟨hlast, by rw [hid]; exact (Lib.findIdx?_congr_key hids _).trans h.found⟩

theorem findState_eq_some {j : Nat} {streamId : UInt64} (h : m.findState streamId = some j) :
    ∃ x, m.states[j]? = some x ∧ x.streamId = streamId := by
  obtain ⟨hj, hfound, -⟩ := List.findIdx?_eq_some_iff_getElem.mp h
  exact ⟨_, List.getElem?_eq_getElem hj, by simpa using hfound⟩

/-! ### What each section does to it -/

theorem heartbeat_found {j : Nat} {x : StreamWatch} {streamId : UInt64} (hfind : m.findState streamId = some j)
    (hx : m.states[j]? = some x) (thread : Nat) (nowMs : UInt64) :
    m.heartbeat thread streamId nowMs =
      { m with states := m.states.set j { x with lastSignalMs := nowMs } }.resolve thread
        (if !x.alive then some { place := j, alive := true } else none) := by
  unfold DeadlineMonitor.heartbeat
  rw [hfind]
  dsimp only
  rw [hx]

theorem Watches.heartbeat (h : m.Watches i st) (thread : Nat) (streamId nowMs : UInt64) :
    (m.heartbeat thread streamId nowMs).Watches i (st.signalled streamId nowMs) := by
  cases hfind : m.findState streamId with
  | none =>
    have hid : streamId ≠ st.streamId := by
      rintro rfl
      rw [h.found] at hfind
      cases hfind
    unfold DeadlineMonitor.heartbeat StreamWatch.signalled
    rw [hfind, if_neg hid]
    exact h
  | some j =>
    obtain ⟨x, hx, hxid⟩ := findState_eq_some hfind
    rw [heartbeat_found hfind hx]
    refine h.change ?_ (Lib.map_set_of_key hx rfl) rfl
    unfold StreamWatch.signalled
    by_cases hid : streamId = st.streamId
    · obtain rfl : i = j := Option.some.inj (h.found.symm.trans (hid ▸ hfind))
      obtain rfl := Option.some.inj (h.state.symm.trans hx)
      rw [if_pos hid]
      exact List.getElem?_set_self (List.getElem?_eq_some_iff.mp hx).1
    · have hji : j ≠ i := by
        rintro rfl
        obtain rfl := Option.some.inj (h.state.symm.trans hx)
        exact hid hxid.symm
      rw [if_neg hid]
      exact (List.getElem?_set_ne hji).trans h.state

theorem Watches.resolve (h : m.Watches i st) (thread : Nat) (report : Option LivenessReport) :
    (m.resolve thread report).Watches i st := ⟨h.state, h.found⟩

theorem Watches.notifyOverflow (h : m.Watches i st) (thread : Nat) (streamId : UInt64) :
    (m.notifyOverflow thread streamId).Watches i st := by
  unfold DeadlineMonitor.notifyOverflow
  split
  · exact h
  · split
    · exact h
    · exact h.resolve _ _

theorem Watches.check (h : m.Watches i st) (thread place : Nat) (nowMs : UInt64) :
    (m.check thread place nowMs).Watches i st := by
  unfold DeadlineMonitor.check
  split
  · exact h
  · exact h.resolve _ _

theorem Watches.emit (h : m.Watches i st) (thread : Nat) (report : LivenessReport) :
    (m.emit thread report).Watches i (st.reported i report) := by
  unfold DeadlineMonitor.emit StreamWatch.reported
  have hids := Lib.map_modify_of_key (fun st : StreamWatch => (rfl :
    ({ st with alive := report.alive, everReported := true } : StreamWatch).streamId = st.streamId)) m.states report.place
  refine h.change ?_ hids (by split <;> rfl)
  rw [List.getElem?_modify, h.state]
  simp only [Option.map_eq_map, Option.map_some]

/-! ### Runs -/

/-- Everything a section can be. -/
theorem step_cases {op : DeadlineOp} {reports : List LivenessReport} (h : m.step op = some (reports, m')) :
    (∃ thread streamId nowMs, op = .heartbeat thread streamId nowMs ∧ m.decided thread = none ∧ reports = [] ∧
      m' = m.heartbeat thread streamId nowMs) ∨
    (∃ thread streamId, op = .notifyOverflow thread streamId ∧ m.decided thread = none ∧ reports = [] ∧
      m' = m.notifyOverflow thread streamId) ∨
    (∃ thread place nowMs, op = .check thread place nowMs ∧ m.decided thread = none ∧ reports = [] ∧
      m' = m.check thread place nowMs) ∨
    ∃ thread report, op = .emit thread ∧ m.decided thread = some report ∧ reports = [report] ∧
      m' = m.emit thread report := by
  cases op with
  | heartbeat thread streamId nowMs =>
    obtain ⟨hfree, h⟩ := Option.ite_none_left_eq_some.mp h
    obtain ⟨rfl, rfl⟩ := Prod.mk.inj (Option.some.inj h)
    exact .inl ⟨thread, streamId, nowMs, rfl, by simpa using hfree, rfl, rfl⟩
  | notifyOverflow thread streamId =>
    obtain ⟨hfree, h⟩ := Option.ite_none_left_eq_some.mp h
    obtain ⟨rfl, rfl⟩ := Prod.mk.inj (Option.some.inj h)
    exact .inr (.inl ⟨thread, streamId, rfl, by simpa using hfree, rfl, rfl⟩)
  | check thread place nowMs =>
    obtain ⟨hfree, h⟩ := Option.ite_none_left_eq_some.mp h
    obtain ⟨rfl, rfl⟩ := Prod.mk.inj (Option.some.inj h)
    exact .inr (.inr (.inl ⟨thread, place, nowMs, rfl, by simpa using hfree, rfl, rfl⟩))
  | emit thread =>
    rw [step] at h
    cases hdec : m.decided thread with
    | none =>
      rw [hdec] at h
      cases h
    | some report =>
      rw [hdec] at h
      obtain ⟨rfl, rfl⟩ := Prod.mk.inj (Option.some.inj h)
      exact .inr (.inr (.inr ⟨thread, report, rfl, hdec, rfl, rfl⟩))

theorem Watches.step {op : DeadlineOp} {reports : List LivenessReport} (h : m.Watches i st)
    (hstep : m.step op = some (reports, m')) : m'.Watches i (st.after i [op] reports) := by
  rcases step_cases hstep with ⟨thread, streamId, nowMs, rfl, -, rfl, rfl⟩ | ⟨thread, streamId, rfl, -, rfl, rfl⟩ |
    ⟨thread, place, nowMs, rfl, -, rfl, rfl⟩ | ⟨thread, report, rfl, -, rfl, rfl⟩
  · rw [StreamWatch.after_heartbeat]
    exact h.heartbeat thread streamId nowMs
  · rw [StreamWatch.after_quiet st i rfl]
    exact h.notifyOverflow thread streamId
  · rw [StreamWatch.after_quiet st i rfl]
    exact h.check thread place nowMs
  · rw [StreamWatch.after_emit]
    exact h.emit thread report

theorem run_cons {op : DeadlineOp} {ops : List DeadlineOp} {reports : List LivenessReport}
    (h : m.run (op :: ops) = some (reports, m')) :
    ∃ first next rest, m.step op = some (first, next) ∧ next.run ops = some (rest, m') ∧ reports = first ++ rest := by
  obtain ⟨⟨first, next⟩, hstep, h⟩ := Option.bind_eq_some_iff.mp h
  obtain ⟨⟨rest, last⟩, hrun, h⟩ := Option.bind_eq_some_iff.mp h
  obtain ⟨rfl, rfl⟩ := Prod.mk.inj (Option.some.inj h)
  exact ⟨first, next, rest, hstep, hrun, rfl⟩

theorem Watches.run {ops : List DeadlineOp} {reports : List LivenessReport} (h : m.Watches i st)
    (hrun : m.run ops = some (reports, m')) : m'.Watches i (st.after i ops reports) := by
  induction ops generalizing m st reports with
  | nil =>
    obtain ⟨rfl, rfl⟩ := Prod.mk.inj (Option.some.inj hrun)
    rw [StreamWatch.after_quiet st i rfl]
    exact h
  | cons op ops ih =>
    obtain ⟨first, next, rest, hstep, hrest, rfl⟩ := run_cons hrun
    rw [StreamWatch.after_append]
    exact ih (h.step hstep) hrest

/-! ### What a thread decides -/

/-- A new monitor watches every stream in the place where its id comes first. -/
theorem new_watches {defaultDeadlineMs nowMs : UInt64} {streams : List DeadlineStreamCfg} {cfg : DeadlineStreamCfg}
    (hnew : new defaultDeadlineMs streams nowMs = some m)
    (hi : streams.findIdx? (·.streamId == cfg.streamId) = some i) (hcfg : streams[i]? = some cfg) :
    m.Watches i (cfg.watch defaultDeadlineMs nowMs) := by
  obtain ⟨-, hm⟩ := Option.ite_none_left_eq_some.mp hnew
  obtain rfl := Option.some.inj hm
  refine ⟨by rw [List.getElem?_map, hcfg]; rfl, ?_⟩
  rw [findState, List.findIdx?_map]
  exact hi

@[simp] theorem resolve_decided (m : DeadlineMonitor) (thread : Nat) (report : Option LivenessReport) :
    (m.resolve thread report).decided thread = report := Function.update_self _ _ _

theorem Watches.heartbeat_decided (h : m.Watches i st) (thread : Nat) (nowMs : UInt64) :
    (m.heartbeat thread st.streamId nowMs).decided thread =
      if st.alive = true then none else some { place := i, alive := true } := by
  rw [heartbeat_found h.found h.state, resolve_decided]
  cases st.alive <;> rfl

theorem Watches.notifyOverflow_decided (h : m.Watches i st) (thread : Nat) :
    (m.notifyOverflow thread st.streamId).decided thread =
      if st.everReported = true ∧ st.alive = false then none else some { place := i, alive := false } := by
  unfold DeadlineMonitor.notifyOverflow
  rw [h.found]
  dsimp only
  rw [h.state]
  dsimp only
  rw [resolve_decided]
  cases st.alive <;> cases st.everReported <;> rfl

/-- What a check counts as the time since the last heartbeat. -/
def silence (lastSignalMs nowMs : UInt64) : UInt64 := if nowMs ≥ lastSignalMs then nowMs - lastSignalMs else 0

theorem Watches.check_decided (h : m.Watches i st) (thread : Nat) (nowMs : UInt64) :
    (m.check thread i nowMs).decided thread =
      if st.everReported = true ∧ st.alive = false then none
      else if st.deadlineMs ≤ silence st.lastSignalMs nowMs then some { place := i, alive := false } else none := by
  unfold DeadlineMonitor.check
  rw [h.state]
  dsimp only
  rw [resolve_decided, ← silence]
  cases st.alive <;> cases st.everReported <;> simp

/-- The flags of a stream say what has been reported of it last. -/
theorem told_flags (told : List Bool) :
    (told.getLastD false = true ↔ told.getLast? = some true) ∧
      ((!told.isEmpty) = true ∧ told.getLastD false = false ↔ told.getLast? = some false) := by
  rcases List.eq_nil_or_concat told with rfl | ⟨rest, last, rfl⟩
  · simp
  · cases last <;> simp

/-- In every interleaving of any number of threads: `alive` is what was reported last, and whether a section decides to
    report is a matter of the history alone. A heartbeat reports a stream alive unless that was reported last, an overflow
    reports it dead unless that was, and a check does so when its last heartbeat, or the start of the monitor, is a
    deadline ago. -/
theorem decisions_follow_history {defaultDeadlineMs startMs : UInt64} {streams : List DeadlineStreamCfg}
    {start : DeadlineMonitor} {cfg : DeadlineStreamCfg} (hnew : new defaultDeadlineMs streams startMs = some start)
    (hi : streams.findIdx? (·.streamId == cfg.streamId) = some i) (hcfg : streams[i]? = some cfg)
    {ops : List DeadlineOp} {reports : List LivenessReport} (hrun : start.run ops = some (reports, m))
    (thread : Nat) (nowMs : UInt64) :
    let told := (reportsOf i reports).getLast?
    let signalled := (heartbeatTimes cfg.streamId ops).getLastD startMs
    m.alive cfg.streamId = (told == some true) ∧
      (m.heartbeat thread cfg.streamId nowMs).decided thread =
        (if told = some true then none else some { place := i, alive := true }) ∧
      (m.notifyOverflow thread cfg.streamId).decided thread =
        (if told = some false then none else some { place := i, alive := false }) ∧
      (m.check thread i nowMs).decided thread =
        (if told = some false then none
         else if (cfg.watch defaultDeadlineMs startMs).deadlineMs ≤ silence signalled nowMs then
          some { place := i, alive := false } else none) := by
  have h := (new_watches hnew hi hcfg).run hrun
  obtain ⟨htrue, hfalse⟩ := told_flags (reportsOf i reports)
  have halive : m.alive cfg.streamId = (reportsOf i reports).getLastD false := by
    unfold DeadlineMonitor.alive
    rw [show m.findState cfg.streamId = some i from h.found, Option.bind_some, h.state]
    rfl
  have hbeat := h.heartbeat_decided thread nowMs
  have hover := h.notifyOverflow_decided thread
  have hcheck := h.check_decided thread nowMs
  refine ⟨?_, ?_, ?_, ?_⟩
  · rw [halive, Bool.eq_iff_iff, beq_iff_eq]
    exact htrue
  · exact hbeat.trans (if_congr htrue rfl rfl)
  · exact hover.trans (if_congr (by rw [← hfalse]; rfl) rfl rfl)
  · exact hcheck.trans (if_congr (by rw [← hfalse]; rfl) rfl rfl)

/-- A stream that nobody has heard of for its deadline, and that is then heard of. -/
theorem decisions_follow_history_silent :
    ∃ start m, new 50 [⟨7, 20⟩] 100 = some start ∧
      start.run [.check 0 0 119, .check 0 0 120, .emit 0, .heartbeat 1 7 121] = some ([⟨0, false⟩], m) ∧
      m.alive 7 = false ∧ (m.check 0 0 200).decided 0 = none := by
  refine ⟨_, _, rfl, rfl, ?_⟩
  have hnew : new 50 [⟨7, 20⟩] 100 = some { states := [⟨7, 20, 100, false, false⟩] } := rfl
  have hrun : DeadlineMonitor.run { states := [⟨7, 20, 100, false, false⟩] }
      [.check 0 0 119, .check 0 0 120, .emit 0, .heartbeat 1 7 121] = some ([⟨0, false⟩], _) := rfl
  obtain ⟨halive, -, -, hcheck⟩ := decisions_follow_history hnew (show _ = some 0 from rfl) rfl hrun 0 200
  exact ⟨halive, hcheck⟩

/-! ### Two reports of the same -/

/-- Since `origin`, in which stream `i` has just been reported as `alive`, nothing has been reported of it, and nobody
    has decided to report the same again. -/
structure Held (origin : DeadlineMonitor) (i : Nat) (alive : Bool) (m : DeadlineMonitor) : Prop where
  flags : ∀ st, m.states[i]? = some st → st.alive = alive ∧ st.everReported = true
  decided : ∀ thread, m.decided thread = some { place := i, alive } → origin.decided thread = some { place := i, alive }

section
variable {origin : DeadlineMonitor} {alive : Bool} {thread : Nat}

theorem Held.resolve (h : Held origin i alive m) {report : Option LivenessReport}
    (hnew : report ≠ some { place := i, alive }) : Held origin i alive (m.resolve thread report) := by
  refine ⟨h.flags, fun thread' hdec => ?_⟩
  unfold DeadlineMonitor.resolve at hdec
  by_cases ht : thread' = thread
  · subst ht
    exact absurd ((Function.update_self _ _ _).symm.trans hdec) hnew
  · exact h.decided thread' ((Function.update_of_ne ht _ _).symm.trans hdec)

theorem Held.heartbeat (h : Held origin i alive m) (streamId nowMs : UInt64) :
    Held origin i alive (m.heartbeat thread streamId nowMs) := by
  cases hfind : m.findState streamId with
  | none =>
    unfold DeadlineMonitor.heartbeat
    rw [hfind]
    exact h
  | some j =>
    obtain ⟨x, hx, -⟩ := findState_eq_some hfind
    rw [heartbeat_found hfind hx]
    have hset : Held origin i alive { m with states := m.states.set j { x with lastSignalMs := nowMs } } := by
      refine ⟨fun st hst => ?_, h.decided⟩
      by_cases hji : j = i
      · subst hji
        obtain rfl := Option.some.inj ((List.getElem?_set_self (List.getElem?_eq_some_iff.mp hx).1).symm.trans hst)
        exact h.flags x hx
      · exact h.flags st ((List.getElem?_set_ne hji).symm.trans hst)
    refine hset.resolve ?_
    · split
      · rename_i hdead
        intro hreport
        obtain ⟨rfl, rfl⟩ := LivenessReport.mk.inj (Option.some.inj hreport)
        rw [(h.flags x hx).1] at hdead
        cases hdead
      · exact nofun

theorem Held.notifyOverflow (h : Held origin i alive m) (streamId : UInt64) :
    Held origin i alive (m.notifyOverflow thread streamId) := by
  unfold DeadlineMonitor.notifyOverflow
  split
  · exact h
  rename_i j hfind
  split
  · exact h
  rename_i x hx
  refine h.resolve ?_
  split
  · rename_i hlive
    intro hreport
    obtain ⟨rfl, rfl⟩ := LivenessReport.mk.inj (Option.some.inj hreport)
    obtain ⟨hdead, hever⟩ := h.flags x hx
    rw [hdead, hever] at hlive
    cases hlive
  · exact nofun

theorem Held.check (h : Held origin i alive m) (place : Nat) (nowMs : UInt64) :
    Held origin i alive (m.check thread place nowMs) := by
  unfold DeadlineMonitor.check
  split
  · exact h
  rename_i x hx
  refine h.resolve ?_
  generalize (if nowMs ≥ x.lastSignalMs then nowMs - x.lastSignalMs else 0) = elapsed
  split
  · rename_i hlive
    intro hreport
    obtain ⟨rfl, rfl⟩ := LivenessReport.mk.inj (Option.some.inj hreport)
    obtain ⟨hdead, hever⟩ := h.flags x hx
    rw [hdead, hever, Bool.not_true, Bool.or_self, Bool.and_false] at hlive
    cases hlive
  · exact nofun

theorem Held.emit (h : Held origin i alive m) {report : LivenessReport} (hplace : report.place ≠ i) :
    Held origin i alive (m.emit thread report) := by
  have hresolve : Held origin i alive (m.resolve thread none) := h.resolve nofun
  refine ⟨fun st hst => ?_, hresolve.decided⟩
  exact h.flags st ((List.getElem?_modify_ne _ _ hplace).symm.trans hst)

theorem Held.run (h : Held origin i alive m) {ops : List DeadlineOp} {reports : List LivenessReport}
    (hrun : m.run ops = some (reports, m')) (hnone : reportsOf i reports = []) : Held origin i alive m' := by
  induction ops generalizing m reports with
  | nil =>
    obtain ⟨rfl, rfl⟩ := Prod.mk.inj (Option.some.inj hrun)
    exact h
  | cons op ops ih =>
    obtain ⟨first, next, rest, hstep, hrest, rfl⟩ := run_cons hrun
    rw [reportsOf_append, List.append_eq_nil_iff] at hnone
    refine ih ?_ hrest hnone.2
    rcases step_cases hstep with ⟨thread, streamId, nowMs, rfl, -, rfl, rfl⟩ | ⟨thread, streamId, rfl, -, rfl, rfl⟩ |
      ⟨thread, place, nowMs, rfl, -, rfl, rfl⟩ | ⟨thread, report, rfl, -, rfl, rfl⟩
    · exact h.heartbeat streamId nowMs
    · exact h.notifyOverflow streamId
    · exact h.check place nowMs
    · refine h.emit fun hplace => ?_
      rw [reportsOf_self hplace] at hnone
      cases hnone.1

end

/-- Two reports in a row of a stream say the same only if both threads had decided before the first of them was made. -/
theorem repeated_report_races {alive : Bool} {thread thread' : Nat} {m₁ m₂ m₃ : DeadlineMonitor} {ops : List DeadlineOp}
    {reports : List LivenessReport} (hfirst : m.step (.emit thread) = some ([{ place := i, alive }], m₁))
    (hrun : m₁.run ops = some (reports, m₂)) (hnone : reportsOf i reports = [])
    (hagain : m₂.step (.emit thread') = some ([{ place := i, alive }], m₃)) :
    thread' ≠ thread ∧ m.decided thread = some { place := i, alive } ∧
      m.decided thread' = some { place := i, alive } := by
  have hemit : ∀ {m m' : DeadlineMonitor} {thread : Nat}, m.step (.emit thread) = some ([{ place := i, alive }], m') →
      m.decided thread = some { place := i, alive } ∧ m' = m.emit thread { place := i, alive } := by
    intro m m' thread hstep
    rcases step_cases hstep with ⟨_, _, _, h, -⟩ | ⟨_, _, h, -⟩ | ⟨_, _, _, h, -⟩ | ⟨thread', report, h, hdec, hreport, hm⟩
    · cases h
    · cases h
    · cases h
    · obtain rfl := DeadlineOp.emit.inj h
      obtain rfl := List.singleton_inj.mp hreport
      exact ⟨hdec, hm⟩
  obtain ⟨hdec, rfl⟩ := hemit hfirst
  obtain ⟨hdec', -⟩ := hemit hagain
  have hheld : Held (m.emit thread { place := i, alive }) i alive (m.emit thread { place := i, alive }) := by
    refine ⟨fun st hst => ?_, fun _ h => h⟩
    obtain ⟨x, -, rfl⟩ := Option.map_eq_some_iff.mp ((List.getElem?_modify_eq _ _ _).symm.trans hst)
    exact ⟨rfl, rfl⟩
  have hold := (hheld.run hrun hnone).decided thread' hdec'
  have hother : thread' ≠ thread := by
    rintro rfl
    have hfree : (m.emit thread' { place := i, alive }).decided thread' = none := resolve_decided m thread' none
    rw [hfree] at hold
    cases hold
  refine ⟨hother, hdec, ?_⟩
  rw [← hold]
  exact (Function.update_of_ne hother _ _).symm

/-- Two heartbeats that overlap report the stream alive twice. -/
theorem repeated_report_races_heartbeats :
    ∃ start m m₁ m₂, new 50 [⟨7, 20⟩] 100 = some start ∧
      start.run [.heartbeat 0 7 101, .heartbeat 1 7 102] = some ([], m) ∧
      m.step (.emit 0) = some ([⟨0, true⟩], m₁) ∧ m₁.step (.emit 1) = some ([⟨0, true⟩], m₂) ∧
      m.decided 0 = some ⟨0, true⟩ ∧ m.decided 1 = some ⟨0, true⟩ := by
  refine ⟨_, _, _, _, rfl, rfl, rfl, rfl, ?_⟩
  exact (repeated_report_races (i := 0) rfl (show DeadlineMonitor.run _ [] = some ([], _) from rfl) rfl rfl).2

end DeadlineMonitor
end Rcp
