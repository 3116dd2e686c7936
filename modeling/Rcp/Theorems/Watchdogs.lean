import Rcp.Lib.Edges
import Rcp.Lib.Keyed
import Rcp.Watchdog

/-! What the subscribers of a watchdog keeper hear of a stream, and what that says about its kicks. -/

namespace Rcp

/-! ### What a run says about one stream -/

section
variable {κ : Type}

/-- The times at which a stream is kicked. -/
def kickTimes (streamId : UInt64) : List (WatchdogOp κ) → List UInt64
  | [] => []
  | .kick streamId' nowMs :: ops => if streamId' = streamId then nowMs :: kickTimes streamId ops else kickTimes streamId ops
  | .evaluate _ _ :: ops | .subscribe _ :: ops => kickTimes streamId ops

/-- The verdicts on the stream in place `i`, each from the kick before it. -/
def verdicts (cfg : WatchdogStreamCfg) (i : Nat) : UInt64 → List (WatchdogOp κ) → List WdResult
  | _, [] => []
  | kicked, .evaluate j nowMs :: ops =>
    if j = i then cfg.verdict kicked nowMs :: verdicts cfg i kicked ops else verdicts cfg i kicked ops
  | kicked, .kick streamId nowMs :: ops => verdicts cfg i (if streamId = cfg.streamId then nowMs else kicked) ops
  | kicked, .subscribe _ :: ops => verdicts cfg i kicked ops

theorem verdicts_evaluations (cfg : WatchdogStreamCfg) (i : Nat) (kicked nowMs : UInt64) (places : List Nat) :
    verdicts cfg i kicked (places.map fun j => (.evaluate j nowMs : WatchdogOp κ)) =
      List.replicate (places.count i) (cfg.verdict kicked nowMs) := by
  induction places with
  | nil => rfl
  | cons j places ih =>
    rw [List.map_cons, verdicts, ih]
    split
    · rename_i hj
      rw [hj, List.count_cons_self, List.replicate_succ]
    · rename_i hj
      rw [List.count_cons_of_ne hj]

/-- What a subscriber is told about a stream. -/
def told [DecidableEq κ] (cb : κ) (streamId : UInt64) (calls : List (κ × WatchdogEvent)) : List WdResult :=
  (calls.filter fun c => c.1 = cb ∧ c.2.streamId = streamId).map (·.2.result)

variable [DecidableEq κ] {cb : κ} {streamId : UInt64}

theorem told_append (calls more : List (κ × WatchdogEvent)) :
    told cb streamId (calls ++ more) = told cb streamId calls ++ told cb streamId more := by
  rw [told, List.filter_append, List.map_append, told, told]

/-- A subscriber that is registered once is told once. -/
theorem told_calls {callbacks : List κ} (honce : callbacks.filter (· = cb) = [cb]) (ev : WatchdogEvent) :
    told cb streamId (callbacks.map fun cb => (cb, ev)) = if ev.streamId = streamId then [ev.result] else [] := by
  unfold told
  rw [List.filter_map]
  by_cases hid : ev.streamId = streamId
  · have hpred : ((fun c : κ × WatchdogEvent => decide (c.1 = cb ∧ c.2.streamId = streamId)) ∘ fun cb => (cb, ev)) =
        fun x => decide (x = cb) := by
      funext x
      simp [hid]
    rw [hpred, honce, if_pos hid]
    rfl
  · have hpred : ((fun c : κ × WatchdogEvent => decide (c.1 = cb ∧ c.2.streamId = streamId)) ∘ fun cb => (cb, ev)) =
        fun _ => false := by
      funext x
      simp [hid]
    rw [hpred, List.filter_false, if_neg hid]
    rfl

end

namespace WatchdogKeeper
variable {κ : Type} {k k' : WatchdogKeeper κ} {i : Nat} {st st' : WatchdogState}

/-! ### One step -/

/-- The stream in place `i`, the only one with its id. -/
structure Watches (k : WatchdogKeeper κ) (i : Nat) (st : WatchdogState) : Prop where
  state : k.states[i]? = some st
  alone : ∀ j st', k.states[j]? = some st' → st'.cfg.streamId = st.cfg.streamId → j = i

theorem Watches.findState (h : k.Watches i st) : k.findState st.cfg.streamId = some i := by
  obtain ⟨hi, hget⟩ := List.getElem?_eq_some_iff.mp h.state
  refine List.findIdx?_eq_some_iff_getElem.mpr ⟨hi, by simp [hget], fun j hj => ?_⟩
  have hj' : j < k.states.length := Nat.lt_trans hj hi
  have hne : k.states[j].cfg.streamId ≠ st.cfg.streamId := fun hid =>
    absurd (h.alone j _ (List.getElem?_eq_getElem hj') hid) (Nat.ne_of_lt hj)
  simpa using hne

theorem Watches.status (h : k.Watches i st) : k.status st.cfg.streamId = st.lastResult := by
  unfold WatchdogKeeper.status
  rw [h.findState, Option.bind_some, h.state]

/-- A change that keeps the configuration of every stream keeps the one in place `i` alone. -/
theorem Watches.change (h : k.Watches i st) (hlast : k'.states[i]? = some st')
    (hcfg : k'.states.map WatchdogState.cfg = k.states.map WatchdogState.cfg) : k'.Watches i st' := by
  have hget : ∀ j : Nat, (k'.states[j]?).map WatchdogState.cfg = (k.states[j]?).map WatchdogState.cfg := by
    intro j
    rw [← List.getElem?_map, ← List.getElem?_map, hcfg]
  have hsame : st'.cfg = st.cfg := by
    have hi := hget i
    rw [hlast, h.state] at hi
    exact Option.some.inj hi
  refine ⟨hlast, fun j x hx hid => ?_⟩
  have hj := hget j
  rw [hx] at hj
  obtain ⟨y, hy, hcfg'⟩ := Option.map_eq_some_iff.mp hj.symm
  exact h.alone j y hy (by rw [hcfg', hid, hsame])

theorem evaluateStream_cases (k : WatchdogKeeper κ) (j : Nat) (nowMs : UInt64) :
    k.states[j]? = none ∧ k.evaluateStream j nowMs = ([], k) ∨
    ∃ x, k.states[j]? = some x ∧
      (x.cfg.verdict x.lastKickMs nowMs = x.lastResult ∧ k.evaluateStream j nowMs = ([], k) ∨
       x.cfg.verdict x.lastKickMs nowMs ≠ x.lastResult ∧
        k.evaluateStream j nowMs =
          (k.callbacks.map fun cb => (cb, ⟨x.cfg.streamId, x.cfg.verdict x.lastKickMs nowMs⟩),
            { k with states := k.states.set j { x with lastResult := x.cfg.verdict x.lastKickMs nowMs } })) := by
  unfold evaluateStream
  cases hx : k.states[j]? with
  | none => exact .inl ⟨rfl, rfl⟩
  | some x =>
    refine .inr ⟨x, rfl, ?_⟩
    dsimp only
    by_cases hsame : x.cfg.verdict x.lastKickMs nowMs = x.lastResult
    · exact .inl ⟨hsame, if_pos hsame⟩
    · exact .inr ⟨hsame, if_neg hsame⟩

/-- An evaluation brings the verdict of its stream up to date and leaves the others. -/
theorem Watches.evaluate (h : k.Watches i st) (j : Nat) (nowMs : UInt64) :
    (k.evaluateStream j nowMs).2.Watches i
      (if j = i then { st with lastResult := st.cfg.verdict st.lastKickMs nowMs } else st) := by
  rcases evaluateStream_cases k j nowMs with ⟨hnone, heval⟩ | ⟨x, hx, ⟨hsame, heval⟩ | ⟨-, heval⟩⟩
  · have hne : j ≠ i := by
      rintro rfl
      rw [h.state] at hnone
      cases hnone
    rw [heval, if_neg hne]
    exact h
  · rw [heval]
    split
    · rename_i hj
      obtain rfl := Option.some.inj (h.state.symm.trans (hj ▸ hx))
      rw [hsame]
      exact h
    · exact h
  · rw [heval]
    refine h.change ?_ (Lib.map_set_of_key hx rfl)
    split
    · rename_i hj
      subst hj
      obtain rfl := Option.some.inj (h.state.symm.trans hx)
      exact List.getElem?_set_self (List.getElem?_eq_some_iff.mp hx).1
    · rename_i hj
      rw [List.getElem?_set_ne hj]
      exact h.state

/-- A subscriber is told of an evaluation that changes the verdict on its stream. -/
theorem Watches.evaluate_told [DecidableEq κ] {cb : κ} (h : k.Watches i st)
    (honce : k.callbacks.filter (· = cb) = [cb]) (j : Nat) (nowMs : UInt64) :
    told cb st.cfg.streamId (k.evaluateStream j nowMs).1 =
      if j = i then Lib.edges st.lastResult [st.cfg.verdict st.lastKickMs nowMs] else [] := by
  rcases evaluateStream_cases k j nowMs with ⟨hnone, heval⟩ | ⟨x, hx, ⟨hsame, heval⟩ | ⟨hdiff, heval⟩⟩
  · have hne : j ≠ i := by
      rintro rfl
      rw [h.state] at hnone
      cases hnone
    rw [heval, if_neg hne]
    rfl
  · rw [heval]
    split
    · rename_i hj
      obtain rfl := Option.some.inj (h.state.symm.trans (hj ▸ hx))
      rw [Lib.edges, if_pos hsame]
      rfl
    · rfl
  · rw [heval, told_calls honce]
    split
    · rename_i hid
      obtain rfl := h.alone j x hx hid
      obtain rfl := Option.some.inj (h.state.symm.trans hx)
      rw [if_pos rfl, Lib.edges, if_neg hdiff]
      rfl
    · rename_i hid
      rw [if_neg]
      rintro rfl
      obtain rfl := Option.some.inj (h.state.symm.trans hx)
      exact hid rfl

/-- A kick is one of the stream with its id. -/
theorem Watches.kick (h : k.Watches i st) (streamId nowMs : UInt64) :
    (k.kick streamId nowMs).2.Watches i
      { st with lastKickMs := if streamId = st.cfg.streamId then nowMs else st.lastKickMs } := by
  unfold WatchdogKeeper.kick
  cases hfind : k.findState streamId with
  | none =>
    have hid : streamId ≠ st.cfg.streamId := by
      rintro rfl
      rw [h.findState] at hfind
      cases hfind
    rw [if_neg hid]
    exact h
  | some j =>
    have hcfgs := Lib.map_modify_of_key (fun st : WatchdogState => (rfl :
      ({ st with lastKickMs := nowMs } : WatchdogState).cfg = st.cfg)) k.states j
    refine h.change ?_ hcfgs
    rw [List.getElem?_modify, h.state]
    simp only [Option.map_eq_map, Option.map_some]
    by_cases hid : streamId = st.cfg.streamId
    · obtain rfl : i = j := Option.some.inj (h.findState.symm.trans (hid ▸ hfind))
      rw [if_pos hid, if_pos rfl]
    · have hji : j ≠ i := by
        rintro rfl
        obtain ⟨hj, hfound, -⟩ := List.findIdx?_eq_some_iff_getElem.mp hfind
        obtain ⟨hj', hget⟩ := List.getElem?_eq_some_iff.mp h.state
        rw [hget] at hfound
        exact hid (by simpa using Eq.symm (by simpa using hfound))
      rw [if_neg hid, if_neg hji]

theorem Watches.subscribe (h : k.Watches i st) (cb : κ) : (k.subscribe cb).2.Watches i st := by
  unfold WatchdogKeeper.subscribe
  split
  · exact h
  · exact ⟨h.state, h.alone⟩

/-! ### A run -/

/-- The stream in place `i` after a run. -/
def watched (i : Nat) (st : WatchdogState) (ops : List (WatchdogOp κ)) : WatchdogState :=
  { st with
    lastKickMs := (kickTimes st.cfg.streamId ops).getLastD st.lastKickMs
    lastResult := (verdicts st.cfg i st.lastKickMs ops).getLastD st.lastResult }

theorem watched_cons (i : Nat) (st : WatchdogState) (op : WatchdogOp κ) (ops : List (WatchdogOp κ)) :
    watched i st (op :: ops) = watched i (watched i st [op]) ops := by
  cases op with
  | evaluate j nowMs =>
    simp only [watched, kickTimes, verdicts]
    split
    · simp only [List.getLastD_cons]
      rfl
    · rfl
  | kick streamId nowMs =>
    simp only [watched, kickTimes, verdicts]
    split
    · simp only [List.getLastD_cons]
      rfl
    · rfl
  | subscribe cb => rfl

theorem Watches.step (h : k.Watches i st) (op : WatchdogOp κ) : (k.step op).2.Watches i (watched i st [op]) := by
  cases op with
  | evaluate j nowMs =>
    have heval := h.evaluate j nowMs
    simp only [watched, kickTimes, verdicts]
    split at heval
    · rename_i hj
      rw [if_pos hj]
      exact heval
    · rename_i hj
      rw [if_neg hj]
      exact heval
  | kick streamId nowMs =>
    have hkick := h.kick streamId nowMs
    simp only [watched, kickTimes, verdicts]
    split at hkick
    · rename_i hid
      rw [if_pos hid]
      exact hkick
    · rename_i hid
      rw [if_neg hid]
      exact hkick
  | subscribe cb => exact h.subscribe cb

theorem run_cons (k : WatchdogKeeper κ) (op : WatchdogOp κ) (ops : List (WatchdogOp κ)) :
    k.run (op :: ops) = ((k.step op).1 ++ ((k.step op).2.run ops).1, ((k.step op).2.run ops).2) := rfl

theorem run_append (k : WatchdogKeeper κ) (ops more : List (WatchdogOp κ)) :
    (k.run (ops ++ more)).2 = ((k.run ops).2.run more).2 := by
  induction ops generalizing k with
  | nil => rfl
  | cons op ops ih => exact ih _

theorem Watches.run (h : k.Watches i st) (ops : List (WatchdogOp κ)) :
    (k.run ops).2.Watches i (watched i st ops) := by
  induction ops generalizing k st with
  | nil => exact h
  | cons op ops ih =>
    rw [watched_cons]
    exact ih (h.step op)

theorem Watches.run_told [DecidableEq κ] {cb : κ} (h : k.Watches i st) (honce : k.callbacks.filter (· = cb) = [cb])
    (ops : List (WatchdogOp κ)) (hother : .subscribe cb ∉ ops) :
    told cb st.cfg.streamId (k.run ops).1 = Lib.edges st.lastResult (verdicts st.cfg i st.lastKickMs ops) := by
  induction ops generalizing k st with
  | nil => rfl
  | cons op ops ih =>
    obtain ⟨hop, hops⟩ := List.ne_and_not_mem_of_not_mem_cons hother
    rw [run_cons, told_append]
    cases op with
    | evaluate j nowMs =>
      have hkeeps : (k.evaluateStream j nowMs).2.callbacks = k.callbacks := by
        rcases evaluateStream_cases k j nowMs with ⟨-, heval⟩ | ⟨x, -, ⟨-, heval⟩ | ⟨-, heval⟩⟩ <;> rw [heval]
      have hnow := h.evaluate_told honce j nowMs
      have hrest := ih (h.evaluate j nowMs) (by rw [hkeeps, honce]) hops
      unfold verdicts
      split
      · rename_i hj
        rw [if_pos hj] at hnow hrest
        rw [WatchdogKeeper.step, hnow]
        refine (congrArg _ hrest).trans ?_
        exact (Lib.edges_append st.lastResult [_] _).symm
      · rename_i hj
        rw [if_neg hj] at hnow hrest
        rw [WatchdogKeeper.step, hnow]
        exact hrest
    | kick streamId nowMs =>
      have hkeeps : (k.kick streamId nowMs).2.callbacks = k.callbacks := by
        unfold WatchdogKeeper.kick
        split <;> rfl
      exact ih (h.kick streamId nowMs) (by rw [hkeeps, honce]) hops
    | subscribe other =>
      have hne : other ≠ cb := fun h => hop (h ▸ rfl)
      have hkeeps : (k.subscribe other).2.callbacks.filter (· = cb) = [cb] := by
        unfold WatchdogKeeper.subscribe
        split
        · exact honce
        · simp [honce, hne]
      exact ih (h.subscribe other) hkeeps hops

/-! ### A keeper from its beginning -/

theorem evaluateAll_eq_run (k : WatchdogKeeper κ) (nowMs : UInt64) :
    (k.evaluateAll nowMs).2 = (k.run ((List.range k.states.length).map fun j => .evaluate j nowMs)).2 := by
  unfold evaluateAll
  generalize List.range k.states.length = places
  generalize ([] : List (κ × WatchdogEvent)) = calls
  induction places generalizing k calls with
  | nil => rfl
  | cons j places ih => exact ih _ _

/-- A new keeper has evaluated each of its streams once. -/
theorem new_watches {streams : List WatchdogStreamCfg} {nowMs : UInt64} {cfg : WatchdogStreamCfg}
    (hnew : new streams nowMs = some k) (hi : streams[i]? = some cfg)
    (halone : ∀ j c, streams[j]? = some c → c.streamId = cfg.streamId → j = i) :
    k.Watches i { cfg, lastKickMs := nowMs, lastResult := cfg.verdict nowMs nowMs } := by
  obtain ⟨-, hk⟩ := Option.ite_none_left_eq_some.mp hnew
  obtain rfl := Option.some.inj hk
  have hstart : Watches (κ := κ)
      { states := streams.map fun cfg => { cfg, lastKickMs := nowMs, lastResult := .zero } } i
      { cfg, lastKickMs := nowMs, lastResult := .zero } := by
    refine ⟨by rw [List.getElem?_map, hi]; rfl, fun j st hj hid => ?_⟩
    rw [List.getElem?_map] at hj
    obtain ⟨c, hc, rfl⟩ := Option.map_eq_some_iff.mp hj
    exact halone j c hc hid
  have hlen : i < streams.length := (List.getElem?_eq_some_iff.mp hi).1
  have hcount : (List.range streams.length).count i = 1 :=
    List.count_eq_one_of_mem List.nodup_range (List.mem_range.mpr hlen)
  have hrun := hstart.run ((List.range streams.length).map fun j => .evaluate j nowMs)
  rw [evaluateAll_eq_run, List.length_map]
  unfold watched at hrun
  rw [verdicts_evaluations, hcount] at hrun
  have hkicks : ∀ places : List Nat, kickTimes cfg.streamId
      (places.map fun j => (.evaluate j nowMs : WatchdogOp κ)) = [] := by
    intro places
    induction places with
    | nil => rfl
    | cons j places ih => exact ih
  rw [hkicks] at hrun
  exact hrun

/-- In every run of a keeper, with kicks between the evaluations of a cycle and at any times: the status of a stream is
    the verdict of its last evaluation, from the last kick before it, and a subscriber hears of a stream exactly the
    changes of its verdict since it subscribed. -/
theorem subscriber_hears_changes [DecidableEq κ] {streams : List WatchdogStreamCfg} {startMs : UInt64}
    {start : WatchdogKeeper κ} (hnew : new streams startMs = some start) {cfg : WatchdogStreamCfg}
    (hi : streams[i]? = some cfg) (halone : ∀ j c, streams[j]? = some c → c.streamId = cfg.streamId → j = i)
    (before after : List (WatchdogOp κ)) (cb : κ)
    (honce : (start.run before).2.callbacks.filter (· = cb) = [cb]) (hafter : .subscribe cb ∉ after) :
    (start.run before).2.status cfg.streamId =
        (verdicts cfg i startMs before).getLastD (cfg.verdict startMs startMs) ∧
      told cb cfg.streamId ((start.run before).2.run after).1 =
        Lib.edges ((start.run before).2.status cfg.streamId)
          (verdicts cfg i ((kickTimes cfg.streamId before).getLastD startMs) after) := by
  have hbefore := (new_watches hnew hi halone).run before
  have hstatus : (start.run before).2.status cfg.streamId =
      (verdicts cfg i startMs before).getLastD (cfg.verdict startMs startMs) := hbefore.status
  refine ⟨hstatus, ?_⟩
  rw [hstatus]
  exact hbefore.run_told honce after hafter

/-- A watched stream that is evaluated late, kicked, and evaluated again. -/
def lateStream : WatchdogStreamCfg :=
  { streamId := 7, rxWdEnable := true, rxWdTimeoutMs := 5, rxWdSafestateEnable := true, rxWdInfoEnable := false }

theorem subscriber_hears_changes_late :
    ∃ start : WatchdogKeeper Nat, new [lateStream] 10 = some start ∧
      told 1 7 ((start.run [.subscribe 1]).2.run [.evaluate 0 12, .evaluate 0 15, .evaluate 0 16, .kick 7 17,
          .evaluate 0 16]).1 = [⟨true, true, false⟩, ⟨false, false, false⟩] := by
  refine ⟨_, rfl, ?_⟩
  obtain ⟨-, htold⟩ := subscriber_hears_changes (κ := Nat) (i := 0) (show new [lateStream] 10 = _ from rfl) rfl
    (by intro j c hj _; exact Nat.lt_one_iff.mp (List.getElem?_eq_some_iff.mp hj).1) [.subscribe 1]
    [.evaluate 0 12, .evaluate 0 15, .evaluate 0 16, .kick 7 17, .evaluate 0 16] 1 (by decide) (by decide)
  exact htold.trans (by decide)

/-! ### Streams that are kicked in time -/

theorem getLastD_max {times : List UInt64} {t : UInt64} (hsorted : (t :: times).Pairwise (· ≤ ·)) :
    ∀ t' ∈ t :: times, t' ≤ times.getLastD t := by
  induction times generalizing t with
  | nil =>
    intro t' ht'
    rw [List.mem_singleton.mp ht']
    exact UInt64.le_refl t
  | cons u times ih =>
    obtain ⟨hfirst, hrest⟩ := List.pairwise_cons.mp hsorted
    intro t' ht'
    rw [List.getLastD_cons]
    rcases List.mem_cons.mp ht' with rfl | ht'
    · exact UInt64.le_trans (hfirst u List.mem_cons_self) (ih hrest u List.mem_cons_self)
    · exact ih hrest t' ht'

/-- While the clock does not run backwards, an evaluation finds a stream overdue exactly when its watchdog is enabled and
    neither a kick nor the start of the keeper lies within the timeout. -/
theorem overflowed_iff_no_kick {streams : List WatchdogStreamCfg} {startMs : UInt64} {start : WatchdogKeeper κ}
    (hnew : new streams startMs = some start) {cfg : WatchdogStreamCfg} (hi : streams[i]? = some cfg)
    (halone : ∀ j c, streams[j]? = some c → c.streamId = cfg.streamId → j = i) (ops : List (WatchdogOp κ))
    (nowMs : UInt64) (hclock : (startMs :: kickTimes cfg.streamId ops).Pairwise (· ≤ ·))
    (hnow : ∀ t ∈ startMs :: kickTimes cfg.streamId ops, t ≤ nowMs) :
    ((start.run (ops ++ [.evaluate i nowMs])).2.status cfg.streamId).overflowed = true ↔
      cfg.rxWdEnable = true ∧
        ∀ t ∈ startMs :: kickTimes cfg.streamId ops, cfg.rxWdTimeoutMs.toUInt64 ≤ nowMs - t := by
  have hlast := ((new_watches hnew hi halone).run ops).evaluate i nowMs
  rw [if_pos rfl] at hlast
  have hrun : (start.run (ops ++ [.evaluate i nowMs])).2 = ((start.run ops).2.evaluateStream i nowMs).2 := by
    rw [run_append]
    rfl
  have hstatus : (start.run (ops ++ [.evaluate i nowMs])).2.status cfg.streamId =
      cfg.verdict ((kickTimes cfg.streamId ops).getLastD startMs) nowMs := by
    rw [hrun]
    exact hlast.status
  have hmem : (kickTimes cfg.streamId ops).getLastD startMs ∈ startMs :: kickTimes cfg.streamId ops :=
    List.getLastD_mem_cons
  have hmax := getLastD_max hclock
  rw [hstatus]
  generalize (kickTimes cfg.streamId ops).getLastD startMs = kicked at hmem hmax
  unfold WatchdogStreamCfg.verdict e2eWdEvaluate
  rw [if_pos (hnow kicked hmem)]
  simp only [Bool.and_eq_true, decide_eq_true_eq]
  refine and_congr_right fun _ => ⟨fun hover t ht => ?_, fun h => h kicked hmem⟩
  have hkicked : nowMs - kicked ≤ nowMs - t := by
    have hle := UInt64.le_iff_toNat_le.mp (hmax t ht)
    rw [UInt64.le_iff_toNat_le, UInt64.toNat_sub_of_le _ _ (hnow kicked hmem), UInt64.toNat_sub_of_le _ _ (hnow t ht)]
    omega
  exact UInt64.le_trans hover hkicked

theorem overflowed_iff_no_kick_late :
    ∃ start : WatchdogKeeper Nat, new [lateStream] 10 = some start ∧
      (((start.run ([.kick 7 12] ++ [.evaluate 0 16])).2.status 7).overflowed = true ↔
        true = true ∧ ∀ t ∈ [10, 12], (5 : UInt64) ≤ 16 - t) :=
  ⟨_, rfl, overflowed_iff_no_kick (κ := Nat) (i := 0) (show new [lateStream] 10 = _ from rfl) (show _ = some lateStream from rfl)
    (by intro j c hj _; exact Nat.lt_one_iff.mp (List.getElem?_eq_some_iff.mp hj).1) [.kick 7 12] 16 (by decide)
    (List.forall_mem_cons.mpr ⟨by decide, List.forall_mem_cons.mpr ⟨by decide, nofun⟩⟩)⟩

end WatchdogKeeper
end Rcp
