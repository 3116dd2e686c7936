import Rcp.PowerState
import Rcp.Lib.History

/-! Hot starts. The handshake of an endpoint outlives the wake-up that used it, so what a wake-up finds complete may be
    the handshake of an earlier sleep. It is the one of this sleep where it was begun since the endpoint fell asleep. -/

namespace Rcp
namespace PowerStateManager

/-! ### One entry -/

/-- What an operation does to the entry of its endpoint. -/
def onEntry (busId : ByteBusId) (op : PowerOp) (e : PowerEntry) : PowerEntry :=
  match op with
  | .encodeEntryRequest targetMode transactionNum =>
    if targetMode ≠ .sleep ∨ (wakeupEncodeSleepcmdRequest busId transactionNum).isNone then e
    else { e with requestPending := true, pendingTarget := targetMode, pendingTxn := transactionNum }
  | .applyEntryResponse b =>
    match wakeupDecodeSleepcmdResponse b busId with
    | .error _ => e
    | .ok (result, txn) =>
      if !e.requestPending || e.pendingTxn != txn then e
      else if result = .refused then { e with requestPending := false }
      else
        match pwrmodeTransition e.mode e.pendingTarget with
        | .error _ => { e with requestPending := false }
        | .ok (mode, _) => { e with mode, requestPending := false }
  | .handshakeBegin wakeupRepeatLimit networkAvailable respStreamId =>
    { e with
      handshake := ((Handshake.init wakeupRepeatLimit).ifaceReenabled networkAvailable).2
      respStreamId
      hasRespStreamId := true }
  | .applyWakeupEcho b sentTransactionNum =>
    { e with handshake := (e.handshake.wakeupAttempt (wakeupIsWakeupEcho b busId sentTransactionNum)).2 }
  | .handshakeResumeQueues => { e with handshake := e.handshake.resumeQueues.2 }
  | .wakeViaPin | .wakeViaNetwork => if e.mode = .sleep then { e with mode := .normal } else e

variable {m m₀ : PowerStateManager} {a addr : AvtpAddr} {e : PowerEntry} {op : PowerOp} {c : PowerCall}
  {calls : List PowerCall}

/-- The operations that drive the handshake of an entry. -/
def DrivesHandshake : PowerOp → Prop
  | .handshakeBegin .. | .applyWakeupEcho .. | .handshakeResumeQueues => True
  | _ => False

/-- The other operations change the mode of an entry and its pending request, and nothing else. -/
theorem onEntry_other {busId : ByteBusId} (h : ¬DrivesHandshake op) :
    ∃ mode requestPending pendingTarget pendingTxn,
      onEntry busId op e = { e with mode, requestPending, pendingTarget, pendingTxn } := by
  cases op with
  | encodeEntryRequest =>
    simp only [onEntry]
    split
    · exact ⟨_, _, _, _, rfl⟩
    · exact ⟨_, _, _, _, rfl⟩
  | applyEntryResponse b =>
    simp only [onEntry]
    split
    · exact ⟨_, _, _, _, rfl⟩
    split
    · exact ⟨_, _, _, _, rfl⟩
    split
    · exact ⟨_, _, _, _, rfl⟩
    split <;> exact ⟨_, _, _, _, rfl⟩
  | handshakeBegin => exact absurd trivial h
  | applyWakeupEcho => exact absurd trivial h
  | handshakeResumeQueues => exact absurd trivial h
  | wakeViaPin =>
    simp only [onEntry]
    split <;> exact ⟨_, _, _, _, rfl⟩
  | wakeViaNetwork =>
    simp only [onEntry]
    split <;> exact ⟨_, _, _, _, rfl⟩

theorem onEntry_handshake {busId : ByteBusId} (h : ¬DrivesHandshake op) :
    (onEntry busId op e).handshake = e.handshake := by
  obtain ⟨_, _, _, _, heq⟩ := @onEntry_other e op busId h
  rw [heq]

theorem onEntry_addr (busId : ByteBusId) (op : PowerOp) (e : PowerEntry) : (onEntry busId op e).addr = e.addr := by
  by_cases h : DrivesHandshake op
  · cases op with
    | handshakeBegin => rfl
    | applyWakeupEcho => rfl
    | handshakeResumeQueues => rfl
    | _ => exact h.elim
  · obtain ⟨_, _, _, _, heq⟩ := @onEntry_other e op busId h
    rw [heq]

/-! ### The table -/

theorem find?_setFirst {e' : PowerEntry} (he' : e'.addr = addr) (es : List PowerEntry) :
    (setFirst addr e' es).find? (fun e => e.addr == a) =
      if a = addr then (es.find? fun e => e.addr == a).map fun _ => e' else es.find? fun e => e.addr == a := by
  induction es with
  | nil => simp [setFirst]
  | cons e es ih =>
    rw [setFirst]
    by_cases he : e.addr = addr
    · rw [if_pos he]
      by_cases ha : a = addr
      · subst ha
        simp [he, he']
      · simp [he, he', ha, Ne.symm ha]
    · rw [if_neg he, List.find?_cons, List.find?_cons, ih]
      by_cases hea : e.addr = a
      · have ha : a ≠ addr := fun h => he (hea.trans h)
        simp [hea, ha]
      · have hbeq : (e.addr == a) = false := by simpa using hea
        simp only [hbeq]

theorem findEntry_addr (h : m.findEntry a = some e) : e.addr = a := by
  simpa using List.find?_some h

/-- A function that works on one entry changes that of its address only. -/
theorem findEntry_withEntry {α : Type} {absent : α} {f : PowerEntry → α × PowerEntry}
    (hf : ∀ e, (f e).2.addr = e.addr) :
    (m.withEntry addr absent f).2.findEntry a =
      if a = addr then (m.findEntry a).map fun e => (f e).2 else m.findEntry a := by
  unfold withEntry
  cases hfind : m.findEntry addr with
  | none =>
    by_cases ha : a = addr
    · subst ha
      simp [hfind]
    · simp [ha]
  | some e =>
    have haddr := findEntry_addr hfind
    simp only [findEntry]
    rw [find?_setFirst ((hf e).trans haddr)]
    by_cases ha : a = addr
    · subst ha
      rw [if_pos rfl, if_pos rfl]
      unfold findEntry at hfind
      rw [hfind]
      rfl
    · rw [if_neg ha, if_neg ha]

/-- A wake-up ends a sleep whatever the path, and the start is hot after a complete handshake. -/
theorem wakeFromSleep_eq (mode : PwrMode) (path : WakePath) (hs : Handshake) :
    pwrmodeWakeFromSleep mode path (some hs) =
      if mode = .sleep then .ok (.normal, if hs.isComplete then .hot else .cold) else .error .invalidTransition := by
  by_cases hsleep : mode = .sleep
  · cases hc : hs.isComplete <;> simp [pwrmodeWakeFromSleep, pwrmodeHotstartRequired, hsleep, hc]
  · simp [pwrmodeWakeFromSleep, hsleep]

theorem findEntry_wakeVia (path : WakePath) (m : PowerStateManager) (addr a : AvtpAddr) :
    (wakeVia path m addr).2.findEntry a =
      if a = addr then (m.findEntry a).map fun e => if e.mode = .sleep then { e with mode := .normal } else e
      else m.findEntry a := by
  unfold wakeVia
  simp only [wakeFromSleep_eq]
  rw [findEntry_withEntry]
  · by_cases ha : a = addr
    · rw [if_pos ha, if_pos ha]
      congr 1
      funext e
      by_cases hs : e.mode = .sleep <;> simp [hs]
    · rw [if_neg ha, if_neg ha]
  · intro e
    by_cases hs : e.mode = .sleep <;> simp [hs]

/-- A call does to the entry of its address what its operation does to an entry, and nothing to the others. -/
theorem findEntry_after (m : PowerStateManager) (c : PowerCall) (a : AvtpAddr) :
    (m.after c).findEntry a =
      if a = c.addr then (m.findEntry a).map (onEntry a.byteBusId c.op) else m.findEntry a := by
  obtain ⟨addr, op⟩ := c
  have hgen : ∀ {α : Type} {absent : α} {f : PowerEntry → α × PowerEntry},
      (∀ e, (f e).2 = onEntry addr.byteBusId op e) →
        (m.withEntry addr absent f).2.findEntry a =
          if a = addr then (m.findEntry a).map (onEntry a.byteBusId op) else m.findEntry a := by
    intro α absent f hf
    rw [findEntry_withEntry fun e => by rw [hf, onEntry_addr]]
    by_cases ha : a = addr
    · subst ha
      rw [if_pos rfl, if_pos rfl, funext hf]
    · rw [if_neg ha, if_neg ha]
  cases op with
  | encodeEntryRequest targetMode transactionNum =>
    simp only [after, encodeEntryRequest]
    by_cases ht : targetMode ≠ .sleep
    · rw [if_pos ht]
      have hid : onEntry a.byteBusId (.encodeEntryRequest targetMode transactionNum) = id := by
        funext e
        simp [onEntry, ht]
      simp [hid]
    · rw [if_neg ht]
      refine hgen fun e => ?_
      cases henc : wakeupEncodeSleepcmdRequest addr.byteBusId transactionNum <;> simp [onEntry, ht, henc]
  | applyEntryResponse b =>
    refine hgen fun e => ?_
    simp only [onEntry]
    cases wakeupDecodeSleepcmdResponse b addr.byteBusId with
    | error => rfl
    | ok r =>
      obtain ⟨result, txn⟩ := r
      simp only
      split
      · rfl
      · split
        · rfl
        · cases pwrmodeTransition e.mode e.pendingTarget <;> rfl
  | handshakeBegin wakeupRepeatLimit networkAvailable respStreamId => exact hgen fun e => rfl
  | applyWakeupEcho b sentTransactionNum => exact hgen fun e => rfl
  | handshakeResumeQueues => exact hgen fun e => rfl
  | wakeViaPin => exact findEntry_wakeVia .viaPin m addr a
  | wakeViaNetwork => exact findEntry_wakeVia .viaNetwork m addr a

/-! ### What a call is -/

/-- The start kind a wake call reports. -/
def wakeKind (m : PowerStateManager) (c : PowerCall) : Option StartKind :=
  match c.op with
  | .wakeViaPin => (m.wakeViaPin c.addr).1.toOption
  | .wakeViaNetwork => (m.wakeViaNetwork c.addr).1.toOption
  | _ => none

/-- The mirrored mode of `a` becomes sleep. -/
def FallsAsleep (m : PowerStateManager) (a : AvtpAddr) (c : PowerCall) : Prop :=
  m.mode a ≠ .sleep ∧ (m.after c).mode a = .sleep

instance (m : PowerStateManager) (a : AvtpAddr) (c : PowerCall) : Decidable (FallsAsleep m a c) :=
  inferInstanceAs (Decidable (_ ∧ _))

/-- A call to begin the handshake of `a`, which takes it up anew. -/
def Begins (a : AvtpAddr) (c : PowerCall) : Prop :=
  c.addr = a ∧ ∃ limit available stream, c.op = .handshakeBegin limit available stream

/-- One that succeeds. -/
def BeginSucceeds (m : PowerStateManager) (a : AvtpAddr) (c : PowerCall) : Prop :=
  c.addr = a ∧ ∃ limit available stream, c.op = .handshakeBegin limit available stream ∧
    (m.handshakeBegin a limit available stream).1 = true

/-- An echo is accepted for `a`, in an attempt within the repeat limit. -/
def EchoAccepted (m : PowerStateManager) (a : AvtpAddr) (c : PowerCall) : Prop :=
  c.addr = a ∧ ∃ b txn, c.op = .applyWakeupEcho b txn ∧ wakeupIsWakeupEcho b a.byteBusId txn = true ∧
    (m.applyWakeupEcho a b txn).1 = true ∧
    ∃ e, m.findEntry a = some e ∧ e.handshake.wakeupAttempts < e.handshake.wakeupRepeatLimit

/-- The queues of `a` are resumed. -/
def ResumeSucceeds (m : PowerStateManager) (a : AvtpAddr) (c : PowerCall) : Prop :=
  c.addr = a ∧ c.op = .handshakeResumeQueues ∧ (m.handshakeResumeQueues a).1 = true

/-! ### The handshake of a sleep -/

/-- What ends the handshake of a sleep: the next sleep, or a call to begin another one. -/
def Restarts (m₀ : PowerStateManager) (a : AvtpAddr) (before : List PowerCall) (c : PowerCall) : Prop :=
  FallsAsleep (m₀.run before) a c ∨ Begins a c

/-- The handshake has been begun in this sleep, with success. -/
def Begun (m₀ : PowerStateManager) (a : AvtpAddr) : List PowerCall → Prop :=
  Lib.Since (fun before c => BeginSucceeds (m₀.run before) a c) (Restarts m₀ a)

/-- It has been begun in this sleep, and then echoed. -/
def Echoed (m₀ : PowerStateManager) (a : AvtpAddr) : List PowerCall → Prop :=
  Lib.Since (fun before c => EchoAccepted (m₀.run before) a c ∧ Begun m₀ a before) (Restarts m₀ a)

/-- It has been begun in this sleep, then echoed, and then the queues were resumed. -/
def HandshakeDone (m₀ : PowerStateManager) (a : AvtpAddr) : List PowerCall → Prop :=
  Lib.Since (fun before c => ResumeSucceeds (m₀.run before) a c ∧ Echoed m₀ a before) (Restarts m₀ a)

/-- There has been a call to begin the handshake since `a` last fell asleep. -/
def BeginCalled (m₀ : PowerStateManager) (a : AvtpAddr) : List PowerCall → Prop :=
  Lib.Since (fun _ c => Begins a c) fun before c => FallsAsleep (m₀.run before) a c

/-! ### Handshakes over a run -/

theorem run_concat (m₀ : PowerStateManager) (calls : List PowerCall) (c : PowerCall) :
    m₀.run (calls ++ [c]) = (m₀.run calls).after c := List.foldl_concat ..

theorem fst_withEntry {α : Type} {absent : α} {f : PowerEntry → α × PowerEntry} (h : m.findEntry addr = some e) :
    (m.withEntry addr absent f).1 = (f e).1 := by
  unfold withEntry
  rw [h]

/-- How far the handshake of an entry has come, told by the calls so far. -/
structure Driven (m₀ : PowerStateManager) (a : AvtpAddr) (calls : List PowerCall) (hs : Handshake) : Prop where
  attempts : hs.step = .ifaceReenabled → hs.wakeupRepeatLimit ≠ 0 → hs.wakeupAttempts < hs.wakeupRepeatLimit
  begun : BeginCalled m₀ a calls → hs.step = .ifaceReenabled → Begun m₀ a calls
  echoed : BeginCalled m₀ a calls → hs.wakeupRepeatLimit ≠ 0 → hs.step = .echoed → Echoed m₀ a calls
  complete : BeginCalled m₀ a calls → hs.wakeupRepeatLimit ≠ 0 → hs.step = .complete → HandshakeDone m₀ a calls

section
variable {hs : Handshake}

/-- A call that does not begin the handshake leaves what has been called since the last sleep, or is a new sleep. -/
theorem BeginCalled.of_concat (hno : ¬Begins a c) (h : BeginCalled m₀ a (calls ++ [c])) :
    BeginCalled m₀ a calls ∧ ¬Restarts m₀ a calls c := by
  rcases Lib.since_concat.mp h with hb | ⟨h, hsleep⟩
  · exact absurd hb hno
  · exact ⟨h, fun hr => hr.elim hsleep hno⟩

/-- A call that leaves the handshake alone. -/
theorem Driven.keep (h : Driven m₀ a calls hs) (hno : ¬Begins a c) : Driven m₀ a (calls ++ [c]) hs where
  attempts := h.attempts
  begun hb hs := by
    obtain ⟨hb, hr⟩ := hb.of_concat hno
    exact Lib.since_concat.mpr (.inr ⟨h.begun hb hs, hr⟩)
  echoed hb hl hs := by
    obtain ⟨hb, hr⟩ := hb.of_concat hno
    exact Lib.since_concat.mpr (.inr ⟨h.echoed hb hl hs, hr⟩)
  complete hb hl hs := by
    obtain ⟨hb, hr⟩ := hb.of_concat hno
    exact Lib.since_concat.mpr (.inr ⟨h.complete hb hl hs, hr⟩)

theorem Driven.handshakeBegin (hfind : (m₀.run calls).findEntry a = some e) (limit : UInt32) (available : Bool)
    (stream : UInt64) :
    Driven m₀ a (calls ++ [⟨a, .handshakeBegin limit available stream⟩])
      ((Handshake.init limit).ifaceReenabled available).2 := by
  cases available with
  | false =>
    exact ⟨by rintro ⟨⟩, by rintro - ⟨⟩, by rintro - - ⟨⟩, by rintro - - ⟨⟩⟩
  | true =>
    refine ⟨fun _ hl => ?_, fun _ _ => ?_, by rintro - - ⟨⟩, by rintro - - ⟨⟩⟩
    · exact UInt32.pos_iff_ne_zero.mpr hl
    · refine Lib.since_concat.mpr (.inl ⟨rfl, limit, true, stream, rfl, ?_⟩)
      rw [PowerStateManager.handshakeBegin, fst_withEntry hfind]
      rfl

theorem Driven.wakeupEcho (h : Driven m₀ a calls e.handshake) (hfind : (m₀.run calls).findEntry a = some e)
    (b : Octets) (txn : UInt8) :
    Driven m₀ a (calls ++ [⟨a, .applyWakeupEcho b txn⟩])
      (e.handshake.wakeupAttempt (wakeupIsWakeupEcho b a.byteBusId txn)).2 := by
  have hno : ¬Begins a ⟨a, .applyWakeupEcho b txn⟩ := by
    rintro ⟨-, _, _, _, ⟨⟩⟩
  by_cases hstep : e.handshake.step = .ifaceReenabled
  · unfold Handshake.wakeupAttempt
    rw [if_neg (not_not.mpr hstep)]
    simp only
    cases hecho : wakeupIsWakeupEcho b a.byteBusId txn with
    | true =>
      rw [if_pos rfl]
      refine ⟨by rintro ⟨⟩, by rintro - ⟨⟩, fun hb hl _ => ?_, by rintro - - ⟨⟩⟩
      obtain ⟨hb, -⟩ := hb.of_concat hno
      refine Lib.since_concat.mpr (.inl ⟨⟨rfl, b, txn, rfl, hecho, ?_, e, hfind, h.attempts hstep hl⟩, h.begun hb hstep⟩)
      rw [PowerStateManager.applyWakeupEcho, fst_withEntry hfind, Handshake.wakeupAttempt, if_neg (not_not.mpr hstep),
        hecho]
      rfl
    | false =>
      rw [if_neg Bool.false_ne_true]
      split
      · exact ⟨by rintro ⟨⟩, by rintro - ⟨⟩, by rintro - - ⟨⟩, by rintro - - ⟨⟩⟩
      · rename_i hlt
        refine ⟨fun _ _ => UInt32.not_le.mp hlt, fun hb _ => ?_, fun _ _ hs => ?_, fun _ _ hs => ?_⟩
        · obtain ⟨hb, hr⟩ := hb.of_concat hno
          exact Lib.since_concat.mpr (.inr ⟨h.begun hb hstep, hr⟩)
        · rw [hstep] at hs
          cases hs
        · rw [hstep] at hs
          cases hs
  · rw [Handshake.wakeupAttempt, if_pos hstep]
    exact h.keep hno

theorem Driven.resumeQueues (h : Driven m₀ a calls e.handshake) (hfind : (m₀.run calls).findEntry a = some e) :
    Driven m₀ a (calls ++ [⟨a, .handshakeResumeQueues⟩]) e.handshake.resumeQueues.2 := by
  have hno : ¬Begins a ⟨a, .handshakeResumeQueues⟩ := by
    rintro ⟨-, _, _, _, ⟨⟩⟩
  by_cases hstep : e.handshake.step = .echoed
  · unfold Handshake.resumeQueues
    rw [if_neg (not_not.mpr hstep)]
    refine ⟨by rintro ⟨⟩, by rintro - ⟨⟩, by rintro - - ⟨⟩, fun hb hl _ => ?_⟩
    obtain ⟨hb, -⟩ := hb.of_concat hno
    refine Lib.since_concat.mpr (.inl ⟨⟨rfl, rfl, ?_⟩, h.echoed hb hl hstep⟩)
    rw [PowerStateManager.handshakeResumeQueues, fst_withEntry hfind, Handshake.resumeQueues,
      if_neg (not_not.mpr hstep)]
  · rw [Handshake.resumeQueues, if_pos hstep]
    exact h.keep hno

end

theorem new_entry {endpoints : List AvtpAddr} (hm : new endpoints = some m₀) (hfind : m₀.findEntry a = some e) :
    e = { addr := a } := by
  unfold new at hm
  split at hm
  · cases hm
  · cases hm
    have haddr := findEntry_addr hfind
    have hmem := List.mem_of_find?_eq_some hfind
    obtain ⟨addr, -, rfl⟩ := List.mem_map.mp hmem
    cases haddr
    rfl

theorem driven_run {endpoints : List AvtpAddr} (hm : new endpoints = some m₀) (calls : List PowerCall)
    (hfind : (m₀.run calls).findEntry a = some e) : Driven m₀ a calls e.handshake := by
  induction calls using List.reverseRecOn generalizing e with
  | nil =>
    rw [new_entry hm hfind]
    exact ⟨by rintro ⟨⟩, by rintro - ⟨⟩, by rintro - - ⟨⟩, by rintro - - ⟨⟩⟩
  | append_singleton calls c ih =>
    rw [run_concat, findEntry_after] at hfind
    by_cases ha : a = c.addr
    · rw [if_pos ha, Option.map_eq_some_iff] at hfind
      obtain ⟨e, hfind, rfl⟩ := hfind
      have hd := ih hfind
      obtain ⟨addr, op⟩ := c
      cases ha
      cases op with
      | handshakeBegin limit available stream => exact Driven.handshakeBegin hfind limit available stream
      | applyWakeupEcho b txn => exact hd.wakeupEcho hfind b txn
      | handshakeResumeQueues => exact hd.resumeQueues hfind
      | _ =>
        rw [onEntry_handshake id]
        refine hd.keep ?_
        rintro ⟨-, _, _, _, ⟨⟩⟩
    · rw [if_neg ha] at hfind
      exact (ih hfind).keep fun hb => ha hb.1.symm

/-! ### What a done handshake tells -/

/-- Only a response to a request to sleep lets an endpoint fall asleep. -/
theorem FallsAsleep.response (h : FallsAsleep m a c) : c.addr = a ∧ ∃ b, c.op = .applyEntryResponse b := by
  obtain ⟨hbefore, hafter⟩ := h
  unfold PowerStateManager.mode at hbefore hafter
  rw [findEntry_after] at hafter
  by_cases ha : a = c.addr
  · rw [if_pos ha] at hafter
    cases hfind : m.findEntry a with
    | none =>
      rw [hfind] at hafter
      cases hafter
    | some e =>
      rw [hfind, Option.map_some, Option.getD_some] at hbefore
      rw [hfind, Option.map_some, Option.map_some, Option.getD_some] at hafter
      refine ⟨ha.symm, ?_⟩
      cases hop : c.op with
      | applyEntryResponse b => exact ⟨b, rfl⟩
      | encodeEntryRequest targetMode transactionNum =>
        rw [hop, onEntry] at hafter
        split at hafter <;> exact absurd hafter hbefore
      | handshakeBegin => rw [hop] at hafter; exact absurd hafter hbefore
      | applyWakeupEcho => rw [hop] at hafter; exact absurd hafter hbefore
      | handshakeResumeQueues => rw [hop] at hafter; exact absurd hafter hbefore
      | wakeViaPin => rw [hop, onEntry, if_neg hbefore] at hafter; exact absurd hafter hbefore
      | wakeViaNetwork => rw [hop, onEntry, if_neg hbefore] at hafter; exact absurd hafter hbefore
  · rw [if_neg ha] at hafter
    exact absurd hafter hbefore

theorem not_restarts (m₀ : PowerStateManager) (before : List PowerCall)
    (hresponse : ∀ b, c.op ≠ .applyEntryResponse b)
    (hbegin : ∀ limit available stream, c.op ≠ .handshakeBegin limit available stream) : ¬Restarts m₀ a before c := by
  rintro (h | ⟨-, limit, available, stream, hop⟩)
  · obtain ⟨-, b, hop⟩ := h.response
    exact hresponse b hop
  · exact hbegin limit available stream hop

theorem HandshakeDone.echoed (h : HandshakeDone m₀ a calls) : Echoed m₀ a calls :=
  h.inner fun _ _ hp => ⟨hp.2, not_restarts _ _ (by simp [hp.1.2.1]) (by simp [hp.1.2.1])⟩

theorem Echoed.beginCalled (h : Echoed m₀ a calls) : BeginCalled m₀ a calls := by
  have hbegun : Begun m₀ a calls := h.inner fun before c hp => by
    obtain ⟨⟨-, b, txn, hop, -⟩, hb⟩ := hp
    exact ⟨hb, not_restarts _ _ (by simp [hop]) (by simp [hop])⟩
  refine hbegun.mono (fun before c hb => ?_) fun before c hs => .inl hs
  obtain ⟨haddr, limit, available, stream, hop, -⟩ := hb
  exact ⟨haddr, limit, available, stream, hop⟩

/-- The repeat limit stays what it was when the handshake was begun. -/
theorem onEntry_repeatLimit {busId : ByteBusId} (hno : ∀ limit available stream, op ≠ .handshakeBegin limit available stream) :
    (onEntry busId op e).handshake.wakeupRepeatLimit = e.handshake.wakeupRepeatLimit := by
  cases op with
  | handshakeBegin limit available stream => exact absurd rfl (hno limit available stream)
  | applyWakeupEcho b txn =>
    simp only [onEntry, Handshake.wakeupAttempt]
    split
    · rfl
    · split
      · rfl
      · split <;> rfl
  | handshakeResumeQueues =>
    simp only [onEntry, Handshake.resumeQueues]
    split <;> rfl
  | _ => rw [onEntry_handshake id]

/-- An echo within the repeat limit tells that the limit is not 0. -/
theorem Echoed.repeatLimit (h : Echoed m₀ a calls) (hfind : (m₀.run calls).findEntry a = some e) :
    e.handshake.wakeupRepeatLimit ≠ 0 := by
  induction calls using List.reverseRecOn generalizing e with
  | nil => exact absurd h Lib.not_since_nil
  | append_singleton calls c ih =>
    rw [run_concat, findEntry_after] at hfind
    have hkept : ∀ e₀, (m₀.run calls).findEntry a = some e₀ → ¬Begins a c →
        e.handshake.wakeupRepeatLimit = e₀.handshake.wakeupRepeatLimit := by
      intro e₀ h₀ hno
      by_cases ha : a = c.addr
      · rw [if_pos ha, h₀, Option.map_some, Option.some.injEq] at hfind
        rw [← hfind]
        exact onEntry_repeatLimit fun limit available stream hop => hno ⟨ha.symm, limit, available, stream, hop⟩
      · rw [if_neg ha, h₀, Option.some.injEq] at hfind
        rw [hfind]
    rcases Lib.since_concat.mp h with ⟨⟨-, b, txn, hop, -, -, e₀, h₀, hlt⟩, -⟩ | ⟨h, hr⟩
    · have hno : ¬Begins a c := fun hb => not_restarts m₀ [] (by simp [hop]) (by simp [hop]) (.inr hb)
      rw [hkept e₀ h₀ hno]
      rintro h0
      rw [h0] at hlt
      exact absurd hlt (by simp)
    · obtain ⟨e₀, h₀⟩ : ∃ e₀, (m₀.run calls).findEntry a = some e₀ := by
        by_cases ha : a = c.addr
        · rw [if_pos ha, Option.map_eq_some_iff] at hfind
          obtain ⟨e₀, h₀, -⟩ := hfind
          exact ⟨e₀, h₀⟩
        · exact ⟨e, by rwa [if_neg ha] at hfind⟩
      rw [hkept e₀ h₀ fun hb => hr (.inr hb)]
      exact ih h h₀

/-! ### Wake calls -/

theorem fst_wakeVia (path : WakePath) (m : PowerStateManager) (addr : AvtpAddr) (kind : StartKind) :
    (wakeVia path m addr).1.toOption = some kind ↔
      ∃ e, m.findEntry addr = some e ∧ e.mode = .sleep ∧ kind = if e.handshake.isComplete then .hot else .cold := by
  unfold wakeVia
  cases hfind : m.findEntry addr with
  | none => simp [withEntry, hfind, Except.toOption]
  | some e =>
    rw [fst_withEntry hfind, wakeFromSleep_eq]
    by_cases hs : e.mode = .sleep
    · simp only [hs, if_true, Except.toOption, Option.some.injEq, exists_eq_left', true_and]
      exact eq_comm
    · simp [hs, Except.toOption]

/-- A wake call. -/
def Wakes (c : PowerCall) : Prop := c.op = .wakeViaPin ∨ c.op = .wakeViaNetwork

instance (c : PowerCall) : Decidable (Wakes c) := inferInstanceAs (Decidable (_ ∨ _))

theorem wakeKind_eq_some {kind : StartKind} :
    wakeKind m c = some kind ↔ Wakes c ∧ ∃ e, m.findEntry c.addr = some e ∧ e.mode = .sleep ∧
      kind = if e.handshake.isComplete then .hot else .cold := by
  unfold wakeKind Wakes
  cases hop : c.op with
  | wakeViaPin => simp [wakeViaPin, fst_wakeVia]
  | wakeViaNetwork => simp [wakeViaNetwork, fst_wakeVia]
  | _ => simp

/-- What a wake call may report: a hot start only after a handshake of the same sleep, else a cold one. -/
def ReportsRight (m₀ : PowerStateManager) (before : List PowerCall) (c : PowerCall) : Prop :=
  ∀ kind, wakeKind (m₀.run before) c = some kind →
    (kind = .hot → HandshakeDone m₀ c.addr before) ∧ (¬HandshakeDone m₀ c.addr before → kind = .cold)

/-- Where the call finds its endpoint asleep with a complete handshake, the handshake has been begun since the endpoint
    fell asleep, with a repeat limit other than 0. -/
def BegunForWake (m₀ : PowerStateManager) (before : List PowerCall) (c : PowerCall) : Prop :=
  ∀ e, (m₀.run before).findEntry c.addr = some e → e.mode = .sleep → e.handshake.isComplete = true →
    BeginCalled m₀ c.addr before ∧ e.handshake.wakeupRepeatLimit ≠ 0

theorem reportsRight_iff {endpoints : List AvtpAddr} (hm : new endpoints = some m₀) {before : List PowerCall}
    (hc : Wakes c) : ReportsRight m₀ before c ↔ BegunForWake m₀ before c := by
  constructor
  · intro h e hfind hs hcomplete
    have hkind : wakeKind (m₀.run before) c = some .hot :=
      wakeKind_eq_some.mpr ⟨hc, e, hfind, hs, by rw [hcomplete]; rfl⟩
    have hdone := (h .hot hkind).1 rfl
    exact ⟨hdone.echoed.beginCalled, hdone.echoed.repeatLimit hfind⟩
  · intro h kind hkind
    obtain ⟨-, e, hfind, hs, rfl⟩ := wakeKind_eq_some.mp hkind
    cases hcomplete : e.handshake.isComplete with
    | true =>
      obtain ⟨hb, hl⟩ := h e hfind hs hcomplete
      have hdone := (driven_run hm before hfind).complete hb hl (by simpa [Handshake.isComplete] using hcomplete)
      exact ⟨fun _ => hdone, fun hno => absurd hdone hno⟩
    | false => exact ⟨by rintro ⟨⟩, fun _ => rfl⟩

/-- The entry of an endpoint is told by the calls for it. -/
theorem findEntry_run (m : PowerStateManager) (a : AvtpAddr) (calls : List PowerCall) :
    (m.run calls).findEntry a = (m.run (calls.filter fun c => c.addr == a)).findEntry a := by
  induction calls using List.reverseRecOn with
  | nil => rfl
  | append_singleton calls c ih =>
    rw [run_concat, findEntry_after, List.filter_append]
    by_cases ha : a = c.addr
    · have hfilter : [c].filter (fun c => c.addr == a) = [c] := by simp [ha]
      rw [if_pos ha, hfilter, run_concat, findEntry_after, if_pos ha, ih]
    · have hfilter : [c].filter (fun c => c.addr == a) = [] := by simp [Ne.symm ha]
      rw [if_neg ha, hfilter, List.append_nil, ih]

/-- What a wake call reports is told by the calls for its endpoint. -/
theorem wakeKind_run (m : PowerStateManager) (calls : List PowerCall) (c : PowerCall) :
    wakeKind (m.run calls) c = wakeKind (m.run (calls.filter fun d => d.addr == c.addr)) c := by
  refine Option.ext fun kind => ?_
  rw [wakeKind_eq_some, wakeKind_eq_some, findEntry_run]

/-! ### Hot starts over every run -/

/-- Over a run, every wake call reports a hot start only after a handshake of the same sleep, and else a cold one, if
    and only if every wake call that finds its endpoint asleep with a complete handshake comes after a call to begin it
    since the endpoint fell asleep, with a repeat limit other than 0. The calls for other endpoints have no influence. -/
theorem hotStart_iff (endpoints : List AvtpAddr) (m₀ : PowerStateManager) (hm : new endpoints = some m₀)
    (calls : List PowerCall) :
    ((∀ before c rest, calls = before ++ c :: rest → Wakes c → ReportsRight m₀ before c) ↔
      ∀ before c rest, calls = before ++ c :: rest → Wakes c → BegunForWake m₀ before c) ∧
    ∀ before c rest, calls = before ++ c :: rest →
      wakeKind (m₀.run before) c = wakeKind (m₀.run (before.filter fun d => d.addr == c.addr)) c := by
  refine ⟨⟨fun h before c rest hcalls hc => ?_, fun h before c rest hcalls hc => ?_⟩, fun before c _ _ => ?_⟩
  · exact (reportsRight_iff hm hc).mp (h before c rest hcalls hc)
  · exact (reportsRight_iff hm hc).mpr (h before c rest hcalls hc)
  · exact wakeKind_run m₀ before c

/-! ### A sleep with a handshake, and one without -/

/-- An endpoint that is put to sleep, and whose handshake is then driven to its end. -/
def firstSleep (a : AvtpAddr) : List PowerCall :=
  [⟨a, .encodeEntryRequest .sleep 1⟩, ⟨a, .applyEntryResponse ((wakeupEncodeSleepcmdResponse a.byteBusId .ok 1).getD [])⟩,
   ⟨a, .handshakeBegin 3 true 9⟩, ⟨a, .applyWakeupEcho ((wakeupEncodeWakeupMessage a.byteBusId 7).getD []) 7⟩,
   ⟨a, .handshakeResumeQueues⟩]

/-- It is woken, and put to sleep once more, with no handshake this time. -/
def secondSleep (a : AvtpAddr) : List PowerCall :=
  firstSleep a ++ [⟨a, .wakeViaPin⟩, ⟨a, .encodeEntryRequest .sleep 2⟩] ++
    [⟨a, .applyEntryResponse ((wakeupEncodeSleepcmdResponse a.byteBusId .ok 2).getD [])⟩]

/-- The wake-up after the first sleep reports right. -/
theorem hotStart_iff_firstSleep :
    ReportsRight ⟨[{ addr := ⟨1, 5⟩ }]⟩ (firstSleep ⟨1, 5⟩) ⟨⟨1, 5⟩, .wakeViaPin⟩ := by
  refine (hotStart_iff [⟨1, 5⟩] ⟨[{ addr := ⟨1, 5⟩ }]⟩ rfl (firstSleep ⟨1, 5⟩ ++ [⟨⟨1, 5⟩, .wakeViaPin⟩])).1.mpr ?_
    (firstSleep ⟨1, 5⟩) ⟨⟨1, 5⟩, .wakeViaPin⟩ [] rfl (.inl rfl)
  intro before c rest hsplit hc
  rcases Lib.concat_eq_split hsplit with ⟨rfl, rfl, -⟩ | ⟨rest', -, hcalls⟩
  · intro e hfind _ _
    constructor
    · refine ⟨[_, _], _, [_, _], rfl, ⟨rfl, 3, true, 9, rfl⟩, fun between d after hd hs => ?_⟩
      obtain ⟨-, b, hop⟩ := hs.response
      have hmem : d ∈ (firstSleep ⟨1, 5⟩).drop 3 := by
        change d ∈ ([_, _] : List PowerCall)
        rw [hd]
        exact List.mem_append_right _ (List.mem_cons_self ..)
      rcases List.mem_pair.mp hmem with rfl | rfl <;> cases hop
    · have hlimit : ((PowerStateManager.run ⟨[{ addr := ⟨1, 5⟩ }]⟩ (firstSleep ⟨1, 5⟩)).findEntry ⟨1, 5⟩).map
          (fun e => e.handshake.wakeupRepeatLimit) = some 3 := by decide +kernel
      rw [hfind, Option.map_some, Option.some.injEq] at hlimit
      rw [hlimit]
      decide
  · have hnone : ∀ d ∈ firstSleep ⟨1, 5⟩, ¬Wakes d := by decide +kernel
    exact absurd hc (hnone c (hcalls ▸ List.mem_append_right _ (List.mem_cons_self ..)))

/-- The one after the second sleep reports a hot start, on the handshake of the first. -/
theorem hotStart_without_handshake :
    ¬∀ (endpoints : List AvtpAddr) (m₀ : PowerStateManager), new endpoints = some m₀ →
      ∀ (calls before : List PowerCall) (c : PowerCall) (rest : List PowerCall), calls = before ++ c :: rest → Wakes c →
        ReportsRight m₀ before c := by
  intro h
  have hright := h [⟨1, 5⟩] ⟨[{ addr := ⟨1, 5⟩ }]⟩ rfl _ (secondSleep ⟨1, 5⟩) ⟨⟨1, 5⟩, .wakeViaNetwork⟩ [] rfl (.inr rfl)
  have hhot : wakeKind (PowerStateManager.run ⟨[{ addr := ⟨1, 5⟩ }]⟩ (secondSleep ⟨1, 5⟩)) ⟨⟨1, 5⟩, .wakeViaNetwork⟩ =
      some .hot := by decide +kernel
  have hbegun := ((hright .hot hhot).1 rfl).echoed.beginCalled
  -- The endpoint fell asleep with the last call, which is no call to begin a handshake.
  unfold BeginCalled secondSleep at hbegun
  rcases Lib.since_concat.mp hbegun with ⟨-, _, _, _, ⟨⟩⟩ | ⟨-, hno⟩
  exact hno (by decide +kernel)

end PowerStateManager
end Rcp
