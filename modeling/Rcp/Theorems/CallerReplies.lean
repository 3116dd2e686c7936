import Rcp.Caller

/-! Which response a call returns: the first frame in the queue, whatever request that answers. It is the call's own as long
    as nothing else can be in front of it. -/

namespace Rcp
namespace CallerSession

variable {s t : CallerSession} {e : CallerEvent}

/-! ### What an event does -/

/-- Sending leaves everything but the requests alone. -/
theorem transmit_frame (msg : RelayMessage) :
    (s.transmit msg).2.inbox = s.inbox ∧ (s.transmit msg).2.waiting = s.waiting ∧
      (s.transmit msg).2.returned = s.returned := by
  rw [transmit]
  split <;> exact ⟨rfl, rfl, rfl⟩

theorem send_inv {msg : RelayMessage} (h : s.step (.send msg) = some t) :
    s.waiting = none ∧ t = (s.transmit msg).2 := by
  rw [step] at h
  split at h
  · cases h
  · rename_i hidle
    exact ⟨by simpa using hidle, (Option.some.inj h).symm⟩

theorem call_inv {req : RelayMessage} (h : s.step (.call req) = some t) :
    s.waiting = none ∧ t = { (s.transmit req).2 with waiting := (s.transmit req).1 } := by
  rw [step] at h
  split at h
  · cases h
  · rename_i hidle
    exact ⟨by simpa using hidle, (Option.some.inj h).symm⟩

theorem answer_inv {request : Nat} {frame : Octets} (h : s.step (.answer request frame) = some t) :
    t = { s with unanswered := s.unanswered.filter (·.number != request), inbox := s.inbox ++ [{ request, frame }] } := by
  obtain ⟨r, -, h⟩ := Option.bind_eq_some_iff.mp h
  split at h
  · cases h
  · exact (Option.some.inj h).symm

/-- A call takes the frame at the head of the queue, or leaves everything where it is. -/
theorem receive_inv {nowMs : UInt64} (h : s.step (.receive nowMs) = some t) :
    ∃ r reply inbox, s.waiting = some r ∧ s.inbox = reply :: inbox ∧ t.waiting = none ∧
      (t.returned = s.returned ∨
        ∃ message, t.returned = s.returned ++ [{ request := r.number, answered := reply.request, message }]) := by
  rw [step] at h
  split at h
  · rename_i r reply inbox hwaiting hinbox
    refine ⟨r, reply, inbox, hwaiting, hinbox, ?_⟩
    split at h
    · obtain rfl := Option.some.inj h
      exact ⟨rfl, Or.inl rfl⟩
    split at h
    · obtain rfl := Option.some.inj h
      exact ⟨rfl, Or.inl rfl⟩
    · rename_i message _
      obtain rfl := Option.some.inj h
      exact ⟨rfl, Or.inr ⟨message, rfl⟩⟩
  · cases h

theorem timeout_inv (h : s.step .timeout = some t) : s.inbox = [] ∧ t = { s with waiting := none } := by
  rw [step] at h
  split at h
  · rename_i hinbox
    exact ⟨hinbox, (Option.some.inj h).symm⟩
  · cases h

/-! ### Runs without a foreign response in front -/

/-- Nothing comes in front of the response to a call: its queue is empty when it begins, and while it is, the first answer
    is the call's. -/
def Undisturbed (s : CallerSession) : CallerEvent → Prop
  | .call _ => s.inbox = []
  | .answer request _ => ∀ r ∈ s.waiting, s.inbox = [] → request = r.number
  | .send _ | .receive _ | .timeout => True

instance (s : CallerSession) (e : CallerEvent) : Decidable (s.Undisturbed e) := by
  cases e <;> unfold Undisturbed <;> exact inferInstance

/-- Every event of a run is undisturbed in the state it finds. -/
def Orderly (s : CallerSession) : List CallerEvent → Prop
  | [] => True
  | e :: es => s.Undisturbed e ∧ ∀ t ∈ s.step e, t.Orderly es

instance decidableOrderly (s : CallerSession) : (es : List CallerEvent) → Decidable (s.Orderly es)
  | [] => .isTrue trivial
  | e :: es =>
    have := fun t : CallerSession => decidableOrderly t es
    inferInstanceAs (Decidable (s.Undisturbed e ∧ ∀ t ∈ s.step e, t.Orderly es))

/-- Every call has returned its own response, and the one that waits finds its own first. -/
structure Own (s : CallerSession) : Prop where
  returned : ∀ r ∈ s.returned, r.answered = r.request
  first : ∀ r, s.waiting = some r → ∀ reply, s.inbox.head? = some reply → reply.request = r.number

theorem start_own (localStreamId : StreamId) (byteBusId : ByteBusId) (kind : AdaptEpKind) :
    (start localStreamId byteBusId kind).Own := ⟨nofun, nofun⟩

/-- An undisturbed event keeps it so. -/
theorem step_own (hown : s.Own) (hquiet : s.Undisturbed e) (h : s.step e = some t) : t.Own := by
  cases e with
  | send msg =>
    obtain ⟨hidle, rfl⟩ := send_inv h
    obtain ⟨-, hwaiting, hreturned⟩ := transmit_frame (s := s) msg
    refine ⟨hreturned ▸ hown.returned, fun r hr => ?_⟩
    rw [hwaiting, hidle] at hr
    cases hr
  | call req =>
    obtain ⟨-, rfl⟩ := call_inv h
    obtain ⟨hinbox, -, hreturned⟩ := transmit_frame (s := s) req
    refine ⟨hreturned ▸ hown.returned, fun r _ reply hhead => ?_⟩
    have hempty : s.inbox = [] := hquiet
    change (s.transmit req).2.inbox.head? = some reply at hhead
    rw [hinbox, hempty] at hhead
    cases hhead
  | answer request frame =>
    obtain rfl := answer_inv h
    refine ⟨hown.returned, fun r hr reply hhead => ?_⟩
    change (s.inbox ++ [QueuedReply.mk request frame]).head? = some reply at hhead
    -- only an empty queue gets a new head
    cases hinbox : s.inbox with
    | nil =>
      rw [hinbox] at hhead
      obtain rfl := Option.some.inj hhead
      exact hquiet r hr hinbox
    | cons reply' inbox =>
      rw [hinbox] at hhead
      exact hown.first r hr reply (by rw [hinbox]; exact hhead)
  | receive nowMs =>
    obtain ⟨r, reply, inbox, hwaiting, hinbox, hidle, hreturned⟩ := receive_inv h
    have hreply := hown.first r hwaiting reply (by rw [hinbox]; rfl)
    refine ⟨fun x hx => ?_, fun x hx => by rw [hidle] at hx; cases hx⟩
    rcases hreturned with hkept | ⟨message, hnew⟩
    · rw [hkept] at hx
      exact hown.returned x hx
    · rw [hnew] at hx
      rcases List.mem_append.mp hx with hx | hx
      · exact hown.returned x hx
      · obtain rfl := List.mem_singleton.mp hx
        exact hreply
  | timeout =>
    obtain ⟨-, rfl⟩ := timeout_inv h
    exact ⟨hown.returned, nofun⟩

theorem run_own (es : List CallerEvent) (hown : s.Own) (hquiet : s.Orderly es) (h : s.run es = some t) : t.Own := by
  induction es generalizing s with
  | nil =>
    obtain rfl := Option.some.inj h
    exact hown
  | cons e es ih =>
    obtain ⟨u, hstep, hrun⟩ := Option.bind_eq_some_iff.mp h
    exact ih (step_own hown hquiet.1 hstep) (hquiet.2 u hstep) hrun

/-- In every run in which nothing comes in front of the response to a call, each call that returns a message returns the
    response to its own request. -/
theorem call_returns_own {localStreamId : StreamId} {byteBusId : ByteBusId} {kind : AdaptEpKind} {es : List CallerEvent}
    (h : (start localStreamId byteBusId kind).run es = some t)
    (hquiet : (start localStreamId byteBusId kind).Orderly es) : ∀ r ∈ t.returned, r.answered = r.request :=
  (run_own es (start_own localStreamId byteBusId kind) hquiet h).returned

/-- A read of one octet of a UART. -/
def uartReadMessage : RelayMessage := { entries := [("rcp.adapt.op", "uart_read"), ("rcp.uart.read_size", "1")] }

/-- The frame of a response with one octet. -/
def uartReadReply (octet transactionNum : UInt8) : Octets :=
  ((uartEncodeReadResponse 5 [octet] transactionNum false 0).bind
    (avtpEncodeNtscf { sv := 1, version := 0, ntscfDataLength := 0, sequenceNum := 0, streamId := .fromU64 2 })).getD []

/-- What is compared of a call that has returned. -/
def outcomes (s : Option CallerSession) : Option (List (Nat × Nat × Octets × Option String)) :=
  s.map fun s => s.returned.map fun r =>
    (r.request, r.answered, r.message.payload, r.message.getMeta "rcp.transaction_num")

/-- Two calls, each answered before the next begins. -/
def alternating : List CallerEvent :=
  [.call uartReadMessage, .answer 0 (uartReadReply 0xA0 1), .receive 0,
   .call uartReadMessage, .answer 1 (uartReadReply 0xA1 2), .receive 0]

theorem call_returns_own_alternating :
    ∃ t, (start (.fromU64 1) 5 .uart).run alternating = some t ∧
      outcomes (some t) = some [(0, 0, [0xA0], some "1"), (1, 1, [0xA1], some "2")] ∧
      ∀ r ∈ t.returned, r.answered = r.request :=
  ⟨_, rfl, by decide, call_returns_own rfl (by decide : (start (.fromU64 1) 5 .uart).Orderly alternating)⟩

/-- After a `send()`, and after a call that timed out, a call returns the response to the earlier request. -/
theorem call_returns_other :
    outcomes ((start (.fromU64 1) 5 .uart).run
      [.send uartReadMessage, .call uartReadMessage, .answer 0 (uartReadReply 0xA0 1), .receive 0]) =
        some [(1, 0, [0xA0], some "1")] ∧
      outcomes ((start (.fromU64 1) 5 .uart).run
        [.call uartReadMessage, .timeout, .call uartReadMessage, .answer 0 (uartReadReply 0xA0 1),
         .answer 1 (uartReadReply 0xA1 2), .receive 0]) =
        some [(1, 0, [0xA0], some "1")] :=
  ⟨by decide, by decide⟩

end CallerSession
end Rcp
