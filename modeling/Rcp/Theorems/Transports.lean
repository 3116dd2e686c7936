import Rcp.Lib.Session
import Rcp.Transport

/-! The transports inside a process are reliable: each direction hands out, in order and once, the frames that were sent
    into it, whatever the order of the calls on its two sides. -/

namespace Rcp
open Lib

/-! ### A direction -/

section
variable {σ : Type} (queue : σ → List Octets) (send : σ → Octets → TransportResult × σ)
  (recv : σ → Bool → Nat → TransportResult × σ)

/-- What a direction of a transport promises where `sent` and `received` have gone through it and its sender has been
    closed or not. -/
structure Direction (cap : Nat) (closed : Prop) (sent received : List Octets) (s : σ) : Prop where
  order : sent = received ++ queue s
  bounded : (queue s).length ≤ cap
  send_busy : ∀ frame, (send s frame).1 = .error .busy → (send s frame).2 = s ∧ (queue s).length = cap
  send_closed : closed → ∀ frame, send s frame = (.error .closed, s)
  recv_busy : ∀ done bufCap, (recv s done bufCap).1 = .error .busy →
    (recv s done bufCap).2 = s ∧ ∃ frame rest, queue s = frame :: rest ∧ bufCap < frame.length
  recv_front : ∀ done bufCap frame rest, queue s = frame :: rest → frame.length ≤ bufCap →
    (recv s done bufCap).1 = .frame frame ∧ queue (recv s done bufCap).2 = rest
  recv_closed : ∀ done bufCap, (recv s done bufCap).1 = .error .closed → queue s = []

end

section ring
variable {ring : RingBuffer Octets}

/-- What a send can do. -/
theorem transportSend_cases (h : ring.Valid) (own : Bool) (frame : Octets) :
    (own = true ∧ transportSend own ring frame = (.error .closed, ring)) ∨
    (own = false ∧ ring.count = ring.cap ∧ transportSend own ring frame = (.error .busy, ring)) ∨
    (own = false ∧ ring.count < ring.cap ∧ transportSend own ring frame = (.ok, ring.push frame)) := by
  have hle := h.count_le
  cases own with
  | true => exact Or.inl ⟨rfl, rfl⟩
  | false =>
    by_cases hfull : ring.count ≥ ring.cap
    · exact Or.inr (Or.inl ⟨rfl, by omega, if_pos hfull⟩)
    · exact Or.inr (Or.inr ⟨rfl, by omega, if_neg hfull⟩)

/-- What a recv can do. -/
theorem transportRecv_cases (ring : RingBuffer Octets) (closed done : Bool) (bufCap : Nat) :
    (ring.count = 0 ∧ ∃ r, (r = .waits ∨ r = .error .closed ∨ r = .error .timeout) ∧
      transportRecv closed ring done bufCap = (r, ring)) ∨
    (0 < ring.count ∧ bufCap < ring.front.length ∧ transportRecv closed ring done bufCap = (.error .busy, ring)) ∨
    (0 < ring.count ∧ ring.front.length ≤ bufCap ∧
      transportRecv closed ring done bufCap = (.frame ring.front, ring.pop)) := by
  rw [transportRecv]
  by_cases hempty : ring.count = 0
  · refine Or.inl ⟨hempty, ?_⟩
    simp only [hempty, true_and, if_true]
    cases closed with
    | true => exact ⟨.error .closed, Or.inr (Or.inl rfl), rfl⟩
    | false =>
      cases done with
      | true => exact ⟨.error .timeout, Or.inr (Or.inr rfl), rfl⟩
      | false => exact ⟨.waits, Or.inl rfl, rfl⟩
  · simp only [hempty, false_and, if_false]
    by_cases hlong : ring.front.length > bufCap
    · exact Or.inr (Or.inl ⟨by omega, hlong, if_pos hlong⟩)
    · exact Or.inr (Or.inr ⟨by omega, by omega, if_neg hlong⟩)

variable {σ : Type} (get : σ → RingBuffer Octets) (set : σ → RingBuffer Octets → σ) (own closed : σ → Bool) {s : σ}
  {cap : Nat} {ends : Prop} {sent received : List Octets}

/-- A direction that is a buffer in a larger state, which its send and its recv leave as it is otherwise. -/
theorem direction_of_ring (hvalid : (get s).Valid) (hcap : (get s).cap = cap) (hends : ends → own s = true)
    (horder : sent = received ++ (get s).items) (hget : ∀ r, get (set s r) = r) (hset : set s (get s) = s) :
    Direction (fun s => (get s).items)
      (fun s frame => ((transportSend (own s) (get s) frame).1, set s (transportSend (own s) (get s) frame).2))
      (fun s done bufCap => ((transportRecv (closed s) (get s) done bufCap).1,
        set s (transportRecv (closed s) (get s) done bufCap).2))
      cap ends sent received s where
  order := horder
  bounded := by
    rw [RingBuffer.items_length, ← hcap]
    exact hvalid.count_le
  send_busy frame h := by
    rcases transportSend_cases hvalid (own s) frame with ⟨-, hs⟩ | ⟨-, hfull, hs⟩ | ⟨-, -, hs⟩
    · rw [hs] at h
      cases h
    · rw [RingBuffer.items_length, hs]
      exact ⟨hset, hfull.trans hcap⟩
    · rw [hs] at h
      cases h
  send_closed hclosed frame := by
    rw [transportSend, hends hclosed, if_pos rfl, hset]
  recv_busy done bufCap h := by
    rcases transportRecv_cases (get s) (closed s) done bufCap with ⟨-, r, hkind, hr⟩ | ⟨hsome, hlong, hr⟩ | ⟨-, -, hr⟩
    · rw [hr] at h
      rcases hkind with rfl | rfl | rfl <;> cases h
    · rw [hr]
      exact ⟨hset, _, _, hvalid.items_pop hsome, hlong⟩
    · rw [hr] at h
      cases h
  recv_front done bufCap frame rest hq hfits := by
    have hcount : (get s).count = rest.length + 1 := by rw [← RingBuffer.items_length, hq, List.length_cons]
    have hsome : 0 < (get s).count := by omega
    obtain ⟨rfl, rfl⟩ := List.cons.inj ((hvalid.items_pop hsome).symm.trans hq)
    rcases transportRecv_cases (get s) (closed s) done bufCap with ⟨hnone, -⟩ | ⟨-, hlong, -⟩ | ⟨-, -, hr⟩
    · omega
    · omega
    · rw [hr]
      exact ⟨rfl, congrArg RingBuffer.items (hget _)⟩
  recv_closed done bufCap h := by
    rcases transportRecv_cases (get s) (closed s) done bufCap with ⟨hnone, -⟩ | ⟨-, -, hr⟩ | ⟨-, -, hr⟩
    · exact RingBuffer.items_eq_nil hnone
    · rw [hr] at h
      cases h
    · rw [hr] at h
      cases h

end ring

theorem transportRing_cap (queueCapacity : Nat) : (transportRing queueCapacity).cap = max queueCapacity 1 := by
  rw [transportRing, RingBuffer.cap_new]
  split <;> omega

theorem transportRing_valid (queueCapacity : Nat) : (transportRing queueCapacity).Valid :=
  RingBuffer.valid_new (by split <;> omega)

/-! ### The pair -/

namespace ShmemPairCore
variable {c : ShmemPairCore} {side : ShmemSide}

@[simp] theorem sendRing_setSendRing (c : ShmemPairCore) (side : ShmemSide) (ring : RingBuffer Octets) :
    (c.setSendRing side ring).sendRing side = ring := by
  cases side <;> rfl

@[simp] theorem sendRing_setSendRing_peer (c : ShmemPairCore) (side : ShmemSide) (ring : RingBuffer Octets) :
    (c.setSendRing side ring).sendRing side.peer = c.sendRing side.peer := by
  cases side <;> rfl

@[simp] theorem setSendRing_self (c : ShmemPairCore) (side : ShmemSide) : c.setSendRing side (c.sendRing side) = c := by
  cases side <;> rfl

@[simp] theorem ownClosed_setSendRing (c : ShmemPairCore) (side side' : ShmemSide) (ring : RingBuffer Octets) :
    (c.setSendRing side ring).ownClosed side' = c.ownClosed side' := by
  cases side <;> cases side' <;> rfl

@[simp] theorem sendRing_close (c : ShmemPairCore) (side side' : ShmemSide) :
    (c.close side).sendRing side' = c.sendRing side' := by
  cases side <;> cases side' <;> rfl

@[simp] theorem peer_peer (side : ShmemSide) : side.peer.peer = side := by
  cases side <;> rfl

theorem eq_or_eq_peer (side side' : ShmemSide) : side' = side ∨ side' = side.peer := by
  cases side <;> cases side' <;> decide

theorem send_eq (c : ShmemPairCore) (side : ShmemSide) (frame : Octets) :
    c.send side frame =
      ((transportSend (c.ownClosed side) (c.sendRing side) frame).1,
        c.setSendRing side (transportSend (c.ownClosed side) (c.sendRing side) frame).2) := rfl

/-- A side receives from the buffer that its peer sends into. -/
theorem recv_eq (c : ShmemPairCore) (side : ShmemSide) (done : Bool) (bufCap : Nat) :
    c.recv side done bufCap =
      ((transportRecv (c.ownClosed side || c.peerClosed side) (c.sendRing side.peer) done bufCap).1,
        c.setSendRing side.peer
          (transportRecv (c.ownClosed side || c.peerClosed side) (c.sendRing side.peer) done bufCap).2) := by
  cases side <;> rfl

/-- The frames that a side has sent, -/
def sentBy (side : ShmemSide) : (ShmemSide × TransportCall) × TransportResult → List Octets
  | ((s, .send frame), .ok) => if s = side then [frame] else []
  | _ => []

/-- and those that it has received. -/
def receivedBy (side : ShmemSide) : (ShmemSide × TransportCall) × TransportResult → List Octets
  | ((s, .recv _ _), .frame frame) => if s = side then [frame] else []
  | _ => []

/-- Both buffers are rings of the capacity. -/
def Sound (cap : Nat) (c : ShmemPairCore) : Prop :=
  ∀ side, (c.sendRing side).Valid ∧ (c.sendRing side).cap = cap

theorem sound_new (queueCapacity : Nat) : Sound (max queueCapacity 1) (new queueCapacity) := by
  intro side
  cases side <;> exact ⟨transportRing_valid queueCapacity, transportRing_cap queueCapacity⟩

theorem Sound.set {cap : Nat} (h : Sound cap c) {ring : RingBuffer Octets} (hvalid : ring.Valid) (hcap : ring.cap = cap) :
    Sound cap (c.setSendRing side ring) := by
  intro side'
  rcases eq_or_eq_peer side side' with rfl | rfl
  · rw [sendRing_setSendRing]
    exact ⟨hvalid, hcap⟩
  · rw [sendRing_setSendRing_peer]
    exact h side.peer

/-- What a call does: a frame enters the buffer of its sender, one leaves that of its receiver's peer, or no buffer
    changes. -/
inductive Moves (c : ShmemPairCore) (call : ShmemSide × TransportCall) : TransportResult → ShmemPairCore → Prop
  | sent {side frame} (hcall : call = (side, .send frame)) (hroom : (c.sendRing side).count < (c.sendRing side).cap) :
      Moves c call .ok (c.setSendRing side ((c.sendRing side).push frame))
  | received {side done bufCap} (hcall : call = (side.peer, .recv done bufCap)) (hsome : 0 < (c.sendRing side).count) :
      Moves c call (.frame (c.sendRing side).front) (c.setSendRing side (c.sendRing side).pop)
  | still {r c'} (hrings : ∀ side, c'.sendRing side = c.sendRing side) (hsent : ∀ side, sentBy side (call, r) = [])
      (hreceived : ∀ side, receivedBy side (call, r) = []) : Moves c call r c'

theorem step_moves {cap : Nat} (h : Sound cap c) (call : ShmemSide × TransportCall) :
    Moves c call (c.step call).1 (c.step call).2 := by
  obtain ⟨side, call⟩ := call
  cases call with
  | send frame =>
    rw [step, send_eq]
    rcases transportSend_cases (h side).1 (c.ownClosed side) frame with ⟨-, hs⟩ | ⟨-, -, hs⟩ | ⟨-, hroom, hs⟩
    · rw [hs, setSendRing_self]
      exact .still (fun _ => rfl) (fun _ => rfl) fun _ => rfl
    · rw [hs, setSendRing_self]
      exact .still (fun _ => rfl) (fun _ => rfl) fun _ => rfl
    · rw [hs]
      exact .sent rfl hroom
  | recv done bufCap =>
    rw [step, recv_eq]
    rcases transportRecv_cases (c.sendRing side.peer) (c.ownClosed side || c.peerClosed side) done bufCap with
      ⟨-, r, hkind, hr⟩ | ⟨-, -, hr⟩ | ⟨hsome, -, hr⟩
    · rw [hr, setSendRing_self]
      refine .still (fun _ => rfl) (fun _ => rfl) fun _ => ?_
      rcases hkind with rfl | rfl | rfl <;> rfl
    · rw [hr, setSendRing_self]
      exact .still (fun _ => rfl) (fun _ => rfl) fun _ => rfl
    · rw [hr]
      exact .received (by rw [peer_peer]) hsome
  | close => exact .still (fun side' => sendRing_close c side side') (fun _ => rfl) fun _ => rfl

section
variable {cap : Nat} {call : ShmemSide × TransportCall} {r : TransportResult} {c' : ShmemPairCore}

theorem Moves.sound (hm : Moves c call r c') (h : Sound cap c) : Sound cap c' := by
  cases hm with
  | @sent side frame _ hroom => exact h.set ((h side).1.push hroom) ((RingBuffer.cap_push ..).trans (h side).2)
  | @received side _ _ _ _ => exact h.set (h side).1.pop ((RingBuffer.cap_pop _).trans (h side).2)
  | still hrings =>
    intro side
    rw [hrings]
    exact h side

/-- Each direction is a queue. -/
theorem Moves.fifo (hm : Moves c call r c') (h : Sound cap c) (side : ShmemSide) :
    (c.sendRing side).items ++ sentBy side (call, r) =
      receivedBy side.peer (call, r) ++ (c'.sendRing side).items := by
  cases hm with
  | @sent side' frame hcall hroom =>
    subst hcall
    rcases eq_or_eq_peer side' side with rfl | rfl
    · rw [sendRing_setSendRing, (h side).1.items_push hroom]
      simp [sentBy, receivedBy]
    · rw [sendRing_setSendRing_peer]
      cases side' <;> simp [sentBy, receivedBy, ShmemSide.peer]
  | @received side' done bufCap hcall hsome =>
    subst hcall
    rcases eq_or_eq_peer side' side with rfl | rfl
    · rw [sendRing_setSendRing, (h side).1.items_pop hsome]
      simp [sentBy, receivedBy]
    · rw [sendRing_setSendRing_peer]
      cases side' <;> simp [sentBy, receivedBy, ShmemSide.peer]
  | still hrings hsent hreceived => rw [hrings, hsent, hreceived, List.append_nil, List.nil_append]

end

theorem ownClosed_step (h : c.ownClosed side = true) (call : ShmemSide × TransportCall) :
    (c.step call).2.ownClosed side = true := by
  obtain ⟨side', call⟩ := call
  cases call with
  | send frame => exact (ownClosed_setSendRing ..).trans h
  | recv done bufCap =>
    rw [step, recv_eq]
    exact (ownClosed_setSendRing ..).trans h
  | close => cases side <;> cases side' <;> first | exact h | rfl

/-- A side that has been closed stays closed. -/
theorem ownClosed_of_mem {calls : List (ShmemSide × TransportCall)} (h : (side, .close) ∈ calls) (c : ShmemPairCore) :
    (Session.final step c calls).ownClosed side = true := by
  obtain ⟨before, after, rfl⟩ := List.append_of_mem h
  rw [Session.final_append, Session.final_cons]
  refine Session.invariant (I := fun c : ShmemPairCore => c.ownClosed side = true)
    (fun c call h => ownClosed_step h call) ?_ after
  cases side <;> rfl

end ShmemPairCore

/-! ### The loopback -/

namespace LoopbackTransport
variable {lb : LoopbackTransport}

/-- The frames that have been sent, -/
def sent : TransportCall × TransportResult → List Octets
  | (.send frame, .ok) => [frame]
  | _ => []

/-- and those that have been received. -/
def received : TransportCall × TransportResult → List Octets
  | (.recv _ _, .frame frame) => [frame]
  | _ => []

def Sound (cap : Nat) (lb : LoopbackTransport) : Prop := lb.ring.Valid ∧ lb.ring.cap = cap

theorem step_sound_fifo {cap : Nat} (h : Sound cap lb) (call : TransportCall) :
    Sound cap (lb.step call).2 ∧
      lb.ring.items ++ sent (call, (lb.step call).1) = received (call, (lb.step call).1) ++ (lb.step call).2.ring.items := by
  have hstill : lb.ring.items ++ [] = [] ++ lb.ring.items := by simp
  cases call with
  | send frame =>
    rw [step, send]
    rcases transportSend_cases h.1 lb.closed frame with ⟨-, hs⟩ | ⟨-, -, hs⟩ | ⟨-, hroom, hs⟩
    · rw [hs]
      exact ⟨h, hstill⟩
    · rw [hs]
      exact ⟨h, hstill⟩
    · rw [hs]
      exact ⟨⟨h.1.push hroom, (RingBuffer.cap_push ..).trans h.2⟩, (h.1.items_push hroom).symm⟩
  | recv done bufCap =>
    rw [step, recv]
    rcases transportRecv_cases lb.ring lb.closed done bufCap with ⟨-, r, hkind, hr⟩ | ⟨-, -, hr⟩ | ⟨hsome, -, hr⟩
    · rw [hr]
      refine ⟨h, ?_⟩
      rcases hkind with rfl | rfl | rfl <;> exact hstill
    · rw [hr]
      exact ⟨h, hstill⟩
    · rw [hr]
      exact ⟨⟨h.1.pop, (RingBuffer.cap_pop _).trans h.2⟩, (List.append_nil _).trans (h.1.items_pop hsome)⟩
  | close => exact ⟨h, hstill⟩

theorem closed_step (h : lb.closed = true) (call : TransportCall) : (lb.step call).2.closed = true := by
  cases call with
  | send frame => exact h
  | recv done bufCap => exact h
  | close => rfl

theorem closed_of_mem {calls : List TransportCall} (h : .close ∈ calls) (lb : LoopbackTransport) :
    (Session.final step lb calls).closed = true := by
  obtain ⟨before, after, rfl⟩ := List.append_of_mem h
  rw [Session.final_append, Session.final_cons]
  exact Session.invariant (I := fun lb : LoopbackTransport => lb.closed = true) (fun lb call h => closed_step h call) rfl
    after

end LoopbackTransport

/-! ### Reliability -/

/-- After any calls, in any order of the two sides, each direction of a pair has handed out a prefix of the frames that
    were sent into it, and the others are queued, within the capacity; it does what a direction promises. The loopback
    is one such direction. -/
theorem transports_reliable (queueCapacity : Nat) :
    (∀ calls side,
      Direction (fun c : ShmemPairCore => (c.recvRing side.peer).items) (fun c => c.send side) (fun c => c.recv side.peer)
        (max queueCapacity 1) ((side, .close) ∈ calls)
        ((Session.log ShmemPairCore.step (.new queueCapacity) calls).flatMap (ShmemPairCore.sentBy side))
        ((Session.log ShmemPairCore.step (.new queueCapacity) calls).flatMap (ShmemPairCore.receivedBy side.peer))
        (Session.final ShmemPairCore.step (.new queueCapacity) calls)) ∧
    (∀ calls,
      Direction (fun lb : LoopbackTransport => lb.ring.items) LoopbackTransport.send LoopbackTransport.recv
        (max queueCapacity 1) (.close ∈ calls)
        ((Session.log LoopbackTransport.step (.new queueCapacity) calls).flatMap LoopbackTransport.sent)
        ((Session.log LoopbackTransport.step (.new queueCapacity) calls).flatMap LoopbackTransport.received)
        (Session.final LoopbackTransport.step (.new queueCapacity) calls)) := by
  constructor
  · intro calls side
    have hnew := ShmemPairCore.sound_new queueCapacity
    have hkeep : ∀ c call, ShmemPairCore.Sound (max queueCapacity 1) c →
        ShmemPairCore.Sound (max queueCapacity 1) (c.step call).2 := fun c call h =>
      (ShmemPairCore.step_moves h call).sound h
    have hsound := Session.invariant hkeep hnew calls
    have horder := Session.fifo (fun c : ShmemPairCore => (c.sendRing side).items) hkeep
      (fun c call h => (ShmemPairCore.step_moves h call).fifo h side) hnew calls
    have hempty : ((ShmemPairCore.new queueCapacity).sendRing side).items = [] := by cases side <;> rfl
    rw [hempty, List.nil_append] at horder
    have hdir := direction_of_ring (fun c : ShmemPairCore => c.sendRing side) (fun c ring => c.setSendRing side ring)
      (fun c => c.ownClosed side) (fun c => c.ownClosed side.peer || c.peerClosed side.peer) (hsound side).1 (hsound side).2
      (fun h => ShmemPairCore.ownClosed_of_mem h _) horder (ShmemPairCore.sendRing_setSendRing _ side)
      (ShmemPairCore.setSendRing_self _ side)
    cases side <;> exact hdir
  · intro calls
    have hnew : LoopbackTransport.Sound (max queueCapacity 1) (.new queueCapacity) :=
      ⟨transportRing_valid queueCapacity, transportRing_cap queueCapacity⟩
    have hkeep : ∀ lb call, LoopbackTransport.Sound (max queueCapacity 1) lb →
        LoopbackTransport.Sound (max queueCapacity 1) (lb.step call).2 := fun lb call h =>
      (LoopbackTransport.step_sound_fifo h call).1
    have hsound := Session.invariant hkeep hnew calls
    have horder := Session.fifo (fun lb : LoopbackTransport => lb.ring.items) hkeep
      (fun lb call h => (LoopbackTransport.step_sound_fifo h call).2) hnew calls
    exact direction_of_ring (fun lb : LoopbackTransport => lb.ring) (fun lb ring => { lb with ring })
      (fun lb => lb.closed) (fun lb => lb.closed) hsound.1 hsound.2
      (fun h => LoopbackTransport.closed_of_mem h _) horder (fun _ => rfl) rfl

end Rcp
