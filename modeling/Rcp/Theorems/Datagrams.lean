import Rcp.Lib.History
import Rcp.Theorems.Framing
import Rcp.Udp

/-! Frames over a network that loses, delays and repeats datagrams: what a transport delivers, and whom it answers. -/

namespace Rcp

/-! ### One transport -/

namespace UdpTransport
variable {α : Type} {u : UdpTransport α}

theorem send_cases (u : UdpTransport α) (frame : Octets) :
    (u.closed = true ∧ u.send frame = (.error .closed, u)) ∨
    (u.closed = false ∧ u.destination = none ∧ u.send frame = (.error .busy, u.countSend)) ∨
    ∃ dest, u.closed = false ∧ u.destination = some dest ∧
      u.send frame = (.ok (dest, udpAnnexjWrap u.sendSeq frame), u.countSend) := by
  unfold send
  cases u.closed with
  | true => exact .inl ⟨rfl, rfl⟩
  | false =>
    cases u.destination with
    | none => exact .inr (.inl ⟨rfl, rfl, rfl⟩)
    | some dest => exact .inr (.inr ⟨dest, rfl, rfl, rfl⟩)

@[simp] theorem countSend_mode (u : UdpTransport α) : u.countSend.mode = u.mode := rfl
@[simp] theorem countSend_closed (u : UdpTransport α) : u.countSend.closed = u.closed := rfl
@[simp] theorem countSend_peer (u : UdpTransport α) : u.countSend.peer = u.peer := rfl
@[simp] theorem note_mode (u : UdpTransport α) (source : α) (seq : UInt32) : (u.note source seq).mode = u.mode := by
  unfold note
  split <;> rfl
@[simp] theorem note_closed (u : UdpTransport α) (source : α) (seq : UInt32) :
    (u.note source seq).closed = u.closed := by
  unfold note
  cases u.mode <;> rfl
@[simp] theorem note_sendSeq (u : UdpTransport α) (source : α) (seq : UInt32) :
    (u.note source seq).sendSeq = u.sendSeq := by
  unfold note
  cases u.mode <;> rfl
theorem note_peer (h : u.mode = .bind) (source : α) (seq : UInt32) : (u.note source seq).peer = some source := by
  unfold note
  rw [h]

/-- A datagram that a receive takes. -/
structure Takes (u : UdpTransport α) (done : Bool) (arrived : Option (α × Octets)) (source : α) (octets : Octets) :
    Prop where
  isOpen : u.closed = false
  inTime : done = false
  arrived : arrived = some (source, octets)
  long : udpAnnexJSeqLen ≤ octets.length

theorem recv_takes {done : Bool} {arrived : Option (α × Octets)} {source : α} {octets : Octets}
    (h : u.Takes done arrived source octets) (bufCap : Nat) :
    u.recv done bufCap arrived =
      (if ((octets.take udpAvtpMaxFrame).drop udpAnnexJSeqLen).length > bufCap then .error .busy
        else .frame ((octets.take udpAvtpMaxFrame).drop udpAnnexJSeqLen),
        u.note source (getU32 (octets.take udpAvtpMaxFrame) 0)) := by
  have hlong : ¬(octets.take udpAvtpMaxFrame).length < udpAnnexJSeqLen := by
    rw [List.length_take]
    exact Nat.not_lt.mpr (Nat.le_min.mpr ⟨Nat.le_add_right_of_le (Nat.le_add_right _ _), h.long⟩)
  unfold recv udpAnnexjUnwrap
  rw [h.arrived, h.isOpen, h.inTime, if_neg Bool.false_ne_true, if_neg Bool.false_ne_true]
  dsimp only
  rw [if_neg hlong]

/-- A receive that takes none changes nothing. -/
theorem recv_leaves {done : Bool} {arrived : Option (α × Octets)}
    (h : ∀ source octets, ¬u.Takes done arrived source octets) (bufCap : Nat) :
    (u.recv done bufCap arrived).2 = u ∧ ∀ frame, (u.recv done bufCap arrived).1 ≠ .frame frame := by
  unfold recv
  by_cases hclosed : u.closed = true
  · rw [if_pos hclosed]
    exact ⟨rfl, nofun⟩
  rw [if_neg hclosed]
  by_cases hdone : done = true
  · rw [if_pos hdone]
    exact ⟨rfl, nofun⟩
  rw [if_neg hdone]
  rcases arrived with _ | ⟨source, octets⟩
  · exact ⟨rfl, nofun⟩
  · have hshort : octets.length < udpAnnexJSeqLen := by
      by_contra hlong
      exact h source octets ⟨Bool.eq_false_iff.mpr hclosed, Bool.eq_false_iff.mpr hdone, rfl, Nat.not_lt.mp hlong⟩
    have htake : (octets.take udpAvtpMaxFrame).length < udpAnnexJSeqLen :=
      Nat.lt_of_le_of_lt (List.length_take_le' _ _) hshort
    dsimp only [udpAnnexjUnwrap]
    rw [if_pos htake]
    exact ⟨rfl, nofun⟩

end UdpTransport

/-! ### One step of the network -/

namespace UdpNetwork
variable {α : Type} [DecidableEq α] {net : UdpNetwork α} {a : α} {u : UdpTransport α}

/-- What an operation makes of the transport at `a`. -/
def after (net : UdpNetwork α) (op : UdpOp α) (a : α) (u : UdpTransport α) : UdpTransport α :=
  match op with
  | .send b frame _ => if b = a then (u.send frame).2 else u
  | .recv b done bufCap arrived => if b = a then (u.recv done bufCap (net.found a u arrived)).2 else u
  | .close b => if b = a then u.close else u
  | .foreign _ => u

theorem send_transports (net : UdpNetwork α) (a : α) (u : UdpTransport α) (frame : Octets) (taken : Bool) :
    (net.send a u frame taken).2.transports = Function.update net.transports a (some (u.send frame).2) := by
  unfold send
  dsimp only
  split
  · rfl
  · split <;> rfl

/-- An update at `b` with what `f` makes of the transport there. -/
theorem update_transports {b : α} {v : UdpTransport α} (hv : net.transports b = some v)
    (f : UdpTransport α → UdpTransport α) (a : α) :
    Function.update net.transports b (some (f v)) a = (net.transports a).map fun u => if b = a then f u else u := by
  by_cases hb : b = a
  · subst hb
    rw [Function.update_self, hv, Option.map_some, if_pos rfl]
  · simp only [if_neg hb]
    rw [Function.update_of_ne (Ne.symm hb), Option.map_id']

theorem step_transports (net : UdpNetwork α) (op : UdpOp α) (a : α) :
    (net.step op).2.transports a = (net.transports a).map (net.after op a) := by
  have hid : ∀ b, net.transports b = none → ∀ f : UdpTransport α → UdpTransport α,
      net.transports a = (net.transports a).map fun u => if b = a then f u else u := by
    intro b hb f
    by_cases heq : b = a
    · subst heq
      rw [hb]
      rfl
    · simp only [if_neg heq, Option.map_id']
  cases op with
  | send b frame taken =>
    dsimp only [step, after]
    cases hv : net.transports b with
    | none => exact hid b hv fun u => (u.send frame).2
    | some v =>
      dsimp only
      rw [send_transports]
      exact update_transports hv (fun u => (u.send frame).2) a
  | recv b done bufCap arrived =>
    dsimp only [step, after]
    cases hv : net.transports b with
    | none => exact hid b hv fun u => (u.recv done bufCap (net.found a u arrived)).2
    | some v =>
      dsimp only [setTransport]
      rw [update_transports hv (fun u => (u.recv done bufCap (net.found b u arrived)).2) a]
      by_cases hb : b = a
      · subst hb
        rfl
      · refine Option.map_congr fun u _ => ?_
        dsimp only [after]
        rw [if_neg hb, if_neg hb]
  | close b =>
    dsimp only [step, after]
    cases hv : net.transports b with
    | none => exact hid b hv UdpTransport.close
    | some v => exact update_transports hv UdpTransport.close a
  | foreign d =>
    have hsame : (net.transports a).map (net.after (.foreign d) a) = net.transports a := Option.map_id'
    rw [hsame]
    dsimp only [step]
    split <;> rfl

/-- A send of the transport at `a`. -/
def sendsFrom (a : α) : UdpOp α → Bool
  | .send b _ _ => b = a
  | .recv .. | .close _ | .foreign _ => false

variable {modes : α → Option (UdpMode α)} {ops : List (UdpOp α)} {op : UdpOp α} {mode : UdpMode α}

/-- The transport at `a` takes a datagram from a source with the property `p`. -/
def Hears (modes : α → Option (UdpMode α)) (a : α) (p : α → Prop) (before : List (UdpOp α)) (op : UdpOp α) : Prop :=
  ∃ u done bufCap arrived source octets, op = .recv a done bufCap arrived ∧
    ((start modes).run before).transports a = some u ∧
    u.Takes done (((start modes).run before).found a u arrived) source octets ∧ p source

/-- What is known of the transport at `a`. -/
structure Known (modes : α → Option (UdpMode α)) (ops : List (UdpOp α)) (a : α) (mode : UdpMode α)
    (u : UdpTransport α) : Prop where
  transport : ((start modes).run ops).transports a = some u
  kept : u.mode = mode
  sendSeq : u.closed = false → u.sendSeq = UInt32.ofNat (ops.countP (sendsFrom a))
  peer : mode = .bind → ∀ b, u.peer = some b ↔ Lib.Since (Hears modes a (· = b)) (Hears modes a fun _ => True) ops

theorem run_concat (net : UdpNetwork α) (ops : List (UdpOp α)) (op : UdpOp α) :
    net.run (ops ++ [op]) = ((net.run ops).step op).2 := by
  rw [run, run, List.foldl_concat]

/-- A step at which the transport at `a` takes no datagram. -/
theorem Known.quiet (h : Known modes ops a mode u) (hears : ∀ p, ¬Hears modes a p ops op)
    (hmode : (((start modes).run ops).after op a u).mode = u.mode)
    (hseq : (((start modes).run ops).after op a u).closed = false → u.closed = false ∧
      (((start modes).run ops).after op a u).sendSeq = if sendsFrom a op then u.sendSeq + 1 else u.sendSeq)
    (hpeer : (((start modes).run ops).after op a u).peer = u.peer) :
    Known modes (ops ++ [op]) a mode (((start modes).run ops).after op a u) where
  transport := by rw [run_concat, step_transports, h.transport, Option.map_some]
  kept := hmode.trans h.kept
  sendSeq := fun hopen => by
    obtain ⟨hbefore, hnumber⟩ := hseq hopen
    rw [hnumber, List.countP_append, List.countP_singleton, h.sendSeq hbefore]
    cases sendsFrom a op with
    | true => rw [if_pos rfl, if_pos rfl, UInt32.ofNat_add]; rfl
    | false => rw [if_neg Bool.false_ne_true, if_neg Bool.false_ne_true, Nat.add_zero]
  peer := fun hbind b => by
    rw [hpeer, h.peer hbind, Lib.since_concat]
    simp only [hears, false_or, not_false_eq_true, and_true]

theorem Known.step (h : Known modes ops a mode u) (op : UdpOp α) :
    Known modes (ops ++ [op]) a mode (((start modes).run ops).after op a u) := by
  cases op with
  | foreign d =>
    exact h.quiet (fun p ⟨_, _, _, _, _, _, hop, _⟩ => nomatch hop) rfl (fun hopen => ⟨hopen, rfl⟩) rfl
  | close b =>
    refine h.quiet (fun p ⟨_, _, _, _, _, _, hop, _⟩ => nomatch hop) ?_ ?_ ?_ <;> dsimp only [after] <;> split
    · rfl
    · rfl
    · exact nofun
    · exact fun hopen => ⟨hopen, rfl⟩
    · rfl
    · rfl
  | send b frame taken =>
    have hsends : sendsFrom a (.send b frame taken) = decide (b = a) := rfl
    refine h.quiet (fun p ⟨_, _, _, _, _, _, hop, _⟩ => nomatch hop) ?_ ?_ ?_ <;> rw [after] <;>
      by_cases hb : b = a
    · rw [if_pos hb]
      rcases u.send_cases frame with ⟨-, hs⟩ | ⟨-, -, hs⟩ | ⟨_, -, -, hs⟩ <;> rw [hs] <;> rfl
    · rw [if_neg hb]
    · rw [if_pos hb, hsends, decide_eq_true hb, if_pos rfl]
      rcases u.send_cases frame with ⟨hclosed, hs⟩ | ⟨hopen, -, hs⟩ | ⟨_, hopen, -, hs⟩ <;> rw [hs]
      · intro hopen
        rw [hclosed] at hopen
        cases hopen
      · exact fun _ => ⟨hopen, rfl⟩
      · exact fun _ => ⟨hopen, rfl⟩
    · rw [if_neg hb, hsends, decide_eq_false hb, if_neg Bool.false_ne_true]
      exact fun hopen => ⟨hopen, rfl⟩
    · rw [if_pos hb]
      rcases u.send_cases frame with ⟨-, hs⟩ | ⟨-, -, hs⟩ | ⟨_, -, -, hs⟩ <;> rw [hs] <;> rfl
    · rw [if_neg hb]
  | recv b done bufCap arrived =>
    by_cases htakes : b = a ∧ ∃ source octets, u.Takes done (((start modes).run ops).found a u arrived) source octets
    · obtain ⟨rfl, source, octets, htakes⟩ := htakes
      have hafter : ((start modes).run ops).after (.recv b done bufCap arrived) b u =
          u.note source (getU32 (octets.take udpAvtpMaxFrame) 0) := by
        rw [after, if_pos rfl, UdpTransport.recv_takes htakes]
      have hears : ∀ p, Hears modes b p ops (.recv b done bufCap arrived) ↔ p source := by
        intro p
        constructor
        · rintro ⟨v, done', bufCap', arrived', source', octets', hop, hv, htakes', hp⟩
          cases hop
          obtain rfl := Option.some.inj (h.transport.symm.trans hv)
          have hsame := htakes.arrived.symm.trans htakes'.arrived
          cases hsame
          exact hp
        · intro hp
          exact ⟨u, done, bufCap, arrived, source, octets, rfl, h.transport, htakes, hp⟩
      constructor
      · rw [run_concat, step_transports, h.transport, Option.map_some]
      · rw [hafter, UdpTransport.note_mode, h.kept]
      · rw [hafter, UdpTransport.note_closed, UdpTransport.note_sendSeq]
        intro hopen
        rw [List.countP_append, h.sendSeq hopen]
        rfl
      · intro hbind c
        rw [hafter, UdpTransport.note_peer (h.kept.trans hbind), Lib.since_concat, hears, hears, Option.some.injEq]
        simp only [not_true_eq_false, and_false, or_false]
    · have hafter : ((start modes).run ops).after (.recv b done bufCap arrived) a u = u := by
        rw [after]
        split
        · rename_i hb
          refine (UdpTransport.recv_leaves (fun source octets ht => ?_) bufCap).1
          exact htakes ⟨hb, source, octets, ht⟩
        · rfl
      refine h.quiet (fun p => ?_) (by rw [hafter]) (by rw [hafter]; exact fun hopen => ⟨hopen, rfl⟩) (by rw [hafter])
      rintro ⟨v, done', bufCap', arrived', source, octets, hop, hv, ht, -⟩
      cases hop
      obtain rfl := Option.some.inj (h.transport.symm.trans hv)
      exact htakes ⟨rfl, source, octets, ht⟩

end UdpNetwork
end Rcp
