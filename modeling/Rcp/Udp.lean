import Mathlib.Logic.Function.Basic
import Rcp.Avtp
import Rcp.Transport

/-! The transports over UDP (`udp.c`): each AVTPDU goes in a datagram of its own, after a sequence number of the sender.
    The network may lose a datagram, or hand it over late or more than once. Sockets that could not be opened are left
    out. -/

namespace Rcp

/-- `RCP_UDP_ANNEX_J_SEQ_LEN`. -/
def udpAnnexJSeqLen : Nat := 4

/-- `RCP_UDP_AVTP_MAX_FRAME`, the most that a receive takes from the socket. -/
def udpAvtpMaxFrame : Nat := udpAnnexJSeqLen + avtpTscfHeaderLen + avtpTscfMaxPayload

/-- The octets that a datagram over IPv4 holds; the socket refuses a longer one. -/
def udpMaxDatagram : Nat := 65507

/-- `rcp_udp_annexj_wrap`. -/
def udpAnnexjWrap (seq : UInt32) (avtpdu : Octets) : Octets := putU32 seq ++ avtpdu

/-- `rcp_udp_annexj_unwrap`. -/
def udpAnnexjUnwrap (datagram : Octets) : Option (UInt32 × Octets) :=
  if datagram.length < udpAnnexJSeqLen then none else
  some (getU32 datagram 0, datagram.drop udpAnnexJSeqLen)

/-- How a transport was made: connected to a peer, or bound (`bound_mode`). -/
inductive UdpMode (α : Type) where
  | dial (host : α)
  | bind
deriving DecidableEq, Repr

/-- `rcp_udp_avtp_transport_t`, with the addresses `α`. -/
structure UdpTransport (α : Type) where
  mode : UdpMode α
  closed : Bool := false
  peer : Option α := none
  sendSeq : UInt32 := 0
  recvSeq : Option UInt32 := none
deriving DecidableEq, Repr

namespace UdpTransport
variable {α : Type}

/-- Where a send goes. -/
def destination (u : UdpTransport α) : Option α :=
  match u.mode with
  | .dial host => some host
  | .bind => u.peer

/-- `u->send_seq++`. -/
def countSend (u : UdpTransport α) : UdpTransport α := { u with sendSeq := u.sendSeq + 1 }

/-- `udp_avtp_send` up to its call of the socket. The number is taken even where there is no peer yet. -/
def send (u : UdpTransport α) (frame : Octets) : Except TransportErrc (α × Octets) × UdpTransport α :=
  if u.closed then (.error .closed, u) else
  match u.destination with
  | none => (.error .busy, u.countSend)
  | some dest => (.ok (dest, udpAnnexjWrap u.sendSeq frame), u.countSend)

/-- What a receive notes of a datagram: the peer, where the transport is bound, and the number. -/
def note (u : UdpTransport α) (source : α) (seq : UInt32) : UdpTransport α :=
  match u.mode with
  | .dial _ => { u with recvSeq := some seq }
  | .bind => { u with peer := some source, recvSeq := some seq }

/-- A turn of the loop of `udp_avtp_recv`, with what the socket has for it: a datagram and its sender, or nothing. A
    turn that waits is followed by another. -/
def recv (u : UdpTransport α) (done : Bool) (bufCap : Nat) (arrived : Option (α × Octets)) :
    TransportResult × UdpTransport α :=
  if u.closed then (.error .closed, u) else
  if done then (.error .timeout, u) else
  match arrived with
  | none => (.waits, u)
  | some (source, datagram) =>
    match udpAnnexjUnwrap (datagram.take udpAvtpMaxFrame) with
    | none => (.waits, u)
    | some (seq, payload) =>
      (if payload.length > bufCap then .error .busy else .frame payload, u.note source seq)

/-- `udp_avtp_close`. -/
def close (u : UdpTransport α) : UdpTransport α := { u with closed := true }

end UdpTransport

/-! ### The network -/

structure UdpDatagram (α : Type) where
  source : α
  dest : α
  octets : Octets
deriving DecidableEq, Repr

/-- The transports, by address, and every datagram that has been sent. Other addresses are those of foreign hosts. -/
structure UdpNetwork (α : Type) where
  transports : α → Option (UdpTransport α)
  datagrams : List (UdpDatagram α) := []

/-- What happens on the network: the calls of the transports, and what a foreign host sends. `taken` says whether the
    socket takes the datagram, `arrived` what a receive finds. -/
inductive UdpOp (α : Type) where
  | send (a : α) (frame : Octets) (taken : Bool)
  | recv (a : α) (done : Bool) (bufCap : Nat) (arrived : Option (UdpDatagram α))
  | close (a : α)
  | foreign (d : UdpDatagram α)
deriving DecidableEq, Repr

namespace UdpNetwork
variable {α : Type} [DecidableEq α]

/-- Only what was sent to a transport arrives there, and on a connected socket only what its peer sent. -/
def arrives (net : UdpNetwork α) (a : α) (u : UdpTransport α) (d : UdpDatagram α) : Bool :=
  d ∈ net.datagrams && d.dest = a &&
    match u.mode with
    | .dial host => d.source = host
    | .bind => true

def setTransport (net : UdpNetwork α) (a : α) (u : UdpTransport α) : UdpNetwork α :=
  { net with transports := Function.update net.transports a (some u) }

/-- What a receive at `a` finds. -/
def found (net : UdpNetwork α) (a : α) (u : UdpTransport α) (arrived : Option (UdpDatagram α)) : Option (α × Octets) :=
  (arrived.filter (net.arrives a u)).map fun d => (d.source, d.octets)

/-- A call of `udp_avtp_send`. -/
def send (net : UdpNetwork α) (a : α) (u : UdpTransport α) (frame : Octets) (taken : Bool) :
    TransportResult × UdpNetwork α :=
  let net := net.setTransport a (u.send frame).2
  match (u.send frame).1 with
  | .error e => (.error e, net)
  | .ok (dest, octets) =>
    if taken && octets.length ≤ udpMaxDatagram then
      (.ok, { net with datagrams := net.datagrams ++ [{ source := a, dest, octets }] })
    else (.error .closed, net)

/-- An operation, and its result where a transport has one to give. -/
def step (net : UdpNetwork α) : UdpOp α → Option TransportResult × UdpNetwork α
  | .send a frame taken =>
    match net.transports a with
    | none => (none, net)
    | some u => (some (net.send a u frame taken).1, (net.send a u frame taken).2)
  | .recv a done bufCap arrived =>
    match net.transports a with
    | none => (none, net)
    | some u =>
      let (result, u') := u.recv done bufCap (net.found a u arrived)
      (some result, net.setTransport a u')
  | .close a =>
    match net.transports a with
    | none => (none, net)
    | some u => (some .ok, net.setTransport a u.close)
  | .foreign d =>
    match net.transports d.source with
    | none => (none, { net with datagrams := net.datagrams ++ [d] })
    | some _ => (none, net)

/-- The network before anything is sent. -/
def start (modes : α → Option (UdpMode α)) : UdpNetwork α where
  transports a := (modes a).map fun mode => { mode }

def run (net : UdpNetwork α) (ops : List (UdpOp α)) : UdpNetwork α := ops.foldl (fun net op => (net.step op).2) net

end UdpNetwork
end Rcp
