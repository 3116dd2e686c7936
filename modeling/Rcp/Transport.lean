import Rcp.Lib.RingBuffer
import Rcp.Octets

/-! The transports inside a process: the two sides of a pair of `shmem.c`, and the loopback of `avtp.c`. A call holds the
    mutex of its transport, so that it is one step; a call of recv that finds nothing to return gives the mutex back and
    waits, which is a step that changes nothing. Allocations are taken to succeed. -/

namespace Rcp

/-- The errors of `rcp_errc_t` that a transport returns. -/
inductive TransportErrc where
  | closed | timeout | busy
deriving DecidableEq, Repr

/-- What a call returns; a call of recv that succeeds also hands out a frame. -/
inductive TransportResult where
  | ok
  | frame (frame : Octets)
  | error (e : TransportErrc)
  | waits
deriving DecidableEq, Repr

/-- A call of the table of a transport. `done` is `rcp_context_done` at the moment of the call, or at the moment it looks
    again. -/
inductive TransportCall where
  | send (frame : Octets)
  | recv (done : Bool) (bufCap : Nat)
  | close
deriving DecidableEq, Repr

/-- What a send does with the buffer of its direction. -/
def transportSend (ownClosed : Bool) (ring : Lib.RingBuffer Octets) (frame : Octets) : TransportResult × Lib.RingBuffer Octets :=
  if ownClosed then (.error .closed, ring) else
  if ring.count ≥ ring.cap then (.error .busy, ring) else
  (.ok, ring.push frame)

/-- What a recv does with the buffer of its direction. A frame that is too long for the caller's buffer stays queued. -/
def transportRecv (closed : Bool) (ring : Lib.RingBuffer Octets) (done : Bool) (bufCap : Nat) :
    TransportResult × Lib.RingBuffer Octets :=
  if ring.count = 0 ∧ !closed ∧ !done then (.waits, ring) else
  if ring.count = 0 then (.error (if closed then .closed else .timeout), ring) else
  let item := ring.front
  if item.length > bufCap then (.error .busy, ring) else
  (.frame item, ring.pop)

/-- The buffers of a new transport. -/
def transportRing (queueCapacity : Nat) : Lib.RingBuffer Octets := .new (if queueCapacity = 0 then 1 else queueCapacity)

/-! ### The pair of `shmem.c` -/

/-- `is_a`. -/
inductive ShmemSide where
  | a | b
deriving DecidableEq, Repr

def ShmemSide.peer : ShmemSide → ShmemSide
  | a => b
  | b => a

/-- `rcp_shmem_pair_core_t`. -/
structure ShmemPairCore where
  aClosed : Bool := false
  bClosed : Bool := false
  aToB : Lib.RingBuffer Octets
  bToA : Lib.RingBuffer Octets
deriving DecidableEq, Repr

namespace ShmemPairCore

/-- `rcp_shmem_avtp_pair_new`. -/
def new (queueCapacity : Nat) : ShmemPairCore where
  aToB := transportRing queueCapacity
  bToA := transportRing queueCapacity

/-- `own_closed`. -/
def ownClosed (c : ShmemPairCore) : ShmemSide → Bool
  | .a => c.aClosed
  | .b => c.bClosed

/-- `peer_closed`. -/
def peerClosed (c : ShmemPairCore) : ShmemSide → Bool
  | .a => c.bClosed
  | .b => c.aClosed

/-- `items`, `cap`, `head` and `count` of `shmem_side_send`. -/
def sendRing (c : ShmemPairCore) : ShmemSide → Lib.RingBuffer Octets
  | .a => c.aToB
  | .b => c.bToA

def setSendRing (c : ShmemPairCore) (side : ShmemSide) (ring : Lib.RingBuffer Octets) : ShmemPairCore :=
  match side with
  | .a => { c with aToB := ring }
  | .b => { c with bToA := ring }

/-- `items`, `cap`, `head` and `count` of `shmem_side_recv`. -/
def recvRing (c : ShmemPairCore) : ShmemSide → Lib.RingBuffer Octets
  | .a => c.bToA
  | .b => c.aToB

def setRecvRing (c : ShmemPairCore) (side : ShmemSide) (ring : Lib.RingBuffer Octets) : ShmemPairCore :=
  match side with
  | .a => { c with bToA := ring }
  | .b => { c with aToB := ring }

/-- `shmem_side_send`. -/
def send (c : ShmemPairCore) (side : ShmemSide) (frame : Octets) : TransportResult × ShmemPairCore :=
  let (result, ring) := transportSend (c.ownClosed side) (c.sendRing side) frame
  (result, c.setSendRing side ring)

/-- `shmem_side_recv`. -/
def recv (c : ShmemPairCore) (side : ShmemSide) (done : Bool) (bufCap : Nat) : TransportResult × ShmemPairCore :=
  let (result, ring) := transportRecv (c.ownClosed side || c.peerClosed side) (c.recvRing side) done bufCap
  (result, c.setRecvRing side ring)

/-- `shmem_side_close`. -/
def close (c : ShmemPairCore) : ShmemSide → ShmemPairCore
  | .a => { c with aClosed := true }
  | .b => { c with bClosed := true }

/-- A call that a side makes. -/
def step (c : ShmemPairCore) : ShmemSide × TransportCall → TransportResult × ShmemPairCore
  | (side, .send frame) => c.send side frame
  | (side, .recv done bufCap) => c.recv side done bufCap
  | (side, .close) => (.ok, c.close side)

end ShmemPairCore

/-! ### The loopback of `avtp.c` -/

/-- `rcp_avtp_loopback_transport_t`. -/
structure LoopbackTransport where
  closed : Bool := false
  ring : Lib.RingBuffer Octets
deriving DecidableEq, Repr

namespace LoopbackTransport

/-- `rcp_avtp_loopback_transport_new`. -/
def new (queueCapacity : Nat) : LoopbackTransport where
  ring := transportRing queueCapacity

/-- `loopback_send`. -/
def send (lb : LoopbackTransport) (frame : Octets) : TransportResult × LoopbackTransport :=
  let (result, ring) := transportSend lb.closed lb.ring frame
  (result, { lb with ring })

/-- `loopback_recv`. -/
def recv (lb : LoopbackTransport) (done : Bool) (bufCap : Nat) : TransportResult × LoopbackTransport :=
  let (result, ring) := transportRecv lb.closed lb.ring done bufCap
  (result, { lb with ring })

/-- `loopback_close`. -/
def close (lb : LoopbackTransport) : LoopbackTransport := { lb with closed := true }

def step (lb : LoopbackTransport) : TransportCall → TransportResult × LoopbackTransport
  | .send frame => lb.send frame
  | .recv done bufCap => lb.recv done bufCap
  | .close => (.ok, lb.close)

end LoopbackTransport
end Rcp
