import Rcp.Adapt

/-! The caller the relay gets for an endpoint (`adapt.c`), over a lossless transport that keeps the order, with a peer that
    answers every request once, whenever it likes. -/

namespace Rcp

/-- `ADAPT_RECV_BUF_LEN`. -/
def adaptRecvBufLen : Nat := avtpNtscfMaxPayload + 64

/-- `rcp_adapter_t`. The counters are ints that wrap. -/
structure RcpAdapter where
  localStreamId : StreamId
  byteBusId : ByteBusId
  kind : AdaptEpKind
  nextTransaction : UInt32 := 0
  nextSequence : UInt32 := 0
deriving DecidableEq, Repr

namespace RcpAdapter
variable (a : RcpAdapter)

/-- `resolve_op`. -/
def resolveOp (msg : RelayMessage) : Option AdaptOp := do
  let op ← AdaptOp.fromString (← msg.getMeta "rcp.adapt.op")
  if op.kind ≠ a.kind then none else some op

/-- `build_frame`. -/
def buildFrame (op : AdaptOp) (msg : RelayMessage) (transactionNum : UInt8) : Except AdaptErrc Octets × RcpAdapter :=
  match messageToRequest op a.byteBusId a.localStreamId msg transactionNum with
  | .error e => (.error e, a)
  | .ok body =>
    if op = .discovery then (.ok body, a) else
    let a := { a with nextSequence := a.nextSequence + 1 }
    let hdr : NtscfHeader :=
      { sv := 1, version := 0, ntscfDataLength := 0, sequenceNum := a.nextSequence.toUInt8, streamId := a.localStreamId }
    match avtpEncodeNtscf hdr body with
    | none => (.error .encode, a)
    | some frame => (.ok frame, a)

/-- What `adapter_send` and `adapter_call` begin with: the operation, the transaction number and the frame that is
    sent. -/
def prepare (msg : RelayMessage) : Except AdaptErrc (AdaptOp × UInt8 × Octets) × RcpAdapter :=
  match a.resolveOp msg with
  | none => (.error .encode, a)
  | some op =>
    let a := { a with nextTransaction := a.nextTransaction + 1 }
    let transactionNum := a.nextTransaction.toUInt8
    match a.buildFrame op msg transactionNum with
    | (.error e, a) => (.error e, a)
    | (.ok frame, a) => (.ok (op, transactionNum, frame), a)

/-- What `adapter_call` makes of the frame it receives. -/
def receive (op : AdaptOp) (b : Octets) (nowMs : UInt64) : Except AdaptErrc RelayMessage :=
  if op = .discovery then responseToMessage op a.byteBusId b nowMs else
  match avtpDecodeNtscf b with
  | .error _ => .error .decode
  | .ok (_, acf) => responseToMessage op a.byteBusId acf nowMs

end RcpAdapter

/-! ### Sessions -/

/-- A request that has been sent. Its number, which is not on the wire, tells it from all others. -/
structure SentRequest where
  number : Nat
  op : AdaptOp
  transactionNum : UInt8
deriving DecidableEq, Repr

/-- A frame is a response that carries the transaction number of the request. -/
def SentRequest.answeredBy (r : SentRequest) (frame : Octets) : Bool :=
  if r.op = .discovery then
    match discoveryDecodeCommon frame with
    | .error _ => false
    | .ok (_, hdr, _) => hdr.transactionNum == r.transactionNum
  else
    match avtpDecodeNtscf frame with
    | .error _ => false
    | .ok (_, acf) =>
      match epDecodeMessage acf with
      | .error _ => false
      | .ok msg => msg.info.transactionNum == r.transactionNum

/-- A response on its way, with the number of the request it answers. -/
structure QueuedReply where
  request : Nat
  frame : Octets
deriving DecidableEq, Repr

/-- A call that has returned `RCP_ADAPT_OK`: its own request, the request that the frame it took answers, and the
    message. -/
structure ReturnedCall where
  request : Nat
  answered : Nat
  message : RelayMessage
deriving DecidableEq, Repr

/-- An adapter with its transport and its peer. -/
structure CallerSession where
  adapter : RcpAdapter
  sent : Nat := 0
  unanswered : List SentRequest := []
  inbox : List QueuedReply := []
  waiting : Option SentRequest := none
  returned : List ReturnedCall := []
deriving DecidableEq, Repr

/-- What happens in a session: `adapter_send`, the parts of `adapter_call` before and after its wait, and an answer of the
    peer. -/
inductive CallerEvent where
  | send (msg : RelayMessage)
  | call (req : RelayMessage)
  | answer (request : Nat) (frame : Octets)
  | receive (nowMs : UInt64)
  | timeout
deriving DecidableEq, Repr

namespace CallerSession

/-- The request of a message is sent, if there is one. -/
def transmit (s : CallerSession) (msg : RelayMessage) : Option SentRequest × CallerSession :=
  match s.adapter.prepare msg with
  | (.error _, a) => (none, { s with adapter := a })
  | (.ok (op, transactionNum, _), a) =>
    let r : SentRequest := { number := s.sent, op, transactionNum }
    (some r, { s with adapter := a, sent := s.sent + 1, unanswered := s.unanswered ++ [r] })

/-- One event, unless it cannot happen: there is one operation at a time, a call times out only while nothing is queued,
    and a frame that its buffer cannot take stays in the queue. -/
def step (s : CallerSession) : CallerEvent → Option CallerSession
  | .send msg => if s.waiting.isSome then none else some (s.transmit msg).2
  | .call req =>
    if s.waiting.isSome then none else
    let (r, s) := s.transmit req
    some { s with waiting := r }
  | .answer request frame => do
    let r ← s.unanswered.find? (·.number == request)
    if !r.answeredBy frame then none else
    some { s with unanswered := s.unanswered.filter (·.number != request), inbox := s.inbox ++ [{ request, frame }] }
  | .receive nowMs =>
    match s.waiting, s.inbox with
    | some r, reply :: inbox =>
      if reply.frame.length > adaptRecvBufLen then some { s with waiting := none } else
      match s.adapter.receive r.op reply.frame nowMs with
      | .error _ => some { s with waiting := none, inbox }
      | .ok message =>
        let returned := s.returned ++ [{ request := r.number, answered := reply.request, message }]
        some { s with waiting := none, inbox, returned }
    | _, _ => none
  | .timeout =>
    match s.waiting, s.inbox with
    | some _, [] => some { s with waiting := none }
    | _, _ => none

/-- A session runs. -/
def run (s : CallerSession) (es : List CallerEvent) : Option CallerSession := es.foldlM step s

/-- `rcp_adapt`. -/
def start (localStreamId : StreamId) (byteBusId : ByteBusId) (kind : AdaptEpKind) : CallerSession where
  adapter := { localStreamId, byteBusId, kind }

end CallerSession
end Rcp
