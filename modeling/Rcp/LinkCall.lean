import Rcp.Link

/-! Calls over a link: the adapter waits for the response to each of its requests (`adapter_call`), and the server's
    side sends the first response that dispatching a frame gives back in a frame of its own. Either frame may get lost;
    a response that arrives does so before the call times out. -/

namespace Rcp

/-- A call: its message and whether its frame arrives, whether the response arrives, and when it is taken. -/
structure LinkCall extends LinkSend where
  answered : Bool
  nowMs : UInt64
deriving DecidableEq, Repr

/-- The frame with the response to a frame of one request, under the header `hdr`. -/
def replyFrame (hdr : NtscfHeader) (answer : List FrameMemberResult) : Option Octets :=
  (answer.head?.bind (·.response)).bind fun response => avtpEncodeNtscf hdr response

namespace Link
variable {σ : Type}

/-- `adapter_call`. -/
def call (timeSyncSupported : Bool) (outCap : Nat) (hdr : NtscfHeader) (l : Link σ) (c : LinkCall) :
    Except AdaptErrc RelayMessage × Link σ :=
  match l.adapter.prepare c.message with
  | (.error e, a) => (.error e, { l with adapter := a })
  | (.ok (op, _, frame), a) =>
    if c.arrives then
      let (answer, srv) := l.server.serve timeSyncSupported outCap frame
      let l := { adapter := a, server := srv, answers := l.answers ++ [answer] }
      match (replyFrame hdr answer).filter fun _ => c.answered with
      | none => (.error .timeout, l)
      | some reply => (a.receive op reply c.nowMs, l)
    else (.error .timeout, { l with adapter := a })

/-- The results of a sequence of calls. -/
def calls (timeSyncSupported : Bool) (outCap : Nat) (hdr : NtscfHeader) (l : Link σ) :
    List LinkCall → List (Except AdaptErrc RelayMessage) × Link σ
  | [] => ([], l)
  | c :: cs =>
    let (result, l) := l.call timeSyncSupported outCap hdr c
    let (results, l) := calls timeSyncSupported outCap hdr l cs
    (result :: results, l)

end Link
end Rcp
