import Rcp.Avtp
import Rcp.Scheduler
import Rcp.Transport

/-! Priorities on the network (`tsn.c`): a transport that gives its socket the 802.1p priority of the frame that it is
    about to send. -/

namespace Rcp

/-- `rcp_tsn_pcp_map_t`. -/
abbrev TsnPcpMap := SchedKind → UInt8

/-- `rcp_tsn_default_pcp_map`. -/
def tsnDefaultPcpMap : TsnPcpMap := schedKindRank

/-- `rcp_tsn_pcp_for`. A kind of the model is always one of the seven. -/
def tsnPcpFor (m : TsnPcpMap) (kind : SchedKind) : UInt8 := m kind

/-- `rcp_avtp_peek_subtype`. -/
def avtpPeekSubtype (b : Octets) : Option UInt8 := if b.length < 1 then none else some (b.at 0)

/-- The payload that `rcp_tsn_classify_frame` looks at. -/
def tsnPayload (frame : Octets) : Option Octets := do
  let subtype ← avtpPeekSubtype frame
  if subtype = avtpSubtypeNtscf then (avtpDecodeNtscf frame).toOption.map (·.2)
  else if subtype = avtpSubtypeTscf then (avtpDecodeTscf frame).toOption.map (·.2)
  else none

/-- `rcp_tsn_classify_frame`. Whatever is not understood is a standard request, never a higher class. -/
def tsnClassifyFrame (frame : Octets) : SchedKind :=
  match tsnPayload frame with
  | none => .standard
  | some payload =>
    if payload.length = 0 then .standard else
    match Acf.peekMsgType payload with
    | none => .standard
    | some acfType =>
      if acfType ≠ Acf.msgTypeGbb then .standard else
      match compoundPeekRequestType payload with
      | .error _ => .standard
      | .ok requestType => schedClassify true requestType

/-- `tsn_transport_t` with the priority of its socket, which takes the option whenever it is set. `fd` is negative where
    there is no socket to tag. -/
structure TsnTransport (τ : Type) where
  inner : τ
  fd : Int
  pcpMap : TsnPcpMap := tsnDefaultPcpMap
  soPriority : UInt8 := 0

/-- The answers of a transport to a sequence of calls. -/
def transportAnswers {τ : Type} (step : τ → TransportCall → TransportResult × τ) :
    τ → List TransportCall → List TransportResult
  | _, [] => []
  | t, call :: calls => (step t call).1 :: transportAnswers step (step t call).2 calls

namespace TsnTransport

variable {τ : Type} (innerStep : τ → TransportCall → TransportResult × τ)

/-- The first half of `tsn_send`. -/
def tag (t : TsnTransport τ) (frame : Octets) : TsnTransport τ :=
  if t.fd ≥ 0 then { t with soPriority := tsnPcpFor t.pcpMap (tsnClassifyFrame frame) } else t

/-- `tsn_send`, `tsn_recv` and `tsn_close`: a send is tagged, and then each call goes to the transport inside. -/
def step (t : TsnTransport τ) (call : TransportCall) : TransportResult × TsnTransport τ :=
  let t :=
    match call with
    | .send frame => t.tag frame
    | .recv .. | .close => t
  let (result, inner) := innerStep t.inner call
  (result, { t with inner })

/-- The frames that a sequence of calls sends, each with the priority that the socket has by then. -/
def sent (t : TsnTransport τ) : List TransportCall → List (UInt8 × Octets)
  | [] => []
  | call :: calls =>
    let after := (t.step innerStep call).2
    match call with
    | .send frame => (after.soPriority, frame) :: sent after calls
    | .recv .. | .close => sent after calls

end TsnTransport
end Rcp
