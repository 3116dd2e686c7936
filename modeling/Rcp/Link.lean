import Rcp.Caller
import Rcp.MockFrame

/-! An adapter and a server, joined by a transport that keeps the order of the frames and may lose some of them. The
    server's side hands what arrives to `rcp_mock_server_dispatch_frame`, under the stream and the number of the AVTP
    header. -/

namespace Rcp

/-- What the server's side does with a frame that arrives: the answers to its members. -/
def MockServer.serve {σ : Type} (srv : MockServer σ) (timeSyncSupported : Bool) (outCap : Nat) (frame : Octets) :
    List FrameMemberResult × MockServer σ :=
  match avtpDecodeNtscf frame with
  | .error _ => ([], srv)
  | .ok (hdr, acf) =>
    srv.dispatchFrame
      { avtpSubtype := avtpSubtypeNtscf, timeSyncSupported, streamId := hdr.streamId.toU64
        sequenceNum := hdr.sequenceNum } acf outCap

/-- A message the adapter is given, and whether the frame it makes of it arrives. -/
structure LinkSend where
  message : RelayMessage
  arrives : Bool
deriving DecidableEq, Repr

/-- Both ends, with the answers to each frame that has arrived. -/
structure Link (σ : Type) where
  adapter : RcpAdapter
  server : MockServer σ
  answers : List (List FrameMemberResult) := []

namespace Link
variable {σ : Type}

/-- One message. -/
def step (timeSyncSupported : Bool) (outCap : Nat) (l : Link σ) (s : LinkSend) : Link σ :=
  match l.adapter.prepare s.message with
  | (.error _, a) => { l with adapter := a }
  | (.ok (_, _, frame), a) =>
    if s.arrives then
      let (answer, srv) := l.server.serve timeSyncSupported outCap frame
      { adapter := a, server := srv, answers := l.answers ++ [answer] }
    else { l with adapter := a }

/-- A run of messages. -/
def run (timeSyncSupported : Bool) (outCap : Nat) (l : Link σ) (sends : List LinkSend) : Link σ :=
  sends.foldl (step timeSyncSupported outCap) l

end Link
end Rcp
