import Rcp.MockDispatch

/-! Dispatching a frame of several requests (`mock.c`): the sequence-number gate, the chain decisions that
    need the order of the members, and the loop over them.

    `dispatch_frame`, `dispatch_frame_e2e` and `dispatch_frame_e2e_tscf` are three copies of one body. They
    differ in the entry point a member goes to and in the results that count as an error. -/

namespace Rcp

/-- `RCP_MOCK_MAX_FRAME_MEMBERS`. -/
def mockMaxFrameMembers : Nat := 32

/-- `peek_member_byte_bus_id`: the message type and the bus of a member that decodes. -/
def peekMemberByteBusId (member : Octets) : Option (UInt8 × ByteBusId) :=
  match Acf.peekMsgType member with
  | none => none
  | some msgType =>
    if msgType = Acf.msgTypeAbb then
      match Acf.decodeAbb member with
      | .error _ => none
      | .ok (hdr, _) => some (msgType, hdr.byteBusId)
    else if msgType = Acf.msgTypeGbb then
      match Acf.decodeGbb member with
      | .error _ => none
      | .ok (hdr, _) => some (msgType, hdr.info.byteBusId)
    else none

/-- `is_chained_member`: the cs bit and the transaction number of a chained request. A member that claims
    to be chained and does not decode as one is none. -/
def isChainedMember (member : Octets) : Option (UInt8 × UInt8) :=
  match compoundPeekRequestType member with
  | .error _ => none
  | .ok requestType =>
    if requestType ≠ RequestType.chained then none else
    match chainedDecodeMember member with
    | .error _ => none
    | .ok r => some (r.cs, r.transactionNum)

/-- One turn of the `last_pending_index` loop. -/
def lastPendingStep (queue : Endpoint) (best : Option SlotIx) (i : SlotIx) : Option SlotIx :=
  if !(queue.pending i).inUse then best else
  match best with
  | none => some i
  | some b => if (queue.pending i).sequence ≥ (queue.pending b).sequence then some i else best

/-- `last_pending_index`: the slot in use with the highest sequence number, `none` for an empty store. -/
def lastPendingIndex (queue : Endpoint) : Option SlotIx :=
  (List.finRange serverMaxPending).foldl (lastPendingStep queue) none

/-- What the loop does to the entry a member has just been stored in: its predecessor counts as done, at
    time 0, and it gets its place in the chain. -/
def tagLastPending (queue : Endpoint) (chainGroup : UInt32) (chainPosition : Nat) : Endpoint :=
  match lastPendingIndex queue with
  | none => queue
  | some last =>
    let queue := (queue.chainPredecessorDone last 0).2
    queue.setSlot last
      { queue.pending last with chainGroup := chainGroup, chainPosition := UInt8.ofNat chainPosition }

/-- The arguments every frame entry point takes besides the frame. -/
structure FrameEnvelope where
  avtpSubtype : UInt8
  timeSyncSupported : Bool
  streamId : UInt64
  sequenceNum : UInt8
deriving DecidableEq, Repr

/-- Which of the three frame entry points is called, with the arguments only it has. -/
inductive FrameKind where
  | plain
  | e2e (avtpTimestamp : UInt32)
  | e2eTscf (timing : TscfTiming)
deriving DecidableEq, Repr

/-- The entry point a member goes to. -/
def FrameKind.memberCall (kind : FrameKind) (env : Envelope) (member : Octets) : DispatchCall :=
  match kind with
  | .plain => .dispatch env member
  | .e2e avtpTimestamp => .dispatchE2e env avtpTimestamp member
  | .e2eTscf timing => .dispatchE2eTscf env timing member

/-- The results that count as an error for the next member of the chain. -/
def FrameKind.isError (kind : FrameKind) (result : DispatchResult) : Bool :=
  result == .errUnknownBus || result == .rejected || result == .dropped ||
    (kind != .plain && result == .crcError)

/-- `rcp_mock_frame_member_result_t`. -/
structure FrameMemberResult where
  result : DispatchResult
  byteBusId : ByteBusId := 0
  response : Option Octets := none
deriving DecidableEq, Repr

/-- The local variables the loop carries from member to member. -/
structure FrameLoop where
  index : Nat := 0
  chainAborted : Bool := false
  prevErrored : Bool := false
  chainGroup : UInt32 := 0
  chainPosition : Nat := 0
  results : List FrameMemberResult := []

namespace FrameLoop

/-- The end of a turn. -/
def finish (l : FrameLoop) (out : FrameMemberResult) (prevErrored : Bool) : FrameLoop :=
  { l with index := l.index + 1, prevErrored := prevErrored, results := l.results ++ [out] }

/-- The chain bookkeeping at the head of a turn: a member that is not chained starts a chain of its own. -/
def enter (l : FrameLoop) (chained : Bool) : FrameLoop :=
  if chained then { l with chainPosition := l.chainPosition + 1 }
  else { l with chainGroup := UInt32.ofNat l.index + 1, chainPosition := 0 }

/-- `rcp_chained_advance` on the variables of the loop; a member that is not chained is left alone. -/
def advance (l : FrameLoop) (chained : Option (UInt8 × UInt8)) : ChainedOutcome × FrameLoop :=
  match chained with
  | none => (.ok, l)
  | some (cs, _) =>
    let (outcome, chainAborted) := chainedAdvance l.chainAborted (decide (l.index > 0)) l.prevErrored cs
    (outcome, { l with chainAborted := chainAborted })

end FrameLoop

namespace MockServer

variable {σ : Type}

/-- `frame_seq_gate_admits`. -/
def frameSeqGateAdmits (srv : MockServer σ) (streamId : UInt64) (sequenceNum : UInt8) : Bool × MockServer σ :=
  match srv.requestStreamCfg.resolveRow streamId with
  | none => (true, srv)
  | some row =>
    let cfg := srv.requestStreamCfg.rows row
    let (result, tracker) := e2eSeqEvaluate (srv.seqTracker row) cfg.rxEnforceSeq cfg.rxSeqSafestateEnable sequenceNum
    let srv :=
      { srv with
        seqTracker := Function.update srv.seqTracker row tracker
        streamStatus := Function.update srv.streamStatus row ((srv.streamStatus row).noteSeq result) }
    (result.accept,
      if result.enterSafeState then (srv.broadcastSafeState (UInt8.ofNat (row.val + 1))).2 else srv)

/-- The bookkeeping of a member that has just been dispatched. Only a stored member is tagged. -/
def tagMember (srv : MockServer σ) (streamId : UInt64) (byteBusId : ByteBusId) (l : FrameLoop)
    (result : DispatchResult) : MockServer σ :=
  if result = .pending then
    match srv.findSlotOnStream streamId byteBusId with
    | none => srv
    | some e => srv.setQueue e (tagLastPending (srv.endpoints e).queue l.chainGroup l.chainPosition)
  else srv

/-- What a turn of the loop decides about a member before it looks at any endpoint. -/
inductive MemberVerdict where
  | malformed
  | refused (out : FrameMemberResult)
  | dispatch (env : Envelope)
deriving DecidableEq, Repr

/-- The verdict on a member, and the variables of the loop after it. -/
def memberVerdict (env : FrameEnvelope) (l : FrameLoop) (member : Octets) : MemberVerdict × FrameLoop :=
  match peekMemberByteBusId member with
  | none => (.malformed, l)
  | some (msgType, byteBusId) =>
    let chained := isChainedMember member
    let tn := (chained.map (·.2)).getD 0
    match (l.enter chained.isSome).advance chained with
    | (.chainError, l) =>
      (.refused
        { result := .chainError, byteBusId := byteBusId,
          response := Acf.buildErrorResponse byteBusId tn .chainError }, l)
    | (.chainAborted, l) =>
      (.refused
        { result := .chainAborted, byteBusId := byteBusId,
          response := Acf.buildErrorResponse byteBusId tn .chainAborted }, l)
    | (.ok, l) =>
      (.dispatch
        { byteBusId := byteBusId, avtpSubtype := env.avtpSubtype, acfMsgType := msgType,
          timeSyncSupported := env.timeSyncSupported, streamId := env.streamId }, l)

/-- One turn of the loop. -/
def frameMember (kind : FrameKind) (env : FrameEnvelope) (s : MockServer σ × FrameLoop) (member : Octets) :
    MockServer σ × FrameLoop :=
  let (srv, l) := s
  match memberVerdict env l member with
  | (.malformed, l) => (srv, l.finish { result := .errUnknownBus } true)
  | (.refused out, l) => (srv, l.finish out true)
  | (.dispatch menv, l) =>
    let d := srv.call (kind.memberCall menv member)
    (d.server.tagMember env.streamId menv.byteBusId l d.result,
      l.finish { result := d.result, byteBusId := menv.byteBusId, response := d.response } (kind.isError d.result))

/-- The octets of member `i`, or `none` where the loop breaks: with more members than offsets were stored,
    the end of the last stored one is not known. -/
def memberOctets (frame : Octets) (offsets : List Nat) (i : Nat) : Option Octets :=
  let realCount := offsets.length
  let storedCount := min realCount mockMaxFrameMembers
  let memberOff := offsets.getD i 0
  if i + 1 < storedCount then some ((frame.drop memberOff).take (offsets.getD (i + 1) 0 - memberOff)) else
  if i + 1 = realCount then some (frame.drop memberOff) else none

/-- `process_count`. -/
def processCount (offsets : List Nat) (outCap : Nat) : Nat := min (min offsets.length mockMaxFrameMembers) outCap

/-- The members the loop gets to. -/
def frameMembers (frame : Octets) (offsets : List Nat) (outCap : Nat) : List Octets :=
  (((List.range (processCount offsets outCap)).map (memberOctets frame offsets)).takeWhile (·.isSome)).filterMap id

/-- The shared body of the three frame entry points. -/
def dispatchFrameWith (kind : FrameKind) (srv : MockServer σ) (env : FrameEnvelope) (frame : Octets) (outCap : Nat) :
    List FrameMemberResult × MockServer σ :=
  match schedSplitFrameMembers frame with
  | none | some [] => ([], srv)
  | some offsets =>
    match srv.frameSeqGateAdmits env.streamId env.sequenceNum with
    | (false, srv) => (List.replicate (processCount offsets outCap) { result := .seqError }, srv)
    | (true, srv) =>
      let (srv, l) := (frameMembers frame offsets outCap).foldl (frameMember kind env) (srv, {})
      (l.results, srv)

def dispatchFrame (srv : MockServer σ) (env : FrameEnvelope) (frame : Octets) (outCap : Nat) :
    List FrameMemberResult × MockServer σ :=
  dispatchFrameWith .plain srv env frame outCap

def dispatchFrameE2eTscf (srv : MockServer σ) (env : FrameEnvelope) (timing : TscfTiming) (frame : Octets)
    (outCap : Nat) : List FrameMemberResult × MockServer σ :=
  dispatchFrameWith (.e2eTscf timing) srv env frame outCap

end MockServer
end Rcp
