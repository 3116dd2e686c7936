import Rcp.Mock

/-! Dispatching one received request (`mock.c`): plain, under a TSCF header, end-to-end protected, and
    fragmented. -/

namespace Rcp

/-- `rcp_mock_dispatch_result_t`. -/
inductive DispatchResult where
  | ok | queued | dropped | errUnknownBus | pending | cancelled | rejected | chainError | chainAborted | crcError
  | streamFaulted | seqError | fragmentPending
deriving DecidableEq, Repr

/-- The arguments every dispatch entry point takes besides the request itself. -/
structure Envelope where
  byteBusId : ByteBusId
  avtpSubtype : UInt8
  acfMsgType : UInt8
  timeSyncSupported : Bool
  streamId : UInt64
deriving DecidableEq, Repr

/-- The presentation-time arguments of the TSCF entry points; every other one passes the defaults. -/
structure TscfTiming where
  tv : Bool := false
  avtpTimestamp : UInt32 := 0
  gptpReferenceNow : UInt64 := 0
deriving DecidableEq, Repr

/-- What a dispatch returns, with the server it leaves behind. -/
structure Dispatched (σ : Type) where
  result : DispatchResult
  response : Option Octets := none
  server : MockServer σ

/-- The error response several branches build from the header of the request they turn down. -/
def errorResponseTo (request : Octets) (byteBusId : ByteBusId) (error : WireError) : Option Octets :=
  if request.length < 8 then none else
  Acf.buildErrorResponse byteBusId (Acf.unpackHeader request).transactionNum error

namespace MockServer

variable {σ : Type}

/-! ### Admission -/

/-- `finish_admission`. -/
def finishAdmission (srv : MockServer σ) (e : EndpointIx) (r : AdmitResult) (byteBusId : ByteBusId)
    (request : Octets) : Dispatched σ :=
  match r.outcome with
  | .executeNow =>
    let (response, srv) := srv.runHandler e request
    { result := .ok, response := response, server := srv }
  | .queued => { result := .queued, response := r.ack, server := srv }
  | .pending => { result := .pending, response := r.ack, server := srv }
  | .cancellation =>
    let (response, queue) := applyCancellation (srv.endpoints e).queue r.requestType request byteBusId
    { result := .cancelled, response := response, server := srv.setQueue e queue }
  | .rejected | .suspended =>
    let response :=
      if r.error = .none ∨ request.length < 8 then none else
      let hdr := Acf.unpackHeader request
      -- `admission_reject_response_shape`: an unsupported command is answered with an error response.
      if r.error = .unsupportedCmd then Acf.buildErrorResponse byteBusId hdr.transactionNum r.error else
      if Acf.evtRequestsAcknowledge hdr.evt then
        Acf.buildAcknowledgeRejectedResponse byteBusId hdr.transactionNum r.error
      else none
    { result := .rejected, response := response, server := srv }

/-- Un-admission: the request just stored at `i` is taken out again, by its transaction number, and
    answered with an error response. -/
def unadmit (srv : MockServer σ) (e : EndpointIx) (i : SlotIx) (byteBusId : ByteBusId) (error : WireError) :
    Dispatched σ :=
  let queue := (srv.endpoints e).queue
  let tn := (queue.pending i).transactionNum
  { result := .rejected, response := Acf.buildErrorResponse byteBusId tn error,
    server := srv.setQueue e (queue.cancelSingle tn .queued).2 }

/-- What a full request store does to the stream the request came from. -/
def noteOverflow (srv : MockServer σ) (streamId : UInt64) : MockServer σ :=
  match srv.requestStreamCfg.resolveRow streamId with
  | none => srv
  | some row =>
    let enterSafeState := (srv.requestStreamCfg.rows row).rxOvrflwSafestateEnable
    let srv :=
      { srv with
        streamStatus := Function.update srv.streamStatus row ((srv.streamStatus row).noteOverflow enterSafeState) }
    if enterSafeState then (srv.broadcastSafeState (UInt8.ofNat (row.val + 1))).2 else srv

/-- The sequencer access check of a compound request that has just been stored at `i`. It is skipped while
    no sequencer table is configured. -/
def sequencerAccess (srv : MockServer σ) (slot : Pending) (streamId : UInt64) : SequencerAccess :=
  if srv.sequencers.unsupported then .ok else
  if slot.kind ≠ .compound ∧ slot.kind ≠ .compoundWait then .ok else
  srv.sequencers.accessCheck slot.compound.sequencerIndex.toNat (srv.requestStreamCfg.resolveIndex streamId)

/-- `dispatch_plain_inner` from `rcp_server_endpoint_admit_with_ack` on. -/
def dispatchAdmit (srv : MockServer σ) (e : EndpointIx) (env : Envelope) (timing : TscfTiming) (request : Octets) :
    Dispatched σ :=
  let (r, queue) := (srv.endpoints e).queue.admitWithAck request 0 timing.tv timing.avtpTimestamp timing.gptpReferenceNow
  let srv := srv.setQueue e queue
  let admittedIndex := r.index.getD 0
  if r.outcome = .pending ∧ r.requestType = RequestType.timed ∧ !env.timeSyncSupported then
    srv.unadmit e admittedIndex env.byteBusId .gptpFail
  else
    let srv := if r.error = .requestStorageOverflow then srv.noteOverflow env.streamId else srv
    let access :=
      if r.outcome = .pending then
        srv.sequencerAccess ((srv.endpoints e).queue.pending admittedIndex) env.streamId
      else .ok
    if access ≠ .ok then srv.unadmit e admittedIndex env.byteBusId access.wireError
    else srv.finishAdmission e r env.byteBusId request

/-- The presentation gate is lifted where the server ignores TSCF headers it cannot honour. -/
def effectiveTiming (srv : MockServer σ) (env : Envelope) (timing : TscfTiming) : TscfTiming :=
  if env.avtpSubtype = avtpSubtypeTscf ∧ !env.timeSyncSupported ∧ srv.tscfUnsupportedTimeSyncPolicy = .ignore then
    { timing with tv := false }
  else timing

/-- The lifecycle gate as `dispatch_plain_inner` calls it. -/
def accepts (srv : MockServer σ) (env : Envelope) : LifecycleAccept :=
  lifecycleShouldAccept srv.state env.timeSyncSupported env.avtpSubtype env.acfMsgType env.byteBusId
    srv.tscfUnsupportedTimeSyncPolicy

/-- `dispatch_plain_inner`. -/
def dispatchPlainInner (srv : MockServer σ) (env : Envelope) (timing : TscfTiming) (request : Octets) :
    Dispatched σ :=
  match srv.accepts env with
  | .drop => { result := .dropped, server := srv }
  | .reject =>
    { result := .rejected, response := errorResponseTo request env.byteBusId .requestRejected, server := srv }
  | .accept =>
    match srv.findSlotOnStream env.streamId env.byteBusId with
    | none => { result := .errUnknownBus, server := srv }
    | some e => srv.dispatchAdmit e env (srv.effectiveTiming env timing) request

/-- `suppress_response_per_stream_cfg`. -/
def suppressResponsePerStreamCfg (srv : MockServer σ) (streamId : UInt64) (out : Option Octets) : Option Octets :=
  match out, srv.requestStreamCfg.resolveRow streamId with
  | some response, some row =>
    if response.length < 8 then out else
    let cfg := srv.requestStreamCfg.rows row
    if classifyResponse (Acf.unpackHeader response) = .acknowledge then
      if cfg.rxAckStreamIndex = 0 then none else out
    else
      if cfg.rxRespStreamIndex = 0 then none else out
  | _, _ => out

/-- `dispatch_plain`. -/
def dispatchPlain (srv : MockServer σ) (env : Envelope) (timing : TscfTiming) (request : Octets) : Dispatched σ :=
  let d := srv.dispatchPlainInner env timing request
  { d with response := d.server.suppressResponsePerStreamCfg env.streamId d.response }

/-! ### The entry points for one request -/

def dispatch (srv : MockServer σ) (env : Envelope) (request : Octets) : Dispatched σ :=
  srv.dispatchPlain env {} request

def dispatchTscf (srv : MockServer σ) (env : Envelope) (timing : TscfTiming) (tscfReservedAllZero : Bool)
    (request : Octets) : Dispatched σ :=
  if env.avtpSubtype = avtpSubtypeTscf ∧ tscfReservedAllZero then
    if srv.tscfUnsupportedTimeSyncPolicy = .drop then { result := .dropped, server := srv } else
    srv.dispatchPlain { env with avtpSubtype := avtpSubtypeNtscf } { timing with tv := false } request
  else srv.dispatchPlain env timing request

/-- `dispatch_multi_response`: the responses that survive suppression, in order. -/
def dispatchMultiResponse (srv : MockServer σ) (env : Envelope) (request : Octets) (outCap : Nat) :
    DispatchResult × List (Option Octets) × MockServer σ :=
  match srv.accepts env with
  | .drop => (.dropped, [], srv)
  | .reject =>
    (.rejected,
      if outCap = 0 then [] else
      match srv.suppressResponsePerStreamCfg env.streamId (errorResponseTo request env.byteBusId .requestRejected) with
      | none => []
      | some response => [some response],
      srv)
  | .accept =>
    match srv.findSlotOnStream env.streamId env.byteBusId with
    | none => (.errUnknownBus, [], srv)
    | some e =>
      match (srv.endpoints e).multiHandler with
      | none => (.ok, [], srv)
      | some handler =>
        let (responses, world) := handler request outCap srv.world
        let srv := { srv with world := world }
        (.ok, (responses.take outCap).map fun response => srv.suppressResponsePerStreamCfg env.streamId (some response), srv)

/-- The stream-fault check of the E2E entry points. -/
def streamFaulted (srv : MockServer σ) (streamId : UInt64) : Bool :=
  match srv.streamFaultTracker with
  | none => false
  | some tracker => tracker.isFaulted streamId

/-- What a CRC error on `slot` does: the fault tracker and the status of the stream latch it, and the
    stream's endpoints go to their safe state. -/
def noteCrcError (srv : MockServer σ) (streamId : UInt64) (rxEnforceE2e : Bool) : MockServer σ :=
  let srv :=
    { srv with
      streamFaultTracker := srv.streamFaultTracker.map fun tracker => (tracker.onCrcError streamId rxEnforceE2e).2 }
  match srv.requestStreamCfg.resolveRow streamId with
  | none => srv
  | some row =>
    let srv :=
      { srv with
        streamStatus := Function.update srv.streamStatus row ((srv.streamStatus row).noteCrcError rxEnforceE2e) }
    if rxEnforceE2e then (srv.broadcastSafeState (UInt8.ofNat (row.val + 1))).2 else srv

/-- The body `dispatch_e2e` and `dispatch_e2e_tscf` share. They differ in the timing they hand to
    `dispatch_plain`; the CRC covers `avtpTimestamp` in both. -/
def dispatchE2eWith (srv : MockServer σ) (env : Envelope) (timing : TscfTiming) (avtpTimestamp : UInt32)
    (request : Octets) : Dispatched σ :=
  if srv.streamFaulted env.streamId then
    { result := .streamFaulted, response := errorResponseTo request env.byteBusId .pociFailure, server := srv }
  else
    match srv.findSlotOnStream env.streamId env.byteBusId with
    | none => srv.dispatchPlain env timing request
    | some e =>
      if !(srv.endpoints e).reqCrcEnable then srv.dispatchPlain env timing request else
      match e2eUnwrapFramed env.streamId (env.avtpSubtype == avtpSubtypeNtscf) 0 false avtpTimestamp request with
      | (.error error, _) =>
        { result := .crcError,
          response :=
            if error.wireError = .none then none else errorResponseTo request env.byteBusId error.wireError,
          server := srv.noteCrcError env.streamId (srv.endpoints e).rxEnforceE2e }
      | (.ok _, unwrapped) => srv.dispatchPlain env timing unwrapped

def dispatchE2e (srv : MockServer σ) (env : Envelope) (avtpTimestamp : UInt32) (request : Octets) : Dispatched σ :=
  srv.dispatchE2eWith env {} avtpTimestamp request

def dispatchE2eTscf (srv : MockServer σ) (env : Envelope) (timing : TscfTiming) (request : Octets) : Dispatched σ :=
  srv.dispatchE2eWith env timing timing.avtpTimestamp request

/-! ### Fragmented requests -/

def setReasm (srv : MockServer σ) (row : StreamIx) (reasm : Reassembler) : MockServer σ :=
  { srv with fragReasm := Function.update srv.fragReasm row reasm }

/-- A fragment that ends the reassembly without a response. -/
def rejectFragment (srv : MockServer σ) (row : StreamIx) : Dispatched σ :=
  { result := .rejected, server := srv.setReasm row (srv.fragReasm row).reset }

/-- The payload of an ACF message of the given type. -/
def fragmentPayload (acfMsgType : UInt8) (fragment : Octets) : Option Octets :=
  if acfMsgType = Acf.msgTypeGbb then
    match Acf.decodeGbb fragment with
    | .error _ => none
    | .ok (_, payload) => some payload
  else
    match Acf.decodeAbb fragment with
    | .error _ => none
    | .ok (_, payload) => some payload

/-- The ms = 1 branch of `dispatch_e2e_fragment`: no CRC trailer, collect the payload. -/
def dispatchIntermediateFragment (srv : MockServer σ) (row : StreamIx) (acfMsgType : UInt8) (fragment : Octets) :
    Dispatched σ :=
  match fragmentPayload acfMsgType fragment with
  | none => { result := .rejected, server := srv }
  | some payload =>
    let headerLen := if acfMsgType = Acf.msgTypeGbb then Acf.gbbHeaderLen else Acf.abbHeaderLen
    -- The first fragment's header enters the CRC of the whole message.
    let srv :=
      if (srv.fragReasm row).collecting then srv else
      { srv with fragFirstHeader := Function.update srv.fragFirstHeader row (fragment.take headerLen) }
    match (srv.fragReasm row).feed true (Acf.unpackHeader fragment).readSizeOrSegmentNum payload with
    | (.continue, reasm) => { result := .fragmentPending, server := srv.setReasm row reasm }
    | (_, reasm) => { result := .rejected, server := srv.setReasm row reasm.reset }

/-- The header of the final fragment and the re-encoding of the whole message with it: what
    `dispatch_e2e_fragment` does once for ACF_GBB and once for ACF_ABB. -/
structure FinalFragment where
  transactionNum : UInt8
  payload : Octets
  reencode : Octets → Option Octets

def finalFragment (acfMsgType : UInt8) (unwrapped : Octets) : Option FinalFragment :=
  if acfMsgType = Acf.msgTypeGbb then
    match Acf.decodeGbb unwrapped with
    | .error _ => none
    | .ok (hdr, payload) =>
      some { transactionNum := hdr.info.transactionNum, payload := payload, reencode := Acf.encodeGbb hdr }
  else
    match Acf.decodeAbb unwrapped with
    | .error _ => none
    | .ok (hdr, payload) =>
      some { transactionNum := hdr.transactionNum, payload := payload, reencode := Acf.encodeAbb hdr }

/-- The completed reassembly: check the CRC over the whole message, re-encode it and dispatch it. -/
def dispatchReassembled (srv : MockServer σ) (row : StreamIx) (env : Envelope) (timing : TscfTiming)
    (avtpTimestamp : UInt32) (rxEnforceE2e : Bool) (final : FinalFragment) (got : UInt32) (reassembled : Octets) :
    Dispatched σ :=
  let effectiveTs := if env.avtpSubtype = avtpSubtypeNtscf then 0 else avtpTimestamp
  let want := e2eComputeFragmentedCrc
    { avtpSubtype := env.avtpSubtype, streamId := env.streamId, avtpTimestamp := effectiveTs }
    (srv.fragFirstHeader row) reassembled
  if got ≠ want then
    let srv := srv.noteCrcError env.streamId rxEnforceE2e
    { result := .crcError, response := Acf.buildErrorResponse env.byteBusId final.transactionNum .pociFailure,
      server := srv.setReasm row (srv.fragReasm row).reset }
  else
    let srv := srv.setReasm row (srv.fragReasm row).reset
    match final.reencode reassembled with
    | none =>
      -- An empty message has no octets to lose: it is dispatched with a null frame.
      if reassembled.length ≠ 0 then
        { result := .rejected,
          response := Acf.buildErrorResponse env.byteBusId final.transactionNum .requestRejected, server := srv }
      else srv.dispatchPlain env timing []
    | some encoded => srv.dispatchPlain env timing encoded

/-- The ms = 0 branch of `dispatch_e2e_fragment` while a reassembly is under way. The verdict of
    `rcp_e2e_unwrap_framed` is for a single frame and is ignored. -/
def dispatchFinalFragment (srv : MockServer σ) (row : StreamIx) (env : Envelope) (timing : TscfTiming)
    (avtpTimestamp : UInt32) (rxEnforceE2e : Bool) (fragment : Octets) : Dispatched σ :=
  let peekHdr := Acf.unpackHeader fragment
  if fragment.length < e2eCrcLen then srv.rejectFragment row else
  if peekHdr.pad.toNat > fragment.length - e2eCrcLen then srv.rejectFragment row else
  let got := getU32 fragment (fragment.length - e2eCrcLen - peekHdr.pad.toNat)
  match e2eUnwrapFramed env.streamId (env.avtpSubtype == avtpSubtypeNtscf) 0 false avtpTimestamp fragment with
  | (.error .shortFrame, _) => srv.rejectFragment row
  | (_, unwrapped) =>
    match finalFragment env.acfMsgType unwrapped with
    | none => srv.rejectFragment row
    | some final =>
      match (srv.fragReasm row).feed false 0 final.payload with
      | (.complete, reasm) =>
        (srv.setReasm row reasm).dispatchReassembled row env timing avtpTimestamp rxEnforceE2e final got reasm.buf
      | (_, reasm) => (srv.setReasm row reasm).rejectFragment row

/-- The body `dispatch_e2e_fragment` and `dispatch_e2e_fragment_tscf` share. -/
def dispatchE2eFragmentWith (srv : MockServer σ) (env : Envelope) (timing : TscfTiming) (avtpTimestamp : UInt32)
    (fragment : Octets) : Dispatched σ :=
  if srv.streamFaulted env.streamId then
    { result := .streamFaulted, response := errorResponseTo fragment env.byteBusId .pociFailure, server := srv }
  else
    match srv.findSlotOnStream env.streamId env.byteBusId with
    | none => srv.dispatchPlain env timing fragment
    | some e =>
      if !(srv.endpoints e).reqCrcEnable then srv.dispatchPlain env timing fragment else
      if fragment.length < 8 then { result := .rejected, server := srv } else
      match srv.requestStreamCfg.resolveRow env.streamId with
      | none => srv.dispatchE2eWith env timing avtpTimestamp fragment
      | some row =>
        if (Acf.unpackHeader fragment).ms ≠ 0 then srv.dispatchIntermediateFragment row env.acfMsgType fragment else
        if !(srv.fragReasm row).collecting then srv.dispatchE2eWith env timing avtpTimestamp fragment else
        srv.dispatchFinalFragment row env timing avtpTimestamp (srv.endpoints e).rxEnforceE2e fragment

def dispatchE2eFragment (srv : MockServer σ) (env : Envelope) (avtpTimestamp : UInt32) (fragment : Octets) :
    Dispatched σ :=
  srv.dispatchE2eFragmentWith env {} avtpTimestamp fragment

def dispatchE2eFragmentTscf (srv : MockServer σ) (env : Envelope) (timing : TscfTiming) (fragment : Octets) :
    Dispatched σ :=
  srv.dispatchE2eFragmentWith env timing timing.avtpTimestamp fragment

end MockServer

/-- A call of one of the entry points for one request. -/
inductive DispatchCall where
  | dispatch (env : Envelope) (request : Octets)
  | dispatchTscf (env : Envelope) (timing : TscfTiming) (tscfReservedAllZero : Bool) (request : Octets)
  | dispatchE2e (env : Envelope) (avtpTimestamp : UInt32) (request : Octets)
  | dispatchE2eTscf (env : Envelope) (timing : TscfTiming) (request : Octets)
  | dispatchE2eFragment (env : Envelope) (avtpTimestamp : UInt32) (fragment : Octets)
  | dispatchE2eFragmentTscf (env : Envelope) (timing : TscfTiming) (fragment : Octets)
deriving DecidableEq, Repr

def DispatchCall.env : DispatchCall → Envelope
  | .dispatch env _ | .dispatchTscf env .. | .dispatchE2e env .. | .dispatchE2eTscf env ..
  | .dispatchE2eFragment env .. | .dispatchE2eFragmentTscf env .. => env

/-- What the server answers to a call. -/
def MockServer.call {σ : Type} (srv : MockServer σ) : DispatchCall → Dispatched σ
  | .dispatch env request => srv.dispatch env request
  | .dispatchTscf env timing tscfReservedAllZero request => srv.dispatchTscf env timing tscfReservedAllZero request
  | .dispatchE2e env avtpTimestamp request => srv.dispatchE2e env avtpTimestamp request
  | .dispatchE2eTscf env timing request => srv.dispatchE2eTscf env timing request
  | .dispatchE2eFragment env avtpTimestamp fragment => srv.dispatchE2eFragment env avtpTimestamp fragment
  | .dispatchE2eFragmentTscf env timing fragment => srv.dispatchE2eFragmentTscf env timing fragment

end Rcp
