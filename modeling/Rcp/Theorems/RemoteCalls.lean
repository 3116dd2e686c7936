import Rcp.LinkCall
import Rcp.Theorems.LossyLink

/-! A call over a link is a call of the device: the network and the server in between show only where a frame gets
    lost. -/

namespace Rcp
namespace Link
variable {σ : Type}

/-! ### Calls of the device itself -/

/-- What the endpoint does with a request, and what it sends back, which the configuration of the stream may withhold
    and which has to fit a frame. -/
def device (srv : MockServer σ) (streamId : StreamId) (handler : Option (Handler σ)) (request : Octets) (world : σ) :
    Option Octets × σ :=
  let (response, world) := MockServer.handle handler request world
  ((srv.suppressResponsePerStreamCfg streamId.toU64 response).filter fun b => b.length ≤ avtpNtscfMaxPayload, world)

/-- A call with nothing between the adapter and the device. A request that is lost does not reach the device; where the
    response is lost, it has been executed all the same. -/
def localCall (device : Octets → σ → Option Octets × σ) (a : RcpAdapter) (c : LinkCall) (world : σ) :
    Except AdaptErrc RelayMessage × σ :=
  match a.resolveOp c.message with
  | none => (.error .encode, world)
  | some op =>
    match messageToRequest op a.byteBusId a.localStreamId c.message (a.nextTransaction + 1).toUInt8 with
    | .error e => (.error e, world)
    | .ok request =>
      if c.arrives then
        let (response, world) := device request world
        match response.filter fun _ => c.answered with
        | none => (.error .timeout, world)
        | some response => (responseToMessage op a.byteBusId response c.nowMs, world)
      else (.error .timeout, world)

def localCalls (device : Octets → σ → Option Octets × σ) (a : RcpAdapter) (world : σ) :
    List LinkCall → List (Except AdaptErrc RelayMessage) × σ
  | [] => ([], world)
  | c :: cs =>
    let (result, world) := localCall device a c world
    let (results, world) := localCalls device (a.prepare c.message).2 world cs
    (result :: results, world)

/-! ### One call -/

variable {l : Link σ} {origin : MockServer σ} {streamId : StreamId} {byteBusId : ByteBusId} {e : EndpointIx}
  {handler : Option (Handler σ)} {number : UInt32} {lost : Nat} {c : LinkCall} {timeSyncSupported : Bool}
  {outCap : Nat} {hdr : NtscfHeader}

/-- A call leaves the link as its request does. -/
theorem call_link (hdr : NtscfHeader) :
    (l.call timeSyncSupported outCap hdr c).2 = step timeSyncSupported outCap l c.toLinkSend := by
  unfold call step
  rcases l.adapter.prepare c.message with ⟨_ | ⟨op, transactionNum, frame⟩, a⟩
  · rfl
  · dsimp only
    split
    · split <;> rfl
    · rfl

/-- What the adapter makes of the response in a frame. -/
theorem receive_reply {a : RcpAdapter} {op : AdaptOp} (hop : op ≠ .discovery) {response reply : Octets}
    (h : avtpEncodeNtscf hdr response = some reply) (nowMs : UInt64) :
    a.receive op reply nowMs = responseToMessage op a.byteBusId response nowMs := by
  unfold RcpAdapter.receive
  rw [if_neg hop, avtpDecodeNtscf_of_encode h]

theorem avtpEncodeNtscf_long {payload : Octets} (h : ¬payload.length ≤ avtpNtscfMaxPayload) :
    avtpEncodeNtscf hdr payload = none := by
  rw [avtpEncodeNtscf, if_pos (Nat.lt_of_not_le h)]

/-- The frame of an executed request's response. -/
theorem replyFrame_executed (request : Octets) (world : σ) :
    replyFrame hdr (executed origin streamId byteBusId (MockServer.handle handler request world).1) =
      (device origin streamId handler request world).1.bind fun b => avtpEncodeNtscf hdr b := by
  change (origin.suppressResponsePerStreamCfg streamId.toU64 (MockServer.handle handler request world).1).bind _ =
    Option.bind (Option.filter _ (origin.suppressResponsePerStreamCfg streamId.toU64
      (MockServer.handle handler request world).1)) _
  rcases origin.suppressResponsePerStreamCfg streamId.toU64 (MockServer.handle handler request world).1 with _ | b
  · rfl
  · rw [Option.filter_some]
    by_cases hlen : b.length ≤ avtpNtscfMaxPayload
    · rw [if_pos (decide_eq_true hlen)]
    · rw [if_neg (by rwa [decide_eq_true_iff]), Option.bind_some, avtpEncodeNtscf_long hlen, Option.bind_none]

/-- A message without a request. -/
theorem call_skip (hnone : l.adapter.nextRequest c.message = none) (device : Octets → σ → Option Octets × σ)
    (world : σ) :
    localCall device l.adapter c world = ((l.call timeSyncSupported outCap hdr c).1, world) := by
  unfold call localCall RcpAdapter.prepare
  cases hop : l.adapter.resolveOp c.message with
  | none => rfl
  | some op =>
    rw [RcpAdapter.nextRequest, hop] at hnone
    have hreq : requestOf op l.adapter.byteBusId l.adapter.localStreamId c.message
        (l.adapter.nextTransaction + 1).toUInt8 = none := hnone
    unfold RcpAdapter.buildFrame messageToRequest
    dsimp only
    rw [hreq]

theorem prepare_op {a a' : RcpAdapter} {msg : RelayMessage} {op : AdaptOp} {transactionNum : UInt8} {frame : Octets}
    (h : a.prepare msg = (.ok (op, transactionNum, frame), a')) : a.resolveOp msg = some op := by
  unfold RcpAdapter.prepare at h
  cases hop : a.resolveOp msg with
  | none =>
    rw [hop] at h
    cases h
  | some op' =>
    rw [hop] at h
    dsimp only at h
    split at h
    · cases h
    · cases h
      rfl

/-- A message with a request, which is lost or reaches the device. -/
theorem localCall_request {request : Octets} (hreq : l.adapter.nextRequest c.message = some request)
    (device : Octets → σ → Option Octets × σ) (world : σ) :
    ∃ op, l.adapter.resolveOp c.message = some op ∧
      localCall device l.adapter c world =
        if c.arrives then
          ((((device request world).1.filter fun _ => c.answered).elim (.error .timeout) fun response =>
            responseToMessage op l.adapter.byteBusId response c.nowMs), (device request world).2)
        else (.error .timeout, world) := by
  obtain ⟨op, hop, hrequest⟩ := Option.bind_eq_some_iff.mp hreq
  refine ⟨op, hop, ?_⟩
  unfold localCall messageToRequest
  rw [hop]
  dsimp only
  rw [hrequest]
  dsimp only
  split
  · rcases device request world with ⟨response, world'⟩
    dsimp only
    rcases response.filter fun _ => c.answered with _ | response <;> rfl
  · rfl

theorem Ready.call_lose {request : Octets} (h : l.Ready origin streamId byteBusId e handler number lost)
    (hreq : l.adapter.nextRequest c.message = some request) (harrives : c.arrives = false) (world : σ) :
    localCall (device origin streamId handler) l.adapter c world =
      ((l.call timeSyncSupported outCap hdr c).1, world) := by
  obtain ⟨op, hop, hlocal⟩ := localCall_request hreq (device origin streamId handler) world
  obtain ⟨op', transactionNum, frame, hdr', a', hprep, -, -, -, -, -⟩ := RcpAdapter.prepare_some h.adapter hreq
  rw [hlocal, harrives]
  unfold call
  rw [hprep]
  dsimp only
  rw [harrives]
  rfl

theorem Ready.call_arrive {request : Octets} (h : l.Ready origin streamId byteBusId e handler number lost)
    (hreq : l.adapter.nextRequest c.message = some request) (harrives : c.arrives = true) (hlost : lost < 127)
    (hcap : 0 < outCap) :
    localCall (device origin streamId handler) l.adapter c l.server.world =
      ((l.call timeSyncSupported outCap hdr c).1, (l.call timeSyncSupported outCap hdr c).2.server.world) := by
  obtain ⟨op, hop, hlocal⟩ := localCall_request hreq (device origin streamId handler) l.server.world
  obtain ⟨op', transactionNum, frame, hdr', a', hprep, ha', -, -, -, -⟩ := RcpAdapter.prepare_some h.adapter hreq
  obtain rfl : op' = op := Option.some.inj ((prepare_op hprep).symm.trans hop)
  obtain ⟨srv, hstep, hworld, -⟩ := h.arrive timeSyncSupported hreq harrives hlost hcap
  have hanswer : (l.server.serve timeSyncSupported outCap frame).1 =
      executed origin streamId byteBusId (MockServer.handle handler request l.server.world).1 := by
    unfold step at hstep
    rw [hprep] at hstep
    dsimp only at hstep
    rw [if_pos harrives] at hstep
    have hanswers := congrArg Link.answers hstep
    exact (List.append_inj' hanswers rfl).2 |> List.singleton_inj.mp
  have hne := RcpAdapter.resolveOp_ne h.adapter.kind hop
  rw [call_link, hstep, hlocal, if_pos harrives]
  refine Prod.ext ?_ hworld.symm
  unfold call
  rw [hprep]
  dsimp only
  rw [if_pos harrives, hanswer, replyFrame_executed]
  rcases hresponse : (device origin streamId handler request l.server.world).1 with _ | response
  · rfl
  · have hfits : response.length ≤ avtpNtscfMaxPayload :=
      decide_eq_true_iff.mp (Option.filter_eq_some_iff.mp hresponse).2
    obtain ⟨reply, hreply, -, -, -⟩ := avtpDecodeNtscf_encode hdr hfits
    rw [Option.bind_some, hreply, Option.filter_some, Option.filter_some]
    cases c.answered with
    | false => rfl
    | true =>
      have hbus : a'.byteBusId = l.adapter.byteBusId := ha'.bus.trans h.adapter.bus.symm
      exact (hbus ▸ receive_reply hne hreply c.nowMs).symm

/-! ### Runs of calls -/

theorem Ready.calls (h : l.Ready origin streamId byteBusId e handler number lost) (hcap : 0 < outCap)
    {cs : List LinkCall}
    (hloss : LossesBelow 127 lost ((l.adapter.requests (cs.map (·.toLinkSend))).map Prod.snd)) :
    localCalls (device origin streamId handler) l.adapter l.server.world cs =
      ((l.calls timeSyncSupported outCap hdr cs).1, (l.calls timeSyncSupported outCap hdr cs).2.server.world) := by
  induction cs generalizing l number lost with
  | nil => rfl
  | cons c cs ih =>
    rw [List.map_cons, RcpAdapter.requests] at hloss
    have hrest : ∀ {number' : UInt32} {lost' : Nat},
        (step timeSyncSupported outCap l c.toLinkSend).Ready origin streamId byteBusId e handler number' lost' →
        (step timeSyncSupported outCap l c.toLinkSend).adapter = (l.adapter.prepare c.message).2 →
        LossesBelow 127 lost'
          ((RcpAdapter.requests (l.adapter.prepare c.message).2 (cs.map (·.toLinkSend))).map Prod.snd) →
        localCall (device origin streamId handler) l.adapter c l.server.world =
          ((l.call timeSyncSupported outCap hdr c).1, (l.call timeSyncSupported outCap hdr c).2.server.world) →
        localCalls (device origin streamId handler) l.adapter l.server.world (c :: cs) =
          ((l.calls timeSyncSupported outCap hdr (c :: cs)).1,
            (l.calls timeSyncSupported outCap hdr (c :: cs)).2.server.world) := by
      intro number' lost' hready hadapter hloss hcall
      rw [← call_link hdr] at hready hadapter
      rw [localCalls, hcall]
      dsimp only
      rw [← hadapter, ih hready (hadapter ▸ hloss)]
      rfl
    have hworld : ∀ {a' : RcpAdapter}, step timeSyncSupported outCap l c.toLinkSend = { l with adapter := a' } →
        (l.call timeSyncSupported outCap hdr c).2.server.world = l.server.world := fun hstep => by
      rw [call_link, hstep]
    cases hreq : l.adapter.nextRequest c.message with
    | none =>
      rw [hreq] at hloss
      obtain ⟨hstep, hready⟩ := h.skip timeSyncSupported outCap hreq
      refine hrest hready (by rw [hstep]) hloss ?_
      rw [hworld hstep]
      exact call_skip hreq _ _
    | some request =>
      rw [hreq] at hloss
      cases harrives : c.arrives with
      | false =>
        rw [harrives] at hloss
        obtain ⟨hstep, hready⟩ := h.lose timeSyncSupported outCap hreq harrives
        refine hrest hready (by rw [hstep]) hloss ?_
        rw [hworld hstep]
        exact h.call_lose hreq harrives _
      | true =>
        rw [harrives] at hloss
        obtain ⟨hlost, hloss⟩ := hloss
        obtain ⟨srv, hstep, -, hready⟩ := h.arrive timeSyncSupported hreq harrives hlost hcap
        exact hrest hready (by rw [hstep]) hloss (h.call_arrive hreq harrives hlost hcap)

/-- A remote call is a local one. Over a link that loses fewer than 127 requests in a row, a sequence of calls returns
    what the same calls return where there is nothing between the adapter and the device, and leaves the device as they
    do. A call whose request gets lost times out and has no effect; one whose response gets lost times out and has been
    executed once. -/
theorem remote_calls_are_local (l : Link σ) (cs : List LinkCall) (timeSyncSupported : Bool) (outCap : Nat)
    (hdr : NtscfHeader) (streamId : StreamId) (byteBusId : ByteBusId) (e : EndpointIx) (handler : Option (Handler σ))
    (number : UInt32) (hready : l.Ready l.server streamId byteBusId e handler number 0) (hcap : 0 < outCap)
    (hloss : LossesBelow 127 0 ((l.adapter.requests (cs.map (·.toLinkSend))).map Prod.snd)) :
    ((l.calls timeSyncSupported outCap hdr cs).1, (l.calls timeSyncSupported outCap hdr cs).2.server.world) =
      localCalls (device l.server streamId handler) l.adapter l.server.world cs :=
  (hready.calls hcap hloss).symm

/-- A UART that answers each read with the number of the requests before it. -/
def countingUart : Handler (List Octets) := fun request log =>
  (uartEncodeReadResponse 5 [UInt8.ofNat log.length] (request.at 5) false 0, log ++ [request])

def countingLink : Link (List Octets) where
  adapter := uartLink.adapter
  server :=
    { uartLink.server with
      endpoints := fun e =>
        if e.val = 0 then { inUse := true, byteBusId := 5, queue := .init true, handler := some countingUart } else {} }

/-- Three reads: the request of the second gets lost, and the response to the third. -/
def threeCalls : List LinkCall :=
  let message : RelayMessage := { entries := [("rcp.adapt.op", "uart_read"), ("rcp.uart.read_size", "1")] }
  [{ message, arrives := true, answered := true, nowMs := 1 },
    { message, arrives := false, answered := true, nowMs := 2 },
    { message, arrives := true, answered := false, nowMs := 3 }]

def replyHeader : NtscfHeader :=
  { sv := 1, version := 0, ntscfDataLength := 0, sequenceNum := 0, streamId := .fromU64 2 }

theorem remote_calls_are_local_reads :
    ((countingLink.calls true 1 replyHeader threeCalls).1,
        (countingLink.calls true 1 replyHeader threeCalls).2.server.world) =
      localCalls (device countingLink.server (.fromU64 1) (some countingUart)) countingLink.adapter [] threeCalls := by
  have hserves : countingLink.server.Serves (StreamId.fromU64 1).toU64 (5 &&& 0x7FF) 0 (some countingUart) :=
    ⟨rfl, by decide, rfl, rfl, rfl⟩
  have hinStep : countingLink.server.InStep (StreamId.fromU64 1).toU64 0 0 := by
    intro row _ hprev
    cases hprev
  have hready : countingLink.Ready countingLink.server (.fromU64 1) 5 0 (some countingUart) 0 0 :=
    ⟨⟨rfl, rfl, by decide, rfl⟩, hserves, hinStep, rfl⟩
  exact remote_calls_are_local countingLink threeCalls true 1 replyHeader (.fromU64 1) 5 0 _ 0 hready (by decide)
    (by decide)

end Link
end Rcp
