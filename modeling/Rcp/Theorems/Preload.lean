import Rcp.Lib.Session
import Rcp.PreloadQueue
import Rcp.Theorems.Canonical

/-! The queue of standard requests hands every request on that it took: in order, once and as it came, over any number of
    times that the endpoint is disabled and enabled again. -/

namespace Rcp
open Lib

/-- A configuration request: evt[2:0] = 111b in an ABB message, or in a GBB message whose request type can be peeked and is
    not that of a compound wait. -/
def IsConfiguration (frame : Octets) : Prop :=
  8 ≤ frame.length ∧ (Acf.unpackHeader frame).evt &&& 0x07 = 0x07 ∧
    ((Acf.unpackHeader frame).acfMsgType = Acf.msgTypeAbb ∨
      (Acf.unpackHeader frame).acfMsgType = Acf.msgTypeGbb ∧
        ∃ requestType, Acf.peekGbbRequestType frame = some requestType ∧
          RequestType.isCompoundWait requestType = false)

theorem isConfigurationRequest_iff (frame : Octets) :
    Endpoint.isConfigurationRequest frame = true ↔ IsConfiguration frame := by
  unfold Endpoint.isConfigurationRequest IsConfiguration
  by_cases hlen : frame.length < 8
  · simp [hlen]
  by_cases hevt : (Acf.unpackHeader frame).evt &&& 0x07 = 0x07
  · by_cases habb : (Acf.unpackHeader frame).acfMsgType = Acf.msgTypeAbb
    · simp [hlen, hevt, habb, Nat.le_of_not_lt hlen]
    · cases Acf.peekGbbRequestType frame <;> simp [hlen, hevt, habb, Nat.le_of_not_lt hlen]
  · simp [hlen, hevt]

/-! ### The acknowledge -/

/-- A request asks for an acknowledge by evt[3]. -/
def RequestsAcknowledge (frame : Octets) : Prop := 8 ≤ frame.length ∧ (Acf.unpackHeader frame).evt &&& 0x08 ≠ 0

/-- An acknowledge of a request, as its sender reads it. -/
def Acknowledges (frame ack : Octets) : Prop :=
  ∃ hdr, Acf.decodeAbb ack = .ok (hdr, []) ∧ hdr.byteBusId = (Acf.unpackHeader frame).byteBusId ∧
    hdr.transactionNum = (Acf.unpackHeader frame).transactionNum ∧ hdr.evt = Acf.evtAcknowledge ∧ hdr.rsp = 1 ∧ hdr.err = 0

theorem buildStoreAck_of_requests {frame : Octets} (h : RequestsAcknowledge frame) :
    ∃ ack, buildStoreAck frame = some ack ∧ Acknowledges frame ack := by
  obtain ⟨hlen, hevt⟩ := h
  obtain ⟨ack, henc, hdec, -⟩ := Acf.decodeAbb_encodeAbb
    { byteBusId := (Acf.unpackHeader frame).byteBusId, transactionNum := (Acf.unpackHeader frame).transactionNum,
      evt := Acf.evtAcknowledge, op := Acf.opNone, rsp := 1, err := 0 } (List.length_nil.trans_le (Nat.zero_le _))
  have hevtAck : Acf.evtAcknowledge &&& 0xF = Acf.evtAcknowledge := by decide
  have hrsp : (1 : UInt8) &&& 0x1 = 1 := by decide
  refine ⟨ack, ?_, _, hdec, Acf.byteBusId_and frame, rfl, hevtAck, hrsp, UInt8.zero_and⟩
  have hasked : Acf.evtRequestsAcknowledge (Acf.unpackHeader frame).evt = true := bne_iff_ne.mpr hevt
  rw [buildStoreAck, if_neg (Nat.not_lt.mpr hlen)]
  simp only [hasked]
  exact henc

theorem buildStoreAck_eq_none {frame : Octets} (h : ¬ RequestsAcknowledge frame) : buildStoreAck frame = none := by
  rw [buildStoreAck]
  by_cases hlen : frame.length < 8
  · exact if_pos hlen
  · have hevt : (Acf.unpackHeader frame).evt &&& 0x08 = 0 := by
      by_contra hne
      exact h ⟨by omega, hne⟩
    simp [hlen, Acf.evtRequestsAcknowledge, hevt]

/-! ### The calls -/

namespace PreloadQueue
variable {ep : PreloadQueue} {frame : Octets}

/-- What `submit` does. -/
theorem submit_cases (ep : PreloadQueue) (frame : Octets) :
    ((ep.epEnable = false ∧ ¬ IsConfiguration frame) ∧
      ep.submit frame = (false, buildStoreAck frame, { ep with queue := ep.queue.push 4 (by decide) frame })) ∨
    (¬ (ep.epEnable = false ∧ ¬ IsConfiguration frame) ∧ ep.submit frame = (true, none, ep)) := by
  rw [submit, ← isConfigurationRequest_iff]
  cases ep.epEnable with
  | true => exact Or.inr ⟨fun h => Bool.noConfusion h.1, rfl⟩
  | false =>
    cases Endpoint.isConfigurationRequest frame with
    | true => exact Or.inr ⟨fun h => h.2 rfl, rfl⟩
    | false => exact Or.inl ⟨⟨rfl, Bool.false_ne_true⟩, rfl⟩

theorem submit_fst (ep : PreloadQueue) (frame : Octets) :
    (ep.submit frame).1 = false ↔ ep.epEnable = false ∧ ¬ IsConfiguration frame := by
  rcases submit_cases ep frame with ⟨h, hs⟩ | ⟨h, hs⟩
  · rw [hs]
    exact iff_of_true rfl h
  · rw [hs]
    exact iff_of_false Bool.noConfusion h

/-- An acknowledge goes out exactly for a request that was queued and asks for one, and it is an acknowledge of it. -/
theorem submit_ack (ep : PreloadQueue) (frame : Octets) :
    ((ep.submit frame).2.1.isSome ↔ (ep.submit frame).1 = false ∧ RequestsAcknowledge frame) ∧
    ∀ ack, (ep.submit frame).2.1 = some ack → Acknowledges frame ack := by
  rcases submit_cases ep frame with ⟨-, hs⟩ | ⟨-, hs⟩
  · rw [hs]
    by_cases hack : RequestsAcknowledge frame
    · obtain ⟨ack, hsome, hacks⟩ := buildStoreAck_of_requests hack
      rw [hsome]
      refine ⟨iff_of_true rfl ⟨rfl, hack⟩, ?_⟩
      rintro _ ⟨⟩
      exact hacks
    · rw [buildStoreAck_eq_none hack]
      exact ⟨iff_of_false Bool.noConfusion fun hq => hack hq.2, fun ack hsome => by cases hsome⟩
  · rw [hs]
    exact ⟨iff_of_false Bool.noConfusion fun hq => Bool.noConfusion hq.1, fun ack hsome => by cases hsome⟩

/-- What `drain_one` does. -/
theorem drainOne_cases (ep : PreloadQueue) :
    (ep.epEnable = true ∧ ep.queue.contents = ep.queue.front :: ep.queue.popFront.contents ∧
      ep.drainOne = (some ep.queue.front, { ep with queue := ep.queue.popFront })) ∨
    ((ep.epEnable = false ∨ ep.queue.contents = []) ∧ ep.drainOne = (none, ep)) := by
  rw [drainOne]
  cases ep.epEnable with
  | false => exact Or.inr ⟨Or.inl rfl, rfl⟩
  | true =>
    by_cases hempty : ep.queue.len = 0
    · exact Or.inr ⟨Or.inr (GrowArray.contents_eq_nil hempty), if_pos hempty⟩
    · exact Or.inl ⟨rfl, GrowArray.contents_eq_cons (Nat.pos_of_ne_zero hempty), if_neg hempty⟩

theorem drainOne_fst (ep : PreloadQueue) : ep.drainOne.1 = if ep.epEnable then ep.queue.contents.head? else none := by
  rcases drainOne_cases ep with ⟨henable, hcontents, hdrain⟩ | ⟨hnone, hdrain⟩
  · rw [hdrain, henable, hcontents]
    rfl
  · rw [hdrain]
    rcases hnone with hdisabled | hempty
    · rw [hdisabled]
      rfl
    · rw [hempty]
      exact (ite_self none).symm

/-! ### The store that the other calls of the server work on -/

/-- The endpoint with this queue for its own. -/
def onto (q : PreloadQueue) (ep : Endpoint) : Endpoint := { ep with epEnable := q.epEnable, queue := q.queue.contents }

theorem submit_onto (q : PreloadQueue) (ep : Endpoint) (frame : Octets) :
    (q.onto ep).submit frame = ((q.submit frame).1, (q.submit frame).2.1, (q.submit frame).2.2.onto ep) := by
  rw [submit, Endpoint.submit]
  change (if q.epEnable = true then _ else _) = _
  split
  · rfl
  · split
    · rfl
    · simp only [onto, GrowArray.contents_push]

theorem setEnable_onto (q : PreloadQueue) (ep : Endpoint) (enable : Bool) :
    (q.onto ep).setEnable enable = (q.setEnable enable).onto ep := rfl

theorem drainOne_onto (q : PreloadQueue) (ep : Endpoint) :
    (q.onto ep).drainOne = (q.drainOne.1, q.drainOne.2.onto ep) := by
  have henable : (q.onto ep).epEnable = q.epEnable := rfl
  have hqueue : (q.onto ep).queue = q.queue.contents := rfl
  rcases drainOne_cases q with ⟨hon, hcontents, hdrain⟩ | ⟨hdisabled | hempty, hdrain⟩
  · rw [hdrain, Endpoint.drainOne, henable, hon, hqueue, hcontents]
    rfl
  · rw [hdrain, Endpoint.drainOne, henable, hdisabled]
    rfl
  · rw [hdrain, Endpoint.drainOne, hqueue, hempty]
    exact ite_self _

/-! ### Runs -/

/-- The frames that a submit has queued, -/
def queued : PreloadCall × PreloadResult → List Octets
  | (.submit frame, .submitted false _) => [frame]
  | _ => []

/-- and those that a drain has handed out. -/
def drained : PreloadCall × PreloadResult → List Octets
  | (.drainOne, .drained (some frame)) => [frame]
  | _ => []

/-- Whether the endpoint is enabled after a call. -/
def enabledAfter (enabled : Bool) : PreloadCall → Bool
  | .setEnable enable => enable
  | _ => enabled

/-- What a call does to the queue and to the enable flag. -/
theorem step_fifo (ep : PreloadQueue) (call : PreloadCall) :
    ep.queue.contents ++ queued (call, (ep.step call).1) =
        drained (call, (ep.step call).1) ++ (ep.step call).2.queue.contents ∧
      (ep.step call).2.epEnable = enabledAfter ep.epEnable call := by
  have hstill : ep.queue.contents ++ [] = [] ++ ep.queue.contents := by simp
  cases call with
  | submit frame =>
    rw [step]
    rcases submit_cases ep frame with ⟨-, hs⟩ | ⟨-, hs⟩
    · rw [hs]
      exact ⟨(GrowArray.contents_push (by decide) ep.queue frame).symm, rfl⟩
    · rw [hs]
      exact ⟨hstill, rfl⟩
  | setEnable enable => exact ⟨hstill, rfl⟩
  | drainOne =>
    rw [step]
    rcases drainOne_cases ep with ⟨-, hcontents, hdrain⟩ | ⟨-, hdrain⟩
    · rw [hdrain]
      exact ⟨(List.append_nil _).trans hcontents, rfl⟩
    · rw [hdrain]
      exact ⟨hstill, rfl⟩

theorem final_epEnable (ep : PreloadQueue) (calls : List PreloadCall) :
    (Session.final step ep calls).epEnable = calls.foldl enabledAfter ep.epEnable := by
  induction calls generalizing ep with
  | nil => rfl
  | cons call calls ih => rw [Session.final_cons, ih, (step_fifo ep call).2, List.foldl_cons]

end PreloadQueue

open PreloadQueue

/-- After any calls on an endpoint, what has been drained is a prefix of what was queued, in order, and the other frames
    are those that the next drains hand out while the endpoint is enabled; none while it is disabled. A request is queued
    exactly while the endpoint is disabled and unless it is a configuration request, and it is acknowledged exactly where
    it is queued and asks for it. -/
theorem preload_exact (epEnable : Bool) (calls : List PreloadCall) :
    let ep := Session.final PreloadQueue.step (.init epEnable) calls
    let trace := Session.log PreloadQueue.step (.init epEnable) calls
    (trace.flatMap drained <+: trace.flatMap queued ∧
      trace.flatMap queued = trace.flatMap drained ++ ep.queue.contents) ∧
    ep.epEnable = calls.foldl enabledAfter epEnable ∧
    ep.drainOne.1 = (if ep.epEnable then ep.queue.contents.head? else none) ∧
    ∀ frame,
      ((ep.submit frame).1 = false ↔ ep.epEnable = false ∧ ¬ IsConfiguration frame) ∧
      ((ep.submit frame).2.1.isSome ↔ (ep.submit frame).1 = false ∧ RequestsAcknowledge frame) ∧
      ∀ ack, (ep.submit frame).2.1 = some ack → Acknowledges frame ack := by
  intro ep trace
  have horder : trace.flatMap queued = trace.flatMap drained ++ ep.queue.contents :=
    Session.fifo (s := init epEnable) (fun ep => ep.queue.contents) (fun ep call (_ : True) => trivial)
      (fun ep call _ => (step_fifo ep call).1) trivial calls
  exact ⟨⟨⟨_, horder.symm⟩, horder⟩, final_epEnable _ calls, drainOne_fst ep, fun frame =>
    ⟨submit_fst ep frame, submit_ack ep frame⟩⟩

end Rcp
