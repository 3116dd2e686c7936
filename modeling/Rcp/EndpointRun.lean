import Rcp.Server

/-! Runs of one endpoint: the calls of `server.h` that read or write a `rcp_server_endpoint_t`, in any
    order and with any arguments. -/

namespace Rcp

/-- One call on an endpoint, with its arguments. -/
inductive EndpointOp where
  | admitWithAck (frame : Octets) (now : UInt32) (tv : Bool) (avtpTimestamp : UInt32) (gptpReferenceNow : UInt64)
  | submit (frame : Octets)
  | setEnable (enable : Bool)
  | setAdmissionSuspended (suspended : Bool)
  | drainOne
  | selectDue (ctx : TickCtx)
  | complete (index : Nat) (ctx : TickCtx)
  | notifyTrigger (sourceEp signalNr : UInt8)
  | chainPredecessorDone (index : Nat) (now : UInt32)
  | cancelAll
  | cancelSingle (clearTransactionNum : UInt8) (state : CancelLifecycle)
  | cancelNonSafestate
  | watchdogPurge
  | cancelChainFrom (chainGroup : UInt32) (minPosition : UInt8)

/-- The one call that can put a request into the store. -/
def EndpointOp.isAdmit : EndpointOp → Bool
  | .admitWithAck .. => true
  | _ => false

/-- The cancellations and the watchdog purge. -/
def EndpointOp.isCancel : EndpointOp → Bool
  | .cancelAll | .cancelSingle .. | .cancelNonSafestate | .watchdogPurge | .cancelChainFrom .. => true
  | _ => false

/-- A completion of slot `i`. -/
def EndpointOp.completes (i : SlotIx) : EndpointOp → Bool
  | .complete index _ => index == i.val
  | _ => false

namespace Endpoint

/-- The endpoint after one call. -/
def step (ep : Endpoint) : EndpointOp → Endpoint
  | .admitWithAck frame now tv avtpTimestamp gptpReferenceNow =>
    (ep.admitWithAck frame now tv avtpTimestamp gptpReferenceNow).2
  | .submit frame => (ep.submit frame).2.2
  | .setEnable enable => ep.setEnable enable
  | .setAdmissionSuspended suspended => ep.setAdmissionSuspended suspended
  | .drainOne => ep.drainOne.2
  | .selectDue ctx => (ep.selectDue ctx).2
  | .complete index ctx => (ep.complete index ctx).2.1
  | .notifyTrigger sourceEp signalNr => (ep.notifyTrigger sourceEp signalNr).2
  | .chainPredecessorDone index now => (ep.chainPredecessorDone index now).2
  | .cancelAll => ep.cancelAll.2
  | .cancelSingle clearTransactionNum state => (ep.cancelSingle clearTransactionNum state).2
  | .cancelNonSafestate => ep.cancelNonSafestate.2
  | .watchdogPurge => ep.watchdogPurge.2
  | .cancelChainFrom chainGroup minPosition => (ep.cancelChainFrom chainGroup minPosition).2

/-- The endpoint after a sequence of calls. -/
def run (ep : Endpoint) (ops : List EndpointOp) : Endpoint := ops.foldl step ep

@[simp] theorem run_nil (ep : Endpoint) : ep.run [] = ep := rfl

@[simp] theorem run_cons (ep : Endpoint) (op : EndpointOp) (ops : List EndpointOp) :
    ep.run (op :: ops) = (ep.step op).run ops := rfl

theorem run_append (ep : Endpoint) (ops ops' : List EndpointOp) : ep.run (ops ++ ops') = (ep.run ops).run ops' :=
  List.foldl_append

theorem run_concat (ep : Endpoint) (ops : List EndpointOp) (op : EndpointOp) :
    ep.run (ops ++ [op]) = (ep.run ops).step op := run_append ep ops [op]

end Endpoint
end Rcp
