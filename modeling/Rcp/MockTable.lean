import Rcp.MockRun

/-! Runs of the calls that register and remove endpoints. Each gives its answer together with the server it
    leaves, which an error does not take back by itself. -/

namespace Rcp

/-- One call that registers or removes endpoints. -/
inductive TableOp (σ : Type) where
  | addEndpoint (byteBusId : ByteBusId) (epEnable : Bool) (handler : Option (Handler σ))
  | addEndpointOnStream (streamId : UInt64) (byteBusId : ByteBusId) (epEnable : Bool) (handler : Option (Handler σ))
  | addEndpointMultiResponse (byteBusId : ByteBusId) (epEnable : Bool) (handler : MultiHandler σ)
  | removeEndpoint (scope : Scope) (byteBusId : ByteBusId)

/-- The same call among all calls on the server. -/
def TableOp.mockOp {σ : Type} : TableOp σ → MockOp σ
  | .addEndpoint byteBusId epEnable handler => .addEndpoint byteBusId epEnable handler
  | .addEndpointOnStream streamId byteBusId epEnable handler => .addEndpointOnStream streamId byteBusId epEnable handler
  | .addEndpointMultiResponse byteBusId epEnable handler => .addEndpointMultiResponse byteBusId epEnable handler
  | .removeEndpoint scope byteBusId => .removeEndpoint scope byteBusId

namespace MockServer

variable {σ : Type}

/-- `add_endpoint_multi_response`: `add_endpoint` without a handler, then the new slot is looked up again to
    get its handler. Where that lookup fails, the call answers an error and the slot stays taken. -/
def addMultiResponse (srv : MockServer σ) (byteBusId : ByteBusId) (epEnable : Bool) (handler : MultiHandler σ) :
    Bool × MockServer σ :=
  match srv.addEndpoint byteBusId epEnable none with
  | .error _ => (false, srv)
  | .ok srv =>
    match srv.findSlot byteBusId with
    | none => (false, srv)
    | some e => (true, srv.setEndpoint e { srv.endpoints e with multiHandler := some handler })

/-- One call: whether it succeeded, and the server afterwards. -/
def tableCall (srv : MockServer σ) : TableOp σ → Bool × MockServer σ
  | .addEndpoint byteBusId epEnable handler =>
    let r := srv.addEndpoint byteBusId epEnable handler
    (r.isOk, srv.orElse r)
  | .addEndpointOnStream streamId byteBusId epEnable handler =>
    let r := srv.addEndpointOnStream streamId byteBusId epEnable handler
    (r.isOk, srv.orElse r)
  | .addEndpointMultiResponse byteBusId epEnable handler => srv.addMultiResponse byteBusId epEnable handler
  | .removeEndpoint scope byteBusId => srv.removeEndpoint (srv.lookup scope byteBusId)

/-- The server after a sequence of these calls. -/
def tableRun (srv : MockServer σ) (ops : List (TableOp σ)) : MockServer σ :=
  ops.foldl (fun srv op => (srv.tableCall op).2) srv

end MockServer
end Rcp
