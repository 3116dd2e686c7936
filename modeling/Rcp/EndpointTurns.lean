import Rcp.EndpointRun

/-! Runs of one endpoint whose caller executes what `rcp_server_endpoint_select_due` hands it, as
    `rcp_mock_server_tick` does. -/

namespace Rcp

/-- A call, or a look at the store that executes what is selected. -/
inductive EndpointTurn where
  | call (op : EndpointOp)
  | tick (ctx : TickCtx)

def EndpointTurn.isAdmit : EndpointTurn → Bool
  | .call op => op.isAdmit
  | .tick _ => false

def EndpointTurn.isTick : EndpointTurn → Bool
  | .call _ => false
  | .tick _ => true

namespace Endpoint

/-- The best due request, and the store after its completion. -/
def tick (ep : Endpoint) (ctx : TickCtx) : Option SlotIx × Endpoint :=
  match ep.selectDue ctx with
  | (none, ep) => (none, ep)
  | (some index, ep) => (some index, (ep.complete index ctx).2.1)

end Endpoint
end Rcp
