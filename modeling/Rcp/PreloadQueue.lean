import Rcp.Lib.GrowArray
import Rcp.Server

/-! The queue of standard requests of an endpoint, `queue`, `queue_len` and `queue_cap` of `rcp_server_endpoint_t`, as the
    array of cells that it is. Allocations are taken to succeed. -/

namespace Rcp

/-- What `rcp_server_endpoint_submit`, `rcp_server_endpoint_set_enable` and `rcp_server_endpoint_drain_one` use of an
    endpoint. -/
structure PreloadQueue where
  epEnable : Bool
  queue : Lib.GrowArray Octets := .empty
deriving DecidableEq, Repr

/-- A call on the endpoint, -/
inductive PreloadCall where
  | submit (frame : Octets)
  | setEnable (enable : Bool)
  | drainOne
deriving DecidableEq, Repr

/-- and what it returns, with what it hands out. -/
inductive PreloadResult where
  | submitted (executeNow : Bool) (ack : Option Octets)
  | enableSet
  | drained (frame : Option Octets)
deriving DecidableEq, Repr

namespace PreloadQueue

/-- `rcp_server_endpoint_init`. -/
def init (epEnable : Bool) : PreloadQueue := { epEnable }

/-- `rcp_server_endpoint_submit`: `true` when the caller must execute the request now. -/
def submit (ep : PreloadQueue) (frame : Octets) : Bool × Option Octets × PreloadQueue :=
  if ep.epEnable then (true, none, ep) else
  if Endpoint.isConfigurationRequest frame then (true, none, ep) else
  (false, buildStoreAck frame, { ep with queue := ep.queue.push 4 Lib.GrowArray.four_pos frame })

/-- `rcp_server_endpoint_set_enable`. -/
def setEnable (ep : PreloadQueue) (enable : Bool) : PreloadQueue := { ep with epEnable := enable }

/-- `rcp_server_endpoint_drain_one`. -/
def drainOne (ep : PreloadQueue) : Option Octets × PreloadQueue :=
  if !ep.epEnable then (none, ep) else
  if ep.queue.len = 0 then (none, ep) else
  (some ep.queue.front, { ep with queue := ep.queue.popFront })

def step (ep : PreloadQueue) : PreloadCall → PreloadResult × PreloadQueue
  | .submit frame =>
    let (executeNow, ack, ep) := ep.submit frame
    (.submitted executeNow ack, ep)
  | .setEnable enable => (.enableSet, ep.setEnable enable)
  | .drainOne =>
    let (frame, ep) := ep.drainOne
    (.drained frame, ep)

end PreloadQueue
end Rcp
