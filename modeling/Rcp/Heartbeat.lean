import Rcp.Avtp
import Rcp.MockRegmap

/-! The heartbeats of the response queues (`mock.c`): a response stream that has transmitted nothing for its flush time
    owes an empty frame. The caller gives the time of every check. -/

namespace Rcp

/-- `rcp_respqueue_should_flush_by_time`. -/
def respqueueShouldFlushByTime (elapsedSinceLastTransmitUs flushTimeUs : UInt64) : Bool :=
  if flushTimeUs = 0 then false else elapsedSinceLastTransmitUs ≥ flushTimeUs

/-- `rcp_regmap_response_queue_stream_id`. -/
def ResponseQueueCfg.streamId (cfg : ResponseQueueCfg) (mac : Vector UInt8 6) : StreamId where
  mac := mac
  uniqueId := cfg.streamUid

/-- The arguments of a check, and whether the frame it builds can be allocated. -/
structure HeartbeatCheck where
  responseStreamIndex : UInt8
  mac : Vector UInt8 6
  nowUs : UInt64
  allocated : Bool
deriving DecidableEq, Repr

/-- `rcp_mock_server_t` with what it knows of the transmissions of its response queues. -/
structure HeartbeatServer (σ : Type) extends MockRegmapServer σ where
  responseQueueSeeded : Nat → Bool := fun _ => false
  responseQueueLastTransmitUs : Nat → UInt64 := fun _ => 0

namespace HeartbeatServer
variable {σ : Type}

/-- `rcp_mock_server_new`. -/
def new (world : σ) : HeartbeatServer σ := { toMockRegmapServer := .new world }

/-- The header of a heartbeat; encoding gives it its length. -/
def heartbeatHeader (streamId : StreamId) : NtscfHeader where
  sv := 1
  version := 0
  ntscfDataLength := 0
  sequenceNum := 0
  streamId := streamId

/-- `rcp_mock_server_check_response_queue_heartbeat`: what it returns, and what it leaves in `out_heartbeat`. -/
def checkResponseQueueHeartbeat (srv : HeartbeatServer σ) (c : HeartbeatCheck) :
    (Bool × Option Octets) × HeartbeatServer σ :=
  if c.responseStreamIndex = 0 ∨ c.responseStreamIndex.toNat > srv.responseQueueCfg.length then
    ((false, none), srv) else
  let idx := c.responseStreamIndex.toNat - 1
  let cfg := srv.responseQueueCfg.getD idx {}
  if !srv.responseQueueSeeded idx then
    ((false, none),
      { srv with
        responseQueueSeeded := Function.update srv.responseQueueSeeded idx true
        responseQueueLastTransmitUs := Function.update srv.responseQueueLastTransmitUs idx c.nowUs }) else
  -- A clock that runs backwards gives no heartbeat, rather than a difference that wraps.
  if c.nowUs < srv.responseQueueLastTransmitUs idx then ((false, none), srv) else
  let elapsedUs := c.nowUs - srv.responseQueueLastTransmitUs idx
  if !respqueueShouldFlushByTime elapsedUs cfg.flushTimeUs.toUInt64 then ((false, none), srv) else
  match if c.allocated then avtpEncodeNtscf (heartbeatHeader (cfg.streamId c.mac)) [] else none with
  | none => ((true, none), srv)
  | some heartbeat =>
    ((true, some heartbeat),
      { srv with responseQueueLastTransmitUs := Function.update srv.responseQueueLastTransmitUs idx c.nowUs })

end HeartbeatServer

/-- A call of the server, or a check of one of its response streams. -/
inductive HeartbeatOp (σ : Type) where
  | call (op : RegmapOp σ)
  | check (c : HeartbeatCheck)

namespace HeartbeatServer
variable {σ : Type}

def step (srv : HeartbeatServer σ) : HeartbeatOp σ → HeartbeatServer σ
  | .call op => { srv with toMockRegmapServer := srv.toMockRegmapServer.step op }
  | .check c => (srv.checkResponseQueueHeartbeat c).2

def run (srv : HeartbeatServer σ) (ops : List (HeartbeatOp σ)) : HeartbeatServer σ := ops.foldl step srv

end HeartbeatServer
end Rcp
