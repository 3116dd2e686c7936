import Rcp.Wakeup

/-! The client's mirror of the power modes of remote endpoints (`powerstate.c`): for each endpoint its mode, its
    outstanding request to sleep, and the handshake of its wake-up. -/

namespace Rcp

/-- `rcp_avtp_addr_t`. -/
structure AvtpAddr where
  streamId : UInt64
  byteBusId : ByteBusId
deriving DecidableEq, Repr

/-- `rcp_powerstate_errc_t` without its success value. -/
inductive PowerStateErrc where
  | unknownEndpoint | decode | unexpectedTxn | entryRefused | transition
deriving DecidableEq, Repr

/-- `endpoint_entry_t`. -/
structure PowerEntry where
  addr : AvtpAddr
  mode : PwrMode := .normal
  handshake : Handshake := .init 0
  respStreamId : UInt64 := 0
  hasRespStreamId : Bool := false
  requestPending : Bool := false
  pendingTarget : PwrMode := .normal
  pendingTxn : UInt8 := 0
deriving DecidableEq, Repr

/-- `RCP_POWERSTATE_MAX_ENDPOINTS`. -/
def powerStateMaxEndpoints : Nat := 64

/-- `rcp_powerstate_manager`, with its table of endpoints. -/
structure PowerStateManager where
  entries : List PowerEntry
deriving DecidableEq, Repr

namespace PowerStateManager

/-- `rcp_powerstate_manager_new`, the manager being allocated. -/
def new (endpoints : List AvtpAddr) : Option PowerStateManager :=
  if endpoints.length > powerStateMaxEndpoints then none else some ⟨endpoints.map fun addr => { addr }⟩

/-- `find_entry`. -/
def findEntry (m : PowerStateManager) (addr : AvtpAddr) : Option PowerEntry :=
  m.entries.find? fun e => e.addr == addr

/-- The entry `find_entry` points at takes a new value. -/
def setFirst (addr : AvtpAddr) (e' : PowerEntry) : List PowerEntry → List PowerEntry
  | [] => []
  | e :: es => if e.addr = addr then e' :: es else e :: setFirst addr e' es

/-- What a function does with the entry of an address: it finds the entry, answers, and changes it in place. -/
def withEntry {α : Type} (m : PowerStateManager) (addr : AvtpAddr) (absent : α) (f : PowerEntry → α × PowerEntry) :
    α × PowerStateManager :=
  match m.findEntry addr with
  | none => (absent, m)
  | some e => ((f e).1, { m with entries := setFirst addr (f e).2 m.entries })

/-- `rcp_powerstate_manager_mode`. -/
def mode (m : PowerStateManager) (addr : AvtpAddr) : PwrMode := ((m.findEntry addr).map PowerEntry.mode).getD .normal

/-- `rcp_powerstate_manager_encode_entry_request`, the frame being allocated. -/
def encodeEntryRequest (m : PowerStateManager) (addr : AvtpAddr) (targetMode : PwrMode) (transactionNum : UInt8) :
    Option Octets × PowerStateManager :=
  if targetMode ≠ .sleep then (none, m)
  else m.withEntry addr none fun e =>
    match wakeupEncodeSleepcmdRequest addr.byteBusId transactionNum with
    | none => (none, e)
    | some frame =>
      (some frame, { e with requestPending := true, pendingTarget := targetMode, pendingTxn := transactionNum })

/-- `rcp_powerstate_manager_apply_entry_response`. -/
def applyEntryResponse (m : PowerStateManager) (addr : AvtpAddr) (b : Octets) :
    Except PowerStateErrc Unit × PowerStateManager :=
  m.withEntry addr (.error .unknownEndpoint) fun e =>
    match wakeupDecodeSleepcmdResponse b addr.byteBusId with
    | .error _ => (.error .decode, e)
    | .ok (result, txn) =>
      if !e.requestPending || e.pendingTxn != txn then (.error .unexpectedTxn, e)
      else if result = .refused then (.error .entryRefused, { e with requestPending := false })
      else
        match pwrmodeTransition e.mode e.pendingTarget with
        | .error _ => (.error .transition, { e with requestPending := false })
        | .ok (mode, _) => (.ok (), { e with mode, requestPending := false })

/-- The body of the two wake functions: the start kind. -/
def wakeVia (path : WakePath) (m : PowerStateManager) (addr : AvtpAddr) :
    Except PowerStateErrc StartKind × PowerStateManager :=
  m.withEntry addr (.error .unknownEndpoint) fun e =>
    match pwrmodeWakeFromSleep e.mode path (some e.handshake) with
    | .error _ => (.error .transition, e)
    | .ok (mode, kind) => (.ok kind, { e with mode })

/-- `rcp_powerstate_manager_wake_via_network`. -/
def wakeViaNetwork := wakeVia .viaNetwork

/-- `rcp_powerstate_manager_wake_via_pin`. -/
def wakeViaPin := wakeVia .viaPin

/-- `rcp_powerstate_manager_handshake_begin`. -/
def handshakeBegin (m : PowerStateManager) (addr : AvtpAddr) (wakeupRepeatLimit : UInt32) (networkAvailable : Bool)
    (respStreamId : UInt64) : Bool × PowerStateManager :=
  m.withEntry addr false fun e =>
    let (ok, handshake) := (Handshake.init wakeupRepeatLimit).ifaceReenabled networkAvailable
    (ok, { e with handshake, respStreamId, hasRespStreamId := true })

/-- `rcp_powerstate_manager_apply_wakeup_echo`. -/
def applyWakeupEcho (m : PowerStateManager) (addr : AvtpAddr) (b : Octets) (sentTransactionNum : UInt8) :
    Bool × PowerStateManager :=
  m.withEntry addr false fun e =>
    let (ok, handshake) := e.handshake.wakeupAttempt (wakeupIsWakeupEcho b addr.byteBusId sentTransactionNum)
    (ok, { e with handshake })

/-- `rcp_powerstate_manager_handshake_resume_queues`. -/
def handshakeResumeQueues (m : PowerStateManager) (addr : AvtpAddr) : Bool × PowerStateManager :=
  m.withEntry addr false fun e =>
    let (ok, handshake) := e.handshake.resumeQueues
    (ok, { e with handshake })

end PowerStateManager

/-! ### Runs -/

/-- A call for one endpoint. -/
inductive PowerOp where
  | encodeEntryRequest (targetMode : PwrMode) (transactionNum : UInt8)
  | applyEntryResponse (b : Octets)
  | handshakeBegin (wakeupRepeatLimit : UInt32) (networkAvailable : Bool) (respStreamId : UInt64)
  | applyWakeupEcho (b : Octets) (sentTransactionNum : UInt8)
  | handshakeResumeQueues
  | wakeViaPin
  | wakeViaNetwork
deriving DecidableEq, Repr

/-- A call with the address it is for. -/
structure PowerCall where
  addr : AvtpAddr
  op : PowerOp
deriving DecidableEq, Repr

namespace PowerStateManager

/-- The manager after a call. -/
def after (m : PowerStateManager) (c : PowerCall) : PowerStateManager :=
  match c.op with
  | .encodeEntryRequest targetMode transactionNum => (m.encodeEntryRequest c.addr targetMode transactionNum).2
  | .applyEntryResponse b => (m.applyEntryResponse c.addr b).2
  | .handshakeBegin wakeupRepeatLimit networkAvailable respStreamId =>
    (m.handshakeBegin c.addr wakeupRepeatLimit networkAvailable respStreamId).2
  | .applyWakeupEcho b sentTransactionNum => (m.applyWakeupEcho c.addr b sentTransactionNum).2
  | .handshakeResumeQueues => (m.handshakeResumeQueues c.addr).2
  | .wakeViaPin => (m.wakeViaPin c.addr).2
  | .wakeViaNetwork => (m.wakeViaNetwork c.addr).2

def run (m : PowerStateManager) (calls : List PowerCall) : PowerStateManager := calls.foldl after m

end PowerStateManager
end Rcp
