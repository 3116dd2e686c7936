import Rcp.LifecycleRun
import Rcp.MockTable
import Rcp.RegmapEp0

/-! The register sections of the server (`mock.c`): the general map, the tables whose sizes it tells, and the calls
    that change either. Each call gives its answer together with the server it leaves. -/

namespace Rcp

/-- `rcp_lifecycle_state_t` as it is kept in svr_lifecycle_state. -/
def LifecycleState.code : LifecycleState → UInt8
  | .hwUnconfigured => 0x00
  | .hwConfigured => 0x55
  | .rcpConfigured => 0xAA

namespace RegmapGeneral

/-- `rcp_regmap_general_init`; 0xFFFF is `RCP_REGMAP_NO_ROOT_CLIENT`. -/
def init : RegmapGeneral := { svrRootClientIndex := 0xFFFF }

def optionalCapacity (map : RegmapGeneral) : OptionalSection → UInt16
  | .networkInterface => map.svrNetworkInterfaceCfgCapacity
  | .physicalLayer => map.svrPhysicalLayerCfgCapacity
  | .timeSynch => map.svrTimeSynchCfgCapacity
  | .security => map.svrSecurityCfgCapacity

def setOptionalCapacity (map : RegmapGeneral) (capacity : UInt16) : OptionalSection → RegmapGeneral
  | .networkInterface => { map with svrNetworkInterfaceCfgCapacity := capacity }
  | .physicalLayer => { map with svrPhysicalLayerCfgCapacity := capacity }
  | .timeSynch => { map with svrTimeSynchCfgCapacity := capacity }
  | .security => { map with svrSecurityCfgCapacity := capacity }

end RegmapGeneral

/-- `rcp_mock_server_t` with its register sections. `generic` is that field of each slot. The request streams and the
    endpoint map have fields no dispatch reads, so their rows are kept in full beside what a dispatch has of them. -/
structure MockRegmapServer (σ : Type) extends MockServer σ where
  regmap : RegmapGeneral := .init
  generic : EndpointIx → EpGenericCfg := fun _ => {}
  hwPinMap : List HwPinMapEntry := []
  requestStreamRows : List RequestStreamRow := []
  responseQueueCfg : List ResponseQueueCfg := []
  epIdMapRows : List EpIdMapRow := [{}]
  optionalCfg : OptionalSection → Octets := fun _ => []

namespace MockRegmapServer

variable {σ : Type}

/-- `rcp_mock_server_new`. -/
def new (world : σ) : MockRegmapServer σ := { toMockServer := .new world }

/-! ### Endpoints -/

/-- The bookkeeping at the end of every registration and removal. -/
def syncEndpointCount (srv : MockRegmapServer σ) : MockRegmapServer σ :=
  { srv with
    regmap :=
      { srv.regmap with
        svrEpCount := UInt16.ofNat srv.endpointCount
        svrEpGenericCfgCapacity := UInt16.ofNat (srv.endpointCount * 12) } }

/-- The first free slot, where the next endpoint goes. -/
def freeSlot (srv : MockRegmapServer σ) : Option EndpointIx := Fin.find? fun e => !(srv.endpoints e).inUse

/-- The part `add_endpoint` and `add_endpoint_on_stream` share. -/
def registered (srv : MockRegmapServer σ) (epType : UInt8) (r : Except MockErrc (MockServer σ)) :
    Bool × MockRegmapServer σ :=
  match r with
  | .error _ => (false, srv)
  | .ok server =>
    let generic :=
      match srv.freeSlot with
      | none => srv.generic
      | some e => Function.update srv.generic e { epType := epType, epUsed := true }
    (true, { srv with toMockServer := server, generic := generic }.syncEndpointCount)

def addEndpoint (srv : MockRegmapServer σ) (byteBusId : ByteBusId) (epType : UInt8) (epEnable : Bool)
    (handler : Option (Handler σ)) : Bool × MockRegmapServer σ :=
  srv.registered epType (srv.toMockServer.addEndpoint byteBusId epEnable handler)

def addEndpointOnStream (srv : MockRegmapServer σ) (streamId : UInt64) (byteBusId : ByteBusId) (epType : UInt8)
    (epEnable : Bool) (handler : Option (Handler σ)) : Bool × MockRegmapServer σ :=
  srv.registered epType (srv.toMockServer.addEndpointOnStream streamId byteBusId epEnable handler)

def addEndpointMultiResponse (srv : MockRegmapServer σ) (byteBusId : ByteBusId) (epType : UInt8) (epEnable : Bool)
    (handler : MultiHandler σ) : Bool × MockRegmapServer σ :=
  let (ok, srv) := srv.addEndpoint byteBusId epType epEnable none
  if !ok then (false, srv) else
  match srv.findSlot byteBusId with
  | none => (false, srv)
  | some e =>
    (true,
      { srv with toMockServer := srv.setEndpoint e { srv.endpoints e with multiHandler := some handler } })

/-- `remove_endpoint` and `remove_endpoint_on_stream`. -/
def removeEndpoint (srv : MockRegmapServer σ) (found : Option EndpointIx) : Bool × MockRegmapServer σ :=
  match found with
  | none => (false, srv)
  | some e =>
    (true,
      { srv with toMockServer := srv.removeSlot e, generic := Function.update srv.generic e {} }.syncEndpointCount)

/-- The slots in use, in slot order. -/
def slotsInUse (srv : MockRegmapServer σ) : List EndpointIx :=
  (List.finRange mockMaxEndpoints).filter fun e => (srv.endpoints e).inUse

/-- `ep_generic_cfg_view`, into an array that is large enough. -/
def epGenericCfgView (srv : MockRegmapServer σ) : List EpGenericCfg := srv.slotsInUse.map srv.generic

/-- `apply_ep_generic_cfg`. -/
def applyEpGenericCfg (srv : MockRegmapServer σ) (entries : List EpGenericCfg) : Bool × MockRegmapServer σ :=
  if entries.length ≠ srv.endpointCount then (false, srv) else
  (true,
    { srv with
      generic := fun e =>
        if (srv.endpoints e).inUse then entries.getD (srv.slotsInUse.idxOf e) (srv.generic e) else srv.generic e })

/-! ### Tables -/

def setHwPinMap (srv : MockRegmapServer σ) (entries : List HwPinMapEntry) : Bool × MockRegmapServer σ :=
  if entries.length > hwPinMapMaxEntries then (false, srv) else
  (true,
    { srv with
      hwPinMap := entries
      regmap := { srv.regmap with svrIoPinCount := UInt16.ofNat entries.length } })

def setRequestStreamCfg (srv : MockRegmapServer σ) (entries : List RequestStreamRow) : Bool × MockRegmapServer σ :=
  let (ok, server) := srv.toMockServer.setRequestStreamCfg (entries.map (·.toRequestStreamCfg))
  if !ok then (false, srv) else
  (true,
    { srv with
      toMockServer := server
      requestStreamRows := entries
      regmap := { srv.regmap with svrRequestStreamCfgCapacity := UInt8.ofNat entries.length } })

def setResponseQueueCfg (srv : MockRegmapServer σ) (entries : List ResponseQueueCfg) : Bool × MockRegmapServer σ :=
  if entries.length > responseQueueCfgMaxEntries then (false, srv) else
  (true,
    { srv with
      responseQueueCfg := entries
      regmap := { srv.regmap with svrResponseStreamCfgCapacity := UInt8.ofNat entries.length } })

def setEpIdMap (srv : MockRegmapServer σ) (entries : List EpIdMapRow) : Bool × MockRegmapServer σ :=
  let (ok, server) := srv.toMockServer.setEpIdMap (entries.map (·.toEpIdMapEntry))
  if !ok then (false, srv) else
  (true,
    { srv with
      toMockServer := server
      epIdMapRows := entries
      regmap := { srv.regmap with svrEpBytebusIdMapCapacity := UInt8.ofNat entries.length } })

/-- `optional_subsystem_cfg_set`, the body of the four setters. -/
def setOptionalCfg (srv : MockRegmapServer σ) (s : OptionalSection) (data : Octets) : Bool × MockRegmapServer σ :=
  if data.length > optionalSubsystemCfgMaxOctets then (false, srv) else
  (true,
    { srv with
      optionalCfg := Function.update srv.optionalCfg s data
      regmap := srv.regmap.setOptionalCapacity (UInt16.ofNat data.length) s })

/-- `set_sequencer_count`. `allocated` says whether the allocations of `rcp_sequencer_table_new` succeed; it makes
    none for no sequencers. -/
def setSequencerCount (srv : MockRegmapServer σ) (count : UInt16) (allocated : Bool) : Bool × MockRegmapServer σ :=
  let server :=
    if count = 0 ∨ allocated then srv.toMockServer.setSequencerCount count
    else { srv.toMockServer with sequencers := {} }
  let actual := server.sequencers.count
  (count == 0 || actual != 0,
    { srv with
      toMockServer := server
      regmap := { srv.regmap with svrSequencersMax := if actual > 0xFF then 0xFF else UInt8.ofNat actual } })

def transition (srv : MockRegmapServer σ) (target : LifecycleState) (snap : Option PlausibilitySnapshot)
    (writer : WriterCtx) (allOtherEpsIdle : Bool) : Except LifecycleErrc Unit × MockRegmapServer σ :=
  let (r, server) := srv.toMockServer.transition target snap writer allOtherEpsIdle
  (r,
    { srv with
      toMockServer := server
      regmap := { srv.regmap with svrLifecycleState := server.state.code } })

/-- The tables as the EP0 dispatchers are given them. -/
def ep0Tables (srv : MockRegmapServer σ) : Ep0Tables where
  hwPinMap := srv.hwPinMap
  epIdMap := srv.epIdMapRows
  responseQueueCfg := srv.responseQueueCfg
  requestStreamCfg := srv.requestStreamRows
  epGenericCfg := srv.epGenericCfgView
  sequencers := srv.sequencers
  optionalCfg := srv.optionalCfg

end MockRegmapServer

/-! ### Runs -/

/-- One call that registers or removes an endpoint, sets a table, allocates the sequencers or moves the lifecycle. -/
inductive RegmapOp (σ : Type) where
  | addEndpoint (byteBusId : ByteBusId) (epType : UInt8) (epEnable : Bool) (handler : Option (Handler σ))
  | addEndpointOnStream (streamId : UInt64) (byteBusId : ByteBusId) (epType : UInt8) (epEnable : Bool)
      (handler : Option (Handler σ))
  | addEndpointMultiResponse (byteBusId : ByteBusId) (epType : UInt8) (epEnable : Bool) (handler : MultiHandler σ)
  | removeEndpoint (scope : Scope) (byteBusId : ByteBusId)
  | applyEpGenericCfg (entries : List EpGenericCfg)
  | setHwPinMap (entries : List HwPinMapEntry)
  | setRequestStreamCfg (entries : List RequestStreamRow)
  | setResponseQueueCfg (entries : List ResponseQueueCfg)
  | setEpIdMap (entries : List EpIdMapRow)
  | setOptionalCfg (s : OptionalSection) (data : Octets)
  | setSequencerCount (count : UInt16) (allocated : Bool)
  | transition (c : TransitionCall)

namespace MockRegmapServer

variable {σ : Type}

/-- The server after one call, whatever it answers. -/
def step (srv : MockRegmapServer σ) : RegmapOp σ → MockRegmapServer σ
  | .addEndpoint byteBusId epType epEnable handler => (srv.addEndpoint byteBusId epType epEnable handler).2
  | .addEndpointOnStream streamId byteBusId epType epEnable handler =>
    (srv.addEndpointOnStream streamId byteBusId epType epEnable handler).2
  | .addEndpointMultiResponse byteBusId epType epEnable handler =>
    (srv.addEndpointMultiResponse byteBusId epType epEnable handler).2
  | .removeEndpoint scope byteBusId => (srv.removeEndpoint (srv.lookup scope byteBusId)).2
  | .applyEpGenericCfg entries => (srv.applyEpGenericCfg entries).2
  | .setHwPinMap entries => (srv.setHwPinMap entries).2
  | .setRequestStreamCfg entries => (srv.setRequestStreamCfg entries).2
  | .setResponseQueueCfg entries => (srv.setResponseQueueCfg entries).2
  | .setEpIdMap entries => (srv.setEpIdMap entries).2
  | .setOptionalCfg s data => (srv.setOptionalCfg s data).2
  | .setSequencerCount count allocated => (srv.setSequencerCount count allocated).2
  | .transition c => (srv.transition c.target c.snap c.writer c.allOtherEpsIdle).2

/-- The server after a sequence of calls. -/
def run (srv : MockRegmapServer σ) (ops : List (RegmapOp σ)) : MockRegmapServer σ := ops.foldl step srv

end MockRegmapServer
end Rcp
