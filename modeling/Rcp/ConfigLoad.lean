import Rcp.Config
import Rcp.MockRegmap

/-! `config.c`: what becomes of a manifest once it is parsed. The endpoints get no handler; the streams are left to the
    caller. -/

namespace Rcp

/-- `rcp_mock_strerror` of the errors. -/
def MockErrc.strerror : MockErrc → String
  | .duplicateBusId => "duplicate byte_bus_id"
  | .capacity => "endpoint table full"
  | .notFound => "byte_bus_id not registered"

/-- The registers that the server section of a manifest names. -/
def ConfigServer.applyTo (s : ConfigServer BitVec) (map : RegmapGeneral) : RegmapGeneral :=
  { map with
    vendorId := .ofBitVec s.vendorId
    deviceId := .ofBitVec s.deviceId
    magic := if s.magic ≠ 0 then .ofBitVec s.magic else map.magic
    svrImplementedOptions := map.svrImplementedOptions ||| s.svrImplementedOptions }

def ConfigHwPin.row (pin : ConfigHwPin BitVec) : HwPinMapEntry where
  hwEpNr := .ofBitVec pin.hwEpNr
  hwEpPinNr := .ofBitVec pin.hwEpPinNr
  hwPinType := pin.hwPinType

def ConfigEndpoint.bus (ep : ConfigEndpoint BitVec) : ByteBusId := .ofBitVec ep.byteBusId

namespace Config

variable {σ : Type}

/-- The pins, if there are any; the answer says whether the server has taken them. -/
def applyPins (pins : List (ConfigHwPin BitVec)) (srv : MockRegmapServer σ) : Bool × MockRegmapServer σ :=
  if pins.length > 0 then
    if pins.length > hwPinMapMaxEntries then (false, srv) else srv.setHwPinMap (pins.map (·.row))
  else (true, srv)

/-- One turn of the loop over the endpoints: nothing more is done once one of them has been refused. -/
def applyEndpoint (acc : Except MockErrc Unit × MockRegmapServer σ) (ep : ConfigEndpoint BitVec) :
    Except MockErrc Unit × MockRegmapServer σ :=
  match acc with
  | (.error e, srv) => (.error e, srv)
  | (.ok (), srv) =>
    match srv.toMockServer.addEndpoint ep.bus ep.epEnable none with
    | .error e => (.error e, srv)
    | .ok _ => (.ok (), (srv.addEndpoint ep.bus (.ofBitVec ep.epType) ep.epEnable none).2)

def applyEndpoints (eps : List (ConfigEndpoint BitVec)) (srv : MockRegmapServer σ) :
    Except MockErrc Unit × MockRegmapServer σ :=
  eps.foldl applyEndpoint (.ok (), srv)

/-- `rcp_config_apply_to_mock`. -/
def applyToMock (m : ConfigManifest BitVec) (srv : MockRegmapServer σ) : Except MockErrc Unit × MockRegmapServer σ :=
  let (taken, srv) := applyPins m.hwPinMap { srv with regmap := m.server.applyTo srv.regmap }
  if !taken then (.error .capacity, srv) else
  applyEndpoints m.endpoints srv

/-- The number that `rcp_config_load` returns. -/
inductive LoadCode where
  | ok
  | errParse
  | mock (e : MockErrc)
deriving DecidableEq, Repr

/-- What a call of `rcp_config_load` leaves: what it returns, `err_msg` where it is written, and the server. -/
structure LoadResult (σ : Type) where
  code : LoadCode
  errMsg : Option (List Char) := none
  server : MockRegmapServer σ

/-- `rcp_config_load`. -/
def load (alloc : Nat → Bool) (json : Lib.CString) (errMsgCap : Nat) (srv : MockRegmapServer σ) :
    Option (LoadResult σ) := do
  let parsed ← parseJson machineNumbers alloc json errMsgCap
  match parsed.code with
  | .errParse => return { code := .errParse, errMsg := parsed.errMsg, server := srv }
  | .ok =>
    match applyToMock parsed.out srv with
    | (.error e, server) => return { code := .mock e, errMsg := setErr errMsgCap e.strerror, server }
    | (.ok (), server) => return { code := .ok, server }

end Config
end Rcp
