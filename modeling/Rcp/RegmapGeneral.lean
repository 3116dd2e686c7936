import Rcp.E2e

/-! The general register map (`regmap.c`): what a server says about itself in Table 20, its wire image, and the read
    response that carries a prefix of it. -/

namespace Rcp
open Acf

/-- `RCP_REGMAP_GENERAL_LEN`. -/
def regmapGeneralLen : Nat := 0x44

/-- `rcp_regmap_general_t`. -/
structure RegmapGeneral where
  magic : UInt32 := 0
  svrVersion : UInt32 := 0
  vendorId : UInt16 := 0
  deviceId : UInt16 := 0
  svrEpCount : UInt16 := 0
  svrLifecycleState : UInt8 := 0
  svrReqStreamMax : UInt8 := 0
  svrResponderStreamsMax : UInt8 := 0
  svrSequencersMax : UInt8 := 0
  svrConfigurationLock : UInt8 := 0
  svrResponderMemSize : UInt16 := 0
  svrReqMemSize : UInt16 := 0
  svrImplementedOptions : UInt8 := 0
  reserved0x17 : UInt8 := 0
  svrIoPinCount : UInt16 := 0
  svrRootClientIndex : UInt16 := 0
  svrHwCfgPtr : UInt16 := 0
  svrRequestStreamCfgCapacity : UInt8 := 0
  svrResponseStreamCfgCapacity : UInt8 := 0
  svrRequestStreamCfgPtr : UInt16 := 0
  svrResponseStreamCfgPtr : UInt16 := 0
  reserved0x22 : UInt16 := 0
  svrEpGenericCfgPtr : UInt16 := 0
  svrEpGenericCfgCapacity : UInt16 := 0
  svrEpFunctionalCfgPtr : UInt16 := 0
  svrEpBytebusIdMapPtr : UInt16 := 0
  svrEpBytebusIdMapCapacity : UInt8 := 0
  svrSequencerStatePtr : UInt16 := 0
  svrNetworkInterfaceCfgPtr : UInt16 := 0
  svrNetworkInterfaceCfgCapacity : UInt16 := 0
  svrPhysicalLayerCfgPtr : UInt16 := 0
  svrPhysicalLayerCfgCapacity : UInt16 := 0
  svrTimeSynchCfgPtr : UInt16 := 0
  svrTimeSynchCfgCapacity : UInt16 := 0
  svrSecurityCfgPtr : UInt16 := 0
  svrSecurityCfgCapacity : UInt16 := 0
  svrDeviceSpecificCfgPtr : UInt16 := 0
  svrDeviceSpecificCfgCapacity : UInt16 := 0
deriving DecidableEq, Repr

/-- `rcp_regmap_general_render`. svr_lifecycle_state and svr_root_client_index are not in the image; the octet 0x2B is
    an alignment gap. -/
def RegmapGeneral.render (map : RegmapGeneral) : Octets :=
  putU32 map.magic ++ putU32 map.svrVersion ++ putU16 map.vendorId ++ putU16 map.deviceId ++ putU16 map.svrEpCount ++
  [map.svrReqStreamMax, map.svrResponderStreamsMax] ++
  putU16 map.svrResponderMemSize ++ putU16 map.svrReqMemSize ++
  [map.svrSequencersMax, map.svrConfigurationLock, map.svrImplementedOptions, map.reserved0x17] ++
  putU16 map.svrIoPinCount ++ putU16 map.svrHwCfgPtr ++
  [map.svrRequestStreamCfgCapacity, map.svrResponseStreamCfgCapacity] ++
  putU16 map.svrRequestStreamCfgPtr ++ putU16 map.svrResponseStreamCfgPtr ++ putU16 map.reserved0x22 ++
  putU16 map.svrEpGenericCfgPtr ++ putU16 map.svrEpGenericCfgCapacity ++ putU16 map.svrEpBytebusIdMapPtr ++
  [map.svrEpBytebusIdMapCapacity, 0] ++
  putU16 map.svrEpFunctionalCfgPtr ++ putU16 map.svrSequencerStatePtr ++
  putU16 map.svrNetworkInterfaceCfgPtr ++ putU16 map.svrNetworkInterfaceCfgCapacity ++
  putU16 map.svrPhysicalLayerCfgPtr ++ putU16 map.svrPhysicalLayerCfgCapacity ++
  putU16 map.svrTimeSynchCfgPtr ++ putU16 map.svrTimeSynchCfgCapacity ++
  putU16 map.svrSecurityCfgPtr ++ putU16 map.svrSecurityCfgCapacity ++
  putU16 map.svrDeviceSpecificCfgPtr ++ putU16 map.svrDeviceSpecificCfgCapacity

/-! ### Read responses -/

/-- `rcp_regmap_general_errc_t` without its success value. -/
inductive RegmapGeneralErrc where
  | shortFrame | badMsgType | wrongBus | wrongOp
deriving DecidableEq, Repr

/-- `rcp_regmap_general_encode_read_response`: what a read reaches past the image is zero. -/
def regmapGeneralEncodeReadResponse (map : RegmapGeneral) (readSize transactionNum : UInt8) : Option Octets :=
  let copyLen := if readSize.toNat < regmapGeneralLen then readSize.toNat else regmapGeneralLen
  let payload := map.render.take copyLen ++ List.replicate (256 - copyLen) 0
  encodeAbb
    { byteBusId := 0, op := opRead, rsp := 1, readSizeOrSegmentNum := readSize.toUInt16, transactionNum }
    (payload.take readSize.toNat)

/-- The registers of `outMap` read from `image`, of which `received` octets were received: either the first five, or all. -/
def RegmapGeneral.parse (outMap : RegmapGeneral) (image : Octets) (received : Nat) : RegmapGeneral :=
  let outMap :=
    { outMap with
      magic := getU32 image 0x00
      svrVersion := getU32 image 0x04
      vendorId := be16 image 0x08
      deviceId := be16 image 0x0A
      svrEpCount := be16 image 0x0C }
  if received ≤ 0x0E then outMap else
  { outMap with
    svrReqStreamMax := image.at 0x0E
    svrResponderStreamsMax := image.at 0x0F
    svrResponderMemSize := be16 image 0x10
    svrReqMemSize := be16 image 0x12
    svrSequencersMax := image.at 0x14
    svrConfigurationLock := image.at 0x15
    svrImplementedOptions := image.at 0x16
    reserved0x17 := image.at 0x17
    svrIoPinCount := be16 image 0x18
    svrHwCfgPtr := be16 image 0x1A
    svrRequestStreamCfgCapacity := image.at 0x1C
    svrResponseStreamCfgCapacity := image.at 0x1D
    svrRequestStreamCfgPtr := be16 image 0x1E
    svrResponseStreamCfgPtr := be16 image 0x20
    reserved0x22 := be16 image 0x22
    svrEpGenericCfgPtr := be16 image 0x24
    svrEpGenericCfgCapacity := be16 image 0x26
    svrEpBytebusIdMapPtr := be16 image 0x28
    svrEpBytebusIdMapCapacity := image.at 0x2A
    svrEpFunctionalCfgPtr := be16 image 0x2C
    svrSequencerStatePtr := be16 image 0x2E
    svrNetworkInterfaceCfgPtr := be16 image 0x30
    svrNetworkInterfaceCfgCapacity := be16 image 0x32
    svrPhysicalLayerCfgPtr := be16 image 0x34
    svrPhysicalLayerCfgCapacity := be16 image 0x36
    svrTimeSynchCfgPtr := be16 image 0x38
    svrTimeSynchCfgCapacity := be16 image 0x3A
    svrSecurityCfgPtr := be16 image 0x3C
    svrSecurityCfgCapacity := be16 image 0x3E
    svrDeviceSpecificCfgPtr := be16 image 0x40
    svrDeviceSpecificCfgCapacity := be16 image 0x42 }

/-- `rcp_regmap_general_decode_read_response`. The octets that were not received are zero in the image. -/
def regmapGeneralDecodeReadResponse (b : Octets) (outMap : RegmapGeneral) : Except RegmapGeneralErrc RegmapGeneral :=
  match decodeAbb b with
  | .error .shortFrame => .error .shortFrame
  | .error _ => .error .badMsgType
  | .ok (hdr, payload) =>
    if hdr.byteBusId ≠ 0 then .error .wrongBus else
    if hdr.op ≠ opRead then .error .wrongOp else
    let received := if payload.length < regmapGeneralLen then payload.length else regmapGeneralLen
    let image := payload.take received ++ List.replicate (regmapGeneralLen - received) 0
    .ok (outMap.parse image received)

end Rcp
