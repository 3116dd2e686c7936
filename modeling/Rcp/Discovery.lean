import Rcp.Avtp
import Rcp.Fragment
import Rcp.Lifecycle
import Rcp.RegmapGeneral
import Rcp.Lib.Tiling

/-! The discovery messages (`discovery.c`): requests for the first registers of the general map and responses that carry
    them, each alone in an NTSCF frame, and responses in fragments. -/

namespace Rcp
open Acf

/-- `rcp_discovery_errc_t` without its success value. -/
inductive DiscoveryErrc where
  | shortFrame | notNtscf | badMsgType | wrongBus | wrongOp
deriving DecidableEq, Repr

/-- `RCP_DISCOVERY_GENERAL_SLICE_LEN`. -/
def discoveryGeneralSliceLen : Nat := 14

/-- `RCP_DISCOVERY_MAX_FRAGMENT_SEGMENTS`. -/
def discoveryMaxFragmentSegments : UInt64 := 255

/-- `rcp_discovery_should_drop`. -/
def discoveryShouldDrop (avtpSubtype : UInt8) : Bool := avtpSubtype != avtpSubtypeNtscf

/-- `decode_common`: the stream of the sender, and the message. -/
def discoveryDecodeCommon (b : Octets) : Except DiscoveryErrc (StreamId × ByteMessageInfo × Octets) :=
  if b.length < 1 then .error .shortFrame else
  if discoveryShouldDrop (b.at 0) then .error .notNtscf else
  match avtpDecodeNtscf b with
  | .error .shortFrame => .error .shortFrame
  | .error _ => .error .notNtscf
  | .ok (ntscfHdr, ntscfPayload) =>
    match decodeAbb ntscfPayload with
    | .error .shortFrame => .error .shortFrame
    | .error _ => .error .badMsgType
    | .ok (hdr, payload) =>
      if hdr.byteBusId ≠ discoveryByteBusId then .error .wrongBus else
      if hdr.op ≠ opRead then .error .wrongOp else
      .ok (ntscfHdr.streamId, hdr, payload)

/-- How every encoder ends: the message, alone in a frame of the sender's stream. -/
def discoveryEncode (hdr : ByteMessageInfo) (payload : Octets) (streamId : StreamId) : Option Octets := do
  let acfFrame ← encodeAbb hdr payload
  avtpEncodeNtscf { sv := 1, version := 0, ntscfDataLength := 0, sequenceNum := 0, streamId } acfFrame

/-! ### Requests -/

/-- `rcp_discovery_request_t`. -/
structure DiscoveryRequest where
  requester : StreamId
  readSize : UInt8
  transactionNum : UInt8
deriving DecidableEq, Repr

/-- `rcp_discovery_encode_request`. -/
def discoveryEncodeRequest (requesterStreamId : StreamId) (readSize transactionNum : UInt8) : Option Octets :=
  discoveryEncode
    { byteBusId := discoveryByteBusId, op := opRead, readSizeOrSegmentNum := readSize.toUInt16, transactionNum } []
    requesterStreamId

/-- `rcp_discovery_decode_request`. -/
def discoveryDecodeRequest (b : Octets) : Except DiscoveryErrc DiscoveryRequest := do
  let (requester, hdr, _) ← discoveryDecodeCommon b
  .ok { requester, readSize := hdr.readSizeOrSegmentNum.toUInt8, transactionNum := hdr.transactionNum }

/-! ### Responses -/

/-- `rcp_discovery_result_t`. -/
structure DiscoveryResult where
  valid : Bool
  serverStreamId : StreamId
  magic : UInt32
  svrVersion : UInt32
  vendorId : UInt16
  deviceId : UInt16
  svrEpCount : UInt16
deriving DecidableEq, Repr

/-- The payload of a response: what is read of the slice of the map, and zeros past it. -/
def discoveryPayload (map : RegmapGeneral) (readSize : UInt8) : Octets :=
  let slice := putU32 map.magic ++ putU32 map.svrVersion ++ putU16 map.vendorId ++ putU16 map.deviceId ++
    putU16 map.svrEpCount
  let copyLen := if readSize.toNat < discoveryGeneralSliceLen then readSize.toNat else discoveryGeneralSliceLen
  slice.take copyLen ++ List.replicate (256 - copyLen) 0

/-- The header of a response, but for the read size or the segment. -/
def discoveryResponseHeader (transactionNum : UInt8) : ByteMessageInfo :=
  { byteBusId := discoveryByteBusId, op := opRead, rsp := 1, transactionNum }

/-- `rcp_discovery_encode_response`. -/
def discoveryEncodeResponse (map : RegmapGeneral) (readSize transactionNum : UInt8) (serverStreamId : StreamId) :
    Option Octets :=
  discoveryEncode { discoveryResponseHeader transactionNum with readSizeOrSegmentNum := readSize.toUInt16 }
    ((discoveryPayload map readSize).take readSize.toNat) serverStreamId

/-- `rcp_discovery_decode_reassembled_response`. -/
def discoveryDecodeReassembledResponse (reassembled : Octets) (serverStreamId : StreamId) :
    Except DiscoveryErrc DiscoveryResult :=
  if reassembled.length < discoveryGeneralSliceLen then .error .shortFrame else
  .ok { valid := true
        serverStreamId
        magic := getU32 reassembled 0
        svrVersion := getU32 reassembled 4
        vendorId := be16 reassembled 8
        deviceId := be16 reassembled 10
        svrEpCount := be16 reassembled 12 }

/-- `rcp_discovery_decode_response`, which repeats the assignments of `rcp_discovery_decode_reassembled_response`. -/
def discoveryDecodeResponse (b : Octets) : Except DiscoveryErrc DiscoveryResult := do
  let (serverStreamId, _, payload) ← discoveryDecodeCommon b
  discoveryDecodeReassembledResponse payload serverStreamId

/-- `rcp_discovery_response_fragment_count`. -/
def discoveryResponseFragmentCount (readSize : UInt8) (maxFragmentPayload : UInt64) : UInt64 :=
  SizeT.fragmentPlanCount readSize.toUInt64 maxFragmentPayload

/-- `rcp_discovery_encode_response_fragmented`: the frames, or `none` for a return value of 0. The last frame has the read
    size in place of a segment number. -/
def discoveryEncodeResponseFragmented (map : RegmapGeneral) (readSize transactionNum : UInt8) (serverStreamId : StreamId)
    (maxFragmentPayload : UInt64) : Option (List Octets) :=
  let count := discoveryResponseFragmentCount readSize maxFragmentPayload
  if count = 0 then none else
  if count > discoveryMaxFragmentSegments then none else
  let payload := discoveryPayload map readSize
  match SizeT.fragmentPlan readSize.toUInt64 maxFragmentPayload count with
  | .error _ => none
  | .ok segs =>
    segs.mapM fun seg =>
      discoveryEncode
        { discoveryResponseHeader transactionNum with
          ms := if seg.ms then 1 else 0
          readSizeOrSegmentNum := if seg.ms then seg.segmentNum else readSize.toUInt16 }
        (Lib.slice payload (seg.offset, seg.len)) serverStreamId

/-- What `rcp_discovery_decode_response_fragment` returns. The segment number is a `uint8_t`. -/
structure DiscoveryFragment where
  serverStreamId : StreamId
  ms : Bool
  segmentNum : UInt8
  payload : Octets
deriving DecidableEq, Repr

/-- `rcp_discovery_decode_response_fragment`. -/
def discoveryDecodeResponseFragment (b : Octets) : Except DiscoveryErrc DiscoveryFragment := do
  let (serverStreamId, hdr, payload) ← discoveryDecodeCommon b
  .ok { serverStreamId, ms := hdr.ms != 0, segmentNum := hdr.readSizeOrSegmentNum.toUInt8, payload }

end Rcp
