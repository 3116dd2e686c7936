import Rcp.Octets

/-! The ACF message codec (`acf.c`): the eight-octet `byte_message_info` header, the ACF_ABB and
    ACF_GBB message forms, the responses a server builds, and the compound-wait comparison. -/

namespace Rcp

/-- `rcp_byte_bus_id_t`. -/
abbrev ByteBusId := UInt16

/-- TC18 Table 30 error codes (`rcp_wire_error_t`). -/
inductive WireError where
  | none | unsupportedCmd | sequencerNotKnown | unauthorizedAccess | lockedMem | requestCanceled
  | requestNotFound | epError | epNotFound | pwmInNoSignal | requestStorageOverflow | requestRejected
  | pociFailure | presentationTimeTooFar | gptpFail | invalidParameter | chainAborted | chainError
deriving DecidableEq, Repr

/-- The octet an error code has on the wire. -/
def WireError.code : WireError → UInt8
  | .none => 0 | .unsupportedCmd => 1 | .sequencerNotKnown => 2 | .unauthorizedAccess => 3 | .lockedMem => 4
  | .requestCanceled => 5 | .requestNotFound => 6 | .epError => 7 | .epNotFound => 8 | .pwmInNoSignal => 9
  | .requestStorageOverflow => 10 | .requestRejected => 11 | .pociFailure => 12
  | .presentationTimeTooFar => 13 | .gptpFail => 14 | .invalidParameter => 15 | .chainAborted => 16
  | .chainError => 17

namespace Acf

def msgTypeAbb : UInt8 := 0x0E
def msgTypeGbb : UInt8 := 0x0D

/-- `RCP_ACF_ABB_HEADER_LEN`. -/
def abbHeaderLen : Nat := 8
/-- `RCP_ACF_GBB_HEADER_LEN`: the ABB header and the eight-octet message_timestamp. -/
def gbbHeaderLen : Nat := 16

def maxQuadlets : UInt16 := 0x1FF
def abbMaxPayload : Nat := 0x1FF * 4 - abbHeaderLen
def gbbMaxPayload : Nat := 0x1FF * 4 - gbbHeaderLen

def mtvUntimed : UInt8 := 0
def mtvValid : UInt8 := 1

def opNone : UInt8 := 0
def opWrite : UInt8 := 1
def opRead : UInt8 := 2

def evtAcknowledge : UInt8 := 0x0F

/-- `rcp_acf_errc_t` without its success value. -/
inductive Errc where
  | shortFrame | badMsgType
deriving DecidableEq, Repr

/-- `rcp_acf_byte_message_info_t`. -/
structure ByteMessageInfo where
  acfMsgType : UInt8 := 0
  acfMsgLength : UInt16 := 0
  pad : UInt8 := 0
  mtv : UInt8 := 0
  byteBusId : ByteBusId := 0
  evt : UInt8 := 0
  hs : UInt8 := 0
  cs : UInt8 := 0
  transactionNum : UInt8 := 0
  op : UInt8 := 0
  rsp : UInt8 := 0
  err : UInt8 := 0
  ms : UInt8 := 0
  readSizeOrSegmentNum : UInt16 := 0
deriving DecidableEq, Repr

/-- `rcp_acf_gbb_header_t`. -/
structure GbbHeader where
  info : ByteMessageInfo := {}
  messageTimestamp : UInt64 := 0
deriving DecidableEq, Repr

/-! ### The header -/

/-- `rcp_acf_pack_header`. -/
def packHeader (acfMsgType : UInt8) (acfMsgLength : UInt16) (hdr : ByteMessageInfo) : Octets :=
  let opBit : UInt8 := if hdr.op = opRead then 0 else 1
  [(acfMsgType <<< 1) ||| ((acfMsgLength >>> 8) &&& 0x01).toUInt8,
   (acfMsgLength &&& 0xFF).toUInt8,
   ((hdr.pad &&& 0x3) <<< 6) ||| ((hdr.mtv &&& 0x1) <<< 5) ||| ((hdr.byteBusId >>> 8) &&& 0x7).toUInt8,
   (hdr.byteBusId &&& 0xFF).toUInt8,
   ((hdr.evt &&& 0xF) <<< 4) ||| ((hdr.hs &&& 0x1) <<< 1) ||| (hdr.cs &&& 0x1),
   hdr.transactionNum,
   (opBit <<< 7) ||| ((hdr.rsp &&& 0x1) <<< 6) ||| ((hdr.err &&& 0x1) <<< 5) |||
     ((hdr.ms &&& 0x1) <<< 4) ||| ((hdr.readSizeOrSegmentNum >>> 8) &&& 0xF).toUInt8,
   (hdr.readSizeOrSegmentNum &&& 0xFF).toUInt8]

/-- `rcp_acf_unpack_header`. It never fails; every caller has checked that eight octets are there. -/
def unpackHeader (b : Octets) : ByteMessageInfo where
  acfMsgType := b.at 0 >>> 1
  acfMsgLength := ((b.at 0 &&& 0x01).toUInt16 <<< 8) ||| (b.at 1).toUInt16
  pad := (b.at 2 >>> 6) &&& 0x3
  mtv := (b.at 2 >>> 5) &&& 0x1
  byteBusId := ((b.at 2 &&& 0x07).toUInt16 <<< 8) ||| (b.at 3).toUInt16
  evt := (b.at 4 >>> 4) &&& 0xF
  hs := (b.at 4 >>> 1) &&& 0x1
  cs := b.at 4 &&& 0x1
  transactionNum := b.at 5
  op := if (b.at 6 >>> 7) &&& 0x1 ≠ 0 then opWrite else opRead
  rsp := (b.at 6 >>> 6) &&& 0x1
  err := (b.at 6 >>> 5) &&& 0x1
  ms := (b.at 6 >>> 4) &&& 0x1
  readSizeOrSegmentNum := ((b.at 6 &&& 0x0F).toUInt16 <<< 8) ||| (b.at 7).toUInt16

/-- `rcp_acf_peek_gbb_request_type`. -/
def peekGbbRequestType (frame : Octets) : Option UInt8 :=
  if frame.length < 9 then none
  else if (unpackHeader frame).acfMsgType ≠ msgTypeGbb then none
  else some (frame.at 8)

/-- `rcp_acf_peek_msg_type`. -/
def peekMsgType (b : Octets) : Option UInt8 :=
  if b.length < 1 then none else some (b.at 0 >>> 1)

/-- `rcp_acf_pad_len`. -/
def padLen (unpaddedLen : Nat) : Nat := (4 - unpaddedLen % 4) % 4

/-- `rcp_acf_header_is_request`. -/
def headerIsRequest (hdr : ByteMessageInfo) : Bool := hdr.rsp == 0

/-- `rcp_acf_evt_requests_acknowledge`: evt[3]. -/
def evtRequestsAcknowledge (evt : UInt8) : Bool := evt &&& 0x08 != 0

/-- `rcp_acf_evt_row2_is_plain`: no modifier in evt[2:0]. -/
def evtRow2IsPlain (evt : UInt8) : Bool := evt &&& 0x7 == 0

/-- `rcp_acf_gbb_is_timed`. -/
def gbbIsTimed (hdr : GbbHeader) : Bool := hdr.info.mtv == mtvValid

/-! ### ACF_ABB -/

/-- `rcp_acf_encode_abb`. -/
def encodeAbb (hdr : ByteMessageInfo) (payload : Octets) : Option Octets :=
  if payload.length > abbMaxPayload then none else
  let unpadded := abbHeaderLen + payload.length
  let pad := padLen unpadded
  let quadlets := UInt16.ofNat ((unpadded + pad) / 4)
  if quadlets > maxQuadlets then none else
  some (packHeader msgTypeAbb quadlets { hdr with pad := UInt8.ofNat pad } ++ payload ++
    List.replicate pad 0)

/-- `rcp_acf_decode_abb`: the header, with mtv folded to untimed, and the payload without its pad. -/
def decodeAbb (b : Octets) : Except Errc (ByteMessageInfo × Octets) :=
  if b.length < abbHeaderLen then .error .shortFrame else
  if b.at 0 >>> 1 ≠ msgTypeAbb then .error .badMsgType else
  let hdr := unpackHeader b
  let total := hdr.acfMsgLength.toNat * 4
  if total < abbHeaderLen then .error .shortFrame else
  if b.length < total then .error .shortFrame else
  let bodyLen := total - abbHeaderLen
  if hdr.pad.toNat > bodyLen then .error .shortFrame else
  .ok ({ hdr with mtv := mtvUntimed }, (b.drop abbHeaderLen).take (bodyLen - hdr.pad.toNat))

/-! ### ACF_GBB -/

/-- `rcp_acf_encode_gbb`: an untimed message always carries a zeroed timestamp region. -/
def encodeGbb (hdr : GbbHeader) (payload : Octets) : Option Octets :=
  if payload.length > gbbMaxPayload then none else
  let unpadded := gbbHeaderLen + payload.length
  let pad := padLen unpadded
  let quadlets := UInt16.ofNat ((unpadded + pad) / 4)
  if quadlets > maxQuadlets then none else
  let ts := if hdr.info.mtv = mtvUntimed then 0 else hdr.messageTimestamp
  some (packHeader msgTypeGbb quadlets { hdr.info with pad := UInt8.ofNat pad } ++ putU64 ts ++ payload ++
    List.replicate pad 0)

/-- `rcp_acf_decode_gbb`. -/
def decodeGbb (b : Octets) : Except Errc (GbbHeader × Octets) :=
  if b.length < gbbHeaderLen then .error .shortFrame else
  if b.at 0 >>> 1 ≠ msgTypeGbb then .error .badMsgType else
  let info := unpackHeader b
  let total := info.acfMsgLength.toNat * 4
  if total < gbbHeaderLen then .error .shortFrame else
  if b.length < total then .error .shortFrame else
  let bodyLen := total - gbbHeaderLen
  if info.pad.toNat > bodyLen then .error .shortFrame else
  .ok ({ info := info, messageTimestamp := getU64 b abbHeaderLen },
    (b.drop gbbHeaderLen).take (bodyLen - info.pad.toNat))

/-! ### Responses -/

/-- `rcp_acf_build_error_response`. -/
def buildErrorResponse (byteBusId : ByteBusId) (transactionNum : UInt8) (errorCode : WireError) : Option Octets :=
  encodeAbb { byteBusId := byteBusId, transactionNum := transactionNum, evt := 0, op := opNone, rsp := 1, err := 1 }
    [errorCode.code]

/-- `rcp_acf_build_acknowledge_response`. -/
def buildAcknowledgeResponse (byteBusId : ByteBusId) (transactionNum : UInt8) : Option Octets :=
  encodeAbb
    { byteBusId := byteBusId, transactionNum := transactionNum, evt := evtAcknowledge, op := opNone, rsp := 1,
      err := 0 } []

/-- `rcp_acf_build_acknowledge_rejected_response`. -/
def buildAcknowledgeRejectedResponse (byteBusId : ByteBusId) (transactionNum : UInt8)
    (errorCode : WireError) : Option Octets :=
  encodeAbb
    { byteBusId := byteBusId, transactionNum := transactionNum, evt := evtAcknowledge, op := opNone, rsp := 1,
      err := 1 } [errorCode.code]

/-! ### The compound-wait comparison (TC18 §13.5.1) -/

/-- The reserved comparison mode, evt[2:0] = 011b. -/
def compoundWaitModeReserved : UInt8 := 0x3

/-- `rcp_acf_compound_wait_evt_valid`. -/
def compoundWaitEvtValid (evt : UInt8) : Bool := evt &&& 0x7 != compoundWaitModeReserved

/-- `rcp_acf_compound_wait_match`. Only the first `payload.length` octets of the status take part. -/
def compoundWaitMatch (evt : UInt8) (payload status : Octets) : Bool :=
  if status.length < payload.length then false else
  match evt &&& 0x7 with
  | 0x0 => payload == status.take payload.length
  | 0x1 => (payload.zip status).all fun (p, s) => (p &&& s) ||| ~~~p == 0xFF
  | 0x2 => (payload.zip status).all fun (p, s) => p &&& s == 0x00
  | 0x4 => if payload.length < 4 then false else be16 payload 0 ≥ be16 status 0
  | 0x5 => if payload.length < 4 then false else be16 payload 0 ≤ be16 status 0
  | 0x6 => if payload.length < 4 then false else be16 payload 2 ≥ be16 status 2
  | 0x7 => if payload.length < 4 then false else be16 payload 2 ≤ be16 status 2
  | _ => false

end Acf

/-! ### The kind of a response -/

/-- `rcp_acf_response_kind_t`. -/
inductive ResponseKind where
  | acknowledge | error | write | read
deriving DecidableEq, Repr

/-- `rcp_acf_classify_response`. -/
def classifyResponse (hdr : Acf.ByteMessageInfo) : ResponseKind :=
  if hdr.evt = Acf.evtAcknowledge then .acknowledge else
  if hdr.err ≠ 0 then .error else
  if hdr.op = Acf.opWrite then .write else
  if hdr.op = Acf.opRead then .read else .acknowledge

end Rcp
