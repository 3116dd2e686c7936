import Rcp.Acf
import Rcp.Fragment
import Rcp.Lib.Tiling

/-! What the message codecs of the endpoint types share: a request is an ACF_ABB message, a response an ACF_GBB message
    where it carries a timestamp and an ACF_ABB message otherwise, either is one of the expected bus, and a response can
    be sent in fragments. -/

namespace Rcp
open Acf

/-- The `rcp_ep_*_errc_t` of all endpoint types, without their success values. -/
inductive EpErrc where
  | shortFrame | badMsgType | wrongBus | wrongOp | badEvt | unknownCmd | badPayloadLen | tooManyValues | reservedEvt
  | badChannel | badFrameFormat | badArbitrationId | badAddr | badWordCount | unsupportedMms
  | badMmsAddr | wrongMdioMode
deriving DecidableEq, Repr

/-- The error an ACF decoder's error becomes. -/
def EpErrc.ofAcf : Errc → EpErrc
  | .shortFrame => .shortFrame
  | .badMsgType => .badMsgType

/-- What every request decoder begins with. -/
def epDecodeRequest (b : Octets) (expectedBusId : ByteBusId) : Except EpErrc (ByteMessageInfo × Octets) :=
  match decodeAbb b with
  | .error e => .error (.ofAcf e)
  | .ok (hdr, payload) => if hdr.byteBusId ≠ expectedBusId then .error .wrongBus else .ok (hdr, payload)

/-- What a response decoder reads of a message. -/
structure EpResponse where
  info : ByteMessageInfo
  payload : Octets
  timed : Bool
  timestamp : UInt64
deriving DecidableEq, Repr

/-- A message of either form. -/
def epDecodeMessage (b : Octets) : Except EpErrc EpResponse :=
  match peekMsgType b with
  | none => .error .shortFrame
  | some msgType =>
    if msgType = msgTypeGbb then
      match decodeGbb b with
      | .error e => .error (.ofAcf e)
      | .ok (hdr, payload) =>
        .ok { info := hdr.info, payload, timed := gbbIsTimed hdr
              timestamp := if gbbIsTimed hdr then hdr.messageTimestamp else 0 }
    else
      match decodeAbb b with
      | .error e => .error (.ofAcf e)
      | .ok (hdr, payload) => .ok { info := hdr, payload, timed := false, timestamp := 0 }

/-- What every response decoder begins with. -/
def epDecodeResponse (b : Octets) (expectedBusId : ByteBusId) : Except EpErrc EpResponse := do
  let r ← epDecodeMessage b
  if r.info.byteBusId ≠ expectedBusId then .error .wrongBus else .ok r

/-- How every response encoder ends. -/
def epEncodeResponse (info : ByteMessageInfo) (payload : Octets) (timed : Bool) (timestamp : UInt64) : Option Octets :=
  if timed then encodeGbb { info := { info with mtv := mtvValid }, messageTimestamp := timestamp } payload
  else encodeAbb info payload

/-- What a response decoder returns: the value it is about, and what every response carries. -/
structure EpReply (α : Type) where
  value : α
  timed : Bool
  timestamp : UInt64
  transactionNum : UInt8
deriving DecidableEq, Repr

def EpResponse.reply {α : Type} (r : EpResponse) (value : α) : EpReply α where
  value := value
  timed := r.timed
  timestamp := r.timestamp
  transactionNum := r.info.transactionNum

/-! ### Fragments -/

/-- The loop of the fragmented response encoders: a frame for each segment, or no frame at all. -/
def epEncodeResponseFragments (info : ByteMessageInfo) (payload : Octets) (timed : Bool) (timestamp : UInt64)
    (segs : List FragmentSegment) : Option (List Octets) :=
  segs.mapM fun seg =>
    epEncodeResponse
      { info with ms := if seg.ms then 1 else 0, readSizeOrSegmentNum := if seg.ms then seg.segmentNum else 0 }
      (Lib.slice payload (seg.offset, seg.len)) timed timestamp

/-- What a fragment decoder returns. The segment number is a `uint8_t`. -/
structure EpFragment where
  ms : Bool
  segmentNum : UInt8
  payload : Octets
  timed : Bool
  timestamp : UInt64
  transactionNum : UInt8
deriving DecidableEq, Repr

def EpResponse.fragment (r : EpResponse) : EpFragment where
  ms := r.info.ms != 0
  segmentNum := r.info.readSizeOrSegmentNum.toUInt8
  payload := r.payload
  timed := r.timed
  timestamp := r.timestamp
  transactionNum := r.info.transactionNum

end Rcp
