import Rcp.Octets

/-! The AVTP envelope (`avtp.c`): stream identifiers, the NTSCF and TSCF frames, the extension of a 32-bit
    presentation timestamp and the rule for a TSCF frame that cannot be honoured. -/

namespace Rcp

def avtpSubtypeTscf : UInt8 := 0x05
def avtpSubtypeNtscf : UInt8 := 0x82

/-- `RCP_AVTP_NTSCF_HEADER_LEN`. -/
def avtpNtscfHeaderLen : Nat := 12
/-- `RCP_AVTP_TSCF_HEADER_LEN`. -/
def avtpTscfHeaderLen : Nat := 24

def avtpNtscfMaxPayload : Nat := 2047
def avtpTscfMaxPayload : Nat := 65535

/-- `rcp_avtp_errc_t` without its success value. -/
inductive AvtpErrc where
  | shortFrame | badSubtype
deriving DecidableEq, Repr

/-! ### Stream identifiers -/

/-- `rcp_stream_id_t`: the MAC address of the sender and the suffix it assigned. -/
structure StreamId where
  mac : Vector UInt8 6
  uniqueId : UInt16
deriving DecidableEq, Repr

/-- `rcp_stream_id_to_u64`. -/
def StreamId.toU64 (id : StreamId) : UInt64 :=
  let mac48 := (id.mac[0].toUInt64 <<< 40) ||| (id.mac[1].toUInt64 <<< 32) ||| (id.mac[2].toUInt64 <<< 24) |||
    (id.mac[3].toUInt64 <<< 16) ||| (id.mac[4].toUInt64 <<< 8) ||| id.mac[5].toUInt64
  (mac48 <<< 16) ||| id.uniqueId.toUInt64

/-- `rcp_stream_id_from_u64`. -/
def StreamId.fromU64 (v : UInt64) : StreamId :=
  let mac48 := v >>> 16
  { mac := #v[((mac48 >>> 40) &&& 0xFF).toUInt8, ((mac48 >>> 32) &&& 0xFF).toUInt8,
              ((mac48 >>> 24) &&& 0xFF).toUInt8, ((mac48 >>> 16) &&& 0xFF).toUInt8,
              ((mac48 >>> 8) &&& 0xFF).toUInt8, (mac48 &&& 0xFF).toUInt8],
    uniqueId := (v &&& 0xFFFF).toUInt16 }

/-- `put_stream_id`. -/
def putStreamId (id : StreamId) : Octets := id.mac.toList ++ putU16 id.uniqueId

/-- `get_stream_id(&b[i])`. -/
def getStreamId (b : Octets) (i : Nat) : StreamId where
  mac := #v[b.at i, b.at (i + 1), b.at (i + 2), b.at (i + 3), b.at (i + 4), b.at (i + 5)]
  uniqueId := be16 b (i + 6)

/-! ### NTSCF -/

/-- `rcp_avtp_ntscf_header_t`. -/
structure NtscfHeader where
  sv : UInt8
  version : UInt8
  ntscfDataLength : UInt16
  sequenceNum : UInt8
  streamId : StreamId
deriving DecidableEq, Repr

/-- `rcp_avtp_encode_ntscf`. The length field is that of the payload, whatever the header says. -/
def avtpEncodeNtscf (hdr : NtscfHeader) (payload : Octets) : Option Octets :=
  if payload.length > avtpNtscfMaxPayload then none else
  let len := UInt16.ofNat payload.length
  some ([avtpSubtypeNtscf,
         ((hdr.sv &&& 0x1) <<< 7) ||| ((hdr.version &&& 0x7) <<< 4) ||| ((len >>> 8) &&& 0x7).toUInt8,
         (len &&& 0xFF).toUInt8,
         hdr.sequenceNum] ++ putStreamId hdr.streamId ++ payload)

/-- `rcp_avtp_decode_ntscf`: the header, and the declared part of what follows it. -/
def avtpDecodeNtscf (b : Octets) : Except AvtpErrc (NtscfHeader × Octets) :=
  if b.length < avtpNtscfHeaderLen then .error .shortFrame else
  if b.at 0 ≠ avtpSubtypeNtscf then .error .badSubtype else
  let dlen : UInt16 := ((b.at 1 &&& 0x07).toUInt16 <<< 8) ||| (b.at 2).toUInt16
  if b.length < avtpNtscfHeaderLen + dlen.toNat then .error .shortFrame else
  .ok ({ sv := (b.at 1 >>> 7) &&& 0x1
         version := (b.at 1 >>> 4) &&& 0x7
         ntscfDataLength := dlen
         sequenceNum := b.at 3
         streamId := getStreamId b 4 }, (b.drop avtpNtscfHeaderLen).take dlen.toNat)

/-! ### TSCF -/

/-- `rcp_avtp_tscf_header_t`. The reserved fields are decoded, never encoded. -/
structure TscfHeader where
  sv : UInt8
  version : UInt8
  mr : UInt8
  tv : UInt8
  sequenceNum : UInt8
  tu : UInt8
  streamId : StreamId
  avtpTimestamp : UInt32
  streamDataLength : UInt16
  reserved0 : UInt32
  reserved1 : UInt16
deriving DecidableEq, Repr

/-- `rcp_avtp_encode_tscf`. -/
def avtpEncodeTscf (hdr : TscfHeader) (payload : Octets) : Option Octets :=
  if payload.length > avtpTscfMaxPayload then none else
  some ([avtpSubtypeTscf,
         ((hdr.sv &&& 0x1) <<< 7) ||| ((hdr.version &&& 0x7) <<< 4) ||| ((hdr.mr &&& 0x1) <<< 3) ||| (hdr.tv &&& 0x1),
         hdr.sequenceNum,
         hdr.tu &&& 0x1] ++ putStreamId hdr.streamId ++ putU32 hdr.avtpTimestamp ++ [0, 0, 0, 0] ++
        putU16 (UInt16.ofNat payload.length) ++ [0, 0] ++ payload)

/-- `rcp_avtp_decode_tscf`. -/
def avtpDecodeTscf (b : Octets) : Except AvtpErrc (TscfHeader × Octets) :=
  if b.length < avtpTscfHeaderLen then .error .shortFrame else
  if b.at 0 ≠ avtpSubtypeTscf then .error .badSubtype else
  let dlen := be16 b 20
  if b.length < avtpTscfHeaderLen + dlen.toNat then .error .shortFrame else
  .ok ({ sv := (b.at 1 >>> 7) &&& 0x1
         version := (b.at 1 >>> 4) &&& 0x7
         mr := (b.at 1 >>> 3) &&& 0x1
         tv := b.at 1 &&& 0x1
         sequenceNum := b.at 2
         tu := b.at 3 &&& 0x1
         streamId := getStreamId b 4
         avtpTimestamp := getU32 b 12
         streamDataLength := dlen
         reserved0 := getU32 b 16
         reserved1 := be16 b 22 }, (b.drop avtpTscfHeaderLen).take dlen.toNat)

/-- `rcp_avtp_tscf_reserved_all_zero`. -/
def TscfHeader.reservedAllZero (hdr : TscfHeader) : Bool := hdr.reserved0 == 0 && hdr.reserved1 == 0

/-! ### Presentation times -/

/-- `rcp_avtp_tscf_fallback_t`: what a server without time synchronisation does with a TSCF frame. -/
inductive TscfFallback where
  | drop | ignore
deriving DecidableEq, Repr

/-- `rcp_avtp_extend_timestamp`: the instant with the given low 32 bits closest to `referenceNow`. -/
def avtpExtendTimestamp (wireTs : UInt32) (referenceNow : UInt64) : UInt64 :=
  let period := (1 : UInt64) <<< 32
  let half := period / 2
  let candidate := (referenceNow &&& ~~~(period - 1)) ||| wireTs.toUInt64
  if candidate > referenceNow ∧ candidate - referenceNow > half then candidate - period
  else if candidate < referenceNow ∧ referenceNow - candidate > half then candidate + period
  else candidate

def avtpShouldDropTscf (serverTimeSyncSupported : Bool) (subtype : UInt8) (policy : TscfFallback) : Bool :=
  if subtype ≠ avtpSubtypeTscf then false else
  if !serverTimeSyncSupported then policy == .drop else false

end Rcp
