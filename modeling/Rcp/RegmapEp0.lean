import Rcp.FieldLock
import Rcp.RegmapTables

/-! The EP0 dispatchers (`regmap.c`): a read or a write of the register map names an address, and the first table whose
    extent holds the address serves it.

    A null table pointer, of the sequencers or of an optional section, is an empty table: both are passed over. -/

namespace Rcp

open Acf
open Lib (RowCodec)

/-- `rcp_regmap_ep0_errc_t` without its success value. -/
inductive Ep0Errc where
  | shortFrame | badMsgType | wrongBus | wrongOp | shortPayload
deriving DecidableEq, Repr

/-- The sections of `rcp_regmap_optional_subsystem_cfg_ptrs_t`. -/
inductive OptionalSection where
  | networkInterface | physicalLayer | timeSynch | security
deriving DecidableEq, Repr

/-- The tables `rcp_regmap_ep0_decode_write_request` is given to write. -/
structure Ep0Tables where
  hwPinMap : List HwPinMapEntry := []
  epIdMap : List EpIdMapRow := []
  responseQueueCfg : List ResponseQueueCfg := []
  requestStreamCfg : List RequestStreamRow := []
  epGenericCfg : List EpGenericCfg := []
  sequencers : SequencerTable := {}
  optionalCfg : OptionalSection → Octets := fun _ => []

/-- Where an address leads. -/
inductive Ep0Table where
  | general | hwPinMap | epIdMap | responseQueueCfg | requestStreamCfg | epGenericCfg | sequencers
  | optionalCfg (s : OptionalSection)
deriving DecidableEq, Repr

namespace RegmapGeneral

def optionalPtr (map : RegmapGeneral) : OptionalSection → UInt16
  | .networkInterface => map.svrNetworkInterfaceCfgPtr
  | .physicalLayer => map.svrPhysicalLayerCfgPtr
  | .timeSynch => map.svrTimeSynchCfgPtr
  | .security => map.svrSecurityCfgPtr

/-- The address a table begins at. -/
def tablePtr (map : RegmapGeneral) : Ep0Table → Nat
  | .general => 0
  | .hwPinMap => map.svrHwCfgPtr.toNat
  | .epIdMap => map.svrEpBytebusIdMapPtr.toNat
  | .responseQueueCfg => map.svrResponseStreamCfgPtr.toNat
  | .requestStreamCfg => map.svrRequestStreamCfgPtr.toNat
  | .epGenericCfg => map.svrEpGenericCfgPtr.toNat
  | .sequencers => map.svrSequencerStatePtr.toNat
  | .optionalCfg s => (map.optionalPtr s).toNat

/-- `addr >= ptr && addr < ptr + len`. -/
def inExtent (map : RegmapGeneral) (addr : Nat) (t : Ep0Table) (len : Nat) : Bool :=
  decide (map.tablePtr t ≤ addr ∧ addr < map.tablePtr t + len)

end RegmapGeneral

/-- The order in which the optional sections are asked. -/
def OptionalSection.all : List OptionalSection := [.networkInterface, .physicalLayer, .timeSynch, .security]

/-! ### Write operations -/

/-- `rcp_regmap_ep0_write_op_t`. -/
inductive Ep0WriteOp where
  | set | or | and | xor
deriving DecidableEq, Repr

namespace Ep0WriteOp

/-- The operation evt[2:0] names; 4 to 7 are reserved. -/
def ofEvt (evt : UInt8) : Option Ep0WriteOp :=
  match evt &&& 0x07 with
  | 0 => some .set
  | 1 => some .or
  | 2 => some .and
  | 3 => some .xor
  | _ => none

def apply : Ep0WriteOp → UInt8 → UInt8 → UInt8
  | .set, _, request => request
  | .or, current, request => current ||| request
  | .and, current, request => current &&& request
  | .xor, current, request => current ^^^ request

end Ep0WriteOp

/-- `rcp_regmap_ep0_combine_write_op`. -/
def ep0CombineWriteOp (op : Ep0WriteOp) (current request : Octets) : Octets :=
  request.mapIdx fun i octet => op.apply (current.at i) octet

/-- The fixed-size buffer an image is rendered into: beyond the image it holds whatever was on the stack. -/
def renderedInto (stale image : Octets) : Octets := image ++ stale.drop image.length

/-- The octets a write of a row table puts at `relative`: combined with the table's own where `write_op` asks for it
    and the span fits the buffer, as requested otherwise. -/
def ep0WriteData (op : Ep0WriteOp) (stale image : Octets) (stride count maxEntries relative : Nat) (data : Octets) :
    Octets :=
  if op ≠ .set ∧ relative + data.length ≤ maxEntries * stride ∧ count ≤ maxEntries then
    ep0CombineWriteOp op ((renderedInto stale image).drop relative) data
  else data

/-! ### The write dispatcher -/

/-- The arguments of `rcp_regmap_ep0_decode_write_request` other than the frame and the tables. `stale` is what the
    uninitialised buffers of the call hold. -/
structure Ep0WriteCtx where
  map : RegmapGeneral := {}
  state : LifecycleState := .hwUnconfigured
  writer : FieldWriterCtx := {}
  requesterStreamIndex : UInt8 := 0
  watchdogMsPerTick : UInt32 := 0
  epIdMapEpTypes : Option Octets := none
  fixedEpIdTargetEpType : UInt8 := 0
  fixedEpIdRequiredEpId : UInt16 := 0
  stale : Octets := []

namespace Ep0WriteCtx
variable (ctx : Ep0WriteCtx)

def fieldWritable (kind : LifecycleFieldKind) : Bool := lifecycleFieldWritable ctx.state kind ctx.writer

def fieldWriteError (kind : LifecycleFieldKind) : WireError := lifecycleFieldWriteError ctx.state kind ctx.writer

/-- svr_configuration_lock, the lock of every W+ field. -/
def locked : Bool := ctx.map.svrConfigurationLock != 0

/-! #### Authorization -/

/-- `respqueue_cfg_row_write_authorize`: of each row, the octets 0, 1 and 6 to 9 are W+. -/
def respqueueCfgRowWriteAuthorize (relativeStartAddress dataLen : Nat) : WireError :=
  if !ctx.fieldWritable .hwGeneric then ctx.fieldWriteError .hwGeneric else
  let touchesWPlus := (List.range dataLen).any fun i =>
    let rowOffset := (relativeStartAddress + i) % 10
    decide (rowOffset < 2 ∨ rowOffset ≥ 6)
  if touchesWPlus && ctx.locked then .lockedMem else .none

/-- The check of one octet in `sequencer_row_write_authorize`: the state is its owner's, the owner register is free
    while the sequencer is unclaimed. -/
def sequencerOctetPermitted (requesterStreamIndex : UInt8) (rows : List SequencerRow) (octet : Nat) : Bool :=
  match rows[octet / 2]? with
  | none => true
  | some row =>
    if octet % 2 = 0 then !(row.owner == 0 || row.owner != requesterStreamIndex)
    else !(row.owner != 0 && row.owner != requesterStreamIndex)

/-- `sequencer_row_write_authorize`. -/
def sequencerRowWriteAuthorize (rows : List SequencerRow) (relativeStartAddress dataLen : Nat) : WireError :=
  if !ctx.fieldWritable .functionalWStar then ctx.fieldWriteError .functionalWStar else
  if (List.range dataLen).all fun i =>
      sequencerOctetPermitted ctx.requesterStreamIndex rows (relativeStartAddress + i) then .none
  else .unauthorizedAccess

/-- `request_stream_cfg_row_write_authorize`: beyond the W* window, a write to rx_stream_status that leaves the other
    seven bits of its octet as they are. `currentRendered` is `none` for a null pointer. -/
def requestStreamCfgRowWriteAuthorize (relativeStartAddress : Nat) (writeData : Octets)
    (currentRendered : Option Octets) : Bool :=
  if ctx.fieldWritable .functionalWStar then true else
  match currentRendered with
  | none => false
  | some rendered => (List.range writeData.length).all fun i =>
    (relativeStartAddress + i) % 24 == 0x0D &&
      writeData.at i &&& 0x7F == rendered.at (relativeStartAddress + i) &&& 0x7F

/-- `ep_id_map_write_keeps_fixed_ep_id`. -/
def epIdMapWriteKeepsFixedEpId (entries : List EpIdMapRow) (relativeStartAddress : Nat) (data : Octets) : Bool :=
  match ctx.epIdMapEpTypes with
  | none => true
  | some epTypes =>
    if relativeStartAddress + data.length > epIdMapMaxEntries * 4 then true else
    let block : Octets := Lib.patch (epIdMapCodec.image entries) relativeStartAddress data
    (List.range entries.length).all fun i =>
      !(epTypes.at i == ctx.fixedEpIdTargetEpType && block.at (4 * i + 1) != ctx.fixedEpIdRequiredEpId.toUInt8)

/-! #### The branches -/

variable (op : Ep0WriteOp) (relative : Nat) (data : Octets)

/-- The svr_hw_cfg_ptr branch. -/
def writeHwPinMap (entries : List HwPinMapEntry) : WireError × List HwPinMapEntry :=
  if !ctx.fieldWritable .hwGeneric then (ctx.fieldWriteError .hwGeneric, entries) else
  reconfigResult entries (hwPinMapApplyReconfig entries relative
    (ep0WriteData op ctx.stale (hwPinMapCodec.image entries) 3 entries.length hwPinMapMaxEntries relative data))

/-- The svr_ep_bytebus_id_map_ptr branch. -/
def writeEpIdMap (entries : List EpIdMapRow) : WireError × List EpIdMapRow :=
  if !lifecycleFieldWritableWPlus ctx.state ctx.writer ctx.locked then
    (lifecycleFieldWriteErrorWPlus ctx.state ctx.writer ctx.locked, entries)
  else
    let writeData :=
      ep0WriteData op ctx.stale (epIdMapCodec.image entries) 4 entries.length epIdMapMaxEntries relative data
    if !ctx.epIdMapWriteKeepsFixedEpId entries relative writeData then (.invalidParameter, entries) else
    reconfigResult entries (epIdMapApplyReconfig entries relative writeData)

/-- The svr_response_stream_cfg_ptr branch. -/
def writeResponseQueueCfg (entries : List ResponseQueueCfg) : WireError × List ResponseQueueCfg :=
  let authErr := ctx.respqueueCfgRowWriteAuthorize relative data.length
  if authErr ≠ .none then (authErr, entries) else
  reconfigResult entries (responseQueueCfgApplyReconfig entries relative
    (ep0WriteData op ctx.stale (responseQueueCodec.image entries) 10 entries.length responseQueueCfgMaxEntries
      relative data))

/-- The svr_request_stream_cfg_ptr branch. It renders whenever the span fits the buffer; more than 64 rows, which the
    callers exclude, would overrun it. -/
def writeRequestStreamCfg (entries : List RequestStreamRow) : WireError × List RequestStreamRow :=
  let haveRendered : Bool := decide (relative + data.length ≤ requestStreamCfgMaxEntries * 24)
  let rendered := renderedInto ctx.stale ((requestStreamCodec ctx.watchdogMsPerTick).image entries)
  let writeData :=
    if haveRendered && op != .set then ep0CombineWriteOp op (rendered.drop relative) data else data
  if !ctx.requestStreamCfgRowWriteAuthorize relative writeData (if haveRendered then some rendered else none) then
    (ctx.fieldWriteError .functionalWStar, entries)
  else reconfigResult entries (requestStreamCfgApplyReconfig ctx.watchdogMsPerTick entries relative writeData)

/-- The svr_ep_generic_cfg_ptr branch. -/
def writeEpGenericCfg (entries : List EpGenericCfg) : WireError × List EpGenericCfg :=
  if !ctx.fieldWritable .hwGeneric then (ctx.fieldWriteError .hwGeneric, entries) else
  reconfigResult entries (epGenericCfgApplyReconfig entries relative
    (ep0WriteData op ctx.stale (epGenericCfgRender entries) 12 entries.length epGenericCfgMaxEntries relative data))

/-- The svr_sequencer_state_ptr branch. -/
def writeSequencers (rows : List SequencerRow) : WireError × List SequencerRow :=
  let authErr := ctx.sequencerRowWriteAuthorize rows relative data.length
  if authErr ≠ .none then (authErr, rows) else
  reconfigResult rows (sequencerTableApplyReconfig rows relative
    (ep0WriteData op ctx.stale (sequencerCodec.image rows) 2 rows.length sequencerStateMaxEntries relative data))

/-- `optional_subsystem_cfg_write_route`, once it has taken the address. -/
def writeOptionalCfg (cfg : Octets) : WireError × Octets :=
  if !ctx.fieldWritable .functionalWStar then (ctx.fieldWriteError .functionalWStar, cfg) else
  let writeData :=
    if op ≠ .set ∧ relative + data.length ≤ cfg.length ∧ data.length ≤ abbMaxPayload then
      ep0CombineWriteOp op (cfg.drop relative) data
    else data
  reconfigResult cfg (optionalSubsystemCfgApplyReconfig cfg relative writeData)

end Ep0WriteCtx

namespace Ep0Tables

/-- The conditions on the address in `rcp_regmap_ep0_decode_write_request`, in their order. -/
def writeRoute (tables : Ep0Tables) (map : RegmapGeneral) (addr : Nat) : Option Ep0Table :=
  if addr < regmapGeneralLen then some .general else
  if map.inExtent addr .hwPinMap (tables.hwPinMap.length * 3) then some .hwPinMap else
  if map.inExtent addr .epIdMap (tables.epIdMap.length * 4) then some .epIdMap else
  if map.inExtent addr .responseQueueCfg (tables.responseQueueCfg.length * 10) then some .responseQueueCfg else
  if map.inExtent addr .requestStreamCfg (tables.requestStreamCfg.length * 24) then some .requestStreamCfg else
  if map.inExtent addr .epGenericCfg (tables.epGenericCfg.length * 12) then some .epGenericCfg else
  if map.inExtent addr .sequencers (tables.sequencers.count * 2) then some .sequencers else
  (OptionalSection.all.find? fun s => map.inExtent addr (.optionalCfg s) (tables.optionalCfg s).length).map .optionalCfg

/-- The write of `data` at `addr`, once the operation is known. -/
def writeAt (tables : Ep0Tables) (ctx : Ep0WriteCtx) (op : Ep0WriteOp) (addr : Nat) (data : Octets) :
    WireError × Ep0Tables :=
  match tables.writeRoute ctx.map addr with
  | none => (.epNotFound, tables)
  | some t =>
    let relative := addr - ctx.map.tablePtr t
    match t with
    | .general => (lifecycleFieldWriteError .rcpConfigured .readOnly ctx.writer, tables)
    | .hwPinMap =>
      let (err, rows) := ctx.writeHwPinMap op relative data tables.hwPinMap
      (err, { tables with hwPinMap := rows })
    | .epIdMap =>
      let (err, rows) := ctx.writeEpIdMap op relative data tables.epIdMap
      (err, { tables with epIdMap := rows })
    | .responseQueueCfg =>
      let (err, rows) := ctx.writeResponseQueueCfg op relative data tables.responseQueueCfg
      (err, { tables with responseQueueCfg := rows })
    | .requestStreamCfg =>
      let (err, rows) := ctx.writeRequestStreamCfg op relative data tables.requestStreamCfg
      (err, { tables with requestStreamCfg := rows })
    | .epGenericCfg =>
      let (err, rows) := ctx.writeEpGenericCfg op relative data tables.epGenericCfg
      (err, { tables with epGenericCfg := rows })
    | .sequencers =>
      let (err, rows) := ctx.writeSequencers op relative data tables.sequencers.rows
      (err, { tables with sequencers := { rows := rows } })
    | .optionalCfg s =>
      let (err, cfg) := ctx.writeOptionalCfg op relative data (tables.optionalCfg s)
      (err, { tables with optionalCfg := Function.update tables.optionalCfg s cfg })

end Ep0Tables

/-- A write request: what its header and the first two octets of its payload say. -/
structure Ep0WriteRequest where
  evt : UInt8
  transactionNum : UInt8
  addr : UInt16
  data : Octets
deriving DecidableEq, Repr

/-- The checks of the frame in `rcp_regmap_ep0_decode_write_request`. -/
def ep0ParseWriteRequest (b : Octets) : Except Ep0Errc Ep0WriteRequest :=
  match decodeAbb b with
  | .error .shortFrame => .error .shortFrame
  | .error .badMsgType => .error .badMsgType
  | .ok (hdr, payload) =>
    if hdr.byteBusId ≠ 0 then .error .wrongBus else
    if hdr.op ≠ opWrite then .error .wrongOp else
    if payload.length < 2 then .error .shortPayload else
    .ok { evt := hdr.evt, transactionNum := hdr.transactionNum, addr := be16 payload 0, data := payload.drop 2 }

/-- `rcp_regmap_ep0_decode_write_request`: `*out_error` and `*out_transaction_num`, and the tables as it leaves them. -/
def ep0DecodeWriteRequest (ctx : Ep0WriteCtx) (tables : Ep0Tables) (b : Octets) :
    Except Ep0Errc (WireError × UInt8) × Ep0Tables :=
  match ep0ParseWriteRequest b with
  | .error e => (.error e, tables)
  | .ok request =>
    match Ep0WriteOp.ofEvt request.evt with
    | none => (.ok (.unsupportedCmd, request.transactionNum), tables)
    | some op =>
      let (err, tables') := tables.writeAt ctx op request.addr.toNat request.data
      (.ok (err, request.transactionNum), tables')

/-- One write request as it reaches the dispatcher. -/
structure Ep0Call where
  ctx : Ep0WriteCtx := {}
  frame : Octets

namespace Ep0Tables

def call (tables : Ep0Tables) (c : Ep0Call) : Ep0Tables := (ep0DecodeWriteRequest c.ctx tables c.frame).2

/-- The tables after a run of requests, whoever they come from. -/
def run (tables : Ep0Tables) (calls : List Ep0Call) : Ep0Tables := calls.foldl call tables

end Ep0Tables

/-! ### The read dispatcher -/

/-- The arguments of `rcp_regmap_ep0_encode_read_response` that it shows the tables with. -/
structure Ep0ReadCtx where
  map : RegmapGeneral := {}
  watchdogMsPerTick : UInt32 := 0
  requestStreamStatusBlocked : Nat → Bool := fun _ => false

namespace Ep0Tables

/-- The conditions on the address in `rcp_regmap_ep0_encode_read_response`: the counts are clamped, but for the
    sequencers'. -/
def readRoute (tables : Ep0Tables) (map : RegmapGeneral) (addr : Nat) : Option Ep0Table :=
  if addr < regmapGeneralLen then some .general else
  if map.inExtent addr .hwPinMap (min tables.hwPinMap.length hwPinMapMaxEntries * 3) then some .hwPinMap else
  if map.inExtent addr .epIdMap (min tables.epIdMap.length epIdMapMaxEntries * 4) then some .epIdMap else
  if map.inExtent addr .responseQueueCfg (min tables.responseQueueCfg.length responseQueueCfgMaxEntries * 10) then
    some .responseQueueCfg
  else
  if map.inExtent addr .requestStreamCfg (min tables.requestStreamCfg.length requestStreamCfgMaxEntries * 24) then
    some .requestStreamCfg
  else
  if map.inExtent addr .epGenericCfg (min tables.epGenericCfg.length epGenericCfgMaxEntries * 12) then
    some .epGenericCfg
  else
  if map.inExtent addr .sequencers (tables.sequencers.count * 2) then some .sequencers else
  (OptionalSection.all.find? fun s => map.inExtent addr (.optionalCfg s) (tables.optionalCfg s).length).map .optionalCfg

/-- The image a read of the table is served from. -/
def readImage (tables : Ep0Tables) (ctx : Ep0ReadCtx) : Ep0Table → Octets
  | .general => ctx.map.render
  | .hwPinMap => hwPinMapCodec.image (tables.hwPinMap.take hwPinMapMaxEntries)
  | .epIdMap => epIdMapCodec.image (tables.epIdMap.take epIdMapMaxEntries)
  | .responseQueueCfg => responseQueueCodec.image (tables.responseQueueCfg.take responseQueueCfgMaxEntries)
  | .requestStreamCfg =>
    requestStreamCfgRender ctx.watchdogMsPerTick ctx.requestStreamStatusBlocked
      (tables.requestStreamCfg.take requestStreamCfgMaxEntries)
  | .epGenericCfg => epGenericCfgRender (tables.epGenericCfg.take epGenericCfgMaxEntries)
  | .sequencers => sequencerCodec.image (tables.sequencers.rows.take sequencerStateMaxEntries)
  | .optionalCfg s => tables.optionalCfg s

end Ep0Tables

/-- The payload of `ep0_read_response_from_slice`: what the image has from `offset` on, and zeros up to
    `read_size`. -/
def ep0ReadPayload (tableImage : Octets) (offset : Nat) (readSize : UInt8) : Octets :=
  let copied := (tableImage.drop offset).take readSize.toNat
  copied ++ List.replicate (readSize.toNat - copied.length) 0

/-- `ep0_read_response_from_slice`. -/
def ep0ReadResponseFromSlice (tableImage : Octets) (offset : Nat) (readSize transactionNum : UInt8) : Option Octets :=
  encodeAbb
    { byteBusId := 0, op := opRead, rsp := 1, readSizeOrSegmentNum := readSize.toUInt16,
      transactionNum := transactionNum }
    (ep0ReadPayload tableImage offset readSize)

/-- `rcp_regmap_ep0_encode_read_response`: `*out_error` and the response. -/
def ep0EncodeReadResponse (ctx : Ep0ReadCtx) (tables : Ep0Tables) (addr : UInt16) (readSize transactionNum : UInt8) :
    WireError × Option Octets :=
  match tables.readRoute ctx.map addr.toNat with
  | none => (.epNotFound, none)
  | some t =>
    (.none, ep0ReadResponseFromSlice (tables.readImage ctx t) (addr.toNat - ctx.map.tablePtr t) readSize transactionNum)

end Rcp
