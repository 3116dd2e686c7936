import Rcp.EpFunc
import Rcp.EpCodec

/-! The CAN endpoint (`ep_can.c`): the functional configuration with its setters and its block of registers, and the
    codec of its frames. -/

namespace Rcp

/-- `RCP_EP_CAN_XL_MAX_FILTERS`. -/
def canXlMaxFilters : Nat := 4

/-- `rcp_ep_can_bit_timing_t`. -/
structure CanBitTiming where
  prescaler : UInt32 := 0
  propSeg : UInt16 := 0
  phaseSeg1 : UInt16 := 0
  phaseSeg2 : UInt16 := 0
  syncJumpWidth : UInt8 := 0
deriving DecidableEq, Repr

/-- `rcp_ep_can_xl_filter_t`. -/
structure CanXlFilter where
  id : UInt32 := 0
  mask : UInt32 := 0
  enable : Bool := false
deriving DecidableEq, Repr

/-- `rcp_ep_can_functional_cfg_t`. -/
structure CanFunctionalCfg where
  common : EpFunctionalCfg := {}
  arbitrationTiming : CanBitTiming := {}
  fdDataTiming : CanBitTiming := {}
  xlDataTiming : CanBitTiming := {}
  delayCompEnable : Bool := false
  delayCompOffset : UInt8 := 0
  execDelayClkDivider : UInt32 := 0
  xlFilters : Fin canXlMaxFilters → CanXlFilter := fun _ => {}
  epStatus : UInt16 := 0
  status : UInt32 := 0
  fifoStatus : UInt32 := 0
  xlNewPlProvisioned : Bool := false

namespace CanFunctionalCfg

/-- `rcp_ep_can_functional_cfg_init`. -/
def init : CanFunctionalCfg := {}

section setters
variable (cfg : CanFunctionalCfg) (state : LifecycleState) (writer : FieldWriterCtx)

/-- `rcp_ep_can_set_arbitration_timing`. -/
def setArbitrationTiming (timing : CanBitTiming) : Bool × CanFunctionalCfg :=
  epSetField cfg { cfg with arbitrationTiming := timing } state writer

/-- `rcp_ep_can_set_fd_data_timing`. -/
def setFdDataTiming (timing : CanBitTiming) : Bool × CanFunctionalCfg :=
  epSetField cfg { cfg with fdDataTiming := timing } state writer

/-- `rcp_ep_can_set_xl_data_timing`. -/
def setXlDataTiming (timing : CanBitTiming) : Bool × CanFunctionalCfg :=
  epSetField cfg { cfg with xlDataTiming := timing } state writer

/-- `rcp_ep_can_set_delay_compensation`. -/
def setDelayCompensation (enable : Bool) (offset : UInt8) : Bool × CanFunctionalCfg :=
  epSetField cfg { cfg with delayCompEnable := enable, delayCompOffset := offset } state writer

/-- `rcp_ep_can_set_xl_new_pl_provisioned`. -/
def setXlNewPlProvisioned (newPlProvisioned : Bool) : Bool × CanFunctionalCfg :=
  epSetField cfg { cfg with xlNewPlProvisioned := newPlProvisioned } state writer

/-- `rcp_ep_can_set_exec_delay_clk_divider`. -/
def setExecDelayClkDivider (divider : UInt32) : Bool × CanFunctionalCfg :=
  epSetField cfg { cfg with execDelayClkDivider := divider } state writer

/-- `rcp_ep_can_set_xl_filter`, with `rcp_ep_can_xl_filter_index_valid`. -/
def setXlFilter (index : UInt8) (filter : CanXlFilter) : Bool × CanFunctionalCfg :=
  if ¬index.toNat < canXlMaxFilters then (false, cfg) else
  epSetField cfg
    { cfg with xlFilters := fun i => if i.val = index.toNat then filter else cfg.xlFilters i } state writer

end setters

end CanFunctionalCfg

/-! ### The register block -/

/-- `RCP_EP_CAN_EP_FUNC_LEN`. -/
def canEpFuncLen : Nat := 0x24

def canRegUndecomposedStart : Nat := 0x08
def canRegUndecomposedLen : Nat := 0x14

/-- `rcp_ep_can_render_registers`. -/
def canRenderRegisters (cfg : CanFunctionalCfg) : Octets :=
  [UInt8.ofNat canEpFuncLen, 0, cfg.common.enableClr, cfg.common.options] ++ putU16 0 ++ putU16 cfg.epStatus ++
  List.replicate canRegUndecomposedLen 0 ++ putU32 cfg.status ++ putU32 cfg.fifoStatus

/-- `parse_can_registers`. -/
def canParseRegisters (cfg : CanFunctionalCfg) (block : Octets) : CanFunctionalCfg :=
  { cfg with
    common := .parse (block.at 2) (block.at 3)
    epStatus := be16 block 6
    status := getU32 block 0x1C
    fifoStatus := getU32 block 0x20 }

/-- `can_reg_offset_read_only`: also the registers that are not decomposed. -/
def canRegOffsetReadOnly (addr : Nat) : Bool :=
  epRegOffsetReadOnly addr ||
    (decide (canRegUndecomposedStart ≤ addr) && decide (addr < canRegUndecomposedStart + canRegUndecomposedLen))

/-- The block of the endpoint. -/
def canBlock : EpBlock CanFunctionalCfg where
  len := canEpFuncLen
  render := canRenderRegisters
  parse := canParseRegisters
  readOnly := canRegOffsetReadOnly
  length_render _ := rfl

/-- `rcp_ep_can_apply_reconfig`. -/
def canApplyReconfig (cfg : CanFunctionalCfg) (payload : Octets) : Option EpReconfigErrc × CanFunctionalCfg :=
  epApplyReconfig canBlock cfg payload

/-! ### Frames -/

/-- The values of `rcp_ep_can_frame_format_t`. A value of that type can be another one: the adapter casts to it what a
    message says. -/
def canFrameCbff : UInt32 := 0
def canFrameCeff : UInt32 := 1
def canFrameFbff : UInt32 := 2
def canFrameFeff : UInt32 := 3
def canFrameXlClassicalPl : UInt32 := 4
def canFrameXlNewPl : UInt32 := 5

/-- `RCP_EP_CAN_MAX_FRAGMENT_SEGMENTS`. -/
def canMaxFragmentSegments : UInt64 := 256

/-- `rcp_ep_can_xl_header_t`. -/
structure CanXlHeader where
  sdt : UInt8 := 0
  vcid : UInt8 := 0
  af : UInt32 := 0
deriving DecidableEq, Repr

/-- What a frame is encoded from and decoded to; `xlHeader` is `none` for a null pointer, and where a decoder does not
    write it. -/
structure CanFrame where
  frameFormat : UInt32
  arbitrationId : UInt32
  xlHeader : Option CanXlHeader
  data : Octets
deriving DecidableEq, Repr

/-- `rcp_ep_can_id_width_t`. -/
inductive CanIdWidth where
  | base11 | extended29
deriving DecidableEq, Repr

/-- `rcp_ep_can_frame_format_valid`. -/
def canFrameFormatValid (v : UInt8) : Bool := v ≤ canFrameXlNewPl.toUInt8

/-- `rcp_ep_can_frame_format_is_xl`. -/
def canFrameFormatIsXl (format : UInt32) : Bool := format == canFrameXlClassicalPl || format == canFrameXlNewPl

/-- `rcp_ep_can_frame_format_id_width`. -/
def canFrameFormatIdWidth (format : UInt32) : CanIdWidth :=
  if format = canFrameCeff ∨ format = canFrameFeff then .extended29 else .base11

/-- `rcp_ep_can_arbitration_id_valid`. -/
def canArbitrationIdValid (format id : UInt32) : Bool :=
  if !canFrameFormatValid format.toUInt8 then false else
  if canFrameFormatIdWidth format = .extended29 then id ≤ 0x1FFFFFFF else id ≤ 0x7FF

/-- `rcp_ep_can_frame_format_max_data_len`. -/
def canFrameFormatMaxDataLen (format : UInt32) : Nat :=
  if format = canFrameCbff ∨ format = canFrameCeff then 8 else
  if format = canFrameFbff ∨ format = canFrameFeff then 64 else
  if format = canFrameXlClassicalPl ∨ format = canFrameXlNewPl then 2048 else 0

/-- `prefix_len_for`. -/
def canPrefixLenFor (format : UInt32) : Nat := if canFrameFormatIsXl format then 10 else 4

/-- `write_prefix`. No caller passes a null header with an XL format. -/
def canWritePrefix (f : CanFrame) : Octets :=
  putU32 ((f.frameFormat <<< 29) ||| (f.arbitrationId &&& 0x1FFFFFFF)) ++
  (if canFrameFormatIsXl f.frameFormat then
    let hdr := f.xlHeader.getD {}
    [hdr.sdt, hdr.vcid] ++ putU32 hdr.af
  else [])

/-- `read_frame_format`. -/
def canReadFrameFormat (p : Octets) : UInt32 := (getU32 p 0 >>> 29) &&& 0x7

/-- `read_prefix`: the arbitration id, and the XL header of an XL format. -/
def canReadPrefix (p : Octets) (format : UInt32) : UInt32 × Option CanXlHeader :=
  (getU32 p 0 &&& 0x1FFFFFFF,
    if canFrameFormatIsXl format then some { sdt := p.at 4, vcid := p.at 5, af := getU32 p 6 } else none)

/-- `encode_preconditions_ok`. -/
def canEncodePreconditionsOk (f : CanFrame) : Bool :=
  if !canFrameFormatValid f.frameFormat.toUInt8 then false else
  if !canArbitrationIdValid f.frameFormat f.arbitrationId then false else
  if f.data.length > canFrameFormatMaxDataLen f.frameFormat then false else
  if canFrameFormatIsXl f.frameFormat && f.xlHeader.isNone then false else
  if !canFrameFormatIsXl f.frameFormat && f.xlHeader.isSome then false else true

/-- `build_payload`. -/
def canBuildPayload (f : CanFrame) : Octets := canWritePrefix f ++ f.data

/-- `rcp_ep_can_decode_reassembled_frame_response`. The decoders of requests and of responses repeat its checks. -/
def canDecodeReassembledFrameResponse (reassembled : Octets) : Except EpErrc CanFrame :=
  if reassembled.length < 4 then .error .shortFrame else
  let format := canReadFrameFormat reassembled
  if !canFrameFormatValid format.toUInt8 then .error .badFrameFormat else
  if reassembled.length < canPrefixLenFor format then .error .shortFrame else
  let (id, xlHeader) := canReadPrefix reassembled format
  if !canArbitrationIdValid format id then .error .badArbitrationId else
  .ok { frameFormat := format, arbitrationId := id, xlHeader, data := reassembled.drop (canPrefixLenFor format) }

/-- `rcp_ep_can_encode_frame_request`. -/
def canEncodeFrameRequest (byteBusId : ByteBusId) (f : CanFrame) (transactionNum : UInt8) : Option Octets :=
  if !canEncodePreconditionsOk f then none else
  Acf.encodeAbb { byteBusId, op := Acf.opWrite, evt := 0, transactionNum } (canBuildPayload f)

/-- `rcp_ep_can_decode_frame_request`: the frame and the transaction number. -/
def canDecodeFrameRequest (b : Octets) (expectedBusId : ByteBusId) : Except EpErrc (CanFrame × UInt8) := do
  let (hdr, payload) ← epDecodeRequest b expectedBusId
  if hdr.op ≠ Acf.opWrite then .error .wrongOp else
  if !Acf.evtRow2IsPlain hdr.evt then .error .badEvt else
  let f ← canDecodeReassembledFrameResponse payload
  .ok (f, hdr.transactionNum)

/-- The header of a frame response. -/
def canResponseHeader (byteBusId : ByteBusId) (transactionNum : UInt8) : Acf.ByteMessageInfo :=
  { byteBusId, op := Acf.opRead, rsp := 1, evt := 0, transactionNum }

/-- `rcp_ep_can_encode_frame_response`. -/
def canEncodeFrameResponse (byteBusId : ByteBusId) (f : CanFrame) (transactionNum : UInt8) (timed : Bool)
    (timestamp : UInt64) : Option Octets :=
  if !canEncodePreconditionsOk f then none else
  epEncodeResponse (canResponseHeader byteBusId transactionNum) (canBuildPayload f) timed timestamp

/-- `rcp_ep_can_decode_frame_response`. -/
def canDecodeFrameResponse (b : Octets) (expectedBusId : ByteBusId) : Except EpErrc (EpReply CanFrame) := do
  let r ← epDecodeResponse b expectedBusId
  if !Acf.evtRow2IsPlain r.info.evt then .error .badEvt else
  let f ← canDecodeReassembledFrameResponse r.payload
  .ok (r.reply f)

/-- `rcp_ep_can_frame_response_fragment_count`. -/
def canFrameResponseFragmentCount (f : CanFrame) (maxFragmentPayload : UInt64) : UInt64 :=
  if !canEncodePreconditionsOk f then 0 else
  let count := SizeT.fragmentPlanCount (UInt64.ofNat (canPrefixLenFor f.frameFormat + f.data.length)) maxFragmentPayload
  if count > canMaxFragmentSegments then 0 else count

/-- `rcp_ep_can_encode_frame_response_fragmented`: the frames, or `none` for a return value of 0. -/
def canEncodeFrameResponseFragmented (byteBusId : ByteBusId) (f : CanFrame) (transactionNum : UInt8) (timed : Bool)
    (timestamp maxFragmentPayload : UInt64) : Option (List Octets) :=
  let count := canFrameResponseFragmentCount f maxFragmentPayload
  if count = 0 then none else
  let combined := canBuildPayload f
  match SizeT.fragmentPlan (UInt64.ofNat combined.length) maxFragmentPayload count with
  | .error _ => none
  | .ok segs => epEncodeResponseFragments (canResponseHeader byteBusId transactionNum) combined timed timestamp segs

/-- `rcp_ep_can_decode_frame_response_fragment`. -/
def canDecodeFrameResponseFragment (b : Octets) (expectedBusId : ByteBusId) : Except EpErrc EpFragment := do
  let r ← epDecodeResponse b expectedBusId
  if !Acf.evtRow2IsPlain r.info.evt then .error .badEvt else .ok r.fragment

end Rcp
