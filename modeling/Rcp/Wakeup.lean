import Rcp.Acf
import Rcp.EpFunc
import Rcp.Power
import Rcp.RegmapGeneral
import Mathlib.Data.List.FinRange

/-! The WakeUp endpoint (`ep_wakeup.c`): its wake sources with the latch of those that have woken the device, the block
    of registers a configuration write patches, and its SleepCMD and WakeUp messages. -/

namespace Rcp
open Acf

/-! ### The wake sources -/

/-- `RCP_EP_WAKEUP_MAX_SOURCES`. -/
def wakeupMaxSources : Nat := 8

/-- `rcp_ep_wakeup_source_cfg_t`. -/
structure WakeupSourceCfg where
  enabled : Bool := false
  activeHigh : Bool := false
  pinNumber : UInt16 := 0
  triggerOnRisingEdge : Bool := false
  triggerOnFallingEdge : Bool := false
deriving DecidableEq, Repr

/-- `rcp_ep_wakeup_functional_cfg_t`. `wupStatus` is the mask of the latch; the first and the last field have no
    registers. -/
structure WakeupFunctionalCfg where
  common : EpFunctionalCfg := {}
  sources : Fin wakeupMaxSources → WakeupSourceCfg := fun _ => {}
  epStatus : UInt16 := 0
  wupStatus : UInt16 := 0
  repetitionTimeUs : UInt32 := 0

/-- `rcp_ep_wakeup_functional_cfg_init`. -/
def WakeupFunctionalCfg.init : WakeupFunctionalCfg := {}

/-! ### The latch -/

/-- The bit of a source in the mask. -/
def wupBit (sourceIndex : Nat) : UInt16 := 1 <<< UInt16.ofNat sourceIndex

/-- `rcp_ep_wakeup_wup_status_latch_source`. -/
def wupStatusLatchSource (mask : UInt16) (sourceIndex : Nat) : UInt16 :=
  if sourceIndex ≥ wakeupMaxSources then mask else mask ||| wupBit sourceIndex

/-- `rcp_ep_wakeup_wup_status_clear_source`. -/
def wupStatusClearSource (mask : UInt16) (sourceIndex : Nat) : UInt16 :=
  if sourceIndex ≥ wakeupMaxSources then mask else mask &&& ~~~wupBit sourceIndex

/-- `rcp_ep_wakeup_wup_status_is_clear`. -/
def wupStatusIsClear (mask : UInt16) : Bool := mask == 0

/-- `rcp_ep_wakeup_wup_status_source_is_latched`. -/
def wupStatusSourceIsLatched (mask : UInt16) (sourceIndex : Nat) : Bool :=
  if sourceIndex ≥ wakeupMaxSources then false else mask &&& wupBit sourceIndex != 0

/-! ### The register block -/

/-- `RCP_EP_WAKEUP_REG_EP_LEN`. -/
def wakeupRegEpLen : Nat := 0

/-- `RCP_EP_WAKEUP_REG_NR_IO_PINS_MAX`. -/
def wakeupRegNrIoPinsMax : Nat := 1

/-- `RCP_EP_WAKEUP_REG_EP_STATUS`. -/
def wakeupRegEpStatus : Nat := 2

/-- `RCP_EP_WAKEUP_REG_WUP_STATUS`. -/
def wakeupRegWupStatus : Nat := 4

/-- `RCP_EP_WAKEUP_REG_SOURCE_BASE`. -/
def wakeupRegSourceBase : Nat := 6

/-- `RCP_EP_WAKEUP_REG_SOURCE_SPAN`. -/
def wakeupRegSourceSpan : Nat := 2

/-- `RCP_EP_WAKEUP_EP_FUNC_LEN`. -/
def wakeupEpFuncLen : Nat := wakeupRegSourceBase + wakeupMaxSources * wakeupRegSourceSpan

/-- `RCP_EP_WAKEUP_RECONFIG_ADDR_LEN`. -/
def wakeupReconfigAddrLen : Nat := 2

/-- The IO_SRC value of a source, by the names of `RCP_EP_WAKEUP_IO_SRC_*`. An edge trigger goes before the level. -/
def WakeupSourceCfg.ioSrc (src : WakeupSourceCfg) : UInt8 :=
  if src.triggerOnRisingEdge && src.triggerOnFallingEdge then 0x03
  else if src.triggerOnRisingEdge then 0x01
  else if src.triggerOnFallingEdge then 0x02
  else if !src.enabled then 0x00
  else if src.activeHigh then 0x04 else 0x05

/-- The register of a source. -/
def WakeupSourceCfg.register (src : WakeupSourceCfg) : UInt16 :=
  ((src.ioSrc &&& 0x1F).toUInt16 <<< 11) ||| (src.pinNumber &&& 0x07FF)

/-- `rcp_ep_wakeup_render_registers`. -/
def wakeupRenderRegisters (cfg : WakeupFunctionalCfg) : Octets :=
  [UInt8.ofNat wakeupEpFuncLen, UInt8.ofNat wakeupMaxSources] ++ putU16 cfg.epStatus ++
  putU16 (cfg.wupStatus &&& 0xFF) ++ (List.finRange wakeupMaxSources).flatMap fun i => putU16 (cfg.sources i).register

/-- What a source register says: a reserved IO_SRC value changes only the pin. -/
def WakeupSourceCfg.parse (src : WakeupSourceCfg) (reg : UInt16) : WakeupSourceCfg :=
  let src := { src with pinNumber := reg &&& 0x07FF }
  match ((reg >>> 11) &&& 0x1F).toUInt8 with
  | 0x00 => { src with enabled := false, triggerOnRisingEdge := false, triggerOnFallingEdge := false }
  | 0x01 => { src with enabled := true, triggerOnRisingEdge := true, triggerOnFallingEdge := false }
  | 0x02 => { src with enabled := true, triggerOnRisingEdge := false, triggerOnFallingEdge := true }
  | 0x03 => { src with enabled := true, triggerOnRisingEdge := true, triggerOnFallingEdge := true }
  | 0x04 =>
    { src with enabled := true, activeHigh := true, triggerOnRisingEdge := false, triggerOnFallingEdge := false }
  | 0x05 =>
    { src with enabled := true, activeHigh := false, triggerOnRisingEdge := false, triggerOnFallingEdge := false }
  | _ => src

/-- Every set bit of the written wup_status clears its source. -/
def wupStatusWriteOneToClear (mask wup : UInt16) : UInt16 :=
  (List.range wakeupMaxSources).foldl
    (fun mask i => if wup &&& wupBit i != 0 then wupStatusClearSource mask i else mask) mask

/-- `parse_wakeup_registers`. -/
def parseWakeupRegisters (cfg : WakeupFunctionalCfg) (block : Octets) : WakeupFunctionalCfg :=
  { cfg with
    epStatus := be16 block wakeupRegEpStatus
    wupStatus := wupStatusWriteOneToClear cfg.wupStatus (be16 block wakeupRegWupStatus)
    sources := fun i => (cfg.sources i).parse (be16 block (wakeupRegSourceBase + i.val * wakeupRegSourceSpan)) }

/-- `wakeup_reg_offset_read_only`. -/
def wakeupRegOffsetReadOnly (addr : Nat) : Bool := addr == wakeupRegEpLen || addr == wakeupRegNrIoPinsMax

/-- The block of the endpoint. -/
def wakeupBlock : EpBlock WakeupFunctionalCfg where
  len := wakeupEpFuncLen
  render := wakeupRenderRegisters
  parse := parseWakeupRegisters
  readOnly := wakeupRegOffsetReadOnly
  length_render _ := rfl

/-- `rcp_ep_wakeup_reconfig_errc_t` without its success value. -/
inductive WakeupReconfigErrc where
  | short | outOfRange
deriving DecidableEq, Repr

/-- The loop that patches the addressed octets, read-only ones apart. -/
def wakeupPatch (block : Octets) (startAddress : Nat) (data : Octets) : Octets :=
  (List.range data.length).foldl
    (fun block i =>
      if wakeupRegOffsetReadOnly (startAddress + i) then block else block.set (startAddress + i) (data.at i)) block

/-- `rcp_ep_wakeup_apply_reconfig`. -/
def wakeupApplyReconfig (cfg : WakeupFunctionalCfg) (payload : Octets) :
    Except WakeupReconfigErrc WakeupFunctionalCfg :=
  if payload.length ≤ wakeupReconfigAddrLen then .error .short
  else
    let startAddress := (be16 payload 0).toNat
    let dataLen := payload.length - wakeupReconfigAddrLen
    if startAddress + dataLen > wakeupEpFuncLen then .error .outOfRange
    else
      let block := wakeupRenderRegisters cfg
      .ok (parseWakeupRegisters cfg (wakeupPatch block startAddress (payload.drop wakeupReconfigAddrLen)))

/-! ### The SleepCMD and WakeUp messages -/

/-- `rcp_ep_wakeup_errc_t` without its success value. -/
inductive WakeupErrc where
  | shortFrame | badMsgType | wrongBus | badOpcode
deriving DecidableEq, Repr

/-- `RCP_EP_WAKEUP_SLEEPCMD_OPCODE`. -/
def wakeupSleepcmdOpcode : UInt8 := 0xA5

/-- `RCP_EP_WAKEUP_WAKEUP_OPCODE`. -/
def wakeupWakeupOpcode : UInt8 := 0x5A

/-- `rcp_ep_wakeup_encode_sleepcmd_request`. -/
def wakeupEncodeSleepcmdRequest (byteBusId : ByteBusId) (transactionNum : UInt8) : Option Octets :=
  encodeAbb { byteBusId, op := opNone, transactionNum } [wakeupSleepcmdOpcode]

/-- `rcp_ep_wakeup_encode_sleepcmd_response`. -/
def wakeupEncodeSleepcmdResponse (byteBusId : ByteBusId) (result : EntryResult) (transactionNum : UInt8) :
    Option Octets :=
  match result with
  | .refused => buildErrorResponse byteBusId transactionNum .requestCanceled
  | .ok => encodeAbb { byteBusId, op := opNone, rsp := 1, transactionNum } [wakeupSleepcmdOpcode, 0]

/-- The checks every decoder of the endpoint begins with. -/
def wakeupDecodeAbb (b : Octets) (expectedBusId : ByteBusId) : Except WakeupErrc (ByteMessageInfo × Octets) :=
  match decodeAbb b with
  | .error .shortFrame => .error .shortFrame
  | .error _ => .error .badMsgType
  | .ok (hdr, payload) => if hdr.byteBusId ≠ expectedBusId then .error .wrongBus else .ok (hdr, payload)

/-- `rcp_ep_wakeup_decode_sleepcmd_request`: the transaction_num. -/
def wakeupDecodeSleepcmdRequest (b : Octets) (expectedBusId : ByteBusId) : Except WakeupErrc UInt8 := do
  let (hdr, payload) ← wakeupDecodeAbb b expectedBusId
  if payload.length < 1 then .error .shortFrame
  else if payload.at 0 ≠ wakeupSleepcmdOpcode then .error .badOpcode
  else .ok hdr.transactionNum

/-- `rcp_ep_wakeup_decode_sleepcmd_response`: the result and the transaction_num. -/
def wakeupDecodeSleepcmdResponse (b : Octets) (expectedBusId : ByteBusId) :
    Except WakeupErrc (EntryResult × UInt8) := do
  let (hdr, payload) ← wakeupDecodeAbb b expectedBusId
  if hdr.err ≠ 0 then
    if payload.length < 1 ∨ payload.at 0 ≠ WireError.requestCanceled.code then .error .badOpcode
    else .ok (.refused, hdr.transactionNum)
  else if payload.length < 2 then .error .shortFrame
  else if payload.at 0 ≠ wakeupSleepcmdOpcode then .error .badOpcode
  else .ok (if payload.at 1 = 0 then .ok else .refused, hdr.transactionNum)

/-- `rcp_ep_wakeup_encode_wakeup_message`. -/
def wakeupEncodeWakeupMessage (byteBusId : ByteBusId) (transactionNum : UInt8) : Option Octets :=
  encodeAbb { byteBusId, op := opNone, transactionNum } [wakeupWakeupOpcode]

/-- `rcp_ep_wakeup_decode_wakeup_message`: the transaction_num. -/
def wakeupDecodeWakeupMessage (b : Octets) (expectedBusId : ByteBusId) : Except WakeupErrc UInt8 := do
  let (hdr, payload) ← wakeupDecodeAbb b expectedBusId
  if payload.length < 1 then .error .shortFrame
  else if payload.at 0 ≠ wakeupWakeupOpcode then .error .badOpcode
  else .ok hdr.transactionNum

/-- `rcp_ep_wakeup_is_wakeup_echo`. -/
def wakeupIsWakeupEcho (b : Octets) (expectedBusId : ByteBusId) (sentTransactionNum : UInt8) : Bool :=
  match wakeupDecodeWakeupMessage b expectedBusId with
  | .error _ => false
  | .ok transactionNum => transactionNum == sentTransactionNum

end Rcp
