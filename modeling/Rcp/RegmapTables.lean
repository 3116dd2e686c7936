import Rcp.Regmap
import Rcp.RegmapGeneral
import Rcp.Sequencer
import Rcp.Lib.Image

/-! The tables the general register map points at (`regmap.c`): their rows, the octets a row has on the wire, and how a
    configuration write is applied to them. -/

namespace Rcp

open Lib (RowCodec patch)

/-! ### Rows -/

/-- `RCP_REGMAP_HW_PIN_MAP_MAX_ENTRIES`. -/
def hwPinMapMaxEntries : Nat := 64
/-- `RCP_REGMAP_RESPONSE_QUEUE_CFG_MAX_ENTRIES`. -/
def responseQueueCfgMaxEntries : Nat := 64
/-- `RCP_REGMAP_EP_GENERIC_CFG_MAX_ENTRIES`. -/
def epGenericCfgMaxEntries : Nat := 64
/-- `RCP_REGMAP_SEQUENCER_STATE_MAX_ENTRIES`. -/
def sequencerStateMaxEntries : Nat := 0xFF
/-- `RCP_REGMAP_OPTIONAL_SUBSYSTEM_CFG_MAX_OCTETS`. -/
def optionalSubsystemCfgMaxOctets : Nat := 256

/-- `rcp_regmap_hw_pin_map_entry_t`. -/
structure HwPinMapEntry where
  hwEpNr : UInt8 := 0
  hwEpPinNr : UInt8 := 0
  hwPinType : UInt8 := 0
deriving DecidableEq, Repr

/-- `rcp_regmap_ep_id_map_entry_t` with all its fields. -/
structure EpIdMapRow extends EpIdMapEntry where
  crcRequired : Bool := false
deriving DecidableEq, Repr

/-- `rcp_regmap_response_queue_cfg_t`. -/
structure ResponseQueueCfg where
  streamUid : UInt16 := 0
  maxAvtpduSize : UInt16 := 0
  queueSize : UInt16 := 0
  flushOnCount : UInt16 := 0
  flushTimeUs : UInt32 := 0
deriving DecidableEq, Repr

/-- `rcp_regmap_request_stream_cfg_t` with all its fields; rx_stream_max_request_size is a `size_t`. -/
structure RequestStreamRow extends RequestStreamCfg where
  configured : Bool := false
  rxSecureChannelIndex : UInt8 := 0
  rxEnforceE2e : Bool := false
  rxWdAction : UInt8 := 0
  rxSafetyMeasure : UInt8 := 0
  rxSafestateSequencer : UInt16 := 0
  rxSafeSequencerState : UInt8 := 0
  rxStreamMaxRequestSize : Nat := 0
deriving DecidableEq, Repr

/-- `rcp_regmap_ep_generic_cfg_t`. -/
structure EpGenericCfg where
  epType : UInt8 := 0
  epUsed : Bool := false
  epDelayTime : UInt32 := 0
  epReqStorageSize : UInt32 := 0
  epDescription : UInt32 := 0
  epTxBufferSize : UInt16 := 0
  epRxBufferSize : UInt16 := 0
deriving DecidableEq, Repr

/-! ### Conversions -/

/-- `rcp_regmap_wd_timeout_ms_to_ticks`: rounds down. -/
def wdTimeoutMsToTicks (timeoutMs msPerTick : UInt32) : Option UInt16 :=
  if msPerTick = 0 then none else
  let ticks := timeoutMs / msPerTick
  if ticks > 0xFFFF then none else some ticks.toUInt16

/-- `rcp_regmap_wd_timeout_ticks_to_ms`. -/
def wdTimeoutTicksToMs (ticks : UInt16) (msPerTick : UInt32) : Option UInt32 :=
  if msPerTick = 0 then none else
  let product := ticks.toUInt64 * msPerTick.toUInt64
  if product > 0xFFFFFFFF then none else some product.toUInt32

/-- `rcp_regmap_ep_delay_time_us_to_reg`. -/
def epDelayTimeUsToReg : UInt32 → Option UInt8
  | 1 => some 0
  | 10 => some 1
  | 20 => some 2
  | 50 => some 3
  | _ => none

/-- `rcp_regmap_ep_delay_time_reg_to_us`. -/
def epDelayTimeRegToUs (reg : UInt8) : UInt32 :=
  match reg &&& 0x3 with
  | 0 => 1
  | 1 => 10
  | 2 => 20
  | _ => 50

/-- `rcp_regmap_ep_req_storage_size_words_to_octets`. -/
def epReqStorageSizeWordsToOctets (words : UInt16) : UInt32 := words.toUInt32 * 4

/-- `rcp_regmap_ep_req_storage_size_octets_to_words`. -/
def epReqStorageSizeOctetsToWords (octets : UInt32) : Option UInt16 :=
  if octets % 4 ≠ 0 then none else
  let words := octets / 4
  if words > 0xFFFF then none else some words.toUInt16

/-! ### Wire images -/

/-- `rcp_regmap_hw_pin_map_render`, and the parse in `rcp_regmap_hw_pin_map_apply_reconfig`. -/
def hwPinMapCodec : RowCodec HwPinMapEntry UInt8 where
  stride := 3
  render e := [e.hwEpNr, e.hwEpPinNr, e.hwPinType]
  parse _ (b : Octets) := { hwEpNr := b.at 0, hwEpPinNr := b.at 1, hwPinType := b.at 2 }
  stride_pos := by decide
  length_render _ := rfl

/-- BBID in bits 15..5, CRC_required in bit 4; Channel_selection is always 0. -/
def EpIdMapRow.bbidCtrl (e : EpIdMapRow) : UInt16 :=
  ((e.byteBusId &&& 0x07FF) <<< 5) ||| (if e.crcRequired then 0x10 else 0)

/-- `rcp_regmap_ep_id_map_render`, which keeps the low octet of ep_id, and the parse in
    `rcp_regmap_ep_id_map_apply_reconfig`. -/
def epIdMapCodec : RowCodec EpIdMapRow UInt8 where
  stride := 4
  render e := [e.requestStreamIndex, e.epId.toUInt8] ++ putU16 e.bbidCtrl
  parse _ (b : Octets) :=
    let bbidCtrl := be16 b 2
    { requestStreamIndex := b.at 0
      epId := (b.at 1).toUInt16
      byteBusId := (bbidCtrl >>> 5) &&& 0x07FF
      crcRequired := bbidCtrl &&& 0x10 != 0 }
  stride_pos := by decide
  length_render _ := rfl

/-- `rcp_regmap_response_queue_cfg_render`, where flush_time saturates, and the parse in
    `rcp_regmap_response_queue_cfg_apply_reconfig`. -/
def responseQueueCodec : RowCodec ResponseQueueCfg UInt8 where
  stride := 10
  render e :=
    putU16 e.streamUid ++ putU16 e.maxAvtpduSize ++ putU16 e.queueSize ++ putU16 e.flushOnCount ++
    putU16 (if e.flushTimeUs > 0xFFFF then 0xFFFF else e.flushTimeUs.toUInt16)
  parse _ b :=
    { streamUid := be16 b 0, maxAvtpduSize := be16 b 2, queueSize := be16 b 4, flushOnCount := be16 b 6,
      flushTimeUs := (be16 b 8).toUInt32 }
  stride_pos := by decide
  length_render _ := rfl

namespace RequestStreamRow

/-- The octet 0x0D: two pairs of flags share a bit each, bits 4..6 are reserved, bit 7 is the live
    rx_stream_status. -/
def statusOctet (blocked : Bool) (e : RequestStreamRow) : UInt8 :=
  (if e.rxEnforceE2e then 0x01 else 0) ||| (if e.rxEnforceSeq && e.rxSeqSafestateEnable then 0x02 else 0) |||
  (if e.rxWdEnable && e.rxWdSafestateEnable then 0x04 else 0) ||| (if e.rxOvrflwSafestateEnable then 0x08 else 0) |||
  (if blocked then 0x80 else 0)

/-- One row of `rcp_regmap_request_stream_cfg_render`. -/
def render (msPerTick : UInt32) (blocked : Bool) (e : RequestStreamRow) : Octets :=
  putU64 e.rxStreamId ++
  putU16 (if e.rxStreamMaxRequestSize > 0xFFFF then 0xFFFF else UInt16.ofNat e.rxStreamMaxRequestSize) ++
  putU16 ((wdTimeoutMsToTicks e.rxWdTimeoutMs msPerTick).getD 0) ++
  [e.rxSecureChannelIndex, e.statusOctet blocked,
   if e.rxSafestateSequencer > 0xFF then 0xFF else e.rxSafestateSequencer.toUInt8,
   e.rxSafeSequencerState, e.rxAckStreamIndex, e.rxRespStreamIndex, 0, 0, 0, 0, 0, 0]

/-- The parse in `rcp_regmap_request_stream_cfg_apply_reconfig`: what has no octets on the wire is kept, as is
    rx_wd_timeout where the ticks do not convert. -/
def parse (msPerTick : UInt32) (e : RequestStreamRow) (b : Octets) : RequestStreamRow :=
  let bits := b.at 0x0D
  { e with
    rxStreamId := getU64 b 0
    rxStreamMaxRequestSize := (be16 b 0x08).toNat
    rxWdTimeoutMs := (wdTimeoutTicksToMs (be16 b 0x0A) msPerTick).getD e.rxWdTimeoutMs
    rxSecureChannelIndex := b.at 0x0C
    rxEnforceE2e := bits &&& 0x01 != 0
    rxEnforceSeq := bits &&& 0x02 != 0
    rxSeqSafestateEnable := bits &&& 0x02 != 0
    rxWdEnable := bits &&& 0x04 != 0
    rxWdSafestateEnable := bits &&& 0x04 != 0
    rxOvrflwSafestateEnable := bits &&& 0x08 != 0
    rxSafestateSequencer := (b.at 0x0E).toUInt16
    rxSafeSequencerState := b.at 0x0F
    rxAckStreamIndex := b.at 0x10
    rxRespStreamIndex := b.at 0x11 }

end RequestStreamRow

/-- The rows a write renders and parses: with no live status. -/
def requestStreamCodec (msPerTick : UInt32) : RowCodec RequestStreamRow UInt8 where
  stride := 24
  render := RequestStreamRow.render msPerTick false
  parse := RequestStreamRow.parse msPerTick
  stride_pos := by decide
  length_render _ := rfl

/-- `rcp_regmap_request_stream_cfg_render`; `blocked` is constantly false for a null pointer. -/
def requestStreamCfgRender (msPerTick : UInt32) (blocked : Nat → Bool) (rows : List RequestStreamRow) : Octets :=
  (rows.mapIdx fun i e => e.render msPerTick (blocked i)).flatten

/-- `rcp_regmap_sequencer_table_render`, and the parse in `rcp_regmap_sequencer_table_apply_reconfig`. -/
def sequencerCodec : RowCodec SequencerRow UInt8 where
  stride := 2
  render e := [e.state, e.owner]
  parse _ (b : Octets) := { state := b.at 0, owner := b.at 1 }
  stride_pos := by decide
  length_render _ := rfl

namespace EpGenericCfg

/-- The words rendered for ep_req_storage_size: clamped, and rounded down. -/
def reqStorageWords (e : EpGenericCfg) : UInt16 :=
  match epReqStorageSizeOctetsToWords e.epReqStorageSize with
  | some words => words
  | none =>
    let clamped := if e.epReqStorageSize > 0xFFFF * 4 then 0xFFFF * 4 else e.epReqStorageSize
    (clamped / 4).toUInt16

/-- One row of `rcp_regmap_ep_generic_cfg_render`. -/
def render (e : EpGenericCfg) : Octets :=
  let delayReg := (epDelayTimeUsToReg e.epDelayTime).getD 0
  [e.epType, (if e.epUsed then (0x01 : UInt8) else 0) ||| ((delayReg &&& 0x3) <<< 4)] ++ putU16 e.reqStorageWords ++
  putU32 e.epDescription ++ putU16 e.epTxBufferSize ++ putU16 e.epRxBufferSize

/-- One turn of the `rcp_regmap_ep_generic_cfg_apply_reconfig` loop: a field is updated only where the write has all
    of its octets, ep_type never, and row 0 is always in use. -/
def applyRow (start : Nat) (data : Octets) (rowI : Nat) (e : EpGenericCfg) : EpGenericCfg :=
  let rowBase := rowI * 12
  let whole (offset width : Nat) : Prop := start ≤ rowBase + offset ∧ rowBase + offset + width ≤ start + data.length
  let octet1 := data.at (rowBase + 1 - start)
  { epType := e.epType
    epUsed := if whole 1 1 then (if rowI = 0 then true else octet1 &&& 0x01 != 0) else e.epUsed
    epDelayTime := if whole 1 1 then epDelayTimeRegToUs ((octet1 >>> 4) &&& 0x3) else e.epDelayTime
    epReqStorageSize :=
      if whole 2 2 then epReqStorageSizeWordsToOctets (be16 data (rowBase + 2 - start)) else e.epReqStorageSize
    epDescription := if whole 4 4 then getU32 data (rowBase + 4 - start) else e.epDescription
    epTxBufferSize := if whole 8 2 then be16 data (rowBase + 8 - start) else e.epTxBufferSize
    epRxBufferSize := if whole 10 2 then be16 data (rowBase + 10 - start) else e.epRxBufferSize }

end EpGenericCfg

/-- `rcp_regmap_ep_generic_cfg_render`. -/
def epGenericCfgRender (rows : List EpGenericCfg) : Octets := rows.flatMap EpGenericCfg.render

/-! ### Configuration writes -/

/-- The error values every `rcp_regmap_*_reconfig_errc_t` has. -/
inductive ReconfigErrc where
  | short | outOfRange
deriving DecidableEq, Repr

/-- The table's new contents are taken over; an error changes nothing. -/
def reconfigResult {τ : Type} (old : τ) : Except ReconfigErrc τ → WireError × τ
  | .ok new => (.none, new)
  | .error _ => (.invalidParameter, old)

/-- The body that the `apply_reconfig` of every table written as one image shares. -/
def applyReconfig {ρ : Type} (c : RowCodec ρ UInt8) (maxEntries : Nat) (entries : List ρ)
    (relativeStartAddress : Nat) (data : Octets) : Except ReconfigErrc (List ρ) :=
  if data.length = 0 then .error .short else
  if entries.length > maxEntries then .error .outOfRange else
  if relativeStartAddress + data.length > entries.length * c.stride then .error .outOfRange else
  .ok (c.write entries relativeStartAddress data)

/-- `rcp_regmap_hw_pin_map_apply_reconfig`. -/
def hwPinMapApplyReconfig := applyReconfig hwPinMapCodec hwPinMapMaxEntries

/-- `rcp_regmap_ep_id_map_apply_reconfig`. -/
def epIdMapApplyReconfig := applyReconfig epIdMapCodec epIdMapMaxEntries

/-- `rcp_regmap_response_queue_cfg_apply_reconfig`. -/
def responseQueueCfgApplyReconfig := applyReconfig responseQueueCodec responseQueueCfgMaxEntries

/-- `rcp_regmap_request_stream_cfg_apply_reconfig`. -/
def requestStreamCfgApplyReconfig (msPerTick : UInt32) :=
  applyReconfig (requestStreamCodec msPerTick) requestStreamCfgMaxEntries

/-- `rcp_regmap_sequencer_table_apply_reconfig`. -/
def sequencerTableApplyReconfig := applyReconfig sequencerCodec sequencerStateMaxEntries

/-- `rcp_regmap_ep_generic_cfg_apply_reconfig`. -/
def epGenericCfgApplyReconfig (entries : List EpGenericCfg) (relativeStartAddress : Nat) (data : Octets) :
    Except ReconfigErrc (List EpGenericCfg) :=
  if data.length = 0 then .error .short else
  let touchedEnd := relativeStartAddress + data.length
  if touchedEnd > entries.length * 12 then .error .outOfRange else
  .ok (entries.mapIdx fun i e =>
    if relativeStartAddress / 12 ≤ i ∧ i ≤ (touchedEnd - 1) / 12 then e.applyRow relativeStartAddress data i else e)

/-- `rcp_regmap_optional_subsystem_cfg_apply_reconfig`: the section is its own wire image. -/
def optionalSubsystemCfgApplyReconfig (cfg : Octets) (relativeStartAddress : Nat) (data : Octets) :
    Except ReconfigErrc Octets :=
  if data.length = 0 then .error .short else
  if relativeStartAddress + data.length > cfg.length then .error .outOfRange else
  .ok (patch cfg relativeStartAddress data)

end Rcp
