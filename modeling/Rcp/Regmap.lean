import Rcp.Acf
import Mathlib.Data.Fin.Basic
import Mathlib.Data.List.FinRange

/-! The two register tables a dispatch reads (`regmap.c`): the request-stream configuration and the
    endpoint map. -/

namespace Rcp

/-- `RCP_REGMAP_REQUEST_STREAM_CFG_MAX_ENTRIES`. -/
abbrev requestStreamCfgMaxEntries : Nat := 64

/-- A row of the request-stream table, and of every array the server keeps beside it. -/
abbrev StreamIx := Fin requestStreamCfgMaxEntries

/-- `rcp_regmap_request_stream_cfg_t`. The defaults are those of `rcp_regmap_request_stream_cfg_init`. -/
structure RequestStreamCfg where
  rxStreamId : UInt64 := 0
  rxAckStreamIndex : UInt8 := 0
  rxRespStreamIndex : UInt8 := 1
  rxEnforceSeq : Bool := false
  rxSeqSafestateEnable : Bool := false
  rxWdEnable : Bool := false
  rxWdTimeoutMs : UInt32 := 0
  rxWdSafestateEnable : Bool := false
  rxWdInfoEnable : Bool := false
  rxOvrflwSafestateEnable : Bool := false
deriving DecidableEq, Repr

/-- `request_stream_cfg[]` and `request_stream_cfg_count`. -/
structure RequestStreamTable where
  rows : StreamIx → RequestStreamCfg := fun _ => { rxRespStreamIndex := 0 }
  count : Fin (requestStreamCfgMaxEntries + 1) := 0

namespace RequestStreamTable

/-- The first configured row with this stream id. -/
def resolveRow (table : RequestStreamTable) (streamId : UInt64) : Option StreamIx :=
  Fin.find? fun i => decide (i.val < table.count.val) && (table.rows i).rxStreamId == streamId

/-- `rcp_regmap_request_stream_cfg_resolve_index`: one more than the row, 0 when there is none. -/
def resolveIndex (table : RequestStreamTable) (streamId : UInt64) : UInt8 :=
  match table.resolveRow streamId with
  | none => 0
  | some i => UInt8.ofNat (i.val + 1)

/-- The copy of `rcp_mock_server_set_request_stream_cfg`; rows beyond the new count keep their contents. -/
def set (table : RequestStreamTable) (entries : List RequestStreamCfg) : Bool × RequestStreamTable :=
  if h : entries.length ≤ requestStreamCfgMaxEntries then
    (true, { rows := fun i => entries.getD i.val (table.rows i), count := ⟨entries.length, by omega⟩ })
  else (false, table)

end RequestStreamTable

/-- `RCP_REGMAP_EP_ID_MAP_MAX_ENTRIES`. -/
def epIdMapMaxEntries : Nat := 64

/-- `rcp_regmap_ep_id_map_entry_t`. The defaults are those of `rcp_regmap_ep_id_map_row_init_default`. -/
structure EpIdMapEntry where
  requestStreamIndex : UInt8 := 1
  epId : UInt16 := 0
  byteBusId : ByteBusId := 0
deriving DecidableEq, Repr

/-- `rcp_regmap_ep_id_map_effective_count`: the rows before the first one with request_stream_index 0, the table's
    end-of-table sentinel. -/
def epIdMapEffectiveCount (entries : List EpIdMapEntry) : Nat := entries.findIdx fun e => e.requestStreamIndex == 0

/-- `rcp_regmap_ep_id_map_byte_bus_ids_for_stream`: each bus bound to the stream, once, in table order. -/
def epIdMapByteBusIdsForStream (entries : List EpIdMapEntry) (requestStreamIndex : UInt8) : List ByteBusId :=
  entries.foldl
    (fun found e =>
      if e.requestStreamIndex ≠ requestStreamIndex ∨ e.byteBusId ∈ found then found else found ++ [e.byteBusId]) []

end Rcp
