import Rcp.RegmapTables

/-! The fields of each table row and the octets they have on the wire. `representable` says when those octets can say
    what the field holds. -/

namespace Rcp

/-- A field of a row, its octets, and the contents they can express. -/
structure WireField (ρ : Type) extends Lib.RowField ρ where
  representable : ρ → Prop := fun _ => True

/-- A field whose octets are its value. -/
def WireField.plain {ρ α : Type} (get : ρ → α) (offset width : Nat) : WireField ρ := { get, offset, width }

/-- A field that is not on the wire. -/
def WireField.hidden {ρ α : Type} (get : ρ → α) : WireField ρ := { get, offset := 0, width := 0 }

def hwPinMapFields : List (WireField HwPinMapEntry) :=
  [.plain (·.hwEpNr) 0 1, .plain (·.hwEpPinNr) 1 1, .plain (·.hwPinType) 2 1]

def epIdMapFields : List (WireField EpIdMapRow) :=
  [.plain (·.requestStreamIndex) 0 1,
   { get := (·.epId), offset := 1, width := 1, representable := fun e => e.epId ≤ 0xFF },
   { get := (·.byteBusId), offset := 2, width := 2, representable := fun e => e.byteBusId ≤ 0x7FF },
   .plain (·.crcRequired) 3 1]

def responseQueueCfgFields : List (WireField ResponseQueueCfg) :=
  [.plain (·.streamUid) 0 2, .plain (·.maxAvtpduSize) 2 2, .plain (·.queueSize) 4 2, .plain (·.flushOnCount) 6 2,
   { get := (·.flushTimeUs), offset := 8, width := 2, representable := fun e => e.flushTimeUs ≤ 0xFFFF }]

/-- A watchdog timeout the register can hold: any while there is no tick to count it in, else a whole number of
    ticks. -/
def WdTimeoutRepresentable (msPerTick timeoutMs : UInt32) : Prop :=
  msPerTick = 0 ∨ ∃ ticks : UInt16, ticks.toNat * msPerTick.toNat = timeoutMs.toNat

def requestStreamCfgFields (msPerTick : UInt32) : List (WireField RequestStreamRow) :=
  [.hidden (·.configured),
   .plain (·.rxStreamId) 0 8,
   .plain (·.rxSecureChannelIndex) 0x0C 1,
   .plain (·.rxAckStreamIndex) 0x10 1,
   .plain (·.rxRespStreamIndex) 0x11 1,
   .plain (·.rxEnforceE2e) 0x0D 1,
   { get := (·.rxEnforceSeq), offset := 0x0D, width := 1,
     representable := fun e => e.rxEnforceSeq = true → e.rxSeqSafestateEnable = true },
   { get := (·.rxSeqSafestateEnable), offset := 0x0D, width := 1,
     representable := fun e => e.rxSeqSafestateEnable = true → e.rxEnforceSeq = true },
   { get := (·.rxWdEnable), offset := 0x0D, width := 1,
     representable := fun e => e.rxWdEnable = true → e.rxWdSafestateEnable = true },
   { get := (·.rxWdTimeoutMs), offset := 0x0A, width := 2,
     representable := fun e => WdTimeoutRepresentable msPerTick e.rxWdTimeoutMs },
   .hidden (·.rxWdAction),
   { get := (·.rxWdSafestateEnable), offset := 0x0D, width := 1,
     representable := fun e => e.rxWdSafestateEnable = true → e.rxWdEnable = true },
   .hidden (·.rxWdInfoEnable),
   .plain (·.rxOvrflwSafestateEnable) 0x0D 1,
   .hidden (·.rxSafetyMeasure),
   { get := (·.rxSafestateSequencer), offset := 0x0E, width := 1,
     representable := fun e => e.rxSafestateSequencer ≤ 0xFF },
   .plain (·.rxSafeSequencerState) 0x0F 1,
   { get := (·.rxStreamMaxRequestSize), offset := 0x08, width := 2,
     representable := fun e => e.rxStreamMaxRequestSize ≤ 0xFFFF }]

def epGenericCfgFields : List (WireField EpGenericCfg) :=
  [.plain (·.epType) 0 1, .plain (·.epUsed) 1 1, .plain (·.epDelayTime) 1 1, .plain (·.epReqStorageSize) 2 2,
   .plain (·.epDescription) 4 4, .plain (·.epTxBufferSize) 8 2, .plain (·.epRxBufferSize) 10 2]

def sequencerFields : List (WireField SequencerRow) := [.plain (·.state) 0 1, .plain (·.owner) 1 1]

end Rcp
