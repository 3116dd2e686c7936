import Rcp.EpFunc
import Rcp.EpCodec

/-! The MDIO endpoint (`ep_mdio.c`): the functional configuration and its block of registers, and the codec of its
    messages. -/

namespace Rcp

/-- `rcp_ep_mdio_functional_cfg_t`. -/
structure MdioFunctionalCfg where
  common : EpFunctionalCfg := {}
  epStatus : UInt16 := 0
deriving DecidableEq, Repr

/-- `rcp_ep_mdio_functional_cfg_init`. -/
def MdioFunctionalCfg.init : MdioFunctionalCfg := {}

/-- `RCP_EP_MDIO_EP_FUNC_LEN`. -/
def mdioEpFuncLen : Nat := 6

/-- `rcp_ep_mdio_render_registers`. -/
def mdioRenderRegisters (cfg : MdioFunctionalCfg) : Octets :=
  [UInt8.ofNat mdioEpFuncLen, 0, cfg.common.enableClr, cfg.common.options] ++ putU16 cfg.epStatus

/-- `parse_mdio_registers`. -/
def mdioParseRegisters (_cfg : MdioFunctionalCfg) (block : Octets) : MdioFunctionalCfg where
  common := .parse (block.at 2) (block.at 3)
  epStatus := be16 block 4

/-- The block of the endpoint, with `mdio_reg_offset_read_only`. -/
def mdioBlock : EpBlock MdioFunctionalCfg where
  len := mdioEpFuncLen
  render := mdioRenderRegisters
  parse := mdioParseRegisters
  readOnly addr := addr == 0 || addr == 1
  length_render _ := rfl

/-- `rcp_ep_mdio_apply_reconfig`. -/
def mdioApplyReconfig (cfg : MdioFunctionalCfg) (payload : Octets) : Option EpReconfigErrc × MdioFunctionalCfg :=
  epApplyReconfig mdioBlock cfg payload

/-! ### Messages -/

/-- `RCP_EP_MDIO_MAX_BURST_WORDS`. -/
def mdioMaxBurstWords : Nat := 512

/-- The values of `rcp_ep_mdio_clause_t`. A value of that type can be another one: the adapter casts to it what a message
    says. -/
def mdioClause22 : UInt32 := 0
def mdioClause45 : UInt32 := 1

/-- `RCP_EP_MDIO_PRTAD_MAX`, `RCP_EP_MDIO_DEVAD_MAX` and `RCP_EP_MDIO_CLAUSE22_REGAD_MAX`. -/
def mdioPrtadMax : UInt8 := 0x1F
def mdioDevadMax : UInt8 := 0x1F
def mdioClause22RegadMax : UInt16 := 0x1F

/-- The values of `rcp_ep_mdio_mode_t` that are sent; of the others, the decoders refuse the two of MMS. -/
def mdioModeMmdSingle : UInt8 := 0
def mdioModeMmdMulti : UInt8 := 1
def mdioModeMmsSingle : UInt8 := 2
def mdioModeMmsMulti : UInt8 := 3

/-- `rcp_ep_mdio_addr_t`. -/
structure MdioAddr where
  clause : UInt32
  prtad : UInt8
  devad : UInt8
  regad : UInt16
deriving DecidableEq, Repr

/-- `rcp_ep_mdio_addr_valid`. -/
def mdioAddrValid (addr : MdioAddr) : Bool :=
  if addr.prtad > mdioPrtadMax then false else
  if addr.clause = mdioClause22 then addr.devad == 0 && addr.regad ≤ mdioClause22RegadMax else
  if addr.clause = mdioClause45 then addr.devad ≤ mdioDevadMax else false

/-- `rcp_ep_mdio_mode_for_word_count`. -/
def mdioModeForWordCount (wordCount : Nat) : UInt8 := if wordCount > 1 then mdioModeMmdMulti else mdioModeMmdSingle

/-- `rcp_ep_mdio_mode_is_unsupported_mms`. -/
def mdioModeIsUnsupportedMms (mode : UInt8) : Bool := mode == mdioModeMmsSingle || mode == mdioModeMmsMulti

/-- `rcp_ep_mdio_pack_words`. -/
def mdioPackWords (words : List UInt16) : Octets := words.flatMap putU16

/-- `rcp_ep_mdio_word_count_of`. -/
def mdioWordCountOf (byteLen : Nat) : Option Nat := if byteLen % 2 ≠ 0 then none else some (byteLen / 2)

/-- `rcp_ep_mdio_unpack_word_at`. -/
def mdioUnpackWordAt (data : Octets) (wordIndex : Nat) : UInt16 := be16 data (2 * wordIndex)

/-- `put_addr_prefix`. -/
def mdioPutAddrPrefix (addr : MdioAddr) : Octets := [addr.clause.toUInt8, addr.prtad, addr.devad] ++ putU16 addr.regad

/-- `get_addr_prefix(&p[i])`. -/
def mdioGetAddrPrefix (p : Octets) (i : Nat) : MdioAddr where
  clause := (p.at i).toUInt32
  prtad := p.at (i + 1)
  devad := p.at (i + 2)
  regad := be16 p (i + 3)

/-- `rcp_ep_mdio_encode_read_request`. -/
def mdioEncodeReadRequest (byteBusId : ByteBusId) (addr : MdioAddr) (wordCount : Nat) (transactionNum : UInt8) :
    Option Octets :=
  if !mdioAddrValid addr then none else
  if wordCount = 0 ∨ wordCount > mdioMaxBurstWords then none else
  Acf.encodeAbb { byteBusId, op := Acf.opRead, evt := 0, transactionNum }
    ([mdioModeForWordCount wordCount] ++ mdioPutAddrPrefix addr ++ putU16 (UInt16.ofNat wordCount))

/-- `rcp_ep_mdio_decode_read_request`: the address, the word count and the transaction number. -/
def mdioDecodeReadRequest (b : Octets) (expectedBusId : ByteBusId) : Except EpErrc (MdioAddr × Nat × UInt8) := do
  let (hdr, payload) ← epDecodeRequest b expectedBusId
  if hdr.op ≠ Acf.opRead then .error .wrongOp else
  if !Acf.evtRow2IsPlain hdr.evt then .error .badEvt else
  if payload.length < 8 then .error .shortFrame else
  if mdioModeIsUnsupportedMms (payload.at 0 &&& 0x03) then .error .unsupportedMms else
  let addr := mdioGetAddrPrefix payload 1
  if !mdioAddrValid addr then .error .badAddr else
  let wordCount := (be16 payload 6).toNat
  if wordCount = 0 ∨ wordCount > mdioMaxBurstWords then .error .badWordCount else
  .ok (addr, wordCount, hdr.transactionNum)

/-- `rcp_ep_mdio_encode_write_request`. -/
def mdioEncodeWriteRequest (byteBusId : ByteBusId) (addr : MdioAddr) (words : List UInt16) (transactionNum : UInt8) :
    Option Octets :=
  if !mdioAddrValid addr then none else
  if words.length = 0 ∨ words.length > mdioMaxBurstWords then none else
  Acf.encodeAbb { byteBusId, op := Acf.opWrite, evt := 0, transactionNum }
    ([mdioModeForWordCount words.length] ++ mdioPutAddrPrefix addr ++ mdioPackWords words)

/-- `rcp_ep_mdio_decode_write_request`: the address, the octets of the words and the transaction number. -/
def mdioDecodeWriteRequest (b : Octets) (expectedBusId : ByteBusId) : Except EpErrc (MdioAddr × Octets × UInt8) := do
  let (hdr, payload) ← epDecodeRequest b expectedBusId
  if hdr.op ≠ Acf.opWrite then .error .wrongOp else
  if !Acf.evtRow2IsPlain hdr.evt then .error .badEvt else
  if payload.length < 6 then .error .shortFrame else
  if mdioModeIsUnsupportedMms (payload.at 0 &&& 0x03) then .error .unsupportedMms else
  let addr := mdioGetAddrPrefix payload 1
  if !mdioAddrValid addr then .error .badAddr else
  match mdioWordCountOf (payload.length - 6) with
  | none => .error .badWordCount
  | some wordCount =>
    if wordCount = 0 ∨ wordCount > mdioMaxBurstWords then .error .badWordCount else
    .ok (addr, payload.drop 6, hdr.transactionNum)

/-- `rcp_ep_mdio_decode_read_response` and `rcp_ep_mdio_decode_write_response`: the octets of the words. -/
def mdioDecodeWordsResponse (b : Octets) (expectedBusId : ByteBusId) : Except EpErrc (EpReply Octets) := do
  let r ← epDecodeResponse b expectedBusId
  match mdioWordCountOf r.payload.length with
  | none => .error .badWordCount
  | some wordCount => if wordCount > mdioMaxBurstWords then .error .badWordCount else .ok (r.reply r.payload)

def mdioDecodeReadResponse : Octets → ByteBusId → Except EpErrc (EpReply Octets) := mdioDecodeWordsResponse
def mdioDecodeWriteResponse : Octets → ByteBusId → Except EpErrc (EpReply Octets) := mdioDecodeWordsResponse

/-- `*out_word_count` of the decoders that hand out the octets of words, `mdioDecodeWriteRequest` and the two above: they
    have found their number even. -/
def mdioOutWordCount (data : Octets) : Nat := data.length / 2

/-- `rcp_ep_mdio_encode_read_response` and `rcp_ep_mdio_encode_write_response`, by the operation that is answered. -/
def mdioEncodeWordsResponse (op : UInt8) (byteBusId : ByteBusId) (words : List UInt16) (transactionNum : UInt8)
    (timed : Bool) (timestamp : UInt64) : Option Octets :=
  if words.length > mdioMaxBurstWords then none else
  epEncodeResponse { byteBusId, op, rsp := 1, evt := 0, transactionNum } (mdioPackWords words) timed timestamp

def mdioEncodeReadResponse : ByteBusId → List UInt16 → UInt8 → Bool → UInt64 → Option Octets :=
  mdioEncodeWordsResponse Acf.opRead
def mdioEncodeWriteResponse : ByteBusId → List UInt16 → UInt8 → Bool → UInt64 → Option Octets :=
  mdioEncodeWordsResponse Acf.opWrite

/-! ### Messages of MMS -/

/-- `RCP_EP_MDIO_MMS_MAX`. -/
def mdioMmsMax : UInt8 := 0x0F

/-- `rcp_ep_mdio_mms_addr_t`. -/
structure MdioMmsAddr where
  mms : UInt8
  addr : UInt16
deriving DecidableEq, Repr

/-- `rcp_ep_mdio_mms_addr_valid`. -/
def mdioMmsAddrValid (addr : MdioMmsAddr) : Bool := addr.mms ≤ mdioMmsMax

/-- `rcp_ep_mdio_mms_uses_32bit_words`. -/
def mdioMmsUses32bitWords (mms : UInt8) : Bool := mms == 0 || mms == 1

/-- `rcp_ep_mdio_mms_mode_for_word_count`. -/
def mdioMmsModeForWordCount (wordCount : Nat) : UInt8 := if wordCount > 1 then mdioModeMmsMulti else mdioModeMmsSingle

/-- `mms_word_width`. -/
def mdioMmsWordWidth (mms : UInt8) : Nat := if mdioMmsUses32bitWords mms then 4 else 2

/-- What `rcp_ep_mdio_mms_pack_words` writes of one word. -/
def mdioMmsPackWord (mms : UInt8) (word : UInt32) : Octets :=
  if mdioMmsWordWidth mms = 4 then putU32 word else putU16 (word &&& 0xFFFF).toUInt16

/-- `rcp_ep_mdio_mms_pack_words`. -/
def mdioMmsPackWords (mms : UInt8) (words : List UInt32) : Octets := words.flatMap (mdioMmsPackWord mms)

/-- `rcp_ep_mdio_mms_word_count_of`. -/
def mdioMmsWordCountOf (mms : UInt8) (byteLen : Nat) : Option Nat :=
  if byteLen % mdioMmsWordWidth mms ≠ 0 then none else some (byteLen / mdioMmsWordWidth mms)

/-- `rcp_ep_mdio_mms_unpack_word_at`. -/
def mdioMmsUnpackWordAt (mms : UInt8) (data : Octets) (wordIndex : Nat) : UInt32 :=
  if mdioMmsWordWidth mms = 4 then getU32 data (mdioMmsWordWidth mms * wordIndex)
  else (be16 data (mdioMmsWordWidth mms * wordIndex)).toUInt32

/-- `put_mms_addr_prefix`. -/
def mdioPutMmsAddrPrefix (addr : MdioMmsAddr) : Octets := [addr.mms] ++ putU16 addr.addr

/-- `get_mms_addr_prefix(&p[i])`. -/
def mdioGetMmsAddrPrefix (p : Octets) (i : Nat) : MdioMmsAddr where
  mms := p.at i
  addr := be16 p (i + 1)

/-- `rcp_ep_mdio_encode_mms_read_request`. -/
def mdioEncodeMmsReadRequest (byteBusId : ByteBusId) (addr : MdioMmsAddr) (wordCount : Nat) (transactionNum : UInt8) :
    Option Octets :=
  if !mdioMmsAddrValid addr then none else
  if wordCount = 0 ∨ wordCount > mdioMaxBurstWords then none else
  Acf.encodeAbb { byteBusId, op := Acf.opRead, evt := 0, transactionNum }
    ([mdioMmsModeForWordCount wordCount] ++ mdioPutMmsAddrPrefix addr ++ putU16 (UInt16.ofNat wordCount))

/-- `rcp_ep_mdio_decode_mms_read_request`: the address, the word count and the transaction number. -/
def mdioDecodeMmsReadRequest (b : Octets) (expectedBusId : ByteBusId) : Except EpErrc (MdioMmsAddr × Nat × UInt8) := do
  let (hdr, payload) ← epDecodeRequest b expectedBusId
  if hdr.op ≠ Acf.opRead then .error .wrongOp else
  if !Acf.evtRow2IsPlain hdr.evt then .error .badEvt else
  if payload.length < 6 then .error .shortFrame else
  if !mdioModeIsUnsupportedMms (payload.at 0 &&& 0x03) then .error .wrongMdioMode else
  let addr := mdioGetMmsAddrPrefix payload 1
  if !mdioMmsAddrValid addr then .error .badMmsAddr else
  let wordCount := (be16 payload 4).toNat
  if wordCount = 0 ∨ wordCount > mdioMaxBurstWords then .error .badWordCount else
  .ok (addr, wordCount, hdr.transactionNum)

/-- `rcp_ep_mdio_encode_mms_write_request`. -/
def mdioEncodeMmsWriteRequest (byteBusId : ByteBusId) (addr : MdioMmsAddr) (words : List UInt32) (transactionNum : UInt8) :
    Option Octets :=
  if !mdioMmsAddrValid addr then none else
  if words.length = 0 ∨ words.length > mdioMaxBurstWords then none else
  Acf.encodeAbb { byteBusId, op := Acf.opWrite, evt := 0, transactionNum }
    ([mdioMmsModeForWordCount words.length] ++ mdioPutMmsAddrPrefix addr ++ mdioMmsPackWords addr.mms words)

/-- `rcp_ep_mdio_decode_mms_write_request`: the address, the octets of the words, the word count and the transaction
    number. -/
def mdioDecodeMmsWriteRequest (b : Octets) (expectedBusId : ByteBusId) :
    Except EpErrc (MdioMmsAddr × Octets × Nat × UInt8) := do
  let (hdr, payload) ← epDecodeRequest b expectedBusId
  if hdr.op ≠ Acf.opWrite then .error .wrongOp else
  if !Acf.evtRow2IsPlain hdr.evt then .error .badEvt else
  if payload.length < 4 then .error .shortFrame else
  if !mdioModeIsUnsupportedMms (payload.at 0 &&& 0x03) then .error .wrongMdioMode else
  let addr := mdioGetMmsAddrPrefix payload 1
  if !mdioMmsAddrValid addr then .error .badMmsAddr else
  match mdioMmsWordCountOf addr.mms (payload.length - 4) with
  | none => .error .badWordCount
  | some wordCount =>
    if wordCount = 0 ∨ wordCount > mdioMaxBurstWords then .error .badWordCount else
    .ok (addr, payload.drop 4, wordCount, hdr.transactionNum)

/-- `rcp_ep_mdio_encode_mms_read_response` and `rcp_ep_mdio_encode_mms_write_response`, by the operation that is
    answered. -/
def mdioEncodeMmsWordsResponse (op : UInt8) (byteBusId : ByteBusId) (mms : UInt8) (words : List UInt32)
    (transactionNum : UInt8) (timed : Bool) (timestamp : UInt64) : Option Octets :=
  if words.length > mdioMaxBurstWords then none else
  epEncodeResponse { byteBusId, op, rsp := 1, evt := 0, transactionNum } (mdioMmsPackWords mms words) timed timestamp

def mdioEncodeMmsReadResponse : ByteBusId → UInt8 → List UInt32 → UInt8 → Bool → UInt64 → Option Octets :=
  mdioEncodeMmsWordsResponse Acf.opRead
def mdioEncodeMmsWriteResponse : ByteBusId → UInt8 → List UInt32 → UInt8 → Bool → UInt64 → Option Octets :=
  mdioEncodeMmsWordsResponse Acf.opWrite

/-- `rcp_ep_mdio_decode_mms_read_response` and `rcp_ep_mdio_decode_mms_write_response`: the octets of the words and the
    word count. -/
def mdioDecodeMmsWordsResponse (b : Octets) (expectedBusId : ByteBusId) (mms : UInt8) :
    Except EpErrc (EpReply (Octets × Nat)) := do
  let r ← epDecodeResponse b expectedBusId
  match mdioMmsWordCountOf mms r.payload.length with
  | none => .error .badWordCount
  | some wordCount =>
    if wordCount > mdioMaxBurstWords then .error .badWordCount else .ok (r.reply (r.payload, wordCount))

def mdioDecodeMmsReadResponse : Octets → ByteBusId → UInt8 → Except EpErrc (EpReply (Octets × Nat)) :=
  mdioDecodeMmsWordsResponse
def mdioDecodeMmsWriteResponse : Octets → ByteBusId → UInt8 → Except EpErrc (EpReply (Octets × Nat)) :=
  mdioDecodeMmsWordsResponse

end Rcp
