import Rcp.FieldLock
import Rcp.Lib.Block
import Rcp.Octets

/-! What the endpoint types share: the common part of a functional configuration, and the configuration write that
    patches the block of registers a configuration is shown in. -/

namespace Rcp

/-- `rcp_regmap_ep_functional_cfg_t`. -/
structure EpFunctionalCfg where
  epEnable : Bool := false
  epClearReqStorage : Bool := false
  epReqCrcEnable : Bool := false
  epResponseTsEnable : Bool := false
  epSuppressResponse : Bool := false
deriving DecidableEq, Repr

namespace EpFunctionalCfg

/-- The octet of `*_REG_EP_ENABLE_CLR`, by the bits `*_ENABLE_CLR_BIT_*`. -/
def enableClr (common : EpFunctionalCfg) : UInt8 :=
  (if common.epEnable then 0x01 else 0) ||| (if common.epClearReqStorage then 0x10 else 0)

/-- The octet of `*_REG_EP_OPTIONS`, by the bits `*_OPTIONS_BIT_*`. -/
def options (common : EpFunctionalCfg) : UInt8 :=
  (if common.epReqCrcEnable then 0x01 else 0) ||| (if common.epResponseTsEnable then 0x08 else 0) |||
  (if common.epSuppressResponse then 0x80 else 0)

/-- Both octets read back. -/
def parse (enableClr options : UInt8) : EpFunctionalCfg where
  epEnable := enableClr &&& 0x01 != 0
  epClearReqStorage := enableClr &&& 0x10 != 0
  epReqCrcEnable := options &&& 0x01 != 0
  epResponseTsEnable := options &&& 0x08 != 0
  epSuppressResponse := options &&& 0x80 != 0

end EpFunctionalCfg

/-- `rcp_ep_*_functional_cfg_writable`. -/
def epFunctionalCfgWritable (state : LifecycleState) (writer : FieldWriterCtx) : Bool :=
  lifecycleFieldWritable state .functionalW writer

/-- How every setter ends: the assignment, if the write is authorized, and whether it was made. -/
def epSetField {γ : Type} (cfg assigned : γ) (state : LifecycleState) (writer : FieldWriterCtx) : Bool × γ :=
  if !epFunctionalCfgWritable state writer then (false, cfg) else (true, assigned)

/-! ### The configuration write -/

/-- `RCP_EP_*_RECONFIG_ADDR_LEN`. -/
def epReconfigAddrLen : Nat := 2

/-- `rcp_ep_*_reconfig_errc_t` without its success value. -/
inductive EpReconfigErrc where
  | short | outOfRange
deriving DecidableEq, Repr

/-- A block of registers: its length, how a configuration is rendered and parsed, and its read-only offsets. -/
abbrev EpBlock (γ : Type) := Lib.Block γ UInt8

/-- The loop that patches the addressed octets, read-only ones apart. -/
def epPatch (readOnly : Nat → Bool) (block : Octets) (startAddress : Nat) (data : Octets) : Octets :=
  (List.range data.length).foldl
    (fun block i => if readOnly (startAddress + i) then block else block.set (startAddress + i) (data.at i)) block

/-- `rcp_ep_*_apply_reconfig`: the error, if there is one, and the configuration afterwards. -/
def epApplyReconfig {γ : Type} (blk : EpBlock γ) (cfg : γ) (payload : Octets) : Option EpReconfigErrc × γ :=
  if payload.length ≤ epReconfigAddrLen then (some .short, cfg)
  else
    let startAddress := (be16 payload 0).toNat
    let dataLen := payload.length - epReconfigAddrLen
    if startAddress + dataLen > blk.len then (some .outOfRange, cfg)
    else
      let block := epPatch blk.readOnly (blk.render cfg) startAddress (payload.drop epReconfigAddrLen)
      (none, blk.parse cfg block)

/-- The read-only offsets most blocks have: the length, the reserved octet and the base clock. -/
def epRegOffsetReadOnly (addr : Nat) : Bool := addr == 0 || addr == 1 || addr == 4 || addr == 5

end Rcp
