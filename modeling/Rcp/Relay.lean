import Rcp.Lib.Numeral
import Rcp.Octets

/-! The messages of the relay (`relay.c`): an envelope with a payload and entries of metadata. Allocations are taken to
    succeed. -/

namespace Rcp

/-- `relay_protocol_t`, with the value of a message that has none. -/
inductive RelayProtocol where
  | unset | can | dds | lin | mqtt | rcp | someip
deriving DecidableEq, Repr

/-- `relay_message_t`; `id` is `none` for a null pointer. -/
structure RelayMessage where
  protocol : RelayProtocol := .unset
  id : Option String := none
  payload : Octets := []
  timestampMs : UInt64 := 0
  seq : UInt64 := 0
  entries : List (String × String) := []
deriving DecidableEq, Repr

namespace RelayMessage

/-- `relay_message_init`. -/
def init : RelayMessage := {}

/-- `relay_message_set_id`. -/
def setId (m : RelayMessage) (id : String) : RelayMessage := { m with id := some id }

/-- The entries with the value of the first of a key replaced, or with a new one behind them. -/
def setEntry (key value : String) : List (String × String) → List (String × String)
  | [] => [(key, value)]
  | e :: rest => if e.1 = key then (key, value) :: rest else e :: setEntry key value rest

/-- `relay_message_set_meta`. -/
def setMeta (m : RelayMessage) (key value : String) : RelayMessage := { m with entries := setEntry key value m.entries }

/-- `relay_message_get_meta`: the value of the first entry of a key. -/
def getMeta (m : RelayMessage) (key : String) : Option String := (m.entries.find? (·.1 == key)).map Prod.snd

/-! ### Numbers in entries -/

/-- `meta_get_u32`. -/
def getU32 (m : RelayMessage) (key : String) : Option UInt32 :=
  match m.getMeta key with
  | none => none
  | some v =>
    if v.toList = [] then none else
    let (parsed, rest) := Lib.strtoul v.toList
    if rest ≠ [] then none else some parsed.toUInt32

/-- `meta_get_u32_default`. -/
def getU32Default (m : RelayMessage) (key : String) (default : UInt32) : UInt32 := (m.getU32 key).getD default

/-- `meta_set_u32` and `meta_set_u64`. -/
def setNat (m : RelayMessage) (key : String) (v : Nat) : RelayMessage := m.setMeta key (toString v)

/-- `meta_set_bool`. -/
def setBool (m : RelayMessage) (key : String) (v : Bool) : RelayMessage := m.setMeta key (if v then "true" else "false")

end RelayMessage
end Rcp
