import Rcp.Lib.JsonText
import Rcp.Config

/-! The manifests that the schema of `config.h` describes, as they are written: a `server` object and the arrays
    `hw_pin_map`, `endpoints` and `streams`, each of them or not and in any order, with their fields in any order. -/

namespace Rcp
open Lib Config

namespace ManifestText

/-- The keys of the fields. -/
inductive Key where
  | vendorId
  | deviceId
  | magic
  | svrImplementedOptions
  | hwEpNr
  | hwEpPinNr
  | hwPinType
  | byteBusId
  | epType
  | epEnable
  | configured
  | rxStreamId
deriving DecidableEq, Repr

def Key.string : Key → String
  | .vendorId => "vendor_id"
  | .deviceId => "device_id"
  | .magic => "magic"
  | .svrImplementedOptions => "svr_implemented_options"
  | .hwEpNr => "hw_ep_nr"
  | .hwEpPinNr => "hw_ep_pin_nr"
  | .hwPinType => "hw_pin_type"
  | .byteBusId => "byte_bus_id"
  | .epType => "ep_type"
  | .epEnable => "ep_enable"
  | .configured => "configured"
  | .rxStreamId => "rx_stream_id"

def Key.name (key : Key) : Name := .ofString key.string (by cases key <;> decide)

/-- The keys of the sections. -/
inductive SectionKey where
  | server
  | hwPinMap
  | endpoints
  | streams
deriving DecidableEq, Repr

def SectionKey.name : SectionKey → Name
  | .server => .ofString "server"
  | .hwPinMap => .ofString "hw_pin_map"
  | .endpoints => .ofString "endpoints"
  | .streams => .ofString "streams"

/-- The names that stand in arrays, with their bits. -/
def propertyNames : List (String × UInt8) := pinPropNames ++ optionBitNames

theorem propertyNames_plain : ∀ n ∈ propertyNames, n.1.toList.all nameChar := by decide

abbrev Property := { n : String × UInt8 // n ∈ propertyNames }

def Property.name (n : Property) : Name := .ofString n.1.1 (propertyNames_plain n.1 n.2)

inductive FieldValue where
  | number (n : NumberText)
  | bool (b : Bool)
  | names (ns : List Property)

abbrev Field := Key × FieldValue

def FieldValue.tokens : FieldValue → List Token
  | .number n => [.number n]
  | .bool b => [.bool b]
  | .names ns => .punct .lbracket :: commaSeparated (ns.map fun n => [.str n.name]) ++ [.punct .rbracket]

def Field.tokens (f : Field) : List Token := .str f.1.name :: .punct .colon :: f.2.tokens

/-! ### Objects -/

/-- A number of a field of `n` bits. -/
structure Decimal (n : Nat) where
  text : NumberText
  nonneg : 0 ≤ text.value
  fits : text.value < 2 ^ n

def Decimal.bits {n : Nat} (d : Decimal n) : BitVec n := BitVec.ofInt n d.text.value

abbrev PinProp := { n : String × UInt8 // n ∈ pinPropNames }
abbrev OptionBit := { n : String × UInt8 // n ∈ optionBitNames }

def PinProp.property (n : PinProp) : Property := ⟨n.1, List.mem_append_left optionBitNames n.2⟩
def OptionBit.property (n : OptionBit) : Property := ⟨n.1, List.mem_append_right pinPropNames n.2⟩

/-- The bits that names stand for. -/
def namedBits (ns : List (String × UInt8)) : UInt8 := ns.foldl (fun bits n => bits ||| n.2) 0

structure ServerText where
  vendorId : Option (Decimal 16)
  deviceId : Option (Decimal 16)
  magic : Option (Decimal 32)
  svrImplementedOptions : Option (List OptionBit)

structure PinText where
  hwEpNr : Decimal 8
  hwEpPinNr : Decimal 8
  hwPinType : Option (List PinProp)

structure EndpointText where
  byteBusId : Decimal 16
  epType : Decimal 8
  epEnable : Option Bool

structure StreamText where
  configured : Option Bool
  rxStreamId : Decimal 64

def ServerText.fields (s : ServerText) : List Field :=
  (s.vendorId.map fun d => (.vendorId, .number d.text)).toList ++
    (s.deviceId.map fun d => (.deviceId, .number d.text)).toList ++
    (s.magic.map fun d => (.magic, .number d.text)).toList ++
    (s.svrImplementedOptions.map fun ns => (.svrImplementedOptions, .names (ns.map (·.property)))).toList

def PinText.fields (pin : PinText) : List Field :=
  [(.hwEpNr, .number pin.hwEpNr.text), (.hwEpPinNr, .number pin.hwEpPinNr.text)] ++
    (pin.hwPinType.map fun ns => (.hwPinType, .names (ns.map (·.property)))).toList

def EndpointText.fields (ep : EndpointText) : List Field :=
  [(.byteBusId, .number ep.byteBusId.text), (.epType, .number ep.epType.text)] ++
    (ep.epEnable.map fun b => (.epEnable, .bool b)).toList

def StreamText.fields (s : StreamText) : List Field :=
  (s.configured.map fun b => (.configured, .bool b)).toList ++ [(.rxStreamId, .number s.rxStreamId.text)]

/-! ### What the objects stand for -/

def ServerText.server (s : ServerText) : ConfigServer BitVec where
  vendorId := s.vendorId.elim 0 (·.bits)
  deviceId := s.deviceId.elim 0 (·.bits)
  magic := s.magic.elim 0 (·.bits)
  svrImplementedOptions := namedBits ((s.svrImplementedOptions.getD []).map (·.1))

def PinText.pin (pin : PinText) : ConfigHwPin BitVec where
  hwEpNr := pin.hwEpNr.bits
  hwEpPinNr := pin.hwEpPinNr.bits
  hwPinType := namedBits ((pin.hwPinType.getD []).map (·.1))

def EndpointText.endpoint (ep : EndpointText) : ConfigEndpoint BitVec where
  byteBusId := ep.byteBusId.bits
  epType := ep.epType.bits
  epEnable := ep.epEnable.getD false

/-- An entry that says nothing else is configured. -/
def StreamText.stream (s : StreamText) : ConfigStream BitVec where
  configured := s.configured.getD true
  rxStreamId := s.rxStreamId.bits

/-! ### Sections -/

inductive SectionText where
  | server (s : ServerText)
  | hwPinMap (pins : List PinText)
  | endpoints (eps : List EndpointText)
  | streams (ss : List StreamText)

/-- The tokens of an object with these fields, in any order. -/
def IsObject (fields : List Field) (ts : List Token) : Prop :=
  ∃ fs : List Field, fs.Perm fields ∧ ts = .punct .lbrace :: commaSeparated (fs.map Field.tokens) ++ [.punct .rbrace]

/-- The tokens of an array of such objects, in order. -/
def IsArray (objects : List (List Field)) (ts : List Token) : Prop :=
  ∃ tss, List.Forall₂ IsObject objects tss ∧ ts = .punct .lbracket :: commaSeparated tss ++ [.punct .rbracket]

def SectionText.key : SectionText → SectionKey
  | .server _ => .server
  | .hwPinMap _ => .hwPinMap
  | .endpoints _ => .endpoints
  | .streams _ => .streams

def SectionText.IsValue : SectionText → List Token → Prop
  | .server s => IsObject s.fields
  | .hwPinMap pins => IsArray (pins.map PinText.fields)
  | .endpoints eps => IsArray (eps.map EndpointText.fields)
  | .streams ss => IsArray (ss.map StreamText.fields)

def SectionText.IsMember (s : SectionText) (ts : List Token) : Prop :=
  ∃ value, s.IsValue value ∧ ts = .str s.key.name :: .punct .colon :: value

end ManifestText
open ManifestText

/-- A manifest of the schema. -/
structure ManifestText where
  server : Option ServerText
  hwPinMap : Option (List PinText)
  endpoints : Option (List EndpointText)
  streams : Option (List StreamText)

namespace ManifestText

def sections (m : ManifestText) : List SectionText :=
  (m.server.map .server).toList ++ (m.hwPinMap.map .hwPinMap).toList ++ (m.endpoints.map .endpoints).toList ++
    (m.streams.map .streams).toList

/-- The texts of a manifest: its sections in any order, with any white space. -/
def IsWritten (m : ManifestText) (text : List Char) : Prop :=
  ∃ sections tss, sections.Perm m.sections ∧ List.Forall₂ SectionText.IsMember sections tss ∧
    Rendered (.punct .lbrace :: commaSeparated tss ++ [.punct .rbrace]) text

/-- What a manifest says. -/
def manifest (m : ManifestText) : ConfigManifest BitVec where
  server := m.server.elim (.zero machineNumbers) (·.server)
  hwPinMap := (m.hwPinMap.getD []).map (·.pin)
  endpoints := (m.endpoints.getD []).map (·.endpoint)
  streams := (m.streams.getD []).map (·.stream)

end ManifestText
end Rcp
