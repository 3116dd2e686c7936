import Rcp.Lib.CString
import Rcp.Lib.Numeral

/-! `config.c`: the parser of a manifest. It searches the text for keys and for the next braces, and has no notion of
    nesting. Its functions read through pointers into the text, and return `none` where a cell past the NUL would be
    read. -/

namespace Rcp
open Lib

/-! ### The manifest

The numbers of a manifest are of a type for each width, so that the same parser gives the integers of the machine and
the integers that are written. -/

/-- `rcp_config_server_t`. -/
structure ConfigServer (ν : Nat → Type) where
  vendorId : ν 16
  deviceId : ν 16
  magic : ν 32
  svrImplementedOptions : UInt8

/-- `rcp_config_hw_pin_t`. -/
structure ConfigHwPin (ν : Nat → Type) where
  hwEpNr : ν 8
  hwEpPinNr : ν 8
  hwPinType : UInt8

/-- `rcp_config_endpoint_t`. -/
structure ConfigEndpoint (ν : Nat → Type) where
  byteBusId : ν 16
  epType : ν 8
  epEnable : Bool

/-- `rcp_config_stream_t`. -/
structure ConfigStream (ν : Nat → Type) where
  configured : Bool
  rxStreamId : ν 64

/-- `rcp_config_manifest_t`, with each array and its length as a list. -/
structure ConfigManifest (ν : Nat → Type) where
  server : ConfigServer ν
  hwPinMap : List (ConfigHwPin ν) := []
  endpoints : List (ConfigEndpoint ν) := []
  streams : List (ConfigStream ν) := []

/-- What the parser does with numbers: `strtoull` in base ten, the cast to a width, and what `memset` leaves in a
    field. -/
structure Numbers (ν : Nat → Type) where
  Value : Type
  strtoull : Ptr → Value × Ptr
  cast : (n : Nat) → Value → ν n
  zero : (n : Nat) → ν n

/-- The numbers of the machine. -/
def machineNumbers : Numbers BitVec where
  Value := UInt64
  strtoull := strtoul
  cast := fun n v => v.toBitVec.setWidth n
  zero := fun n => 0#n

variable {ν : Nat → Type}

/-- `memset(out, 0, sizeof(*out))`. -/
def ConfigServer.zero (N : Numbers ν) : ConfigServer ν where
  vendorId := N.zero 16
  deviceId := N.zero 16
  magic := N.zero 32
  svrImplementedOptions := 0

def ConfigManifest.zero (N : Numbers ν) : ConfigManifest ν where
  server := .zero N

namespace Config

/-! ### Scanning -/

/-- A key as it stands in the text. -/
def quoted (key : String) : List Char := '\x22' :: (key.toList ++ ['\x22'])

/-- The loop of `find_in_range`, from `p` on. -/
def findFrom (stop : Ptr) (needle : List Char) : Ptr → Option (Option Ptr)
  | [] => some none
  | c :: p =>
    if stop.length + needle.length ≤ (c :: p).length then
      match memcmpEq needle (c :: p) with
      | none => none
      | some true => some (some (c :: p))
      | some false => findFrom stop needle p
    else some none

/-- `find_in_range`. -/
def findInRange (start stop : Ptr) (needle : List Char) : Option (Option Ptr) :=
  if start.length - stop.length < needle.length then some none else findFrom stop needle start

/-- The loop that `extract_uint_at` and `extract_bool_at` begin with. -/
def skipSeparators : Ptr → Option Ptr
  | [] => none
  | c :: p =>
    if c = ' ' ∨ c = '\t' ∨ c = '\n' ∨ c = '\r' ∨ c = ':' then skipSeparators p else some (c :: p)

/-- `strtoull` reads on to the first character that is not of a number, at the latest to the NUL. -/
def strtoull (N : Numbers ν) (p : Ptr) : Option (N.Value × Ptr) := if nul ∈ p then some (N.strtoull p) else none

/-- `extract_uint_at`. -/
def extractUintAt (N : Numbers ν) (p : Ptr) : Option (Option N.Value) := do
  match ← skipSeparators p with
  | [] => none
  | c :: p =>
    if c ≠ '-' ∧ ¬c.isDigit then return none
    let (v, rest) ← strtoull N (c :: p)
    if rest = c :: p then return none
    return some v

/-- `extract_bool_at`. -/
def extractBoolAt (p : Ptr) : Option (Option Bool) := do
  let p ← skipSeparators p
  if ← strncmpEq "true".toList p then return some true
  if ← strncmpEq "false".toList p then return some false
  return none

/-- `find_bracket_span`. -/
def findBracketSpan (keyPos : Ptr) : Option (Option (Ptr × Ptr)) := do
  let some lb ← strchr '[' keyPos | return none
  let some rb ← strchr ']' lb | return none
  return some (lb.tail, rb)

/-! ### Arrays of names -/

/-- `PIN_PROP_NAMES`. -/
def pinPropNames : List (String × UInt8) :=
  [("pull_down", 0x1), ("pull_up", 0x2), ("open_drain", 0x4), ("open_source", 0x8), ("push_pull", 0xC),
    ("low_drive", 0x10), ("medium_drive", 0x20), ("high_drive", 0x30), ("schmitt_trigger", 0x80)]

/-- `OPTION_BIT_NAMES`. -/
def optionBitNames : List (String × UInt8) :=
  [("time_sync", 0x8), ("enhanced_cancel", 0x10), ("trigger", 0x2), ("chained", 0x4), ("compound_bundles", 0x1)]

/-- The loop over `names` for one quoted text: the bits of the first name that it is. -/
def orNamed (names : List (String × UInt8)) (text : List Char) (out : UInt8) : UInt8 :=
  match names.find? fun n => n.1.toList = text with
  | some n => out ||| n.2
  | none => out

theorem memchr_length {c : Char} {n : Nat} {p q : Ptr} (h : memchr c n p = some (some q)) :
    0 < q.length ∧ q.length ≤ p.length := by
  induction n generalizing p with
  | zero => cases h
  | succ n ih =>
    cases p with
    | nil => cases h
    | cons x p =>
      rw [memchr] at h
      split at h
      · cases h
        exact ⟨Nat.succ_pos _, Nat.le_refl _⟩
      · obtain ⟨hpos, hle⟩ := ih h
        exact ⟨hpos, Nat.le_succ_of_le hle⟩

/-- The loop of `or_named_bits_u8` and of `or_named_bits_options`, which are the same code for two tables. -/
def orNamedBits (names : List (String × UInt8)) (stop p : Ptr) (out : UInt8) : Option UInt8 :=
  if p.length ≤ stop.length then some out else
  match _h₁ : memchr '\x22' (p.length - stop.length) p with
  | none => none
  | some none => some out
  | some (some q₁) =>
    match _h₂ : memchr '\x22' (q₁.tail.length - stop.length) q₁.tail with
    | none => none
    | some none => some out
    | some (some q₂) =>
      orNamedBits names stop q₂.tail (orNamed names (q₁.tail.take (q₁.tail.length - q₂.length)) out)
termination_by p.length
decreasing_by
  obtain ⟨hq₁, hle₁⟩ := memchr_length _h₁
  obtain ⟨hq₂, hle₂⟩ := memchr_length _h₂
  simp only [List.length_tail] at *
  omega

/-- One round of the loop. -/
theorem orNamedBits_eq (names : List (String × UInt8)) (stop p : Ptr) (out : UInt8) :
    orNamedBits names stop p out =
      if p.length ≤ stop.length then some out else
      match memchr '\x22' (p.length - stop.length) p with
      | none => none
      | some none => some out
      | some (some q₁) =>
        match memchr '\x22' (q₁.tail.length - stop.length) q₁.tail with
        | none => none
        | some none => some out
        | some (some q₂) =>
          orNamedBits names stop q₂.tail (orNamed names (q₁.tail.take (q₁.tail.length - q₂.length)) out) := by
  rw [orNamedBits]
  split
  · rfl
  · split
    · rename_i h₁
      rw [h₁]
    · rename_i h₁
      rw [h₁]
    · rename_i q₁ h₁
      rw [h₁]
      split
      · rename_i h₂
        simp only [h₂]
      · rename_i h₂
        simp only [h₂]
      · rename_i q₂ h₂
        simp only [h₂]

/-- `or_named_bits_u8`. -/
def orNamedBitsU8 (start stop : Ptr) (out : UInt8) : Option UInt8 := orNamedBits pinPropNames stop start out

/-- `or_named_bits_options`. -/
def orNamedBitsOptions (start stop : Ptr) (out : UInt8) : Option UInt8 := orNamedBits optionBitNames stop start out

/-! ### The objects -/

/-- `k + strlen(key)`, for the quoted key that is at `k`. -/
def afterKey (key : String) (k : Ptr) : Ptr := k.drop (quoted key).length

/-- `k && extract_uint_at(k + strlen(key), &v)`. -/
def uintOf (N : Numbers ν) (key : String) : Option Ptr → Option (Option N.Value)
  | none => some none
  | some k => extractUintAt N (afterKey key k)

/-- `k && extract_bool_at(k + strlen(key), &b)`. -/
def boolOf (key : String) : Option Ptr → Option (Option Bool)
  | none => some none
  | some k => extractBoolAt (afterKey key k)

/-- A field that was zeroed, and is assigned where a number was read. -/
def assigned (N : Numbers ν) (n : Nat) : Option N.Value → ν n
  | none => N.zero n
  | some v => N.cast n v

/-- The bits of `svr_implemented_options`, whose key is at `k` if it is there. -/
def optionsOf : Option Ptr → Option UInt8
  | none => some 0
  | some k => do
    match ← findBracketSpan (afterKey "svr_implemented_options" k) with
    | none => some 0
    | some (arrStart, arrEnd) => orNamedBitsOptions arrStart arrEnd 0

/-- `parse_server_fields`. -/
def parseServerFields (N : Numbers ν) (json : Ptr) : Option (ConfigServer ν) := do
  let vendorId ← uintOf N "vendor_id" (← strstr (quoted "vendor_id") json)
  let deviceId ← uintOf N "device_id" (← strstr (quoted "device_id") json)
  let magic ← uintOf N "magic" (← strstr (quoted "magic") json)
  let options ← optionsOf (← strstr (quoted "svr_implemented_options") json)
  return {
    vendorId := assigned N 16 vendorId
    deviceId := assigned N 16 deviceId
    magic := assigned N 32 magic
    svrImplementedOptions := options }

/-- The text of an error. -/
abbrev ErrMsg := String

/-- `find_in_range(open, close + 1, key)`. -/
def findKey (opening closing : Ptr) (key : String) : Option (Option Ptr) :=
  findInRange opening closing.tail (quoted key)

/-- The bits of `hw_pin_type`, where the array does not end behind the object. -/
def hwPinTypeOf (closing : Ptr) : Option Ptr → Option UInt8
  | none => some 0
  | some k => do
    match ← findBracketSpan (afterKey "hw_pin_type" k) with
    | none => some 0
    | some (arrStart, arrEnd) =>
      if closing.length ≤ arrEnd.length then orNamedBitsU8 arrStart arrEnd 0 else some 0

/-- `parse_pin_entry`. -/
def parsePinEntry (N : Numbers ν) (opening closing : Ptr) : Option (Except ErrMsg (ConfigHwPin ν)) := do
  let some hwEpNr ← uintOf N "hw_ep_nr" (← findKey opening closing "hw_ep_nr")
    | return .error "hw_pin_map entry missing numeric hw_ep_nr"
  let some hwEpPinNr ← uintOf N "hw_ep_pin_nr" (← findKey opening closing "hw_ep_pin_nr")
    | return .error "hw_pin_map entry missing numeric hw_ep_pin_nr"
  let hwPinType ← hwPinTypeOf closing (← findKey opening closing "hw_pin_type")
  return .ok { hwEpNr := N.cast 8 hwEpNr, hwEpPinNr := N.cast 8 hwEpPinNr, hwPinType }

/-- `parse_endpoint_entry`. -/
def parseEndpointEntry (N : Numbers ν) (opening closing : Ptr) : Option (Except ErrMsg (ConfigEndpoint ν)) := do
  let some byteBusId ← uintOf N "byte_bus_id" (← findKey opening closing "byte_bus_id")
    | return .error "endpoint entry missing numeric byte_bus_id"
  let some epType ← uintOf N "ep_type" (← findKey opening closing "ep_type")
    | return .error "endpoint entry missing numeric ep_type"
  let epEnable ← boolOf "ep_enable" (← findKey opening closing "ep_enable")
  return .ok { byteBusId := N.cast 16 byteBusId, epType := N.cast 8 epType, epEnable := epEnable.getD false }

/-- `parse_stream_entry`. -/
def parseStreamEntry (N : Numbers ν) (opening closing : Ptr) : Option (Except ErrMsg (ConfigStream ν)) := do
  let some rxStreamId ← uintOf N "rx_stream_id" (← findKey opening closing "rx_stream_id")
    | return .error "stream entry missing numeric rx_stream_id"
  let configured ← boolOf "configured" (← findKey opening closing "configured")
  return .ok { configured := configured.getD true, rxStreamId := N.cast 64 rxStreamId }

/-- An array with its length and its capacity, of which the cells that are not in use are left out. -/
structure Entries (α : Type) where
  items : List α := []
  cap : Nat := 0

/-- `append_pin`, `append_endpoint` and `append_stream`, which one macro defines. `granted` is whether the array can be
    grown. -/
def Entries.append {α : Type} (granted : Bool) (arr : Entries α) (value : α) : Option (Entries α) :=
  if arr.items.length = arr.cap then
    if granted then some { items := arr.items ++ [value], cap := if arr.cap = 0 then 8 else arr.cap * 2 } else none
  else some { arr with items := arr.items ++ [value] }

/-- The arrays of `rcp_config_parse_json`. -/
structure Arrays (ν : Nat → Type) where
  pins : Entries (ConfigHwPin ν) := {}
  endpoints : Entries (ConfigEndpoint ν) := {}
  streams : Entries (ConfigStream ν) := {}

/-- How many entries there are, which tells the calls that allocate from each other. -/
def Arrays.count (arrays : Arrays ν) : Nat :=
  arrays.pins.items.length + arrays.endpoints.items.length + arrays.streams.items.length

/-- An array that has the entry, or the error where it has no room for it. -/
def orOutOfMemory {α : Type} : Option α → Except ErrMsg α
  | none => .error "out of memory"
  | some arr => .ok arr

/-- `parse_config_object`. `alloc` says which allocations succeed. -/
def parseConfigObject (N : Numbers ν) (alloc : Nat → Bool) (opening closing : Ptr) (arrays : Arrays ν) :
    Option (Except ErrMsg (Arrays ν)) := do
  let granted := alloc arrays.count
  if (← findKey opening closing "byte_bus_id").isSome || (← findKey opening closing "ep_type").isSome then
    match ← parseEndpointEntry N opening closing with
    | .error e => return .error e
    | .ok entry =>
      return (orOutOfMemory (arrays.endpoints.append granted entry)).map fun endpoints => { arrays with endpoints }
  else if (← findKey opening closing "hw_ep_nr").isSome || (← findKey opening closing "hw_ep_pin_nr").isSome then
    match ← parsePinEntry N opening closing with
    | .error e => return .error e
    | .ok entry =>
      return (orOutOfMemory (arrays.pins.append granted entry)).map fun pins => { arrays with pins }
  else if (← findKey opening closing "rx_stream_id").isSome || (← findKey opening closing "configured").isSome then
    match ← parseStreamEntry N opening closing with
    | .error e => return .error e
    | .ok entry =>
      return (orOutOfMemory (arrays.streams.append granted entry)).map fun streams => { arrays with streams }
  else return .ok arrays

theorem strchr_length {c : Char} {p q : Ptr} (h : strchr c p = some (some q)) :
    0 < q.length ∧ q.length ≤ p.length := by
  induction p with
  | nil => cases h
  | cons x p ih =>
    rw [strchr] at h
    split at h
    · cases h
      exact ⟨Nat.succ_pos _, Nat.le_refl _⟩
    · split at h
      · cases h
      · obtain ⟨hpos, hle⟩ := ih h
        exact ⟨hpos, Nat.le_succ_of_le hle⟩

/-- The loop of `rcp_config_parse_json`, from `json + pos` on; the NUL is the last cell. -/
def parseObjects (N : Numbers ν) (alloc : Nat → Bool) (p : Ptr) (arrays : Arrays ν) :
    Option (Except ErrMsg (Arrays ν)) :=
  if p.length ≤ 1 then some (.ok arrays) else
  match _h₁ : strchr '\x7b' p with
  | none => none
  | some none => some (.ok arrays)
  | some (some opening) =>
    match _h₂ : strchr '\x7d' opening with
    | none => none
    | some none => some (.ok arrays)
    | some (some closing) =>
      match parseConfigObject N alloc opening closing arrays with
      | none => none
      | some (.error e) => some (.error e)
      | some (.ok arrays) => parseObjects N alloc closing.tail arrays
termination_by p.length
decreasing_by
  obtain ⟨_, hle₁⟩ := strchr_length _h₁
  obtain ⟨hclosing, hle₂⟩ := strchr_length _h₂
  simp only [List.length_tail] at *
  omega

/-- One round of the loop. -/
theorem parseObjects_eq (N : Numbers ν) (alloc : Nat → Bool) (p : Ptr) (arrays : Arrays ν) :
    parseObjects N alloc p arrays =
      if p.length ≤ 1 then some (.ok arrays) else
      match strchr '\x7b' p with
      | none => none
      | some none => some (.ok arrays)
      | some (some opening) =>
        match strchr '\x7d' opening with
        | none => none
        | some none => some (.ok arrays)
        | some (some closing) =>
          match parseConfigObject N alloc opening closing arrays with
          | none => none
          | some (.error e) => some (.error e)
          | some (.ok arrays) => parseObjects N alloc closing.tail arrays := by
  rw [parseObjects]
  split
  · rfl
  · split
    · rename_i h₁
      rw [h₁]
    · rename_i h₁
      rw [h₁]
    · rename_i opening h₁
      rw [h₁]
      split
      · rename_i h₂
        simp only [h₂]
      · rename_i h₂
        simp only [h₂]
      · rename_i closing h₂
        simp only [h₂]

/-- `RCP_OK` and `RCP_CFG_ERR_PARSE`. -/
inductive ParseCode where
  | ok
  | errParse
deriving DecidableEq, Repr

/-- `set_err`: what `snprintf` puts in front of the NUL in a buffer of `errMsgCap` cells, if there is one. -/
def setErr (errMsgCap : Nat) (text : ErrMsg) : Option (List Char) :=
  if errMsgCap = 0 then none else some (text.toList.take (errMsgCap - 1))

/-- What a call of `rcp_config_parse_json` leaves: what it returns, `*out`, and `err_msg` where it is written. -/
structure ParseResult (ν : Nat → Type) where
  code : ParseCode
  out : ConfigManifest ν
  errMsg : Option (List Char) := none

/-- `rcp_config_parse_json`. -/
def parseJson (N : Numbers ν) (alloc : Nat → Bool) (json : CString) (errMsgCap : Nat) : Option (ParseResult ν) := do
  let server ← parseServerFields N json.cells
  match ← parseObjects N alloc json.cells {} with
  | .error e => return { code := .errParse, out := .zero N, errMsg := setErr errMsgCap e }
  | .ok arrays =>
    return {
      code := .ok
      out := {
        server
        hwPinMap := arrays.pins.items
        endpoints := arrays.endpoints.items
        streams := arrays.streams.items } }

end Config
end Rcp
