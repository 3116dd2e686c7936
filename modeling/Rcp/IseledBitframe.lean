import Rcp.Octets

/-! The bit framing of the ISELED endpoint (`ep_iseled.c`): every four bits go out as a symbol of five with a parity, and
    the octets may be followed by a CRC of their own. Allocations are taken to succeed. -/

namespace Rcp

/-- The errors of `rcp_ep_iseled_errc_t` that `rcp_ep_iseled_decode_bitframe` returns. -/
inductive BitframeErrc where
  | oddSymbolCount | shortFrame | badSymbol | crcMismatch
deriving DecidableEq, Repr

/-! ### Symbols -/

/-- The loop of `popcount4`, which ends once no bit is left. -/
def popcount4Loop : Nat → UInt8 → UInt8 → UInt8
  | 0, c, _ => c
  | n + 1, c, v => if v ≠ 0 then popcount4Loop n (c + (v &&& 0x01)) (v >>> 1) else c

/-- `popcount4`: four bits are gone after four rounds. -/
def popcount4 (n : UInt8) : UInt8 := popcount4Loop 4 0 (n &&& 0x0F)

/-- `rcp_ep_iseled_symbol_encode`. -/
def iseledSymbolEncode (nibble : UInt8) : UInt8 :=
  let n := nibble &&& 0x0F
  let parity := popcount4 n &&& 0x01
  parity <<< 4 ||| n

/-- `rcp_ep_iseled_symbol_decode`. -/
def iseledSymbolDecode (symbol : UInt8) : Option UInt8 :=
  let s := symbol &&& 0x1F
  let n := s &&& 0x0F
  let parityBit := (s >>> 4) &&& 0x01
  let wantParity := popcount4 n &&& 0x01
  if parityBit ≠ wantParity then none else some n

/-! ### The CRC -/

/-- A round of the loop of `crc8_update`. -/
def crc8Shift (crc : UInt8) : UInt8 := if crc &&& 0x80 ≠ 0 then (crc <<< 1) ^^^ 0x07 else crc <<< 1

/-- `crc8_update`. -/
def crc8Update (crc b : UInt8) : UInt8 := (List.range 8).foldl (fun crc _ => crc8Shift crc) (crc ^^^ b)

/-- `rcp_ep_iseled_crc8`. -/
def iseledCrc8 (data : Octets) : UInt8 := data.foldl crc8Update 0x00

/-! ### Frames -/

/-- The loop of `rcp_ep_iseled_encode_bitframe`: two symbols of every octet. -/
def iseledEncodeSymbols (content : Octets) : Octets :=
  content.flatMap fun (octet : UInt8) => [iseledSymbolEncode (octet >>> 4), iseledSymbolEncode (octet &&& 0x0F)]

/-- `rcp_ep_iseled_encode_bitframe`; without content there are no symbols. -/
def iseledEncodeBitframe (data : Octets) (appendCrc : Bool) : Octets :=
  iseledEncodeSymbols (if appendCrc then data ++ [iseledCrc8 data] else data)

/-- The loop of `rcp_ep_iseled_decode_bitframe`: an octet of every two symbols, `none` where one is bad. -/
def iseledDecodeSymbols : Octets → Option Octets
  | hi :: lo :: symbols => do
    let hi ← iseledSymbolDecode hi
    let lo ← iseledSymbolDecode lo
    let bytes ← iseledDecodeSymbols symbols
    return (hi <<< 4 ||| lo) :: bytes
  | _ => some []

/-- `rcp_ep_iseled_decode_bitframe`. -/
def iseledDecodeBitframe (symbols : Octets) (expectCrc : Bool) : Except BitframeErrc Octets :=
  if symbols.length % 2 ≠ 0 then .error .oddSymbolCount else
  let byteCount := symbols.length / 2
  if expectCrc && byteCount = 0 then .error .shortFrame else
  match iseledDecodeSymbols symbols with
  | none => .error .badSymbol
  | some bytes =>
    if expectCrc then
      let dataLen := byteCount - 1
      let want := iseledCrc8 (bytes.take dataLen)
      if bytes.at (byteCount - 1) ≠ want then .error .crcMismatch else .ok (bytes.take dataLen)
    else .ok bytes

end Rcp
