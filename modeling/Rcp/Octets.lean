import Mathlib.Data.UInt
import Mathlib.Data.List.Basic

/-! Octet strings and the byte-order helpers every codec of the library has its own copy of. -/

namespace Rcp

/-- The octets of a frame, a message or a payload: a `uint8_t` buffer together with its length. -/
abbrev Octets := List UInt8

/-- `b[i]`. Every caller has checked the length first, so the default is never read. -/
def Octets.at (b : Octets) (i : Nat) : UInt8 := b.getD i 0

/-- `put_u64`: eight octets, most significant first. -/
def putU64 (v : UInt64) : Octets :=
  [((v >>> 56) &&& 0xFF).toUInt8, ((v >>> 48) &&& 0xFF).toUInt8, ((v >>> 40) &&& 0xFF).toUInt8,
   ((v >>> 32) &&& 0xFF).toUInt8, ((v >>> 24) &&& 0xFF).toUInt8, ((v >>> 16) &&& 0xFF).toUInt8,
   ((v >>> 8) &&& 0xFF).toUInt8, (v &&& 0xFF).toUInt8]

/-- `get_u64(&b[i])`. -/
def getU64 (b : Octets) (i : Nat) : UInt64 :=
  ((b.at i).toUInt64 <<< 56) ||| ((b.at (i + 1)).toUInt64 <<< 48) |||
  ((b.at (i + 2)).toUInt64 <<< 40) ||| ((b.at (i + 3)).toUInt64 <<< 32) |||
  ((b.at (i + 4)).toUInt64 <<< 24) ||| ((b.at (i + 5)).toUInt64 <<< 16) |||
  ((b.at (i + 6)).toUInt64 <<< 8) ||| (b.at (i + 7)).toUInt64

/-- `be16(&b[i])`. -/
def be16 (b : Octets) (i : Nat) : UInt16 := ((b.at i).toUInt16 <<< 8) ||| (b.at (i + 1)).toUInt16

/-- `put_u16`. -/
def putU16 (v : UInt16) : Octets := [(v >>> 8).toUInt8, (v &&& 0xFF).toUInt8]

/-- `put_u32`. -/
def putU32 (v : UInt32) : Octets :=
  [(v >>> 24).toUInt8, (v >>> 16).toUInt8, (v >>> 8).toUInt8, v.toUInt8]

/-- `get_u32(&b[i])`. -/
def getU32 (b : Octets) (i : Nat) : UInt32 :=
  ((b.at i).toUInt32 <<< 24) ||| ((b.at (i + 1)).toUInt32 <<< 16) ||| ((b.at (i + 2)).toUInt32 <<< 8) |||
  (b.at (i + 3)).toUInt32

end Rcp
