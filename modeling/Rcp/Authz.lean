import Rcp.Lib.GrowArray
import Rcp.PowerState

/-! The access policy (`authz.c`): entries of an identity with the addresses and the request types it may use, in a
    growing array. A call holds the mutex of the policy, so that it is one step. Allocations are taken to succeed. -/

namespace Rcp

/-! ### Strings of C -/

/-- A string: octets none of which is the NUL that ends it in memory. -/
structure CString where
  octets : Octets
  noNul : 0 ∉ octets
deriving DecidableEq

/-- The memory it takes. -/
def CString.cells (s : CString) : Octets := s.octets ++ [0]

/-- `strncmp`. -/
def strncmp : Octets → Octets → Nat → Int
  | a :: s, b :: t, n + 1 => if a ≠ b then (a.toNat : Int) - b.toNat else if a = 0 then 0 else strncmp s t n
  | _, _, _ => 0

/-- `rcp_strnlen_bounded`. -/
def strnlenBounded : Octets → Nat → Nat
  | c :: s, maxlen + 1 => if c ≠ 0 then strnlenBounded s maxlen + 1 else 0
  | _, _ => 0

/-- `rcp_strncpy_bounded`: the cells of `dst` after the copy. -/
def strncpyBounded (dst : Octets) (dstCap : Nat) (src : Octets) : Octets :=
  if dstCap = 0 then dst else
  let len := strnlenBounded src (dstCap - 1)
  src.take len ++ 0 :: dst.drop (len + 1)

/-! ### The policy -/

/-- `RCP_AUTHZ_IDENTITY_MAX`. -/
def authzIdentityMax : Nat := 128

/-- `rcp_avtp_addr_equal`. -/
def avtpAddrEqual (a b : AvtpAddr) : Bool := a.streamId == b.streamId && a.byteBusId == b.byteBusId

/-- `policy_entry_t`. -/
structure PolicyEntry where
  identity : Octets := List.replicate authzIdentityMax 0
  addrs : List AvtpAddr := []
  requestTypes : List UInt8 := []
deriving DecidableEq, Repr, Inhabited

/-- `copy_identity`. -/
def copyIdentity (dst : Octets) (src : CString) : Octets := strncpyBounded dst authzIdentityMax src.cells

/-- `rcp_authz_policy`. -/
structure AuthzPolicy where
  entries : Lib.GrowArray PolicyEntry
deriving DecidableEq, Repr

/-- `entry_matches_addr`. -/
def PolicyEntry.matchesAddr (e : PolicyEntry) (addr : AvtpAddr) : Bool :=
  if e.addrs.length = 0 then true else e.addrs.any fun a => avtpAddrEqual a addr

/-- `entry_matches_request_type`. -/
def PolicyEntry.matchesRequestType (e : PolicyEntry) (requestType : UInt8) : Bool :=
  if e.requestTypes.length = 0 then true else e.requestTypes.any fun t => t == requestType

namespace AuthzPolicy

/-- `rcp_authz_policy_new`. -/
def new : AuthzPolicy where
  entries := .empty

/-- `rcp_authz_policy_allow`. -/
def allow (policy : AuthzPolicy) (identity : CString) (addrs : List AvtpAddr) (requestTypes : List UInt8) : AuthzPolicy :=
  let entry : PolicyEntry := {}
  let entry := { entry with identity := copyIdentity entry.identity identity, addrs, requestTypes }
  { policy with entries := policy.entries.push 4 Lib.GrowArray.four_pos entry }

/-- `rcp_authz_policy_permit`. -/
def permit (policy : AuthzPolicy) (identity : CString) (addr : AvtpAddr) (requestType : UInt8) : Bool :=
  policy.entries.contents.any fun e =>
    if strncmp e.identity identity.cells authzIdentityMax ≠ 0 then false else
    e.matchesAddr addr && e.matchesRequestType requestType

end AuthzPolicy
end Rcp
