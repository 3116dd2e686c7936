import Rcp.Octets

/-! The claim of the discovery stream (`discovery.c`): who is assigned the discovery stream of a server, and until when.
    Times are milliseconds of the server's clock. -/

namespace Rcp

/-- `rcp_discovery_claim_t`; `deadlineMs` says nothing while `held` is false. -/
structure DiscoveryClaim where
  held : Bool := false
  claimant : UInt64 := 0
  deadlineMs : UInt64 := 0
  timeoutMs : UInt32 := 0
deriving DecidableEq, Repr

namespace DiscoveryClaim

/-- `rcp_discovery_claim_init`. -/
def init (timeoutMs : UInt32) : DiscoveryClaim := { timeoutMs }

/-- `rcp_discovery_claim_is_open`. -/
def isOpen (claim : DiscoveryClaim) (nowMs : UInt64) : Bool :=
  if !claim.held then true else nowMs ≥ claim.deadlineMs

/-- `rcp_discovery_claim_note_request`: the answer, and the claim after it. -/
def noteRequest (claim : DiscoveryClaim) (requester nowMs : UInt64) : Bool × DiscoveryClaim :=
  if !claim.isOpen nowMs then (false, claim)
  else (true, { claim with held := true, claimant := requester, deadlineMs := nowMs + claim.timeoutMs.toUInt64 })

/-- `rcp_discovery_claim_is_claimant`. -/
def isClaimant (claim : DiscoveryClaim) (writer nowMs : UInt64) : Bool :=
  if !claim.held then false
  else if nowMs ≥ claim.deadlineMs then false
  else claim.claimant == writer

/-- `rcp_discovery_claim_note_config_write`: the answer, and the claim after it. -/
def noteConfigWrite (claim : DiscoveryClaim) (writer nowMs : UInt64) : Bool × DiscoveryClaim :=
  if !claim.isClaimant writer nowMs then (false, claim)
  else (true, { claim with deadlineMs := nowMs + claim.timeoutMs.toUInt64 })

/-- `rcp_discovery_claim_release`. -/
def release (claim : DiscoveryClaim) : DiscoveryClaim := { claim with held := false }

end DiscoveryClaim

/-! ### Runs -/

/-- A call of one of the functions above. -/
inductive ClaimCall where
  | noteRequest (requester : UInt64)
  | noteConfigWrite (writer : UInt64)
  | release
  | isClaimant (writer : UInt64)
deriving DecidableEq, Repr

namespace ClaimCall

/-- What a call at `nowMs` answers (a release always takes place), and the claim after it. -/
def apply (claim : DiscoveryClaim) (nowMs : UInt64) : ClaimCall → Bool × DiscoveryClaim
  | .noteRequest requester => claim.noteRequest requester nowMs
  | .noteConfigWrite writer => claim.noteConfigWrite writer nowMs
  | .release => (true, claim.release)
  | .isClaimant writer => (claim.isClaimant writer nowMs, claim)

end ClaimCall

namespace DiscoveryClaim

/-- The answer to a call made at a time. -/
def answer (claim : DiscoveryClaim) (c : UInt64 × ClaimCall) : Bool := (c.2.apply claim c.1).1

/-- The claim after a call made at a time. -/
def after (claim : DiscoveryClaim) (c : UInt64 × ClaimCall) : DiscoveryClaim := (c.2.apply claim c.1).2

/-- The claim after calls made at their times, from a fresh one. -/
def run (timeoutMs : UInt32) (calls : List (UInt64 × ClaimCall)) : DiscoveryClaim :=
  calls.foldl after (init timeoutMs)

end DiscoveryClaim
end Rcp
