import Mathlib.Logic.Function.Basic
import Rcp.Octets

/-! The pool of payload buffers (`loan.c`): buffers that have come back are lent again where they are large enough, and
    the memory under it. A call that takes the mutex is one step. Buffers are known by their addresses, loans by the
    order in which they were made. -/

namespace Rcp

/-- `RCP_LOAN_POOL_MAX_ENTRIES`. -/
def loanPoolMaxEntries : Nat := 64

/-- `pool_entry_t`. -/
structure PoolEntry where
  data : Nat
  cap : Nat
deriving DecidableEq, Repr

/-- `rcp_loan_t` with its `loan_release_ctx_t`. `held` says that `release_fn` is still set. -/
structure Loan where
  data : Nat
  len : Nat
  cap : Nat
  held : Bool
deriving DecidableEq, Repr

/-- `rcp_loan_pool_t`, the loans made of it, of which a released one is gone, and the memory. -/
structure LoanPool where
  entries : List PoolEntry := []
  loans : List (Option Loan) := []
  memory : Nat → Option Octets := fun _ => none

namespace LoanPool

/-- `rcp_free` of a buffer. -/
def free (p : LoanPool) (data : Nat) : LoanPool := { p with memory := Function.update p.memory data none }

/-- `pool_append`. -/
def poolAppend (p : LoanPool) (data cap : Nat) : Option LoanPool :=
  if p.entries.length = loanPoolMaxEntries then none else some { p with entries := p.entries ++ [{ data, cap }] }

/-- `loan_release_to_pool`. -/
def loanReleaseToPool (p : LoanPool) (data cap : Nat) : LoanPool := (p.poolAppend data cap).getD (p.free data)

/-- The search of `rcp_loan_pool_acquire`: the first entry that is large enough, and the others, the last of them in its
    place. -/
def takeEntry (entries : List PoolEntry) (size : Nat) : Option (PoolEntry × List PoolEntry) :=
  match entries.findIdx? (·.cap ≥ size), entries.getLast? with
  | some i, some last => entries[i]?.map fun e => (e, (entries.set i last).dropLast)
  | _, _ => none

/-- The end of `rcp_loan_pool_acquire`: the loan of a buffer, which is freed where the loan cannot be allocated. -/
def lend (p : LoanPool) (data size cap : Nat) (allocated : Bool) : Option Nat × LoanPool :=
  if !allocated then (none, p.free data) else
  (some p.loans.length, { p with loans := p.loans ++ [some { data, len := size, cap, held := true }] })

/-- `rcp_loan_pool_acquire`. `fresh` is the address that the allocator has for a new buffer, which is none that is in
    use, and `allocated` says whether it has the rest. -/
def acquire (p : LoanPool) (size : Nat) (fresh : Option Nat) (allocated : Bool) : Option Nat × LoanPool :=
  match takeEntry p.entries size with
  | some (e, entries) =>
    let zeroed : Octets := List.replicate size 0 ++ ((p.memory e.data).getD []).drop size
    { p with entries, memory := Function.update p.memory e.data (some zeroed) }.lend e.data size e.cap allocated
  | none =>
    match fresh.filter fun data => (p.memory data).isNone with
    | none => (none, p)
    | some data =>
      let zeroed : Octets := List.replicate (if size > 0 then size else 1) 0
      { p with memory := Function.update p.memory data (some zeroed) }.lend data size size allocated

/-- The loan `i`. -/
def loan (p : LoanPool) (i : Nat) : Option Loan := (p.loans[i]?).join

/-- `rcp_loan_return`. -/
def loanReturn (p : LoanPool) (i : Nat) : LoanPool :=
  match (p.loan i).filter (·.held) with
  | none => p
  | some l =>
    let p := p.loanReleaseToPool l.data l.cap
    { p with loans := p.loans.set i (some { l with held := false }) }

/-- `rcp_loan_release`. -/
def loanRelease (p : LoanPool) (i : Nat) : LoanPool :=
  let p := p.loanReturn i
  { p with loans := p.loans.set i none }

/-- `rcp_loan_pool_destroy`, as far as the buffers go. -/
def destroy (p : LoanPool) : LoanPool := p.entries.foldl (fun p e => p.free e.data) p

/-- The borrower of loan `i` writes an octet of its payload. -/
def write (p : LoanPool) (i pos : Nat) (v : UInt8) : LoanPool :=
  match (p.loan i).filter (·.held) with
  | none => p
  | some l =>
    if pos < l.len then
      { p with memory := Function.update p.memory l.data ((p.memory l.data).map fun b => b.set pos v) }
    else p

/-- What the borrower of loan `i` reads in its payload. -/
def payload (p : LoanPool) (i : Nat) : Option Octets := do
  let l ← (p.loan i).filter (·.held)
  let b ← p.memory l.data
  return b.take l.len

end LoanPool

/-- A call of the pool, or a write of a borrower, who writes only while the loan is held. -/
inductive LoanOp where
  | acquire (size : Nat) (fresh : Option Nat) (allocated : Bool)
  | write (i pos : Nat) (v : UInt8)
  | loanReturn (i : Nat)
  | loanRelease (i : Nat)
deriving DecidableEq, Repr

namespace LoanPool

/-- An operation, with the loan that it makes. -/
def step (p : LoanPool) : LoanOp → Option Nat × LoanPool
  | .acquire size fresh allocated => p.acquire size fresh allocated
  | .write i pos v => (none, p.write i pos v)
  | .loanReturn i => (none, p.loanReturn i)
  | .loanRelease i => (none, p.loanRelease i)

/-- The pool after operations, from a new one. -/
def run (ops : List LoanOp) : LoanPool := ops.foldl (fun p op => (p.step op).2) {}

end LoanPool
end Rcp
