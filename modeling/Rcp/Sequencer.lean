import Rcp.Acf

/-! The server's sequencer table (`request_sequencer.c`): one state octet and one owner octet for each
    configured sequencer. -/

namespace Rcp

/-- One entry of the parallel `state[]` and `owner[]` arrays. -/
structure SequencerRow where
  state : UInt8
  owner : UInt8
deriving DecidableEq, Repr

/-- `rcp_sequencer_table_t`; `count` is the number of rows. -/
structure SequencerTable where
  rows : List SequencerRow := []
deriving DecidableEq, Repr

/-- `rcp_sequencer_access_errc_t`. -/
inductive SequencerAccess where
  | ok | unknown | denied
deriving DecidableEq, Repr

namespace SequencerTable

def powerOnState : UInt8 := 1
def ownerUnclaimed : UInt8 := 0

/-- `rcp_sequencer_table_new`. -/
def new (count : UInt16) : SequencerTable :=
  { rows := List.replicate count.toNat { state := powerOnState, owner := ownerUnclaimed } }

def count (table : SequencerTable) : Nat := table.rows.length

/-- `rcp_sequencer_table_unsupported`. -/
def unsupported (table : SequencerTable) : Bool := table.count == 0

/-- `rcp_sequencer_index_valid`. -/
def indexValid (table : SequencerTable) (idx : Nat) : Bool := decide (idx < table.count)

/-- `rcp_sequencer_get_state`: `none` is the `false` return. -/
def getState (table : SequencerTable) (idx : Nat) : Option UInt8 := (table.rows[idx]?).map (·.state)

/-- `rcp_sequencer_get_owner`. -/
def getOwner (table : SequencerTable) (idx : Nat) : Option UInt8 := (table.rows[idx]?).map (·.owner)

/-- `rcp_sequencer_set_state`. -/
def setState (table : SequencerTable) (idx : Nat) (state : UInt8) : Bool × SequencerTable :=
  match table.rows[idx]? with
  | none => (false, table)
  | some row => (true, { rows := table.rows.set idx { row with state := state } })

/-- `rcp_sequencer_set_owner`. -/
def setOwner (table : SequencerTable) (idx : Nat) (owner : UInt8) : Bool × SequencerTable :=
  match table.rows[idx]? with
  | none => (false, table)
  | some row => (true, { rows := table.rows.set idx { row with owner := owner } })

/-- `rcp_sequencer_access_check`. Fail-closed: an unclaimed sequencer is never open-access. -/
def accessCheck (table : SequencerTable) (idx : Nat) (requesterStreamIndex : UInt8) : SequencerAccess :=
  match table.getOwner idx with
  | none => .unknown
  | some owner =>
    if owner = ownerUnclaimed then .denied
    else if owner = requesterStreamIndex then .ok else .denied

end SequencerTable

/-- `rcp_sequencer_wire_error`. -/
def SequencerAccess.wireError : SequencerAccess → WireError
  | .unknown => .sequencerNotKnown
  | .denied => .unauthorizedAccess
  | .ok => .none

end Rcp
