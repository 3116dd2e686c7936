import Rcp.Octets

/-! The queue of encoded responses of a response stream (`respqueue.c`): a budget of octets, a ceiling for each message,
    and room for a fixed number of entries. A push that finds no room evicts entries by their sequence number. -/

namespace Rcp

/-- `rcp_bytes_t`: a buffer together with its length, which is a `size_t`. -/
structure RcpBytes where
  data : Octets
  fits : data.length < UInt64.size
deriving DecidableEq

def RcpBytes.len (b : RcpBytes) : UInt64 := UInt64.ofNat b.data.length

/-- `RCP_RESPQUEUE_MAX_ENTRIES`. -/
def respQueueMaxEntries : Nat := 64

/-- `entries[i]` and `entries_seq[i]`. -/
structure RespEntry where
  frame : RcpBytes
  seq : UInt8
deriving DecidableEq

/-- `rcp_respqueue_t`; the first `entries_len` slots of its arrays. -/
structure RespQueue where
  entries : List RespEntry := []
  octets : UInt64 := 0
  capacityOctets : UInt64
  maxAvtpduSizeOctets : UInt64
  nextSequenceNum : UInt8 := 0
  overflow : Bool := false
deriving DecidableEq

namespace RespQueue

/-- `rcp_respqueue_init`. -/
def init (capacityOctets maxAvtpduSizeOctets : UInt64) : RespQueue := { capacityOctets, maxAvtpduSizeOctets }

/-- `entries_seq[i]`. -/
def seqAt (es : List RespEntry) (i : Nat) : UInt8 := ((es[i]?).map RespEntry.seq).getD 0

/-- `entries[i].len`. -/
def lenAt (es : List RespEntry) (i : Nat) : UInt64 := ((es[i]?).map fun e => e.frame.len).getD 0

/-- The scan for the lowest sequence number, which starts with slot 0 as the lowest. -/
def lowestIdx (es : List RespEntry) : Nat :=
  (List.range' 1 (es.length - 1)).foldl (fun lowest i => if seqAt es i < seqAt es lowest then i else lowest) 0

/-- The condition of the eviction loop. -/
def mustEvict (q : RespQueue) (frameLen : UInt64) : Bool :=
  (q.capacityOctets != 0 && frameLen > q.capacityOctets - q.octets) || q.entries.length == respQueueMaxEntries

/-- The body of the eviction loop. -/
def evictLowest (q : RespQueue) : RespQueue :=
  { q with
    octets := q.octets - lenAt q.entries (lowestIdx q.entries)
    entries := q.entries.eraseIdx (lowestIdx q.entries)
    overflow := true }

/-- The eviction loop, entered with `n` entries in the queue. It is `none` where the loop would go on with an empty
    queue. -/
def evictLoop : Nat → RespQueue → UInt64 → Option RespQueue
  | 0, q, frameLen => if q.mustEvict frameLen then none else some q
  | n + 1, q, frameLen => if q.mustEvict frameLen then evictLoop n q.evictLowest frameLen else some q

/-- The new entry takes the slot behind the others. -/
def append (q : RespQueue) (frame : RcpBytes) (sequenceNum : UInt8) : RespQueue :=
  { q with entries := q.entries ++ [⟨frame, sequenceNum⟩], octets := q.octets + frame.len }

/-- `rcp_respqueue_push_seq`, the copy of the frame being allocated: the answer, and the queue after it. -/
def pushSeq (q : RespQueue) (frame : RcpBytes) (sequenceNum : UInt8) : Option (Bool × RespQueue) :=
  if q.maxAvtpduSizeOctets != 0 && frame.len > q.maxAvtpduSizeOctets then some (false, q)
  else if q.capacityOctets != 0 && frame.len > q.capacityOctets then some (false, q)
  else (evictLoop q.entries.length q frame.len).map fun q => (true, q.append frame sequenceNum)

/-- `rcp_respqueue_push`. -/
def push (q : RespQueue) (frame : RcpBytes) : Option (Bool × RespQueue) :=
  (q.pushSeq frame q.nextSequenceNum).map fun (ok, q) =>
    if ok then (ok, { q with nextSequenceNum := q.nextSequenceNum + 1 }) else (ok, q)

/-- `rcp_respqueue_clear_overflow`. -/
def clearOverflow (q : RespQueue) : RespQueue := { q with overflow := false }

/-- `rcp_respqueue_pop`: the frame, if there is one, and the queue after it. -/
def pop (q : RespQueue) : Option RcpBytes × RespQueue :=
  match q.entries with
  | [] => (none, q)
  | e :: es => (some e.frame, { q with octets := q.octets - e.frame.len, entries := es })

/-- `rcp_respqueue_max_fragment_payload`: three octets stand for the longest trailing pad. -/
def maxFragmentPayload (maxAvtpduSizeOctets headerLen : UInt64) : UInt64 :=
  if maxAvtpduSizeOctets = 0 then 0 else
  let reserved := headerLen + 3
  if reserved ≥ maxAvtpduSizeOctets then 0 else
  maxAvtpduSizeOctets - reserved

/-- The loop of `rcp_respqueue_plan_batch`, entered at slot `i`: the slot at which it ends. -/
def planBatchLoop (maxAvtpduSizeOctets : UInt64) : List RespEntry → Nat → UInt64 → Nat
  | [], i, _ => i
  | e :: es, i, total =>
    let nextTotal := total + e.frame.len
    if i > 0 && nextTotal > maxAvtpduSizeOctets then i else planBatchLoop maxAvtpduSizeOctets es (i + 1) nextTotal

/-- `rcp_respqueue_plan_batch`. -/
def planBatch (q : RespQueue) (maxAvtpduSizeOctets : UInt64) : Nat :=
  if q.entries.length = 0 then 0 else
  if maxAvtpduSizeOctets = 0 then q.entries.length else
  planBatchLoop maxAvtpduSizeOctets q.entries 0 0

end RespQueue

/-! ### Runs -/

inductive RespQueueCall where
  | push (frame : RcpBytes)
  | pushSeq (frame : RcpBytes) (sequenceNum : UInt8)
  | pop
  | clearOverflow
deriving DecidableEq

namespace RespQueue

/-- The queue after a call. -/
def after (q : RespQueue) : RespQueueCall → Option RespQueue
  | .push frame => (q.push frame).map Prod.snd
  | .pushSeq frame sequenceNum => (q.pushSeq frame sequenceNum).map Prod.snd
  | .pop => some q.pop.2
  | .clearOverflow => some q.clearOverflow

/-- The queue after calls, from a fresh one. -/
def run (capacityOctets maxAvtpduSizeOctets : UInt64) (calls : List RespQueueCall) : Option RespQueue :=
  calls.foldlM after (init capacityOctets maxAvtpduSizeOctets)

end RespQueue
end Rcp
