import Rcp.RespQueue
import Rcp.Lib.Evict
import Rcp.Lib.History
import Rcp.Lib.Select
import Mathlib.Algebra.BigOperators.Group.List.Basic

/-! The response queue over whole runs. The accounting of the octets keeps the budget and the subtraction in the loop
    from wrapping, so the loop ends; what a push evicts is an eviction by the lowest sequence number. -/

namespace Rcp
namespace RespQueue

/-! ### The accounting -/

/-- The octets of the queued frames, added up without a bound. -/
def total (es : List RespEntry) : Nat := (es.map fun e => e.frame.data.length).sum

@[simp] theorem total_nil : total [] = 0 := rfl

@[simp] theorem total_cons (e : RespEntry) (es : List RespEntry) :
    total (e :: es) = e.frame.data.length + total es := by simp [total]

@[simp] theorem total_append (es es' : List RespEntry) : total (es ++ es') = total es + total es' := by
  simp [total]

theorem total_perm {es es' : List RespEntry} (h : es.Perm es') : total es = total es' := (h.map _).sum_eq

theorem total_eraseIdx {es : List RespEntry} {i : Nat} (hi : i < es.length) :
    es[i].frame.data.length + total (es.eraseIdx i) = total es := by
  rw [← total_cons]
  exact total_perm (List.getElem_cons_eraseIdx_perm hi)

theorem len_toNat (b : RcpBytes) : b.len.toNat = b.data.length := UInt64.toNat_ofNat_of_lt' b.fits

/-- The queue's own record of the octets, in its own arithmetic. -/
def Counted (q : RespQueue) : Prop := q.octets = UInt64.ofNat (total q.entries)

/-- The queued frames stay within the budget, if there is one. -/
def WithinBudget (q : RespQueue) : Prop := q.capacityOctets ≠ 0 → total q.entries ≤ q.capacityOctets.toNat

theorem Counted.toNat {q : RespQueue} (h : Counted q) (hlt : total q.entries < UInt64.size) :
    q.octets.toNat = total q.entries := by
  rw [h, UInt64.toNat_ofNat_of_lt' hlt]

theorem WithinBudget.lt_size {q : RespQueue} (h : WithinBudget q) (hcap : q.capacityOctets ≠ 0) :
    total q.entries < UInt64.size := Nat.lt_of_le_of_lt (h hcap) q.capacityOctets.toNat_lt_size

/-! ### The eviction loop -/

/-- There is no room for a frame of `n` octets: not within the budget, or no free slot. -/
def NoRoom (capacityOctets : UInt64) (n : Nat) (es : List RespEntry) : Prop :=
  (capacityOctets ≠ 0 ∧ capacityOctets.toNat < total es + n) ∨ es.length = respQueueMaxEntries

/-- The unsigned subtraction of the loop's condition does not wrap, so the condition says what it should. -/
theorem mustEvict_iff {q : RespQueue} (hc : Counted q) (hb : WithinBudget q) (frame : RcpBytes) :
    q.mustEvict frame.len = true ↔ NoRoom q.capacityOctets frame.data.length q.entries := by
  unfold mustEvict NoRoom
  rw [Bool.or_eq_true, Bool.and_eq_true, bne_iff_ne, beq_iff_eq, decide_eq_true_eq, gt_iff_lt, UInt64.lt_iff_toNat_lt,
    len_toNat]
  refine or_congr (and_congr_right fun hcap => ?_) Iff.rfl
  have hoct := hc.toNat (hb.lt_size hcap)
  have hle : q.octets ≤ q.capacityOctets := by
    rw [UInt64.le_iff_toNat_le, hoct]
    exact hb hcap
  rw [UInt64.toNat_sub_of_le _ _ hle, hoct]
  have := hb hcap
  omega

theorem lowestIdx_eq (es : List RespEntry) :
    some (lowestIdx es) =
      (0 :: List.range' 1 (es.length - 1)).foldl (Lib.keepBest (fun _ => true) fun i => (seqAt es i).toNat) none := by
  have hscan : ∀ (l : List Nat) (b : Nat),
      l.foldl (Lib.keepBest (fun _ => true) fun i => (seqAt es i).toNat) (some b) =
        some (l.foldl (fun lowest i => if seqAt es i < seqAt es lowest then i else lowest) b) := by
    intro l
    induction l with
    | nil => exact fun b => rfl
    | cons i l ih =>
      intro b
      rw [List.foldl_cons, List.foldl_cons]
      by_cases hlt : seqAt es i < seqAt es b
      · simp only [Lib.keepBest, UInt8.lt_iff_toNat_lt.mp hlt, hlt, if_true, ih]
      · have hnot : ¬(seqAt es i).toNat < (seqAt es b).toNat := fun h => hlt (UInt8.lt_iff_toNat_lt.mpr h)
        simp only [Lib.keepBest, hnot, hlt, if_true, if_false, ih]
  rw [List.foldl_cons]
  exact (hscan _ 0).symm

theorem zero_cons_range' {n : Nat} (hn : 0 < n) : 0 :: List.range' 1 (n - 1) = List.range n := by
  obtain ⟨m, rfl⟩ := Nat.exists_eq_succ_of_ne_zero hn.ne'
  rw [List.range_eq_range', List.range'_succ]
  rfl

/-- The scan finds an entry with the lowest sequence number. -/
theorem lowestIdx_spec {es : List RespEntry} (hne : es ≠ []) :
    ∃ hi : lowestIdx es < es.length, ∀ e ∈ es, es[lowestIdx es].seq.toNat ≤ e.seq.toNat := by
  have hpos : 0 < es.length := List.length_pos_of_ne_nil hne
  have hsel := (lowestIdx_eq es).symm
  rw [zero_cons_range' hpos] at hsel
  obtain ⟨hmem, -, hmin⟩ := Lib.foldl_keepBest_minimal hsel
  have hi : lowestIdx es < es.length := List.mem_range.mp hmem
  have hat : ∀ (i : Nat) (h : i < es.length), seqAt es i = es[i].seq := fun i h => by simp [seqAt, h]
  refine ⟨hi, fun e he => ?_⟩
  obtain ⟨j, hj, rfl⟩ := List.getElem_of_mem he
  rw [← hat _ hi, ← hat _ hj]
  exact hmin j (List.mem_range.mpr hj) rfl

section
variable {q : RespQueue} {frame : RcpBytes}

/-- An eviction keeps the accounting, and the budget. -/
theorem Counted.evictLowest (hc : Counted q) (hne : q.entries ≠ []) : Counted q.evictLowest := by
  obtain ⟨hi, -⟩ := lowestIdx_spec hne
  have hlen : lenAt q.entries (lowestIdx q.entries) =
      UInt64.ofNat q.entries[lowestIdx q.entries].frame.data.length := by
    simp [lenAt, hi, RcpBytes.len]
  have htotal := total_eraseIdx hi
  unfold Counted RespQueue.evictLowest
  simp only
  rw [hc, hlen, ← htotal, UInt64.ofNat_add, add_sub_cancel_left]

theorem WithinBudget.evictLowest (hb : WithinBudget q) (hne : q.entries ≠ []) : WithinBudget q.evictLowest := by
  obtain ⟨hi, -⟩ := lowestIdx_spec hne
  have htotal := total_eraseIdx hi
  intro hcap
  have hle : total (q.entries.eraseIdx (lowestIdx q.entries)) ≤ total q.entries := by omega
  exact hle.trans (hb hcap)

/-- A frame within the whole budget finds room in an empty queue. -/
theorem not_noRoom_nil (hfit : q.capacityOctets ≠ 0 → frame.data.length ≤ q.capacityOctets.toNat) :
    ¬NoRoom q.capacityOctets frame.data.length [] := by
  rintro (⟨hcap, hlt⟩ | hlen)
  · have := hfit hcap
    simp only [total_nil, Nat.zero_add] at hlt
    omega
  · cases hlen

/-- The loop ends with room for the frame, and what it took out is an eviction by the sequence number. -/
theorem evictLoop_spec (n : Nat) (hn : q.entries.length = n) (hc : Counted q) (hb : WithinBudget q)
    (hfit : q.capacityOctets ≠ 0 → frame.data.length ≤ q.capacityOctets.toNat) :
    ∃ removed q', evictLoop n q frame.len = some q' ∧
      Lib.Evicts (fun e : RespEntry => e.seq.toNat) (NoRoom q.capacityOctets frame.data.length) q.entries removed
        q'.entries ∧
      Counted q' ∧ WithinBudget q' ∧
      q' = { q with entries := q'.entries, octets := q'.octets, overflow := q.overflow || !removed.isEmpty } := by
  induction n generalizing q with
  | zero =>
    have hnil : q.entries = [] := List.length_eq_zero_iff.mp hn
    have hroom : ¬NoRoom q.capacityOctets frame.data.length q.entries := hnil ▸ not_noRoom_nil hfit
    have hguard : q.mustEvict frame.len = false := by rwa [Bool.eq_false_iff, ne_eq, mustEvict_iff hc hb]
    exact ⟨[], q, by simp [evictLoop, hguard], .done hroom, hc, hb, by simp⟩
  | succ n ih =>
    have hne : q.entries ≠ [] := List.ne_nil_of_length_eq_add_one hn
    by_cases hguard : q.mustEvict frame.len = true
    · obtain ⟨hi, hlow⟩ := lowestIdx_spec hne
      have hlen : q.evictLowest.entries.length = n := by
        rw [RespQueue.evictLowest, List.length_eraseIdx, if_pos hi, hn, Nat.add_sub_cancel]
      obtain ⟨removed, q', hloop, hev, hc', hb', hq'⟩ := ih hlen (hc.evictLowest hne) (hb.evictLowest hne) hfit
      refine ⟨q.entries[lowestIdx q.entries] :: removed, q', ?_, ?_, hc', hb', ?_⟩
      · rw [evictLoop, if_pos hguard, hloop]
      · exact .evict hi hlow ((mustEvict_iff hc hb frame).mp hguard) hev
      · rw [hq']
        simp [RespQueue.evictLowest]
    · have hroom : ¬NoRoom q.capacityOctets frame.data.length q.entries := fun h =>
        hguard ((mustEvict_iff hc hb frame).mpr h)
      exact ⟨[], q, by rw [evictLoop, if_neg hguard], .done hroom, hc, hb, by simp⟩

/-! ### One call -/

/-- The frame exceeds the ceiling for a message, or the whole budget. -/
def TooBig (q : RespQueue) (frame : RcpBytes) : Prop :=
  (q.maxAvtpduSizeOctets ≠ 0 ∧ q.maxAvtpduSizeOctets.toNat < frame.data.length) ∨
  (q.capacityOctets ≠ 0 ∧ q.capacityOctets.toNat < frame.data.length)

/-- What a push that is accepted does: entries leave one after the other, each with the lowest sequence number of
    those there and each for want of room; the others stay in order, and the new entry comes last. -/
def Pushed (q : RespQueue) (frame : RcpBytes) (sequenceNum : UInt8) (q' : RespQueue) : Prop :=
  ∃ removed kept, q'.entries = kept ++ [⟨frame, sequenceNum⟩] ∧ kept.Sublist q.entries ∧
    (removed ++ kept).Perm q.entries ∧
    (∀ before r rest, removed = before ++ r :: rest →
      (∀ e ∈ rest ++ kept, r.seq ≤ e.seq) ∧ NoRoom q.capacityOctets frame.data.length (r :: rest ++ kept)) ∧
    q'.overflow = (q.overflow || !removed.isEmpty)

/-- What holds in every state. -/
structure Inv (q : RespQueue) : Prop where
  counted : Counted q
  budget : WithinBudget q
  slots : q.entries.length ≤ respQueueMaxEntries
  ceiling : q.maxAvtpduSizeOctets ≠ 0 → ∀ e ∈ q.entries, e.frame.data.length ≤ q.maxAvtpduSizeOctets.toNat

theorem NoRoom.perm {cap : UInt64} {n : Nat} {es es' : List RespEntry} (h : es.Perm es') (hr : NoRoom cap n es') :
    NoRoom cap n es := by
  unfold NoRoom at hr ⊢
  rwa [total_perm h, h.length_eq]

theorem tooBig_iff : (q.maxAvtpduSizeOctets != 0 && frame.len > q.maxAvtpduSizeOctets ||
    q.capacityOctets != 0 && frame.len > q.capacityOctets) = true ↔ TooBig q frame := by
  simp only [TooBig, Bool.or_eq_true, Bool.and_eq_true, bne_iff_ne, decide_eq_true_eq, gt_iff_lt,
    UInt64.lt_iff_toNat_lt, len_toNat]

theorem pushed_of_evicts {removed : List RespEntry} {q' : RespQueue} {sequenceNum : UInt8}
    (hev : Lib.Evicts (fun e : RespEntry => e.seq.toNat) (NoRoom q.capacityOctets frame.data.length) q.entries removed
      q'.entries) (hover : q'.overflow = (q.overflow || !removed.isEmpty)) :
    Pushed q frame sequenceNum (q'.append frame sequenceNum) := by
  refine ⟨removed, q'.entries, rfl, hev.sublist, hev.perm, fun before r rest hsplit => ?_, hover⟩
  obtain ⟨m, hfull, hperm, hlow⟩ := hev.each hsplit
  refine ⟨fun e he => ?_, hfull.perm hperm⟩
  exact UInt8.le_iff_toNat_le.mpr (hlow e (hperm.subset (List.mem_cons_of_mem _ he)))

/-- A frame that fits keeps the accounting when it is put behind the entries left. -/
theorem Inv.append {q' : RespQueue} {sequenceNum : UInt8} (hinv : Inv q) (hbig : ¬TooBig q frame)
    (hsub : q'.entries.Sublist q.entries) (hroom : ¬NoRoom q.capacityOctets frame.data.length q'.entries)
    (hc : Counted q') (hcap : q'.capacityOctets = q.capacityOctets)
    (hmax : q'.maxAvtpduSizeOctets = q.maxAvtpduSizeOctets) : Inv (q'.append frame sequenceNum) where
  counted := by
    unfold Counted RespQueue.append
    rw [hc, RcpBytes.len, ← UInt64.ofNat_add, total_append, total_cons, total_nil, Nat.add_zero]
  budget := by
    intro hne
    have hne' : q.capacityOctets ≠ 0 := hcap ▸ hne
    have hle : ¬q.capacityOctets.toNat < total q'.entries + frame.data.length := fun h => hroom (.inl ⟨hne', h⟩)
    simp only [RespQueue.append, total_append, total_cons, total_nil, hcap]
    omega
  slots := by
    have hlen : q'.entries.length ≠ respQueueMaxEntries := fun h => hroom (.inr h)
    have := hsub.length_le
    have := hinv.slots
    simp only [RespQueue.append, List.length_append, List.length_singleton]
    omega
  ceiling := by
    intro hne e he
    have hne' : q.maxAvtpduSizeOctets ≠ 0 := hmax ▸ hne
    simp only [RespQueue.append, hmax]
    rcases List.mem_append.mp he with he | he
    · exact hinv.ceiling hne' e (hsub.subset he)
    · rw [List.mem_singleton.mp he]
      exact Nat.le_of_not_lt fun h => hbig (.inl ⟨hne', h⟩)

/-- A push is refused, or leaves the queue as `Pushed` says. -/
theorem pushSeq_spec (hinv : Inv q) (frame : RcpBytes) (sequenceNum : UInt8) :
    (TooBig q frame ∧ q.pushSeq frame sequenceNum = some (false, q)) ∨
    ∃ q', ¬TooBig q frame ∧ q.pushSeq frame sequenceNum = some (true, q') ∧ Pushed q frame sequenceNum q' ∧ Inv q' ∧
      q'.capacityOctets = q.capacityOctets ∧ q'.maxAvtpduSizeOctets = q.maxAvtpduSizeOctets ∧
      q'.nextSequenceNum = q.nextSequenceNum := by
  by_cases hbig : TooBig q frame
  · refine .inl ⟨hbig, ?_⟩
    have hcheck := tooBig_iff.mpr hbig
    unfold pushSeq
    rw [Bool.or_eq_true] at hcheck
    rcases hcheck with hcheck | hcheck
    · rw [if_pos hcheck]
    · split
      · rfl
      · rfl
  · have hcheck := mt tooBig_iff.mp hbig
    rw [Bool.or_eq_true, not_or] at hcheck
    have hfit : q.capacityOctets ≠ 0 → frame.data.length ≤ q.capacityOctets.toNat := fun hne =>
      Nat.le_of_not_lt fun h => hbig (.inr ⟨hne, h⟩)
    obtain ⟨removed, q', hloop, hev, hc, -, hq'⟩ := evictLoop_spec _ rfl hinv.counted hinv.budget hfit
    have hcap : q'.capacityOctets = q.capacityOctets := by rw [hq']
    have hmax : q'.maxAvtpduSizeOctets = q.maxAvtpduSizeOctets := by rw [hq']
    refine .inr ⟨q'.append frame sequenceNum, hbig, ?_, pushed_of_evicts hev (by rw [hq']), ?_, hcap, hmax, ?_⟩
    · rw [pushSeq, if_neg hcheck.1, if_neg hcheck.2, hloop, Option.map_some]
    · exact hinv.append hbig hev.sublist hev.not_full hc hcap hmax
    · rw [hq']
      rfl

theorem push_spec (hinv : Inv q) (frame : RcpBytes) :
    (TooBig q frame ∧ q.push frame = some (false, q)) ∨
    ∃ q', ¬TooBig q frame ∧ q.push frame = some (true, q') ∧ Pushed q frame q.nextSequenceNum q' ∧ Inv q' ∧
      q'.capacityOctets = q.capacityOctets ∧ q'.maxAvtpduSizeOctets = q.maxAvtpduSizeOctets ∧
      q'.nextSequenceNum = q.nextSequenceNum + 1 := by
  rcases pushSeq_spec hinv frame q.nextSequenceNum with ⟨hbig, heq⟩ | ⟨q', hbig, heq, hp, hi, hcap, hmax, hseq⟩
  · exact .inl ⟨hbig, by simp [push, heq]⟩
  · refine .inr ⟨{ q' with nextSequenceNum := q'.nextSequenceNum + 1 }, hbig, by simp [push, heq], hp, ?_, hcap, hmax, ?_⟩
    · exact ⟨hi.counted, hi.budget, hi.slots, hi.ceiling⟩
    · rw [← hseq]

theorem Inv.pop (hinv : Inv q) : Inv q.pop.2 := by
  unfold RespQueue.pop
  obtain ⟨entries, octets, cap, max, next, overflowed⟩ := q
  cases entries with
  | nil => exact hinv
  | cons e es =>
    obtain ⟨hc, hb, hs, hm⟩ := hinv
    refine ⟨?_, fun hne => ?_, ?_, fun hne e' he' => hm hne e' (List.mem_cons_of_mem _ he')⟩
    · simp only [Counted, total_cons, UInt64.ofNat_add] at hc ⊢
      rw [hc, RcpBytes.len, add_sub_cancel_left]
    · have := hb hne
      simp only [total_cons] at this ⊢
      omega
    · simp only [List.length_cons] at hs ⊢
      omega

theorem init_inv (capacityOctets maxAvtpduSizeOctets : UInt64) : Inv (init capacityOctets maxAvtpduSizeOctets) :=
  ⟨rfl, fun _ => Nat.zero_le _, Nat.zero_le _, fun _ _ h => by cases h⟩

/-! ### Runs -/

/-- The frame a call adds to the queue: that of an accepted push. -/
def added (q : RespQueue) : RespQueueCall → Option RcpBytes
  | .push frame => if (q.push frame).map Prod.fst = some true then some frame else none
  | .pushSeq frame sequenceNum =>
    if (q.pushSeq frame sequenceNum).map Prod.fst = some true then some frame else none
  | _ => none

/-- The frame a call hands out. -/
def handedOut (q : RespQueue) : RespQueueCall → Option RcpBytes
  | .pop => q.pop.1
  | _ => none

/-- The frames calls add, in order. -/
def addedBy (q : RespQueue) : List RespQueueCall → List RcpBytes
  | [] => []
  | c :: calls => (q.added c).toList ++ ((q.after c).map fun q' => addedBy q' calls).getD []

/-- The frames calls hand out, in order. -/
def handedOutBy (q : RespQueue) : List RespQueueCall → List RcpBytes
  | [] => []
  | c :: calls => (q.handedOut c).toList ++ ((q.after c).map fun q' => handedOutBy q' calls).getD []

/-- An accepted push does not make the queue longer: it has evicted an entry. -/
def Evicting (q : RespQueue) (c : RespQueueCall) : Prop :=
  (q.added c).isSome ∧ ∃ q', q.after c = some q' ∧ q'.entries.length ≤ q.entries.length

/-- The queued frames, oldest first. -/
def frames (q : RespQueue) : List RcpBytes := q.entries.map RespEntry.frame

/-- A pop hands out the oldest frame, if there is one, and keeps the rest. -/
theorem pop_spec (q : RespQueue) :
    q.pop.1.toList ++ q.pop.2.frames = q.frames ∧ q.pop.2.capacityOctets = q.capacityOctets ∧
      q.pop.2.maxAvtpduSizeOctets = q.maxAvtpduSizeOctets ∧ q.pop.2.overflow = q.overflow := by
  obtain ⟨entries, octets, cap, max, next, overflowed⟩ := q
  cases entries <;> exact ⟨rfl, rfl, rfl, rfl⟩

/-- What every call does. -/
structure Called (q : RespQueue) (c : RespQueueCall) (q' : RespQueue) : Prop where
  inv : Inv q'
  capacity : q'.capacityOctets = q.capacityOctets
  ceiling : q'.maxAvtpduSizeOctets = q.maxAvtpduSizeOctets
  order : ((q.handedOut c).toList ++ q'.frames).Sublist (q.frames ++ (q.added c).toList)
  cleared : c = .clearOverflow → q'.overflow = false
  latched : c ≠ .clearOverflow → (q'.overflow = true ↔ q.overflow = true ∨ Evicting q c)

/-- A push is seen in the frames, and in the overflow bit, as any accepted one. -/
theorem called_of_pushed {c : RespQueueCall} {sequenceNum : UInt8} {q' : RespQueue}
    (hadd : q.added c = some frame) (hout : q.handedOut c = none) (hafter : q.after c = some q')
    (hc : c ≠ .clearOverflow) (hp : Pushed q frame sequenceNum q') (hinv : Inv q')
    (hcap : q'.capacityOctets = q.capacityOctets) (hmax : q'.maxAvtpduSizeOctets = q.maxAvtpduSizeOctets) :
    Called q c q' := by
  obtain ⟨removed, kept, hentries, hsub, hperm, -, hover⟩ := hp
  refine ⟨hinv, hcap, hmax, ?_, fun h => absurd h hc, fun _ => ?_⟩
  · rw [hadd, hout, frames, frames, hentries, List.map_append]
    exact (hsub.map _).append (List.Sublist.refl _)
  · have hlen := hperm.length_eq
    rw [List.length_append] at hlen
    have hlen' : q'.entries.length = kept.length + 1 := by rw [hentries, List.length_append, List.length_singleton]
    have hevict : Evicting q c ↔ removed ≠ [] := by
      rw [← List.length_pos_iff_ne_nil]
      constructor
      · rintro ⟨-, q'', hq'', hle⟩
        rw [hafter, Option.some.injEq] at hq''
        subst hq''
        omega
      · exact fun hpos => ⟨by rw [hadd]; rfl, q', hafter, by omega⟩
    rw [hevict, hover, Bool.or_eq_true, Bool.not_eq_true', List.isEmpty_eq_false_iff]

theorem called_of_refused {c : RespQueueCall} (hinv : Inv q) (hadd : q.added c = none) (hout : q.handedOut c = none)
    (hc : c ≠ .clearOverflow) : Called q c q := by
  refine ⟨hinv, rfl, rfl, ?_, fun h => absurd h hc, fun _ => ?_⟩
  · rw [hadd, hout]
    simp
  · have hno : ¬Evicting q c := fun h => by
      obtain ⟨h, -⟩ := h
      rw [hadd] at h
      cases h
    simp [hno]

theorem after_spec (hinv : Inv q) (c : RespQueueCall) : ∃ q', q.after c = some q' ∧ Called q c q' := by
  cases c with
  | push frame =>
    rcases push_spec hinv frame with ⟨-, heq⟩ | ⟨q', -, heq, hp, hi, hcap, hmax, -⟩
    · exact ⟨q, by simp [after, heq], called_of_refused hinv (by simp [added, heq]) rfl (by rintro ⟨⟩)⟩
    · have hafter : q.after (.push frame) = some q' := by simp [after, heq]
      exact ⟨q', hafter, called_of_pushed (by simp [added, heq]) rfl hafter (by rintro ⟨⟩) hp hi hcap hmax⟩
  | pushSeq frame sequenceNum =>
    rcases pushSeq_spec hinv frame sequenceNum with ⟨-, heq⟩ | ⟨q', -, heq, hp, hi, hcap, hmax, -⟩
    · exact ⟨q, by simp [after, heq], called_of_refused hinv (by simp [added, heq]) rfl (by rintro ⟨⟩)⟩
    · have hafter : q.after (.pushSeq frame sequenceNum) = some q' := by simp [after, heq]
      exact ⟨q', hafter, called_of_pushed (by simp [added, heq]) rfl hafter (by rintro ⟨⟩) hp hi hcap hmax⟩
  | pop =>
    obtain ⟨hframes, hcap, hmax, hover⟩ := pop_spec q
    refine ⟨q.pop.2, rfl, hinv.pop, hcap, hmax, ?_, by rintro ⟨⟩, fun _ => ?_⟩
    · simp only [handedOut, added, Option.toList_none, List.append_nil, hframes, List.Sublist.refl]
    · have hno : ¬Evicting q .pop := fun h => Bool.false_ne_true h.1
      simp [hno, hover]
  | clearOverflow =>
    refine ⟨q.clearOverflow, rfl, ⟨hinv.counted, hinv.budget, hinv.slots, hinv.ceiling⟩, rfl, rfl, ?_, fun _ => rfl,
      fun h => absurd rfl h⟩
    simp [handedOut, added, frames, RespQueue.clearOverflow]

theorem foldlM_spec (hinv : Inv q) (calls : List RespQueueCall) :
    ∃ q', calls.foldlM after q = some q' ∧ Inv q' ∧ q'.capacityOctets = q.capacityOctets ∧
      q'.maxAvtpduSizeOctets = q.maxAvtpduSizeOctets ∧
      (handedOutBy q calls ++ q'.frames).Sublist (q.frames ++ addedBy q calls) := by
  induction calls generalizing q with
  | nil => exact ⟨q, rfl, hinv, rfl, rfl, by simp [handedOutBy, addedBy]⟩
  | cons c calls ih =>
    obtain ⟨q', hafter, hcall⟩ := after_spec hinv c
    obtain ⟨q'', hrun, hinv'', hcap, hmax, horder⟩ := ih hcall.inv
    refine ⟨q'', ?_, hinv'', hcap.trans hcall.capacity, hmax.trans hcall.ceiling, ?_⟩
    · rw [List.foldlM_cons, hafter]
      exact hrun
    · have hfirst := hcall.order.append (List.Sublist.refl (addedBy q' calls))
      have hrest := (List.Sublist.refl (q.handedOut c).toList).append horder
      rw [← List.append_assoc] at hrest
      rw [List.append_assoc] at hfirst
      simpa [handedOutBy, addedBy, hafter, List.append_assoc] using hrest.trans hfirst

end

/-! ### The queue over every run -/

end RespQueue
end Rcp
