import Rcp.Lib.Ownership
import Rcp.Loan

/-! Loans are private: a borrower reads what it wrote and nothing else, whatever becomes of the other loans, and every
    buffer is lent once, waits in the pool, or has been freed. -/

namespace Rcp

/-! ### Loans that are held -/

/-- A loan that is still held. -/
def heldLoan (l : Option Loan) : Option Loan := l.filter (·.held)

/-- The loan in place `i`, as long as it is held. -/
def heldAt (loans : List (Option Loan)) (i : Nat) : Option Loan := heldLoan (loans[i]?).join

/-- All loans that are held. -/
def heldLoans (loans : List (Option Loan)) : List Loan := (loans.map heldLoan).filterMap id

section
variable {loans : List (Option Loan)} {i j : Nat} {l : Loan}

theorem heldAt_eq (loans : List (Option Loan)) (i : Nat) : heldAt loans i = ((loans.map heldLoan)[i]?).join := by
  unfold heldAt
  rw [List.getElem?_map]
  cases loans[i]? <;> rfl

theorem heldAt_mem (h : heldAt loans i = some l) : l ∈ heldLoans loans := by
  rw [heldAt_eq] at h
  have hget := Option.join_eq_some_iff.mp h
  exact List.mem_filterMap.mpr ⟨some l, List.mem_of_getElem? hget, rfl⟩

theorem heldAt_set_self {x : Option Loan} (hi : i < loans.length) : heldAt (loans.set i x) i = heldLoan x := by
  unfold heldAt
  rw [List.getElem?_set_self hi]
  rfl

theorem heldAt_set_ne {x : Option Loan} (h : j ≠ i) : heldAt (loans.set i x) j = heldAt loans j := by
  unfold heldAt
  rw [List.getElem?_set_ne (Ne.symm h)]

theorem heldAt_lt (h : heldAt loans i = some l) : i < loans.length := by
  by_contra hge
  unfold heldAt at h
  rw [List.getElem?_eq_none (Nat.not_lt.mp hge)] at h
  cases h

theorem heldLoans_set {x y : Option Loan} (h : heldLoan x = heldLoan y) :
    heldLoans (loans.set i x) = heldLoans (loans.set i y) := by
  unfold heldLoans
  rw [List.map_set, List.map_set, h]

/-- A loan that is held, and the others. -/
theorem heldLoans_perm (h : heldAt loans i = some l) :
    (heldLoans loans).Perm (l :: heldLoans (loans.set i none)) := by
  have hi := heldAt_lt h
  have hget : heldLoan loans[i] = some l := by
    unfold heldAt at h
    rwa [List.getElem?_eq_getElem hi] at h
  have hsplit : heldLoans loans = heldLoans (loans.take i) ++ l :: heldLoans (loans.drop (i + 1)) := by
    conv_lhs => rw [← List.take_append_drop i loans, List.drop_eq_getElem_cons hi]
    unfold heldLoans
    rw [List.map_append, List.filterMap_append, List.map_cons, hget]
    rfl
  have hothers : heldLoans (loans.set i none) = heldLoans (loans.take i) ++ heldLoans (loans.drop (i + 1)) := by
    rw [List.set_eq_take_append_cons_drop, if_pos hi]
    unfold heldLoans
    rw [List.map_append, List.filterMap_append, List.map_cons]
    rfl
  rw [hsplit, hothers]
  exact List.perm_middle

theorem heldLoans_forget (h : heldAt loans i = none) : heldLoans (loans.set i none) = heldLoans loans := by
  unfold heldLoans
  rw [List.map_set]
  congr 1
  refine List.ext_getElem? fun j => ?_
  by_cases hj : j = i
  · subst hj
    rw [heldAt_eq] at h
    rw [List.getElem?_set_self']
    cases hget : (loans.map heldLoan)[j]? with
    | none => rfl
    | some x =>
      rw [hget] at h
      exact congrArg some h.symm
  · rw [List.getElem?_set_ne (Ne.symm hj)]

theorem heldLoans_concat (loans : List (Option Loan)) (l : Loan) (hl : l.held = true) :
    heldLoans (loans ++ [some l]) = heldLoans loans ++ [l] := by
  unfold heldLoans
  rw [List.map_append, List.filterMap_append]
  congr 1
  simp [heldLoan, Option.filter, hl]

theorem heldAt_concat (loans : List (Option Loan)) (l : Loan) (hl : l.held = true) (i : Nat) :
    heldAt (loans ++ [some l]) i = if i = loans.length then some l else heldAt loans i := by
  unfold heldAt
  split
  · rename_i hi
    rw [hi, List.getElem?_concat_length]
    simp [heldLoan, Option.filter, hl]
  · rename_i hi
    rcases Nat.lt_or_gt_of_ne hi with hlt | hgt
    · rw [List.getElem?_append_left hlt]
    · rw [List.getElem?_eq_none (by rw [List.length_append]; exact hgt), List.getElem?_eq_none (Nat.le_of_lt hgt)]

end

/-! ### What the borrowers see -/

/-- What is private to the borrower of each loan, told by the operations alone. -/
def borrow (s : Nat → Option Octets) : LoanOp → Option Nat → Nat → Option Octets
  | .acquire size _ _, some i => Function.update s i (some (List.replicate size 0))
  | .acquire .., none => s
  | .write i pos v, _ => Function.update s i ((s i).map fun b => b.set pos v)
  | .loanReturn i, _ | .loanRelease i, _ => Function.update s i none

namespace LoanPool
variable {p : LoanPool} {s : Nat → Option Octets} {i : Nat} {l : Loan}

/-- Zeros at first, then the writes of its borrower, as long as it holds the loan. -/
def borrowed (ops : List LoanOp) : Nat → Option Octets :=
  (ops.foldl (fun q op => ((q.1.step op).2, borrow q.2 op (q.1.step op).1)) (({} : LoanPool), fun _ => none)).2

theorem payload_eq (p : LoanPool) (i : Nat) :
    p.payload i = (heldAt p.loans i).bind fun l => (p.memory l.data).map fun b => b.take l.len := by
  unfold payload loan heldAt heldLoan
  rcases Option.filter _ _ with _ | l
  · rfl
  · dsimp only [Option.bind_eq_bind, Option.bind_some]
    cases p.memory l.data <;> rfl

/-! ### Who owns which buffer -/

/-- Who owns a buffer, with the capacity it is known to have: the pool itself, or the borrower of a loan. -/
def owners (p : LoanPool) : List (Nat × Nat) :=
  p.entries.map (fun e => (e.data, e.cap)) ++ (heldLoans p.loans).map fun l => (l.data, l.cap)

/-- What every run keeps. -/
structure Sound (p : LoanPool) (s : Nat → Option Octets) : Prop where
  owned : Lib.Owned (fun cap (b : Octets) => cap ≤ b.length) p.memory p.owners
  len : ∀ l ∈ heldLoans p.loans, l.len ≤ l.cap
  bound : p.entries.length ≤ loanPoolMaxEntries
  sees : ∀ i, p.payload i = s i

theorem owners_perm (h : heldAt p.loans i = some l) :
    p.owners.Perm ((l.data, l.cap) :: owners { p with loans := p.loans.set i none }) := by
  refine (List.Perm.append_left _ ((heldLoans_perm h).map _)).trans ?_
  rw [List.map_cons]
  exact List.perm_middle

/-- Two loans that are held have different buffers. -/
theorem Sound.apart (h : p.Sound s) {j : Nat} {l' : Loan} (hi : heldAt p.loans i = some l)
    (hj : heldAt p.loans j = some l') (hne : j ≠ i) : l'.data ≠ l.data := by
  intro hdata
  have hnodup := (h.owned.perm (owners_perm hi)).nodup
  rw [List.map_cons, List.nodup_cons] at hnodup
  refine hnodup.1 (List.mem_map.mpr ⟨(l'.data, l'.cap), ?_, hdata⟩)
  exact List.mem_append_right _ (List.mem_map_of_mem (heldAt_mem ((heldAt_set_ne hne).trans hj)))

/-- A change of a buffer is unseen by the borrowers of the others. -/
theorem payload_congr {q : LoanPool} {data : Nat} {x : Option Octets} (hat : heldAt q.loans i = heldAt p.loans i)
    (hmemory : q.memory = Function.update p.memory data x) (hne : ∀ l, heldAt p.loans i = some l → l.data ≠ data) :
    q.payload i = p.payload i := by
  rw [payload_eq, payload_eq, hat, hmemory]
  cases hl : heldAt p.loans i with
  | none => rfl
  | some l =>
    dsimp only [Option.bind_some]
    rw [Function.update_of_ne (hne l hl)]

/-! ### The operations -/

/-- The last entry in the place of another, and its own place gone. -/
theorem set_last_perm {entries : List PoolEntry} {j : Nat} {last : PoolEntry} (hlast : entries.getLast? = some last)
    (hj : j < entries.length) : entries.Perm (entries[j] :: (entries.set j last).dropLast) := by
  have hsame : (entries.set j last).getLast? = some last := by
    rw [List.getLast?_eq_getElem?] at hlast ⊢
    rw [List.length_set]
    by_cases heq : j = entries.length - 1
    · rw [← heq, List.getElem?_set_self hj]
    · rw [List.getElem?_set_ne heq, hlast]
  have hsplit : (entries.set j last).dropLast ++ [last] = entries.set j last := List.dropLast_append_getLast? last hsame
  have hperm : (last :: (entries.set j last).dropLast).Perm (last :: entries.eraseIdx j) :=
    calc (last :: (entries.set j last).dropLast).Perm ((entries.set j last).dropLast ++ [last]) :=
          (List.perm_append_singleton last _).symm
      _ = entries.set j last := hsplit
      _ |>.Perm (last :: entries.eraseIdx j) := List.set_perm_cons_eraseIdx hj last
  exact (List.getElem_cons_eraseIdx_perm hj).symm.trans (hperm.cons_inv.symm.cons _)

theorem takeEntry_spec {entries rest : List PoolEntry} {size : Nat} {e : PoolEntry}
    (h : takeEntry entries size = some (e, rest)) : size ≤ e.cap ∧ entries.Perm (e :: rest) := by
  unfold takeEntry at h
  split at h
  · rename_i j last hfind hlast
    obtain ⟨e', he, hpair⟩ := Option.map_eq_some_iff.mp h
    obtain ⟨rfl, rfl⟩ := Prod.mk.inj hpair
    obtain ⟨hj, rfl⟩ := List.getElem?_eq_some_iff.mp he
    obtain ⟨_, hlarge, -⟩ := List.findIdx?_eq_some_iff_getElem.mp hfind
    exact ⟨decide_eq_true_iff.mp hlarge, set_last_perm hlast hj⟩
  · cases h

/-- A buffer that nobody else has, and that is zero as far as the loan goes, is lent, or freed again. -/
theorem Sound.lend {data size cap : Nat} {b : Octets} (fresh : Option Nat)
    (howned : Lib.Owned (fun cap (b : Octets) => cap ≤ b.length) p.memory ((data, cap) :: p.owners))
    (hlen : ∀ l ∈ heldLoans p.loans, l.len ≤ l.cap) (hbound : p.entries.length ≤ loanPoolMaxEntries)
    (hsees : ∀ i, p.payload i = s i) (hsize : size ≤ cap) (hb : p.memory data = some b)
    (hzero : b.take size = List.replicate size 0) (allocated : Bool) :
    (p.lend data size cap allocated).2.Sound
      (borrow s (.acquire size fresh allocated) (p.lend data size cap allocated).1) := by
  have hother : ∀ i l, heldAt p.loans i = some l → l.data ≠ data := by
    rintro i l hl rfl
    refine (List.nodup_cons.mp howned.nodup).1 (List.mem_map.mpr ⟨(l.data, l.cap), ?_, rfl⟩)
    exact List.mem_append_right _ (List.mem_map_of_mem (heldAt_mem hl))
  unfold LoanPool.lend
  cases allocated with
  | false =>
    rw [Bool.not_false, if_pos rfl]
    refine ⟨howned.free, hlen, hbound, fun i => ?_⟩
    have hunseen : (p.free data).payload i = p.payload i := payload_congr rfl rfl (hother i)
    exact hunseen.trans (hsees i)
  | true =>
    rw [Bool.not_true, if_neg Bool.false_ne_true]
    have hheld := heldLoans_concat p.loans { data, len := size, cap, held := true } rfl
    refine ⟨?_, ?_, hbound, fun i => ?_⟩
    · refine howned.perm ?_
      unfold owners
      rw [hheld, List.map_append, ← List.append_assoc]
      exact (List.perm_append_singleton _ _).symm
    · intro l hl
      rw [hheld] at hl
      rcases List.mem_append.mp hl with hl | hl
      · exact hlen l hl
      · obtain rfl := List.mem_singleton.mp hl
        exact hsize
    · rw [payload_eq, heldAt_concat _ _ rfl, borrow, Function.update_apply]
      by_cases hi : i = p.loans.length
      · rw [if_pos hi, if_pos hi, Option.bind_some]
        dsimp only
        rw [hb, Option.map_some, hzero]
      · rw [if_neg hi, if_neg hi, ← hsees, payload_eq]

theorem Sound.acquire (h : p.Sound s) (size : Nat) (fresh : Option Nat) (allocated : Bool) :
    (p.acquire size fresh allocated).2.Sound
      (borrow s (.acquire size fresh allocated) (p.acquire size fresh allocated).1) := by
  unfold LoanPool.acquire
  rcases htake : takeEntry p.entries size with _ | ⟨e, rest⟩
  · dsimp only
    rcases hfresh : fresh.filter fun data => (p.memory data).isNone with _ | data
    · exact h
    · have hfree : p.memory data = none := by
        obtain ⟨-, hnone⟩ := Option.filter_eq_some_iff.mp hfresh
        exact Option.isNone_iff_eq_none.mp hnone
      have hzeros : ∀ n, size ≤ n → (List.replicate n (0 : UInt8)).take size = List.replicate size 0 := fun n hn => by
        rw [List.take_replicate, Nat.min_eq_left hn]
      have hroom : size ≤ if size > 0 then size else 1 := by split <;> omega
      dsimp only
      refine Sound.lend
        (p := { p with
          memory := Function.update p.memory data (some (List.replicate (if size > 0 then size else 1) 0)) })
        fresh ?_ h.len h.bound ?_ (Nat.le_refl _) (Function.update_self _ _ _) (hzeros _ hroom) allocated
      · exact h.owned.alloc hfree (by rw [List.length_replicate]; exact hroom)
      · intro i
        rw [← h.sees i]
        refine payload_congr rfl rfl fun l hl => ?_
        rintro rfl
        obtain ⟨b, hb, -⟩ := h.owned.content
          (List.mem_append_right _ (List.mem_map_of_mem (heldAt_mem hl)) : (l.data, l.cap) ∈ p.owners)
        rw [hfree] at hb
        cases hb
  · obtain ⟨hsize, hperm⟩ := takeEntry_spec htake
    have hmem : e ∈ p.entries := hperm.mem_iff.mpr List.mem_cons_self
    have howner : (e.data, e.cap) ∈ p.owners := List.mem_append_left _ (List.mem_map_of_mem hmem)
    obtain ⟨b, hb, hcap⟩ := h.owned.content howner
    dsimp only
    rw [hb, Option.getD_some]
    have hlength : (List.replicate size (0 : UInt8) ++ b.drop size).length = b.length := by
      rw [List.length_append, List.length_replicate, List.length_drop]
      omega
    have howners : p.owners.Perm ((e.data, e.cap) :: owners { p with entries := rest }) :=
      (hperm.map fun e : PoolEntry => (e.data, e.cap)).append_right _
    have howned := (h.owned.put howner (b := List.replicate size 0 ++ b.drop size) (by rw [hlength]; exact hcap)).perm
      howners
    have hlt : rest.length < p.entries.length := by
      rw [hperm.length_eq]
      exact Nat.lt_succ_self _
    refine Sound.lend
      (p := { p with
        entries := rest
        memory := Function.update p.memory e.data (some (List.replicate size 0 ++ b.drop size)) })
      fresh howned h.len (Nat.le_trans (Nat.le_of_lt hlt) h.bound) ?_ hsize (Function.update_self _ _ _)
      (List.take_left' List.length_replicate) allocated
    intro i
    rw [← h.sees i]
    refine payload_congr rfl rfl fun l hl hdata => ?_
    refine (List.nodup_cons.mp howned.nodup).1 (List.mem_map.mpr ⟨(l.data, l.cap), ?_, hdata⟩)
    exact List.mem_append_right _ (List.mem_map_of_mem (heldAt_mem hl))

theorem write_held (hl : heldAt p.loans i = some l) (pos : Nat) (v : UInt8) :
    p.write i pos v = if pos < l.len then
      { p with memory := Function.update p.memory l.data ((p.memory l.data).map fun b => b.set pos v) } else p := by
  unfold LoanPool.write
  rw [show (p.loan i).filter (·.held) = some l from hl]

theorem write_gone (hl : heldAt p.loans i = none) (pos : Nat) (v : UInt8) : p.write i pos v = p := by
  unfold LoanPool.write
  rw [show (p.loan i).filter (·.held) = none from hl]

theorem Sound.write (h : p.Sound s) (i pos : Nat) (v : UInt8) (r : Option Nat) :
    (p.write i pos v).Sound (borrow s (.write i pos v) r) := by
  have hsees := payload_eq p i
  rw [h.sees] at hsees
  rw [borrow]
  cases hl : heldAt p.loans i with
  | none =>
    rw [hl, Option.bind_none] at hsees
    rw [write_gone hl, hsees, Option.map_none, ← hsees, Function.update_eq_self]
    exact h
  | some l =>
    have howner : (l.data, l.cap) ∈ p.owners := List.mem_append_right _ (List.mem_map_of_mem (heldAt_mem hl))
    obtain ⟨b, hb, hcap⟩ := h.owned.content howner
    rw [hl, Option.bind_some, hb, Option.map_some] at hsees
    rw [write_held hl, hsees, Option.map_some]
    by_cases hpos : pos < l.len
    · rw [if_pos hpos, hb, Option.map_some]
      refine ⟨h.owned.put howner (by rw [List.length_set]; exact hcap), h.len, h.bound, fun j => ?_⟩
      by_cases hj : j = i
      · subst hj
        rw [payload_eq, hl, Option.bind_some]
        dsimp only
        rw [Function.update_self, Function.update_self, Option.map_some, List.take_set]
      · rw [Function.update_of_ne hj, ← h.sees j]
        exact payload_congr rfl rfl fun l' hl' => h.apart hl hl' hj
    · have hlong : (b.take l.len).length ≤ pos := Nat.le_trans (List.length_take_le _ _) (Nat.not_lt.mp hpos)
      rw [if_neg hpos, List.set_eq_of_length_le hlong, ← hsees, Function.update_eq_self]
      exact h

/-- The loan in place `i`, no longer held. -/
def handBack (p : LoanPool) (i : Nat) (l : Loan) : LoanPool :=
  { p with loans := p.loans.set i (some { l with held := false }) }

theorem loanReturn_gone (hl : heldAt p.loans i = none) : p.loanReturn i = p := by
  unfold LoanPool.loanReturn
  rw [show (p.loan i).filter (·.held) = none from hl]

/-- A buffer that comes back is kept, or freed where the pool is full. -/
theorem loanReturn_held (hl : heldAt p.loans i = some l) :
    p.loanReturn i =
      if p.entries.length = loanPoolMaxEntries then (p.handBack i l).free l.data
      else { p.handBack i l with entries := p.entries ++ [{ data := l.data, cap := l.cap }] } := by
  unfold LoanPool.loanReturn loanReleaseToPool poolAppend
  rw [show (p.loan i).filter (·.held) = some l from hl]
  dsimp only
  split <;> rfl

theorem owners_handBack (hl : heldAt p.loans i = some l) :
    p.owners.Perm ((l.data, l.cap) :: (p.handBack i l).owners) := by
  have hothers : heldLoans (p.handBack i l).loans = heldLoans (p.loans.set i none) := heldLoans_set rfl
  have hperm := owners_perm hl
  unfold owners at hperm ⊢
  rw [hothers]
  exact hperm

theorem Sound.loanReturn (h : p.Sound s) (i : Nat) (r : Option Nat) :
    (p.loanReturn i).Sound (borrow s (.loanReturn i) r) ∧ heldAt (p.loanReturn i).loans i = none := by
  rw [borrow]
  cases hl : heldAt p.loans i with
  | none =>
    have hsees := payload_eq p i
    rw [h.sees, hl, Option.bind_none] at hsees
    rw [loanReturn_gone hl, ← hsees, Function.update_eq_self]
    exact ⟨h, hl⟩
  | some l =>
    have hgone : heldAt (p.handBack i l).loans i = none := heldAt_set_self (heldAt_lt hl)
    have hat : ∀ j, j ≠ i → heldAt (p.handBack i l).loans j = heldAt p.loans j := fun j hj => heldAt_set_ne hj
    have howned := h.owned.perm (owners_handBack hl)
    have hlen : ∀ l' ∈ heldLoans (p.handBack i l).loans, l'.len ≤ l'.cap := fun l' hl' => by
      rw [show heldLoans (p.handBack i l).loans = heldLoans (p.loans.set i none) from heldLoans_set rfl] at hl'
      exact h.len l' ((heldLoans_perm hl).mem_iff.mpr (List.mem_cons_of_mem _ hl'))
    rw [loanReturn_held hl]
    by_cases hfull : p.entries.length = loanPoolMaxEntries
    · rw [if_pos hfull]
      refine ⟨⟨howned.free, hlen, h.bound, fun j => ?_⟩, hgone⟩
      by_cases hj : j = i
      · subst hj
        rw [payload_eq, Function.update_self]
        exact congrArg (Option.bind · _) hgone
      · rw [Function.update_of_ne hj, ← h.sees j]
        exact payload_congr (hat j hj) rfl fun l' hl' => h.apart hl hl' hj
    · rw [if_neg hfull]
      refine ⟨⟨?_, hlen, ?_, fun j => ?_⟩, hgone⟩
      · refine howned.perm ?_
        unfold owners
        rw [List.map_append, List.append_assoc]
        exact List.perm_middle.symm
      · rw [List.length_append]
        exact Nat.lt_of_le_of_ne h.bound hfull
      · by_cases hj : j = i
        · subst hj
          rw [payload_eq, Function.update_self]
          exact congrArg (Option.bind · _) hgone
        · rw [Function.update_of_ne hj, ← h.sees j, payload_eq, payload_eq]
          exact congrArg (Option.bind · _) (hat j hj)

theorem Sound.step (h : p.Sound s) (op : LoanOp) : (p.step op).2.Sound (borrow s op (p.step op).1) := by
  cases op with
  | acquire size fresh allocated => exact h.acquire size fresh allocated
  | write i pos v => exact h.write i pos v none
  | loanReturn i => exact (h.loanReturn i none).1
  | loanRelease i =>
    obtain ⟨hsound, hgone⟩ := h.loanReturn i none
    have hothers := heldLoans_forget hgone
    refine ⟨?_, ?_, hsound.bound, fun j => ?_⟩
    · unfold owners
      dsimp only [LoanPool.step, loanRelease]
      rw [hothers]
      exact hsound.owned
    · dsimp only [LoanPool.step, loanRelease]
      rw [hothers]
      exact hsound.len
    · have hseen : (p.loanReturn i).payload j = borrow s (.loanReturn i) none j := hsound.sees j
      change LoanPool.payload { p.loanReturn i with loans := (p.loanReturn i).loans.set i none } j =
        borrow s (.loanReturn i) none j
      rw [← hseen, payload_eq, payload_eq]
      by_cases hj : j = i
      · subst hj
        have hforgot : heldAt ((p.loanReturn j).loans.set j none) j = none := by
          by_cases hin : j < (p.loanReturn j).loans.length
          · exact heldAt_set_self hin
          · rwa [List.set_eq_of_length_le (Nat.not_lt.mp hin)]
        rw [hgone, hforgot]
      · rw [heldAt_set_ne hj]

/-! ### Every run -/

theorem run_sound (ops : List LoanOp) : (run ops).Sound (borrowed ops) := by
  have hrun : ∀ (ops : List LoanOp) (p : LoanPool) (s : Nat → Option Octets), p.Sound s →
      (ops.foldl (fun p op => (p.step op).2) p).Sound
        (ops.foldl (fun q op => ((q.1.step op).2, borrow q.2 op (q.1.step op).1)) (p, s)).2 := by
    intro ops
    induction ops with
    | nil => exact fun p s h => h
    | cons op ops ih => exact fun p s h => ih _ _ (h.step op)
  refine hrun ops _ _ ⟨.nil, nofun, Nat.zero_le _, fun i => ?_⟩
  rfl

theorem destroy_memory (p : LoanPool) :
    p.destroy.memory = (p.entries.map fun e => (e.data, e.cap)).foldl
      (fun (memory : Nat → Option Octets) o => Function.update memory o.1 none) p.memory := by
  unfold destroy
  generalize p.entries = entries
  induction entries generalizing p with
  | nil => rfl
  | cons e entries ih => exact ih (p.free e.data)

/-- Whatever the order of the calls and whatever is allocated: the borrower of a loan reads zeros and what it has
    written since, and no other loan's octets. The buffers in use are those that the pool keeps, 64 at most, and those
    of the loans that are held, each of them once. Once every loan has come back, destroying the pool leaves nothing. -/
theorem loans_are_private (ops : List LoanOp) :
    (∀ i, (run ops).payload i = borrowed ops i) ∧
    ((run ops).entries.map PoolEntry.data ++ (heldLoans (run ops).loans).map Loan.data).Nodup ∧
    (∀ data, ((run ops).memory data).isSome = true ↔
      data ∈ (run ops).entries.map PoolEntry.data ++ (heldLoans (run ops).loans).map Loan.data) ∧
    (run ops).entries.length ≤ loanPoolMaxEntries ∧
    (heldLoans (run ops).loans = [] → (run ops).destroy.memory = fun _ => none) := by
  have h := run_sound ops
  have howners : (run ops).owners.map Prod.fst =
      (run ops).entries.map PoolEntry.data ++ (heldLoans (run ops).loans).map Loan.data := by
    rw [owners, List.map_append, List.map_map, List.map_map]
    rfl
  refine ⟨h.sees, howners ▸ h.owned.nodup, fun data => howners ▸ h.owned.alive data, h.bound, fun hnone => ?_⟩
  have howned := h.owned
  rw [owners, hnone, List.map_nil, List.append_nil] at howned
  rw [destroy_memory]
  exact howned.freeAll

end LoanPool
end Rcp
