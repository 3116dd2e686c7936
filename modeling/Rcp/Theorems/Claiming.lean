import Rcp.DiscoveryClaim
import Rcp.Lib.Lease

/-! The claim of the discovery stream is a lease: the calls refine those of the general lease, as long as the clock
    does not come within a time-out of its end. Who the claimant is follows from the accepted calls alone. -/

namespace Rcp
open Lib (Lease LeaseOp)

namespace DiscoveryClaim

/-! ### The claim as a lease -/

/-- The lease a claim stands for. -/
def lease (claim : DiscoveryClaim) : Option (Lease UInt64 Nat) :=
  if claim.held then some ⟨claim.claimant, claim.deadlineMs.toNat⟩ else none

/-- The deadline of a claim given at `t`. -/
def windowEnd (timeoutMs : UInt32) (t : Nat) : Nat := t + timeoutMs.toNat

/-- A call as an operation on the lease. -/
def leaseCall : UInt64 × ClaimCall → Nat × LeaseOp UInt64
  | (now, .noteRequest requester) => (now.toNat, .request requester)
  | (now, .noteConfigWrite writer) => (now.toNat, .renew writer)
  | (now, .release) => (now.toNat, .release)
  | (now, .isClaimant writer) => (now.toNat, .query writer)

variable {claim : DiscoveryClaim} {timeoutMs : UInt32} {w now : UInt64} {c : UInt64 × ClaimCall}
  {calls : List (UInt64 × ClaimCall)}

theorem windowEnd_mono : Monotone (windowEnd timeoutMs) := fun _ _ h => Nat.add_le_add_right h _

@[simp] theorem leaseCall_fst : (leaseCall c).1 = c.1.toNat := by
  obtain ⟨now, call⟩ := c
  cases call <;> rfl

theorem leaseCall_release : (leaseCall c).2 = .release ↔ c.2 = .release := by
  obtain ⟨now, call⟩ := c
  cases call <;> simp [leaseCall]

theorem leaseCall_request : (leaseCall c).2 = .request w ↔ c.2 = .noteRequest w := by
  obtain ⟨now, call⟩ := c
  cases call <;> simp [leaseCall]

theorem leaseCall_by : Lease.By w (leaseCall c).2 ↔ c.2 = .noteRequest w ∨ c.2 = .noteConfigWrite w := by
  obtain ⟨now, call⟩ := c
  cases call <;> simp [leaseCall, Lease.By]

theorem isClaimant_iff : claim.isClaimant w now = true ↔ Lease.Holds claim.lease w now.toNat := by
  unfold isClaimant lease Lease.Holds
  cases claim.held with
  | false => simp
  | true =>
    simp only [Bool.not_true, Bool.false_eq_true, if_false, if_true, Option.some.injEq, Lease.mk.injEq, ge_iff_le]
    by_cases hlt : now.toNat < claim.deadlineMs.toNat
    · rw [if_neg (by rw [UInt64.le_iff_toNat_le]; omega), beq_iff_eq]
      constructor
      · intro h
        exact ⟨_, ⟨h, rfl⟩, hlt⟩
      · rintro ⟨_, ⟨h, -⟩, -⟩
        exact h
    · rw [if_pos (by rw [UInt64.le_iff_toNat_le]; omega)]
      refine ⟨fun h => absurd h Bool.false_ne_true, ?_⟩
      rintro ⟨_, ⟨-, rfl⟩, h⟩
      exact absurd h hlt

theorem isOpen_iff : claim.isOpen now = true ↔ Lease.Open claim.lease now.toNat := by
  unfold isOpen lease Lease.Open Lease.Holds
  cases claim.held with
  | false => simp
  | true =>
    simp only [Bool.not_true, Bool.false_eq_true, if_false, if_true, Option.some.injEq, Lease.mk.injEq,
      decide_eq_true_eq, ge_iff_le, UInt64.le_iff_toNat_le]
    constructor
    · rintro h k ⟨_, ⟨-, rfl⟩, hlt⟩
      omega
    · intro h
      by_contra hle
      exact h claim.claimant ⟨_, ⟨rfl, rfl⟩, by omega⟩

/-! ### One call -/

theorem answer_iff : claim.answer c = true ↔ Lease.Accepts claim.lease (leaseCall c) := by
  obtain ⟨now, call⟩ := c
  cases call with
  | noteRequest requester =>
    simp only [leaseCall, Lease.Accepts, ← isOpen_iff, answer, ClaimCall.apply, noteRequest]
    cases claim.isOpen now <;> simp
  | noteConfigWrite writer =>
    simp only [leaseCall, Lease.Accepts, ← isClaimant_iff, answer, ClaimCall.apply, noteConfigWrite]
    cases claim.isClaimant writer now <;> simp
  | release => simp [answer, ClaimCall.apply, leaseCall, Lease.Accepts]
  | isClaimant writer => exact isClaimant_iff

theorem after_refused (h : claim.answer c = false) : claim.after c = claim := by
  obtain ⟨now, call⟩ := c
  cases call with
  | noteRequest requester =>
    simp only [answer, after, ClaimCall.apply, noteRequest] at h ⊢
    cases ho : claim.isOpen now <;> simp_all
  | noteConfigWrite writer =>
    simp only [answer, after, ClaimCall.apply, noteConfigWrite] at h ⊢
    cases hc : claim.isClaimant writer now <;> simp_all
  | release => cases h
  | isClaimant writer => rfl

@[simp] theorem after_timeoutMs : (claim.after c).timeoutMs = claim.timeoutMs := by
  obtain ⟨now, call⟩ := c
  cases call with
  | noteRequest requester => simp only [after, ClaimCall.apply, noteRequest]; split <;> rfl
  | noteConfigWrite writer => simp only [after, ClaimCall.apply, noteConfigWrite]; split <;> rfl
  | release => rfl
  | isClaimant writer => rfl

theorem windowEnd_toNat (h : now.toNat + timeoutMs.toNat < 2 ^ 64) :
    (now + timeoutMs.toUInt64).toNat = windowEnd timeoutMs now.toNat := by
  rw [UInt64.toNat_add, UInt32.toNat_toUInt64, Nat.mod_eq_of_lt h, windowEnd]

/-- A call does to the claim what it does to the lease. -/
theorem lease_after (hfit : c.1.toNat + claim.timeoutMs.toNat < 2 ^ 64) :
    (claim.after c).lease = Lease.step (windowEnd claim.timeoutMs) claim.lease (leaseCall c) := by
  by_cases ha : claim.answer c = true
  · unfold Lease.step
    rw [if_pos (answer_iff.mp ha)]
    obtain ⟨now, call⟩ := c
    cases call with
    | noteRequest requester =>
      simp only [answer, after, ClaimCall.apply, noteRequest, leaseCall] at ha ⊢
      cases ho : claim.isOpen now <;> simp [ho, lease, windowEnd_toNat hfit] at ha ⊢
    | noteConfigWrite writer =>
      simp only [answer, after, ClaimCall.apply, noteConfigWrite, leaseCall] at ha ⊢
      cases hc : claim.isClaimant writer now with
      | false => simp [hc] at ha
      | true =>
        obtain ⟨d, hd, -⟩ := isClaimant_iff.mp hc
        unfold lease at hd
        cases hheld : claim.held <;> simp_all [lease, windowEnd_toNat hfit]
    | release => rfl
    | isClaimant writer => rfl
  · rw [Lease.step_refused (fun h => ha (answer_iff.mpr h)), after_refused (by simpa using ha)]

/-! ### Runs -/

theorem run_append (before rest : List (UInt64 × ClaimCall)) :
    run timeoutMs (before ++ rest) = rest.foldl after (run timeoutMs before) := List.foldl_append ..

theorem foldl_after_timeoutMs : (calls.foldl after claim).timeoutMs = claim.timeoutMs := by
  induction calls generalizing claim with
  | nil => rfl
  | cons c calls ih => rw [List.foldl_cons, ih, after_timeoutMs]

theorem lease_foldl (hfit : ∀ c ∈ calls, c.1.toNat + claim.timeoutMs.toNat < 2 ^ 64) :
    (calls.foldl after claim).lease =
      (calls.map leaseCall).foldl (Lease.step (windowEnd claim.timeoutMs)) claim.lease := by
  induction calls generalizing claim with
  | nil => rfl
  | cons c calls ih =>
    have hstep := lease_after (hfit c (List.mem_cons_self ..))
    rw [List.foldl_cons, ih fun c' hc' => by rw [after_timeoutMs]; exact hfit c' (List.mem_cons_of_mem _ hc'),
      after_timeoutMs, hstep, List.map_cons, List.foldl_cons]

theorem lease_run (hfit : ∀ c ∈ calls, c.1.toNat + timeoutMs.toNat < 2 ^ 64) :
    (run timeoutMs calls).lease = (calls.map leaseCall).foldl (Lease.step (windowEnd timeoutMs)) none :=
  @lease_foldl (init timeoutMs) calls hfit

/-- The call gave the claim to `w`, or kept it with him: his request was granted, or his write accepted. -/
def Gives (claim : DiscoveryClaim) (w : UInt64) (c : UInt64 × ClaimCall) : Prop :=
  (c.2 = .noteRequest w ∨ c.2 = .noteConfigWrite w) ∧ claim.answer c = true

/-- The claimant after a run is who was given the claim less than a time-out ago, with no release since. -/
theorem isClaimant_run_iff (hmono : (calls.map Prod.fst).Pairwise (· ≤ ·))
    (hfit : ∀ c ∈ calls, c.1.toNat + timeoutMs.toNat < 2 ^ 64) (hnow : ∀ c ∈ calls, c.1 ≤ now) :
    (run timeoutMs calls).isClaimant w now = true ↔
      ∃ before c rest, calls = before ++ c :: rest ∧ (run timeoutMs before).Gives w c ∧
        (∀ c' ∈ rest, c'.2 ≠ .release) ∧ now.toNat < c.1.toNat + timeoutMs.toNat := by
  have hmono' : ((calls.map leaseCall).map Prod.fst).Pairwise (· ≤ ·) := by
    rw [List.map_map, List.pairwise_map]
    rw [List.pairwise_map] at hmono
    exact hmono.imp fun h => by simpa [UInt64.le_iff_toNat_le] using h
  have hnow' : ∀ c ∈ calls.map leaseCall, c.1 ≤ now.toNat := by
    intro l hl
    obtain ⟨c, hc, rfl⟩ := List.mem_map.mp hl
    rw [leaseCall_fst]
    exact UInt64.le_iff_toNat_le.mp (hnow c hc)
  rw [isClaimant_iff, lease_run hfit, Lease.holds_run_iff windowEnd_mono hmono' hnow']
  constructor
  · rintro ⟨lbefore, lc, lrest, hcalls, hby, hacc, hrel, hlt⟩
    obtain ⟨before, tail, rfl, rfl, htail⟩ := List.map_eq_append_iff.mp hcalls
    obtain ⟨c, rest, rfl, rfl, rfl⟩ := List.map_eq_cons_iff.mp htail
    rw [← lease_run fun c' hc' => hfit c' (by simp [hc'])] at hacc
    rw [leaseCall_fst] at hlt
    refine ⟨before, c, rest, rfl, ⟨leaseCall_by.mp hby, answer_iff.mpr hacc⟩, fun c' hc' hr => ?_, hlt⟩
    exact hrel _ (List.mem_map_of_mem hc') (leaseCall_release.mpr hr)
  · rintro ⟨before, c, rest, rfl, ⟨hby, hacc⟩, hrel, hlt⟩
    rw [← leaseCall_fst (c := c)] at hlt
    refine ⟨before.map leaseCall, leaseCall c, rest.map leaseCall, by simp, leaseCall_by.mpr hby, ?_, ?_, hlt⟩
    · rw [← lease_run fun c' hc' => hfit c' (by simp [hc'])]
      exact answer_iff.mp hacc
    · intro l hl hr
      obtain ⟨c', hc', rfl⟩ := List.mem_map.mp hl
      exact hrel c' hc' (leaseCall_release.mp hr)

/-- While `w` is the claimant, the requests of all streams and the writes of the others are refused. -/
theorem refused_of_claimant (hw : claim.isClaimant w c.1 = true)
    (hc : (∃ k, c.2 = .noteRequest k) ∨ ∃ k, c.2 = .noteConfigWrite k ∧ k ≠ w) : claim.answer c = false := by
  have hholds := isClaimant_iff.mp hw
  rw [Bool.eq_false_iff, ne_eq, answer_iff]
  obtain ⟨now, call⟩ := c
  rcases hc with ⟨k, rfl⟩ | ⟨k, rfl, hne⟩
  · exact hholds.not_open
  · exact fun hk => hne (Lease.Holds.eq hk hholds)

/-- Who is not the claimant has his writes refused until a request of his is granted. -/
theorem write_refused (hfit : ∀ c ∈ calls, c.1.toNat + claim.timeoutMs.toNat < 2 ^ 64)
    (hno : claim.isClaimant w now = false) (hfrom : ∀ c ∈ calls, now ≤ c.1) (hnow : now ≤ c.1)
    (hreq : ∀ before c' rest, calls = before ++ c' :: rest → c'.2 = .noteRequest w →
      (before.foldl after claim).answer c' = false) (hc : c.2 = .noteConfigWrite w) :
    (calls.foldl after claim).answer c = false := by
  have hlease : ¬Lease.Holds ((calls.map leaseCall).foldl (Lease.step (windowEnd claim.timeoutMs)) claim.lease) w
      now.toNat := by
    refine Lease.not_holds_run (fun hh => ?_) (fun l hl => ?_) fun lbefore lc lrest hcalls hlc hacc => ?_
    · exact Bool.false_ne_true (hno.symm.trans (isClaimant_iff.mpr hh))
    · obtain ⟨c', hc', rfl⟩ := List.mem_map.mp hl
      rw [leaseCall_fst]
      exact UInt64.le_iff_toNat_le.mp (hfrom c' hc')
    · obtain ⟨before, tail, rfl, rfl, htail⟩ := List.map_eq_append_iff.mp hcalls
      obtain ⟨c', rest, rfl, rfl, rfl⟩ := List.map_eq_cons_iff.mp htail
      rw [← lease_foldl fun c'' hc'' => hfit c'' (by simp [hc''])] at hacc
      have hrefused := hreq before c' rest rfl (leaseCall_request.mp hlc)
      exact Bool.false_ne_true (hrefused.symm.trans (answer_iff.mpr hacc))
  rw [Bool.eq_false_iff, ne_eq, answer_iff]
  obtain ⟨time, call⟩ := c
  subst hc
  rw [← lease_foldl hfit] at hlease
  exact fun hh => hlease (hh.earlier (UInt64.le_iff_toNat_le.mp hnow))

/-! ### Mutual exclusion -/

/-- Over every run of calls at times that do not decrease and stay a time-out below the end of the clock: at most one
    stream is the claimant; it is the one that was given the claim less than a time-out ago with no release since; the
    calls of the others are refused meanwhile; a refused call changes nothing; and who has lost the claim has his
    writes refused until he is granted it again. -/
theorem discoveryClaim_exclusive (timeoutMs : UInt32) (calls : List (UInt64 × ClaimCall))
    (hmono : (calls.map Prod.fst).Pairwise (· ≤ ·)) (hfit : ∀ c ∈ calls, c.1.toNat + timeoutMs.toNat < 2 ^ 64) :
    (∀ now w k, (run timeoutMs calls).isClaimant w now = true → (run timeoutMs calls).isClaimant k now = true →
      w = k) ∧
    (∀ now w, (∀ c ∈ calls, c.1 ≤ now) → ((run timeoutMs calls).isClaimant w now = true ↔
      ∃ before c rest, calls = before ++ c :: rest ∧ (run timeoutMs before).Gives w c ∧
        (∀ c' ∈ rest, c'.2 ≠ .release) ∧ now.toNat < c.1.toNat + timeoutMs.toNat)) ∧
    (∀ before c rest w, calls = before ++ c :: rest → (run timeoutMs before).isClaimant w c.1 = true →
      ((∃ k, c.2 = .noteRequest k) ∨ ∃ k, c.2 = .noteConfigWrite k ∧ k ≠ w) →
      (run timeoutMs before).answer c = false) ∧
    (∀ before c rest, calls = before ++ c :: rest → (run timeoutMs before).answer c = false →
      run timeoutMs (before ++ [c]) = run timeoutMs before) ∧
    (∀ before between c rest w now, calls = before ++ between ++ c :: rest → c.2 = .noteConfigWrite w →
      (run timeoutMs before).isClaimant w now = false → (∀ c' ∈ between, now ≤ c'.1) → now ≤ c.1 →
      (∀ between' c' rest', between = between' ++ c' :: rest' → c'.2 = .noteRequest w →
        (run timeoutMs (before ++ between')).answer c' = false) →
      (run timeoutMs (before ++ between)).answer c = false) := by
  refine ⟨fun now w k hw hk => ?_, fun now w hnow => isClaimant_run_iff hmono hfit hnow,
    fun before c rest w _ hw hc => refused_of_claimant hw hc, fun before c rest _ hc => ?_, ?_⟩
  · exact Lease.Holds.eq (isClaimant_iff.mp hw) (isClaimant_iff.mp hk)
  · rw [run_append]
    exact after_refused hc
  · rintro before between c rest w now rfl hc hno hfrom hnow hreq
    have htimeout : (run timeoutMs before).timeoutMs = timeoutMs := foldl_after_timeoutMs
    rw [run_append]
    refine write_refused (fun c' hc' => ?_) hno hfrom hnow (fun between' c' rest' hsplit hc' => ?_) hc
    · rw [htimeout]
      exact hfit c' (by simp [hc'])
    · rw [← run_append]
      exact hreq between' c' rest' hsplit hc'

/-- Stream 1 is granted the claim at 0 and writes at 10; stream 2 asks in vain at 5. -/
theorem discoveryClaim_exclusive_twoStreams :
    (run 20 [(0, .noteRequest 1), (5, .noteRequest 2), (10, .noteConfigWrite 1)]).isClaimant 1 29 = true ∧
    ∀ k, (run 20 [(0, .noteRequest 1), (5, .noteRequest 2), (10, .noteConfigWrite 1)]).isClaimant k 29 = true →
      1 = k :=
  ⟨by decide, fun k hk => (discoveryClaim_exclusive 20
    [(0, .noteRequest 1), (5, .noteRequest 2), (10, .noteConfigWrite 1)] (by decide) (by decide)).1 29 1 k
      (by decide) hk⟩

end DiscoveryClaim
end Rcp
