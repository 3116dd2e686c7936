import Mathlib.Data.List.Infix
import Mathlib.Order.Lattice

/-! A lease with renewal. It is granted to whoever asks while nobody holds it, its holder renews it, it can be given
    back at any time, and it lapses by itself at its deadline. `extend` gives the deadline of a grant or a renewal. -/

namespace Rcp.Lib

structure Lease (H T : Type*) where
  holder : H
  deadline : T

inductive LeaseOp (H : Type*) where
  | request (h : H)
  | renew (h : H)
  | release
  | query (h : H)

namespace Lease

variable {H T : Type*} [LinearOrder T] {extend : T → T} {s : Option (Lease H T)} {h k : H}
  {now later : T} {op : LeaseOp H} {calls : List (T × LeaseOp H)}

/-- `h` holds the lease at `now`: it is the holder, and the deadline has not come. -/
def Holds (s : Option (Lease H T)) (h : H) (now : T) : Prop :=
  ∃ deadline, s = some ⟨h, deadline⟩ ∧ now < deadline

/-- Nobody holds the lease at `now`. -/
def Open (s : Option (Lease H T)) (now : T) : Prop :=
  ∀ h, ¬Holds s h now

/-- A call is accepted: a request of an open lease, a renewal or a query by its holder, every release. -/
def Accepts (s : Option (Lease H T)) : T × LeaseOp H → Prop
  | (now, .request _) => Open s now
  | (now, .renew h) => Holds s h now
  | (_, .release) => True
  | (now, .query h) => Holds s h now

open Classical in
/-- A refused call changes nothing, and neither does a query. -/
noncomputable def step (extend : T → T) (s : Option (Lease H T)) (c : T × LeaseOp H) : Option (Lease H T) :=
  if Accepts s c then
    match c with
    | (now, .request h) => some ⟨h, extend now⟩
    | (now, .renew h) => some ⟨h, extend now⟩
    | (_, .release) => none
    | (_, .query _) => s
  else s

/-- The call grants the lease to `h` or renews it, if it is accepted. -/
def By (h : H) (op : LeaseOp H) : Prop :=
  op = .request h ∨ op = .renew h

/-! ### One call -/

theorem Holds.eq (hh : Holds s h now) (hk : Holds s k later) : h = k := by
  obtain ⟨d, rfl, -⟩ := hh
  obtain ⟨d', hs, -⟩ := hk
  cases hs
  rfl

theorem Holds.earlier (hh : Holds s h later) (hle : now ≤ later) : Holds s h now := by
  obtain ⟨d, rfl, hd⟩ := hh
  exact ⟨d, rfl, lt_of_le_of_lt hle hd⟩

theorem Holds.not_open (hh : Holds s h now) : ¬Open s now := fun ho => ho h hh

theorem step_refused {c : T × LeaseOp H} (hc : ¬Accepts s c) : step extend s c = s := if_neg hc

/-- What a call can do: leave the lease as it is, end it, or give it to the one who called. -/
theorem step_cases (extend : T → T) (s : Option (Lease H T)) (now : T) (op : LeaseOp H) :
    (step extend s (now, op) = s ∧ (op ≠ .release) ∧ ∀ h, By h op → ¬Accepts s (now, op)) ∨
    (op = .release ∧ step extend s (now, op) = none) ∨
    ∃ h, By h op ∧ Accepts s (now, op) ∧ step extend s (now, op) = some ⟨h, extend now⟩ := by
  by_cases ha : Accepts s (now, op)
  · cases op with
    | request h => exact .inr (.inr ⟨h, .inl rfl, ha, if_pos ha⟩)
    | renew h => exact .inr (.inr ⟨h, .inr rfl, ha, if_pos ha⟩)
    | release => exact .inr (.inl ⟨rfl, if_pos ha⟩)
    | query h =>
      refine .inl ⟨if_pos ha, by rintro ⟨⟩, ?_⟩
      rintro k (hk | hk) <;> cases hk
  · refine .inl ⟨if_neg ha, ?_, fun _ _ => ha⟩
    rintro rfl
    exact ha trivial

/-- While `h` holds the lease nobody else can be given it. -/
theorem Holds.by_eq (hh : Holds s h now) (hb : By k op) (ha : Accepts s (now, op)) : op = .renew h ∧ k = h := by
  rcases hb with rfl | rfl
  · exact absurd ha hh.not_open
  · cases Holds.eq ha hh
    exact ⟨rfl, rfl⟩

/-! ### Runs -/

/-- Without a release, who was given the lease at `t` holds it until `extend t` at least, whatever the others call in
    the meantime. -/
theorem Holds.run (hext : Monotone extend) {t : T} {d : T} (hs : s = some ⟨h, d⟩) (hd : extend t ≤ d)
    (hrel : ∀ c ∈ calls, c.2 ≠ .release) (hfrom : ∀ c ∈ calls, t ≤ c.1) (huntil : ∀ c ∈ calls, c.1 < extend t)
    (hnow : now < extend t) : Holds (calls.foldl (step extend) s) h now := by
  induction calls generalizing s d with
  | nil => exact ⟨d, hs, lt_of_lt_of_le hnow hd⟩
  | cons c calls ih =>
    obtain ⟨time, op⟩ := c
    have hholds : Holds s h time := ⟨d, hs, lt_of_lt_of_le (huntil _ (List.mem_cons_self ..)) hd⟩
    have htail : ∀ {P : T × LeaseOp H → Prop}, (∀ c ∈ (time, op) :: calls, P c) → ∀ c ∈ calls, P c :=
      fun hp c hc => hp c (List.mem_cons_of_mem _ hc)
    rw [List.foldl_cons]
    rcases step_cases extend s time op with ⟨heq, -, -⟩ | ⟨rfl, -⟩ | ⟨k, hb, ha, heq⟩
    · exact ih (heq.trans hs) hd (htail hrel) (htail hfrom) (htail huntil)
    · exact absurd rfl (hrel _ (List.mem_cons_self ..))
    · obtain ⟨-, rfl⟩ := hholds.by_eq hb ha
      exact ih heq (hext (hfrom _ (List.mem_cons_self ..))) (htail hrel) (htail hfrom) (htail huntil)

/-- A lease in force was given by an accepted call of its holder, and no release came after it. -/
theorem exists_given (calls : List (T × LeaseOp H)) {d : T} (h' : calls.foldl (step extend) none = some ⟨h, d⟩) :
    ∃ before c after, calls = before ++ c :: after ∧ By h c.2 ∧ Accepts (before.foldl (step extend) none) c ∧
      (∀ c' ∈ after, c'.2 ≠ .release) ∧ d = extend c.1 := by
  induction calls using List.reverseRecOn with
  | nil => cases h'
  | append_singleton calls c ih =>
    obtain ⟨time, op⟩ := c
    rw [List.foldl_concat] at h'
    rcases step_cases extend (calls.foldl (step extend) none) time op with ⟨heq, hrel, -⟩ | ⟨-, heq⟩ | ⟨k, hb, ha, heq⟩
    · obtain ⟨before, c, after, rfl, hby, hacc, hafter, hd⟩ := ih (heq.symm.trans h')
      refine ⟨before, c, after ++ [(time, op)], by simp, hby, hacc, ?_, hd⟩
      intro c' hc'
      rcases List.mem_append.mp hc' with hc' | hc'
      · exact hafter c' hc'
      · rw [List.mem_singleton.mp hc']
        exact hrel
    · rw [heq] at h'
      cases h'
    · rw [heq] at h'
      cases h'
      exact ⟨calls, (time, op), [], rfl, hb, ha, by simp, rfl⟩

/-- Who holds the lease after a run: the one with an accepted call whose deadline has not come and that no release
    followed. -/
theorem holds_run_iff (hext : Monotone extend) (hmono : (calls.map Prod.fst).Pairwise (· ≤ ·))
    (hnow : ∀ c ∈ calls, c.1 ≤ now) :
    Holds (calls.foldl (step extend) none) h now ↔
      ∃ before c after, calls = before ++ c :: after ∧ By h c.2 ∧ Accepts (before.foldl (step extend) none) c ∧
        (∀ c' ∈ after, c'.2 ≠ .release) ∧ now < extend c.1 := by
  constructor
  · rintro ⟨d, hd, hlt⟩
    obtain ⟨before, c, after, hcalls, hby, hacc, hafter, rfl⟩ := exists_given calls hd
    exact ⟨before, c, after, hcalls, hby, hacc, hafter, hlt⟩
  · rintro ⟨before, ⟨time, op⟩, after, rfl, hby, hacc, hafter, hlt⟩
    simp only [List.map_append, List.map_cons, List.pairwise_append, List.pairwise_cons] at hmono
    have hfrom : ∀ c ∈ after, time ≤ c.1 := fun c hc => hmono.2.1.1 c.1 (List.mem_map_of_mem hc)
    have huntil : ∀ c ∈ after, c.1 < extend time := fun c hc => lt_of_le_of_lt (hnow c (by simp [hc])) hlt
    rw [List.foldl_append, List.foldl_cons]
    rcases step_cases extend (before.foldl (step extend) none) time op with ⟨-, -, hno⟩ | ⟨rfl, -⟩ | ⟨k, hb, -, heq⟩
    · exact absurd hacc (hno h hby)
    · rcases hby with hby | hby <;> cases hby
    · have hk : k = h := by
        rcases hb with rfl | rfl <;> rcases hby with hby | hby <;> cases hby <;> rfl
      subst hk
      exact Holds.run hext heq le_rfl hafter hfrom huntil hlt

/-- Who does not hold the lease stays without it until a request of his own is accepted. -/
theorem not_holds_run (hno : ¬Holds s h now) (hfrom : ∀ c ∈ calls, now ≤ c.1)
    (hreq : ∀ before c after, calls = before ++ c :: after → c.2 = .request h →
      ¬Accepts (before.foldl (step extend) s) c) :
    ¬Holds (calls.foldl (step extend) s) h now := by
  induction calls generalizing s with
  | nil => exact hno
  | cons c calls ih =>
    obtain ⟨time, op⟩ := c
    have hhead : ¬Holds (step extend s (time, op)) h now := by
      rcases step_cases extend s time op with ⟨heq, -, -⟩ | ⟨-, heq⟩ | ⟨k, hb, ha, heq⟩
      · rwa [heq]
      · rw [heq]
        rintro ⟨d, hd, -⟩
        cases hd
      · rw [heq]
        rintro ⟨d, hd, -⟩
        cases hd
        rcases hb with rfl | rfl
        · exact hreq [] _ calls rfl rfl ha
        · exact hno (Holds.earlier ha (hfrom _ (List.mem_cons_self ..)))
    refine ih hhead (fun c hc => hfrom c (List.mem_cons_of_mem _ hc)) ?_
    rintro before c after rfl hc
    exact hreq ((time, op) :: before) c after rfl hc

end Lease
end Rcp.Lib
