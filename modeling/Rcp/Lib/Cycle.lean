import Mathlib.Data.Nat.ModEq

/-! Cycles: the phase of a count that runs through a cycle again and again, and what happens once in every cycle. -/

namespace Rcp.Lib.Cycle

variable {n start r t : Nat}

/-- How far `t` is into its cycle of `n`, when cycles begin at `start`. -/
def phase (n start t : Nat) : Nat := (t % n + n - start % n) % n

theorem phase_lt (hn : 0 < n) : phase n start t < n := Nat.mod_lt _ hn

theorem add_phase (hn : 0 < n) (start t : Nat) : start + phase n start t ≡ t [MOD n] := by
  have hstart := Nat.mod_lt start hn
  calc start + phase n start t
      ≡ start % n + (t % n + n - start % n) [MOD n] := (Nat.mod_modEq start n).symm.add (Nat.mod_modEq _ n)
    _ = t % n + n := by omega
    _ ≡ t [MOD n] := by rw [Nat.ModEq, Nat.add_mod_right, Nat.mod_mod]

/-- A count is at a phase of its cycle where it is that far from the beginning of one. -/
theorem phase_eq_iff {k : Nat} (hk : k < n) : phase n start t = k ↔ t ≡ start + k [MOD n] := by
  have hn := Nat.zero_lt_of_lt hk
  have hphase := add_phase hn start t
  constructor
  · rintro rfl
    exact hphase.symm
  · intro h
    have hsame : phase n start t ≡ k [MOD n] := Nat.ModEq.add_left_cancel' start (hphase.trans h)
    exact hsame.eq_of_lt_of_lt (phase_lt hn) hk

/-- `n` counts in a row, of which the first is `start`. -/
def Window (n start t : Nat) : Prop := start ≤ t ∧ t < start + n

/-- In every window a residue comes up in one place. -/
theorem window_modEq_iff (hn : 0 < n) : Window n start t ∧ t ≡ r [MOD n] ↔ t = start + phase n start r := by
  have hplace := add_phase hn start r
  constructor
  · rintro ⟨⟨hlo, hhi⟩, h⟩
    obtain ⟨k, rfl⟩ := Nat.exists_eq_add_of_le hlo
    have hsame : k ≡ phase n start r [MOD n] := Nat.ModEq.add_left_cancel' start (h.trans hplace.symm)
    rw [hsame.eq_of_lt_of_lt (Nat.lt_of_add_lt_add_left hhi) (phase_lt hn)]
  · rintro rfl
    exact ⟨⟨Nat.le_add_right _ _, Nat.add_lt_add_left (phase_lt hn) start⟩, hplace⟩

/-- What comes `k` counts after another in the cycle stands that much behind it, or at the front again. -/
theorem Window.later {c k : Nat} (hn : 0 < n) (hc : Window n start c) (ht : Window n start t)
    (hlater : t ≡ c + k [MOD n]) : t = start + (c - start + k) % n := by
  have hplace : start + (c - start + k) % n ≡ c + k [MOD n] :=
    calc start + (c - start + k) % n
        ≡ start + (c - start + k) [MOD n] := (Nat.mod_modEq _ n).add_left start
      _ = c + k := by rw [← Nat.add_assoc, Nat.add_sub_cancel' hc.1]
  have hin : Window n start (start + (c - start + k) % n) :=
    ⟨Nat.le_add_right _ _, Nat.add_lt_add_left (Nat.mod_lt _ hn) start⟩
  rw [(window_modEq_iff hn).mp ⟨ht, hlater⟩]
  exact ((window_modEq_iff hn).mp ⟨hin, hplace⟩).symm

end Rcp.Lib.Cycle
