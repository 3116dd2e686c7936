import Rcp.EpFunc
import Rcp.Theorems.Codec

/-! The configuration write all endpoint types share. The loop that patches the block is the write of `Lib.Block`; an
    accepted write leaves the configuration that write gives, a refused one the configuration as it was. -/

namespace Rcp
open Lib

/-! ### The loop -/

theorem getElem?_epPatch_loop (readOnly : Nat → Bool) (block data : Octets) (start n k : Nat) :
    ((List.range n).foldl (fun block i =>
        if readOnly (start + i) then block else block.set (start + i) (data.at i)) block)[k]? =
      block[k]?.map fun cell => if !readOnly k && decide (start ≤ k ∧ k < start + n) then data.at (k - start) else cell := by
  induction n with
  | zero =>
    have hnone : ¬(start ≤ k ∧ k < start + 0) := by omega
    rw [decide_eq_false hnone, Bool.and_false]
    cases hcell : block[k]? <;> simp [hcell]
  | succ n ih =>
    rw [List.range_succ, List.foldl_append, List.foldl_cons, List.foldl_nil]
    by_cases hk : start + n = k
    · subst hk
      have hlast : start ≤ start + n ∧ start + n < start + (n + 1) := by omega
      have hbefore : ¬(start ≤ start + n ∧ start + n < start + n) := by omega
      rw [decide_eq_false hbefore, Bool.and_false] at ih
      rw [decide_eq_true hlast, Bool.and_true, Nat.add_sub_cancel_left]
      cases readOnly (start + n) with
      | true => exact ih
      | false =>
        rw [if_neg Bool.false_ne_true, List.getElem?_set', if_pos rfl, ih]
        cases block[start + n]? <;> rfl
    · have hstep : (start ≤ k ∧ k < start + (n + 1)) ↔ (start ≤ k ∧ k < start + n) := by omega
      rw [decide_eq_decide.mpr hstep, ← ih]
      split
      · rfl
      · rw [List.getElem?_set_ne hk]

theorem getElem?_epPatch (readOnly : Nat → Bool) (block data : Octets) (start k : Nat) :
    (epPatch readOnly block start data)[k]? =
      block[k]?.map fun cell => if !readOnly k && decide (start ≤ k) then data.getD (k - start) cell else cell := by
  rw [epPatch, getElem?_epPatch_loop]
  congr 1
  funext cell
  by_cases hk : start ≤ k
  · by_cases hlt : k < start + data.length
    · have hget : k - start < data.length := by omega
      simp [hk, hlt, Octets.at, hget]
    · have hge : data.length ≤ k - start := by omega
      simp [hk, hlt, hge]
  · simp [hk]

variable {γ : Type} {blk : EpBlock γ} {cfg : γ} {payload : Octets}

theorem epPatch_eq_patched (blk : EpBlock γ) (cfg : γ) (start : Nat) (data : Octets) :
    epPatch blk.readOnly (blk.render cfg) start data = blk.patched cfg start data := by
  refine List.ext_getElem? fun k => ?_
  rw [getElem?_epPatch, Block.getElem?_patched]

/-! ### One setter -/

/-- What holds of a configuration and of the assigned one holds after the setter. -/
theorem epSetField_field {assigned : γ} {P : γ → Prop} (state : LifecycleState)
    (writer : FieldWriterCtx) (h : P cfg) (h' : P assigned) : P (epSetField cfg assigned state writer).2 := by
  unfold epSetField
  split
  · exact h
  · exact h'

/-! ### One write -/

/-- The address of a write and its data. -/
def reconfigStart (payload : Octets) : Nat := (be16 payload 0).toNat
def reconfigData (payload : Octets) : Octets := payload.drop epReconfigAddrLen

/-- The write is accepted: it carries an address and data, and stays in the block. -/
def Accepts (blk : EpBlock γ) (payload : Octets) : Prop :=
  epReconfigAddrLen < payload.length ∧ reconfigStart payload + (reconfigData payload).length ≤ blk.len

instance (blk : EpBlock γ) (payload : Octets) : Decidable (Accepts blk payload) := inferInstanceAs (Decidable (_ ∧ _))

theorem epApplyReconfig_accepted (h : Accepts blk payload) (cfg : γ) :
    epApplyReconfig blk cfg payload = (none, blk.write cfg (reconfigStart payload) (reconfigData payload)) := by
  obtain ⟨hlong, hfits⟩ := h
  have hdata : (reconfigData payload).length = payload.length - epReconfigAddrLen := List.length_drop
  rw [hdata] at hfits
  simp only [epApplyReconfig, if_neg (Nat.not_le.mpr hlong)]
  refine (if_neg (Nat.not_lt.mpr hfits)).trans ?_
  rw [epPatch_eq_patched]
  rfl

theorem epApplyReconfig_refused (h : ¬Accepts blk payload) (cfg : γ) :
    ∃ e, epApplyReconfig blk cfg payload = (some e, cfg) := by
  by_cases hlong : payload.length ≤ epReconfigAddrLen
  · exact ⟨.short, by rw [epApplyReconfig, if_pos hlong]⟩
  · have hdata : (reconfigData payload).length = payload.length - epReconfigAddrLen := List.length_drop
    have hfits : reconfigStart payload + (payload.length - epReconfigAddrLen) > blk.len := by
      rw [← hdata]
      exact Nat.not_le.mp fun hle => h ⟨Nat.not_le.mp hlong, hle⟩
    refine ⟨.outOfRange, ?_⟩
    simp only [epApplyReconfig, if_neg hlong]
    exact if_pos hfits

theorem accepts_iff : Accepts blk payload ↔ (epApplyReconfig blk cfg payload).1 = none := by
  by_cases h : Accepts blk payload
  · simp [h, epApplyReconfig_accepted h]
  · obtain ⟨e, he⟩ := epApplyReconfig_refused h cfg
    simp [h, he]

/-- The octet a write carries for an offset of the block. -/
def reconfigOctet (payload : Octets) (k : Nat) : Option UInt8 :=
  if reconfigStart payload ≤ k then (reconfigData payload)[k - reconfigStart payload]? else none

/-- An octet that may be written is afterwards what the write carries for it, or as it was. -/
theorem at_patched (blk : EpBlock γ) (cfg : γ) (payload : Octets) {k : Nat} (hk : k < blk.len)
    (hro : blk.readOnly k = false) :
    Octets.at (blk.patched cfg (reconfigStart payload) (reconfigData payload)) k =
      (reconfigOctet payload k).getD (Octets.at (blk.render cfg) k) := by
  rw [← blk.length_render cfg] at hk
  have hcell : (blk.render cfg)[k]? = some (Octets.at (blk.render cfg) k) := by
    rw [Octets.at, List.getD_eq_getElem _ _ hk, List.getElem?_eq_getElem hk]
  have hget : Octets.at (blk.patched cfg (reconfigStart payload) (reconfigData payload)) k =
      ((blk.patched cfg (reconfigStart payload) (reconfigData payload))[k]?).getD 0 := List.getD_eq_getElem?_getD ..
  rw [hget, Block.getElem?_patched, hcell, Option.map_some, Option.getD_some, hro, reconfigOctet]
  by_cases hstart : reconfigStart payload ≤ k
  · simp [hstart]
  · simp [hstart]

end Rcp
