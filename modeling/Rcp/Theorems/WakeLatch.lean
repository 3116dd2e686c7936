import Rcp.Wakeup
import Rcp.Theorems.EpBlocks
import Mathlib.Data.List.GetD
import Mathlib.Data.Nat.Bitwise
import Mathlib.Tactic.IntervalCases

/-! The latch of the wake sources under configuration writes. A write renders the whole block, patches the addressed
    octets and parses all of it, so an octet of wup_status that is not addressed is written with the latched bits
    themselves, and clears them. -/

namespace Rcp

/-! ### Bits -/

theorem wupBit_eq {i : Nat} (hi : i < wakeupMaxSources) : wupBit i = UInt16.ofNat (2 ^ i) := by
  simp only [wakeupMaxSources] at hi
  interval_cases i <;> rfl

theorem wupBit_bit {i j : Nat} (hi : i < wakeupMaxSources) (hj : j < wakeupMaxSources) :
    (wupBit i).toBitVec.getLsbD j = decide (i = j) := by
  have hlt : j < 16 := Nat.lt_trans hj (by decide)
  rw [wupBit_eq hi]
  change (BitVec.ofNat 16 (2 ^ i)).getLsbD j = decide (i = j)
  rw [BitVec.getLsbD_ofNat, Nat.testBit_two_pow]
  simp [hlt]

theorem and_wupBit {mask : UInt16} {i : Nat} (hi : i < wakeupMaxSources) :
    (mask &&& wupBit i != 0) = mask.toBitVec.getLsbD i := by
  have hpow : 2 ^ i < 2 ^ 16 := Nat.pow_lt_pow_right (by decide) (Nat.lt_trans hi (by decide))
  have htoNat : (mask &&& wupBit i).toNat = (mask.toNat.testBit i).toNat * 2 ^ i := by
    rw [UInt16.toNat_and, wupBit_eq hi, UInt16.toNat_ofNat_of_lt' hpow, Nat.and_two_pow]
  have hbit : mask.toBitVec.getLsbD i = mask.toNat.testBit i := rfl
  rw [hbit, Bool.eq_iff_iff, bne_iff_ne, ne_eq, ← UInt16.toNat_inj, htoNat]
  cases mask.toNat.testBit i <;> simp

theorem sourceIsLatched_eq {mask : UInt16} {i : Nat} :
    wupStatusSourceIsLatched mask i = (decide (i < wakeupMaxSources) && mask.toBitVec.getLsbD i) := by
  unfold wupStatusSourceIsLatched
  by_cases hi : i < wakeupMaxSources
  · rw [if_neg (Nat.not_le.mpr hi), and_wupBit hi, decide_eq_true hi, Bool.true_and]
  · rw [if_pos (Nat.not_lt.mp hi), decide_eq_false hi, Bool.false_and]

theorem clearSource_bit {mask : UInt16} {i j : Nat} (hi : i < wakeupMaxSources) (hj : j < wakeupMaxSources) :
    (wupStatusClearSource mask i).toBitVec.getLsbD j = (mask.toBitVec.getLsbD j && !decide (i = j)) := by
  have hlt : j < 16 := Nat.lt_trans hj (by decide)
  rw [wupStatusClearSource, if_neg (Nat.not_le.mpr hi), UInt16.toBitVec_and, BitVec.getLsbD_and, UInt16.toBitVec_not,
    BitVec.getLsbD_not, wupBit_bit hi hj]
  simp [hlt]

theorem latchSource_bit {mask : UInt16} {i j : Nat} (h : mask.toBitVec.getLsbD j = true) :
    (wupStatusLatchSource mask i).toBitVec.getLsbD j = true := by
  unfold wupStatusLatchSource
  split
  · exact h
  · rw [UInt16.toBitVec_or, BitVec.getLsbD_or, h, Bool.true_or]

theorem writeOneToClear_bit {mask wup : UInt16} {j : Nat} (hj : j < wakeupMaxSources) :
    (wupStatusWriteOneToClear mask wup).toBitVec.getLsbD j =
      (mask.toBitVec.getLsbD j && !wup.toBitVec.getLsbD j) := by
  have hloop : ∀ l : List Nat, (∀ i ∈ l, i < wakeupMaxSources) → ∀ mask : UInt16,
      (l.foldl (fun mask i => if wup &&& wupBit i != 0 then wupStatusClearSource mask i else mask) mask).toBitVec.getLsbD
        j = (mask.toBitVec.getLsbD j && !(decide (j ∈ l) && wup.toBitVec.getLsbD j)) := by
    intro l
    induction l with
    | nil => simp
    | cons i l ih =>
      intro hl mask
      rw [List.forall_mem_cons] at hl
      rw [List.foldl_cons, ih hl.2, and_wupBit hl.1]
      by_cases hw : wup.toBitVec.getLsbD i = true
      · rw [if_pos hw, clearSource_bit hl.1 hj]
        by_cases hij : i = j
        · subst hij
          simp [hw]
        · simp [hij, Ne.symm hij]
      · rw [if_neg hw]
        by_cases hij : i = j
        · subst hij
          simp [hw]
        · simp [Ne.symm hij]
  rw [wupStatusWriteOneToClear, hloop _ (fun i hi => List.mem_range.mp hi)]
  simp [List.mem_range.mpr hj]

/-! ### The block -/

/-- The octet of the block that holds the bit of a source. -/
def wupStatusOctet (sourceIndex : Nat) : Nat := wakeupRegWupStatus + (1 - sourceIndex / 8)

theorem wupStatusOctet_eq {i : Nat} (hi : i < wakeupMaxSources) : wupStatusOctet i = 5 := by
  rw [wupStatusOctet, Nat.div_eq_of_lt (show i < 8 from hi)]
  rfl

theorem be16_low_bit {b : Octets} {k j : Nat} (hj : j < 8) :
    (be16 b k).toBitVec.getLsbD j = (b.at (k + 1)).toBitVec.getLsbD j := by
  have hlt : j < 16 := by omega
  simp [be16, hj, hlt]

/-- The octet a configuration write puts at an offset of the block. -/
def reconfigWrites (payload : Octets) (k : Nat) : Option UInt8 :=
  if (be16 payload 0).toNat ≤ k then (payload.drop wakeupReconfigAddrLen)[k - (be16 payload 0).toNat]? else none

theorem patch_at {block : Octets} (data : Octets) (start : Nat) {k : Nat} (hk : k < block.length) (hro : wakeupRegOffsetReadOnly k = false) :
    (wakeupPatch block start data).at k = if start ≤ k then data.getD (k - start) (block.at k) else block.at k := by
  have hcell : block[k]? = some (block.at k) := by
    rw [Octets.at, List.getD_eq_getElem _ _ hk, List.getElem?_eq_getElem hk]
  have hpatched : (wakeupPatch block start data)[k]? = _ := getElem?_epPatch wakeupRegOffsetReadOnly block data start k
  rw [hcell, Option.map_some, hro] at hpatched
  rw [Octets.at, List.getD_eq_getElem?_getD, hpatched, Option.getD_some]
  simp

theorem render_at_five (cfg : WakeupFunctionalCfg) :
    (wakeupRenderRegisters cfg).at 5 = (cfg.wupStatus &&& 0xFF &&& 0xFF).toUInt8 := rfl

theorem render_length_gt (cfg : WakeupFunctionalCfg) : 5 < (wakeupRenderRegisters cfg).length := by
  simp only [wakeupRenderRegisters, List.length_append, List.length_cons, List.length_nil, putU16]
  omega

/-! ### One call -/

/-- A write that is accepted. -/
def ReconfigAccepted (payload : Octets) : Prop :=
  wakeupReconfigAddrLen < payload.length ∧
    (be16 payload 0).toNat + (payload.length - wakeupReconfigAddrLen) ≤ wakeupEpFuncLen

instance (payload : Octets) : Decidable (ReconfigAccepted payload) := inferInstanceAs (Decidable (_ ∧ _))

variable {cfg : WakeupFunctionalCfg} {payload : Octets} {i : Nat}

/-- What an accepted write leaves latched: where the octet of wup_status is addressed, what its data does not name;
    where it is not, nothing. -/
theorem applyReconfig_latched (cfg : WakeupFunctionalCfg) (hacc : ReconfigAccepted payload) (hi : i < wakeupMaxSources) :
    ∃ cfg', wakeupApplyReconfig cfg payload = .ok cfg' ∧
      wupStatusSourceIsLatched cfg'.wupStatus i =
        (wupStatusSourceIsLatched cfg.wupStatus i &&
          !((reconfigWrites payload (wupStatusOctet i)).getD (cfg.wupStatus &&& 0xFF &&& 0xFF).toUInt8).toBitVec.getLsbD
            i) := by
  have hi8 : i < 8 := hi
  obtain ⟨hlen, hfit⟩ := hacc
  refine ⟨_, by rw [wakeupApplyReconfig, if_neg (Nat.not_le.mpr hlen), if_neg (Nat.not_lt.mpr hfit)], ?_⟩
  rw [sourceIsLatched_eq, sourceIsLatched_eq, decide_eq_true hi, Bool.true_and, Bool.true_and]
  simp only [parseWakeupRegisters]
  rw [writeOneToClear_bit hi, be16_low_bit hi8]
  have hat := patch_at (payload.drop wakeupReconfigAddrLen) (be16 payload 0).toNat
    (render_length_gt cfg) rfl
  rw [render_at_five] at hat
  rw [wakeupRegWupStatus, hat, wupStatusOctet_eq hi, reconfigWrites]
  split
  · rw [List.getD_eq_getElem?_getD]
  · rfl

/-- The octet of wup_status an accepted write does not address is written with the latched bits. -/
theorem rendered_bit (hi : i < wakeupMaxSources) :
    (cfg.wupStatus &&& 0xFF &&& 0xFF).toUInt8.toBitVec.getLsbD i = cfg.wupStatus.toBitVec.getLsbD i := by
  have hi8 : i < 8 := hi
  have hlt : i < 16 := by omega
  have hmask : (0xFF : UInt16).toBitVec.getLsbD i = true := by interval_cases i <;> rfl
  rw [UInt16.toBitVec_toUInt8, BitVec.getLsbD_setWidth, UInt16.toBitVec_and, BitVec.getLsbD_and, UInt16.toBitVec_and,
    BitVec.getLsbD_and, hmask]
  simp [hi8]

theorem applyReconfig_refused (cfg : WakeupFunctionalCfg) (h : ¬ReconfigAccepted payload) :
    ∃ e, wakeupApplyReconfig cfg payload = .error e := by
  unfold wakeupApplyReconfig
  by_cases hlen : payload.length ≤ wakeupReconfigAddrLen
  · exact ⟨_, if_pos hlen⟩
  · have hfit : ¬(be16 payload 0).toNat + (payload.length - wakeupReconfigAddrLen) ≤ wakeupEpFuncLen := fun hle =>
      h ⟨Nat.not_le.mp hlen, hle⟩
    exact ⟨_, by rw [if_neg hlen, if_pos (Nat.not_le.mp hfit)]⟩

/-! ### Runs -/

/-- A wake source asserts itself, or a configuration write arrives. -/
inductive WakeupCall where
  | latchSource (sourceIndex : Nat)
  | applyReconfig (payload : Octets)
deriving DecidableEq, Repr

/-- The configuration after a call; a write that is refused leaves it as it is. -/
def WakeupFunctionalCfg.after (cfg : WakeupFunctionalCfg) : WakeupCall → WakeupFunctionalCfg
  | .latchSource i => { cfg with wupStatus := wupStatusLatchSource cfg.wupStatus i }
  | .applyReconfig payload => (wakeupApplyReconfig cfg payload).toOption.getD cfg

def WakeupFunctionalCfg.run (calls : List WakeupCall) : WakeupFunctionalCfg := calls.foldl after init

/-- The source is latched. -/
def WakeupFunctionalCfg.Latched (cfg : WakeupFunctionalCfg) (i : Nat) : Prop :=
  wupStatusSourceIsLatched cfg.wupStatus i = true

instance (cfg : WakeupFunctionalCfg) (i : Nat) : Decidable (cfg.Latched i) := inferInstanceAs (Decidable (_ = true))

/-- A write that names the source: it addresses the octet of wup_status with the source's bit, and the bit is set in
    its data. -/
def WriteNames (payload : Octets) (i : Nat) : Prop :=
  ∃ octet, reconfigWrites payload (wupStatusOctet i) = some octet ∧ octet.toBitVec.getLsbD (i % 8) = true

/-- What a call may do to the latch: a source is cleared by an accepted write that names it only, and the gate of the
    sleep entry opens by a write only where it names every latched source. -/
structure Acknowledged (cfg : WakeupFunctionalCfg) (c : WakeupCall) : Prop where
  cleared : ∀ i, cfg.Latched i → ¬(cfg.after c).Latched i →
    ∃ payload, c = .applyReconfig payload ∧ ReconfigAccepted payload ∧ WriteNames payload i
  opened : ∀ payload, c = .applyReconfig payload → ∀ idle empty,
    pwrmodeCheckEntry (some ⟨wupStatusIsClear cfg.wupStatus, idle, empty⟩) = .refused →
    pwrmodeCheckEntry (some ⟨wupStatusIsClear (cfg.after c).wupStatus, idle, empty⟩) = .ok →
    ∀ i, cfg.Latched i → WriteNames payload i

/-- The write addresses, for each source that is latched, the octet of wup_status with the source's bit. -/
def AddressesLatched (cfg : WakeupFunctionalCfg) (payload : Octets) : Prop :=
  ∀ i, cfg.Latched i → (reconfigWrites payload (wupStatusOctet i)).isSome = true

theorem Latched.lt (h : cfg.Latched i) : i < wakeupMaxSources := by
  unfold WakeupFunctionalCfg.Latched at h
  rw [sourceIsLatched_eq, Bool.and_eq_true] at h
  exact of_decide_eq_true h.1

theorem latched_bit (h : cfg.Latched i) : cfg.wupStatus.toBitVec.getLsbD i = true := by
  unfold WakeupFunctionalCfg.Latched at h
  rw [sourceIsLatched_eq, Bool.and_eq_true] at h
  exact h.2

theorem latchSource_latched {k : Nat} (h : cfg.Latched i) : (cfg.after (.latchSource k)).Latched i := by
  unfold WakeupFunctionalCfg.Latched
  rw [sourceIsLatched_eq, decide_eq_true (Latched.lt h), Bool.true_and]
  exact latchSource_bit (latched_bit h)

theorem after_refused (h : ¬ReconfigAccepted payload) : cfg.after (.applyReconfig payload) = cfg := by
  obtain ⟨e, he⟩ := applyReconfig_refused cfg h
  simp [WakeupFunctionalCfg.after, he, Except.toOption]

/-- An accepted write that does not address the octet of a latched source clears the source. -/
theorem not_latched_of_not_addressed (hacc : ReconfigAccepted payload) (hl : cfg.Latched i)
    (hno : reconfigWrites payload (wupStatusOctet i) = none) :
    ¬(cfg.after (.applyReconfig payload)).Latched i := by
  have hi := Latched.lt hl
  obtain ⟨cfg', heq, hlatched⟩ := applyReconfig_latched cfg hacc hi
  rw [hno, Option.getD_none, rendered_bit hi, latched_bit hl, Bool.not_true, Bool.and_false] at hlatched
  intro h
  rw [WakeupFunctionalCfg.after, heq] at h
  exact Bool.false_ne_true (hlatched.symm.trans h)

/-- One that addresses the octet clears the source only where its data names it. -/
theorem writeNames_of_cleared {octet : UInt8} (hacc : ReconfigAccepted payload) (hl : cfg.Latched i)
    (hw : reconfigWrites payload (wupStatusOctet i) = some octet)
    (hno : ¬(cfg.after (.applyReconfig payload)).Latched i) : WriteNames payload i := by
  have hi := Latched.lt hl
  obtain ⟨cfg', heq, hlatched⟩ := applyReconfig_latched cfg hacc hi
  refine ⟨octet, hw, ?_⟩
  rw [Nat.mod_eq_of_lt (show i < 8 from hi)]
  by_contra hbit
  rw [hw, Option.getD_some, Bool.not_eq_true] at *
  rw [show wupStatusSourceIsLatched cfg.wupStatus i = true from hl, hbit] at hlatched
  refine hno ?_
  rw [WakeupFunctionalCfg.Latched, WakeupFunctionalCfg.after, heq]
  exact hlatched

theorem not_latched_of_clear (h : wupStatusIsClear cfg.wupStatus = true) : ¬cfg.Latched i := by
  intro hl
  have hbit := latched_bit hl
  rw [wupStatusIsClear, beq_iff_eq] at h
  rw [h] at hbit
  simp at hbit

/-- A call does what it may do to the latch just where a write that is accepted addresses what is latched. -/
theorem acknowledged_iff (c : WakeupCall) :
    Acknowledged cfg c ↔ ∀ payload, c = .applyReconfig payload → ReconfigAccepted payload →
      AddressesLatched cfg payload := by
  constructor
  · rintro ⟨hcleared, -⟩ payload rfl hacc i hl
    cases hw : reconfigWrites payload (wupStatusOctet i) with
    | some octet => rfl
    | none =>
      obtain ⟨payload', hc, -, octet, hw', -⟩ := hcleared i hl (not_latched_of_not_addressed hacc hl hw)
      cases hc
      rw [hw] at hw'
      cases hw'
  · intro haddr
    have hcleared : ∀ i, cfg.Latched i → ¬(cfg.after c).Latched i →
        ∃ payload, c = .applyReconfig payload ∧ ReconfigAccepted payload ∧ WriteNames payload i := by
      intro i hl hno
      cases c with
      | latchSource k => exact absurd (latchSource_latched hl) hno
      | applyReconfig payload =>
        by_cases hacc : ReconfigAccepted payload
        · obtain ⟨octet, hw⟩ := Option.isSome_iff_exists.mp (haddr payload rfl hacc i hl)
          exact ⟨payload, rfl, hacc, writeNames_of_cleared hacc hl hw hno⟩
        · rw [after_refused hacc] at hno
          exact absurd hl hno
    refine ⟨hcleared, fun payload hc idle empty _ hopen i hl => ?_⟩
    have hclear : wupStatusIsClear (cfg.after c).wupStatus = true := by
      by_contra h
      rw [Bool.not_eq_true] at h
      rw [h] at hopen
      cases hopen
    obtain ⟨payload', hc', -, hnames⟩ := hcleared i hl (not_latched_of_clear hclear)
    rw [hc] at hc'
    cases hc'
    exact hnames

/-! ### The latch over every run -/

/-- Over a run, every clearing of a wake source is acknowledged by a write that names it, and so is every opening of
    the gate of the sleep entry by a write, if and only if every write that is accepted addresses, for each source
    latched when it arrives, the octet of wup_status with the source's bit. -/
theorem wakeLatch_acknowledged_iff (calls : List WakeupCall) :
    (∀ before c rest, calls = before ++ c :: rest → Acknowledged (.run before) c) ↔
      ∀ before payload rest, calls = before ++ .applyReconfig payload :: rest → ReconfigAccepted payload →
        AddressesLatched (.run before) payload := by
  constructor
  · intro h before payload rest hcalls hacc
    exact (acknowledged_iff _).mp (h before _ rest hcalls) payload rfl hacc
  · intro h before c rest hcalls
    refine (acknowledged_iff c).mpr fun payload hc hacc => ?_
    subst hc
    exact h before payload rest hcalls hacc

/-- Source 0 has woken the device. A write of wup_ep_status, two octets at offset 2, clears it, and opens the gate. -/
theorem wakeLatch_cleared_by_epStatus :
    ¬∀ (calls before : List WakeupCall) (c : WakeupCall) (rest : List WakeupCall), calls = before ++ c :: rest →
      Acknowledged (.run before) c := by
  intro h
  obtain ⟨hcleared, -⟩ := h _ [.latchSource 0] (.applyReconfig [0x00, 0x02, 0x00, 0x00]) [] rfl
  obtain ⟨payload, hc, -, octet, hw, -⟩ := hcleared 0 (by decide) (by decide +kernel)
  cases hc
  revert hw
  have hnone : reconfigWrites [0x00, 0x02, 0x00, 0x00] (wupStatusOctet 0) = none := by decide
  rw [hnone]
  rintro ⟨⟩

end Rcp
