import Rcp.Authz

/-! What the access policy permits. An entry keeps the first 127 octets of its identity, and the identity that asks is
    compared as a whole, so that one of more octets is permitted nothing, not even what it was allowed. -/

namespace Rcp
open Lib

/-! ### Comparing strings -/

theorem strncmp_self_cons (a : UInt8) (s t : Octets) (n : Nat) (h : a ≠ 0) :
    strncmp (a :: s) (a :: t) (n + 1) = strncmp s t n := by
  simp [strncmp, h]

theorem strncmp_ne_zero {a b : UInt8} (h : a ≠ b) (s t : Octets) (n : Nat) : strncmp (a :: s) (b :: t) (n + 1) ≠ 0 := by
  have hne : a.toNat ≠ b.toNat := fun heq => h (UInt8.toNat_inj.mp heq)
  simp only [strncmp, if_pos h]
  omega

/-- Up to a NUL in the first string within the bound, `strncmp` compares the strings as a whole. -/
theorem strncmp_eq_zero_iff {s t : Octets} (hs : 0 ∉ s) (ht : 0 ∉ t) (rest : Octets) {n : Nat} (hn : s.length < n) :
    strncmp (s ++ 0 :: rest) (t ++ [0]) n = 0 ↔ s = t := by
  induction s generalizing t n with
  | nil =>
    obtain ⟨n, rfl⟩ : ∃ m, n = m + 1 := ⟨n - 1, by simp at hn; omega⟩
    cases t with
    | nil => simp [strncmp]
    | cons b t =>
      have hb : (0 : UInt8) ≠ b := fun h => ht (h ▸ List.mem_cons_self)
      exact iff_of_false (strncmp_ne_zero hb _ _ n) (List.cons_ne_nil b t).symm
  | cons a s ih =>
    obtain ⟨n, rfl⟩ : ∃ m, n = m + 1 := ⟨n - 1, by simp at hn; omega⟩
    have ha : a ≠ 0 := fun h => hs (h ▸ List.mem_cons_self)
    cases t with
    | nil => exact iff_of_false (strncmp_ne_zero ha _ _ n) (List.cons_ne_nil a s)
    | cons b t =>
      by_cases hab : a = b
      · subst hab
        rw [List.cons_append, List.cons_append, strncmp_self_cons a _ _ n ha,
          ih (fun h => hs (List.mem_cons_of_mem a h)) (fun h => ht (List.mem_cons_of_mem a h))
            (Nat.lt_of_succ_lt_succ hn), List.cons_inj_right]
      · exact iff_of_false (strncmp_ne_zero hab _ _ n) fun h => hab (List.cons.inj h).1

theorem strnlenBounded_eq {s : Octets} (hs : 0 ∉ s) (maxlen : Nat) : strnlenBounded (s ++ [0]) maxlen = min s.length maxlen := by
  induction s generalizing maxlen with
  | nil => cases maxlen <;> simp [strnlenBounded]
  | cons c s ih =>
    have hc : c ≠ 0 := fun h => hs (h ▸ List.mem_cons_self)
    cases maxlen with
    | zero => simp [strnlenBounded]
    | succ maxlen =>
      rw [List.cons_append, strnlenBounded, if_pos hc, ih (fun h => hs (List.mem_cons_of_mem c h)), List.length_cons,
        Nat.succ_min_succ]

/-! ### The entries -/

/-- The part of an identity that an entry keeps, as the contract of the header has it for both calls. -/
def CString.truncated (s : CString) : Octets := s.octets.take (authzIdentityMax - 1)

theorem copyIdentity_eq (dst : Octets) (identity : CString) :
    ∃ rest, copyIdentity dst identity = identity.truncated ++ 0 :: rest := by
  refine ⟨dst.drop (min identity.octets.length (authzIdentityMax - 1) + 1), ?_⟩
  rw [copyIdentity, strncpyBounded, if_neg (by decide), CString.cells]
  simp only [strnlenBounded_eq identity.noNul]
  rw [List.take_append_of_le_length (Nat.min_le_left _ _), CString.truncated,
    List.take_eq_take_iff.mpr (by omega : min (min identity.octets.length (authzIdentityMax - 1)) identity.octets.length =
      min (authzIdentityMax - 1) identity.octets.length)]

/-- An entry of an identity is found exactly for the identity that it keeps. -/
theorem strncmp_copyIdentity (dst : Octets) (kept identity : CString) :
    strncmp (copyIdentity dst kept) identity.cells authzIdentityMax = 0 ↔ kept.truncated = identity.octets := by
  obtain ⟨rest, hcopy⟩ := copyIdentity_eq dst kept
  have hlen : kept.truncated.length < authzIdentityMax :=
    Nat.lt_of_le_of_lt (List.length_take_le _ _) (by decide)
  rw [hcopy]
  exact strncmp_eq_zero_iff (fun h => kept.noNul (List.mem_of_mem_take h)) identity.noNul rest hlen

theorem avtpAddrEqual_iff (a b : AvtpAddr) : avtpAddrEqual a b = true ↔ a = b := by
  obtain ⟨streamId, byteBusId⟩ := a
  obtain ⟨streamId', byteBusId'⟩ := b
  simp [avtpAddrEqual]

namespace PolicyEntry

theorem matchesAddr_iff (e : PolicyEntry) (addr : AvtpAddr) :
    e.matchesAddr addr = true ↔ e.addrs = [] ∨ addr ∈ e.addrs := by
  rw [matchesAddr]
  split
  · rename_i hempty
    exact iff_of_true rfl (Or.inl (List.length_eq_zero_iff.mp hempty))
  · rename_i hsome
    have hne : e.addrs ≠ [] := fun h => hsome (List.length_eq_zero_iff.mpr h)
    simp [hne, avtpAddrEqual_iff]

theorem matchesRequestType_iff (e : PolicyEntry) (requestType : UInt8) :
    e.matchesRequestType requestType = true ↔ e.requestTypes = [] ∨ requestType ∈ e.requestTypes := by
  rw [matchesRequestType]
  split
  · rename_i hempty
    exact iff_of_true rfl (Or.inl (List.length_eq_zero_iff.mp hempty))
  · rename_i hsome
    have hne : e.requestTypes ≠ [] := fun h => hsome (List.length_eq_zero_iff.mpr h)
    simp [hne]

end PolicyEntry

/-! ### Calls of `allow` -/

/-- What `allow` is called with. -/
structure AllowCall where
  identity : CString
  addrs : List AvtpAddr
  requestTypes : List UInt8

namespace AllowCall

/-- The entry that it adds. -/
def entry (c : AllowCall) : PolicyEntry where
  identity := copyIdentity (List.replicate authzIdentityMax 0) c.identity
  addrs := c.addrs
  requestTypes := c.requestTypes

/-- Its lists cover a request. -/
def Covers (c : AllowCall) (addr : AvtpAddr) (requestType : UInt8) : Prop :=
  (c.addrs = [] ∨ addr ∈ c.addrs) ∧ (c.requestTypes = [] ∨ requestType ∈ c.requestTypes)

theorem entry_permits (c : AllowCall) (identity : CString) (addr : AvtpAddr) (requestType : UInt8) :
    (if strncmp c.entry.identity identity.cells authzIdentityMax ≠ 0 then false else
        c.entry.matchesAddr addr && c.entry.matchesRequestType requestType) = true ↔
      c.identity.truncated = identity.octets ∧ c.Covers addr requestType := by
  have hidentity := strncmp_copyIdentity (List.replicate authzIdentityMax 0) c.identity identity
  have haddr := c.entry.matchesAddr_iff addr
  have htype := c.entry.matchesRequestType_iff requestType
  by_cases h : strncmp c.entry.identity identity.cells authzIdentityMax = 0
  · rw [if_neg (not_not_intro h), Bool.and_eq_true, haddr, htype]
    exact (and_iff_right (hidentity.mp h)).symm
  · rw [if_pos h]
    exact iff_of_false Bool.false_ne_true fun hc => h (hidentity.mpr hc.1)

end AllowCall

/-- The policy after calls of `allow`. -/
def AuthzPolicy.afterCalls (calls : List AllowCall) : AuthzPolicy :=
  calls.foldl (fun policy c => policy.allow c.identity c.addrs c.requestTypes) .new

/-- Some call was made for the identity, both truncated, and its own lists cover the request. -/
def Granted (calls : List AllowCall) (identity : CString) (addr : AvtpAddr) (requestType : UInt8) : Prop :=
  ∃ c ∈ calls, c.identity.truncated = identity.truncated ∧ c.Covers addr requestType

namespace AuthzPolicy

theorem contents_afterCalls (calls : List AllowCall) :
    (afterCalls calls).entries.contents = calls.map AllowCall.entry := by
  induction calls using List.reverseRecOn with
  | nil => rfl
  | append_singleton calls c ih =>
    rw [afterCalls, List.foldl_append, List.map_append, ← ih]
    exact GrowArray.contents_push (by decide) (afterCalls calls).entries c.entry

/-- A request is permitted by an entry that keeps just the identity that asks. -/
theorem permit_iff (calls : List AllowCall) (identity : CString) (addr : AvtpAddr) (requestType : UInt8) :
    (afterCalls calls).permit identity addr requestType = true ↔
      ∃ c ∈ calls, c.identity.truncated = identity.octets ∧ c.Covers addr requestType := by
  rw [permit, contents_afterCalls, List.any_map, List.any_eq_true]
  exact exists_congr fun c => and_congr_right fun _ => c.entry_permits identity addr requestType

end AuthzPolicy

namespace CString

theorem truncated_eq_octets {s : CString} : s.truncated = s.octets ↔ s.octets.length < authzIdentityMax := by
  rw [truncated, List.take_eq_self_iff]
  exact Nat.le_sub_one_iff_lt (by decide)

theorem length_truncated_lt (s : CString) : s.truncated.length < authzIdentityMax :=
  Nat.lt_of_le_of_lt (List.length_take_le _ _) (by decide)

end CString

theorem permit_iff_granted (calls : List AllowCall) (identity : CString) (addr : AvtpAddr) (requestType : UInt8) :
    (AuthzPolicy.afterCalls calls).permit identity addr requestType = true ↔
      identity.octets.length < authzIdentityMax ∧ Granted calls identity addr requestType := by
  rw [AuthzPolicy.permit_iff]
  constructor
  · rintro ⟨c, hc, hidentity, hcovers⟩
    have hlen : identity.octets.length < authzIdentityMax := hidentity ▸ c.identity.length_truncated_lt
    exact ⟨hlen, c, hc, hidentity.trans (CString.truncated_eq_octets.mpr hlen).symm, hcovers⟩
  · rintro ⟨hlen, c, hc, hidentity, hcovers⟩
    exact ⟨c, hc, hidentity.trans (CString.truncated_eq_octets.mpr hlen), hcovers⟩

/-! ### Order and grouping -/

theorem permit_congr {calls calls' : List AllowCall}
    (h : ∀ identity addr requestType, Granted calls identity addr requestType ↔ Granted calls' identity addr requestType)
    (identity : CString) (addr : AvtpAddr) (requestType : UInt8) :
    (AuthzPolicy.afterCalls calls).permit identity addr requestType =
      (AuthzPolicy.afterCalls calls').permit identity addr requestType := by
  rw [Bool.eq_iff_iff, permit_iff_granted, permit_iff_granted, h]

theorem granted_perm {calls calls' : List AllowCall} (h : calls.Perm calls') (identity : CString) (addr : AvtpAddr)
    (requestType : UInt8) : Granted calls identity addr requestType ↔ Granted calls' identity addr requestType :=
  exists_congr fun _ => and_congr_left' h.mem_iff

theorem granted_cons {calls : List AllowCall} {c : AllowCall} {identity : CString} {addr : AvtpAddr} {requestType : UInt8} :
    Granted (c :: calls) identity addr requestType ↔
      c.identity.truncated = identity.truncated ∧ c.Covers addr requestType ∨ Granted calls identity addr requestType :=
  List.exists_mem_cons_iff ..

/-- A call with two lists of addresses joined grants what a call with each of them grants. -/
theorem granted_join (calls : List AllowCall) (c : AllowCall) {addrs addrs' : List AvtpAddr} (hne : addrs ≠ [])
    (hne' : addrs' ≠ []) (identity : CString) (addr : AvtpAddr) (requestType : UInt8) :
    Granted ({ c with addrs := addrs ++ addrs' } :: calls) identity addr requestType ↔
      Granted ({ c with addrs } :: { c with addrs := addrs' } :: calls) identity addr requestType := by
  simp only [granted_cons, AllowCall.Covers, List.append_eq_nil_iff, hne, hne', false_and, false_or, List.mem_append]
  tauto

/-! ### The policy -/

/-- A request is permitted exactly where some call of `allow` grants it, both identities truncated as the header has it, as
    long as the identity that asks needs no truncation or there is nothing to permit: a longer one is permitted nothing.
    What is permitted depends on what is granted only, not on the order or the grouping of the calls. -/
theorem policy_exact_iff (calls : List AllowCall) (identity : CString) (addr : AvtpAddr) (requestType : UInt8) :
    (((AuthzPolicy.afterCalls calls).permit identity addr requestType = true ↔
        Granted calls identity addr requestType) ↔
      identity.octets.length < authzIdentityMax ∨ ¬ Granted calls identity addr requestType) ∧
    (∀ calls', calls.Perm calls' →
      (AuthzPolicy.afterCalls calls').permit identity addr requestType =
        (AuthzPolicy.afterCalls calls).permit identity addr requestType) ∧
    ∀ calls', (∀ identity addr requestType,
        Granted calls' identity addr requestType ↔ Granted calls identity addr requestType) →
      (AuthzPolicy.afterCalls calls').permit identity addr requestType =
        (AuthzPolicy.afterCalls calls).permit identity addr requestType := by
  refine ⟨?_, fun calls' hperm => permit_congr (granted_perm hperm.symm) identity addr requestType,
    fun calls' h => permit_congr h identity addr requestType⟩
  rw [permit_iff_granted]
  by_cases hgranted : Granted calls identity addr requestType
  · rw [and_iff_left hgranted, iff_true_right hgranted]
    exact (or_iff_left (not_not_intro hgranted)).symm
  · exact iff_of_true (iff_of_false (fun h => hgranted h.2) hgranted) (Or.inr hgranted)

/-- An identity of 128 octets. -/
def longIdentity : CString where
  octets := List.replicate 128 0x61
  noNul := by decide

/-- It is not permitted what it was allowed. -/
theorem long_identity_not_permitted :
    ¬ ((AuthzPolicy.afterCalls [⟨longIdentity, [], []⟩]).permit longIdentity ⟨0, 1⟩ 0 = true ↔
      Granted [⟨longIdentity, [], []⟩] longIdentity ⟨0, 1⟩ 0) := by
  intro h
  have hgranted : Granted [⟨longIdentity, [], []⟩] longIdentity ⟨0, 1⟩ 0 :=
    ⟨_, List.mem_singleton_self _, rfl, Or.inl rfl, Or.inl rfl⟩
  have hlen := ((permit_iff_granted ..).mp (h.mpr hgranted)).1
  exact Nat.lt_irrefl 128 (List.length_replicate.symm.trans_lt hlen)

end Rcp
