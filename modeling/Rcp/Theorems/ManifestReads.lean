import Rcp.Config

/-! The parser of a manifest reads no cell past the NUL, whatever the text is. Each of its functions is given pointers into
    the text, and gives the next one such pointers. -/

namespace Rcp.Config
open Lib

variable {ν : Nat → Type} {N : Numbers ν} {needle s : List Char} {stop p k opening closing : Ptr} {key : String}

/-! ### Searching a range -/

theorem findFrom_append (hne : needle ≠ []) :
    findFrom stop needle (s ++ stop) = some ((firstMatch needle s).map (· ++ stop)) := by
  have hpos : 0 < needle.length := List.length_pos_iff.mpr hne
  induction s with
  | nil =>
    rw [List.nil_append, firstMatch, if_neg hne]
    cases stop with
    | nil => rfl
    | cons c p =>
      rw [findFrom, if_neg (by omega)]
      rfl
  | cons x s ih =>
    rw [List.cons_append, findFrom]
    by_cases hle : needle.length ≤ (x :: s).length
    · have hfits : stop.length + needle.length ≤ (x :: (s ++ stop)).length := by
        simp only [List.length_cons, List.length_append] at hle ⊢
        omega
      rw [if_pos hfits, memcmpEq_eq (by omega), firstMatch]
      -- the range is long enough, so that what is behind it makes no difference
      have hiff : needle.isPrefixOf (x :: (s ++ stop)) = needle.isPrefixOf (x :: s) := by
        rw [Bool.eq_iff_iff, List.isPrefixOf_iff_prefix, List.isPrefixOf_iff_prefix]
        constructor
        · intro h
          exact List.prefix_of_prefix_length_le h (List.prefix_append (x :: s) stop) hle
        · intro h
          exact h.trans (List.prefix_append (x :: s) stop)
      rw [hiff]
      cases needle.isPrefixOf (x :: s) with
      | true => rfl
      | false => exact ih
    · have hlong : ¬stop.length + needle.length ≤ (x :: (s ++ stop)).length := by
        simp only [List.length_cons, List.length_append] at hle ⊢
        omega
      rw [if_neg hlong, firstMatch_eq_none_of_length_lt (by omega)]
      rfl

theorem findInRange_append (hne : needle ≠ []) :
    findInRange (s ++ stop) stop needle = some ((firstMatch needle s).map (· ++ stop)) := by
  rw [findInRange, List.length_append, Nat.add_sub_cancel]
  split
  · rename_i hlt
    rw [firstMatch_eq_none_of_length_lt hlt]
    rfl
  · exact findFrom_append hne

theorem quoted_ne_nil (key : String) : quoted key ≠ [] := List.cons_ne_nil _ _

/-- Behind a key that is found there is more of the text. -/
theorem terminated_afterKey (hp : Terminated k) (hkey : nul ∉ quoted key) (h : quoted key <+: k) :
    Terminated (afterKey key k) := by
  obtain ⟨rest, rfl⟩ := h
  rw [afterKey, List.drop_left]
  exact hp.of_append hkey

theorem findKey_reads (key : String) (hp : Terminated opening) (hclosing : closing.tail <:+ opening) (hkey : nul ∉ quoted key) :
    ∃ r, findKey opening closing key = some r ∧ ∀ k ∈ r, Terminated (afterKey key k) := by
  obtain ⟨s, hs⟩ := hclosing
  refine ⟨_, by rw [findKey, ← hs, findInRange_append (quoted_ne_nil key)], ?_⟩
  intro k hk
  obtain ⟨r, hr, rfl⟩ := Option.map_eq_some_iff.mp hk
  obtain ⟨hbegins, hsuffix⟩ := firstMatch_spec hr
  have hfound : quoted key <+: r ++ closing.tail := hbegins.trans (List.prefix_append _ _)
  have hsub : r ++ closing.tail <:+ opening := hs ▸ suffix_append_right hsuffix closing.tail
  have hne : r ++ closing.tail ≠ [] := fun h => quoted_ne_nil key (List.prefix_nil.mp (h ▸ hfound))
  exact terminated_afterKey (hp.of_suffix hsub hne) hkey hfound

theorem strstr_reads (key : String) (hp : Terminated p) (hkey : nul ∉ quoted key) :
    ∃ r, strstr (quoted key) p = some r ∧ ∀ k ∈ r, Terminated (afterKey key k) := by
  obtain ⟨r, hr, hspec⟩ := hp.strstr (quoted_ne_nil key) hkey
  refine ⟨r, hr, ?_⟩
  intro k hk
  obtain ⟨hsuffix, hbegins⟩ := hspec k hk
  have hne : k ≠ [] := fun h => quoted_ne_nil key (List.prefix_nil.mp (h ▸ hbegins))
  exact terminated_afterKey (hp.of_suffix hsuffix hne) hkey hbegins

/-! ### Values -/

theorem skipSeparators_reads (hp : Terminated p) : ∃ q, skipSeparators p = some q ∧ Terminated q := by
  obtain ⟨t, ht, rfl⟩ := hp
  induction t with
  | nil => exact ⟨[nul], rfl, [], List.not_mem_nil, rfl⟩
  | cons c t ih =>
    rw [List.cons_append, skipSeparators]
    split
    · exact ih (List.not_mem_of_not_mem_cons ht)
    · exact ⟨_, rfl, c :: t, ht, rfl⟩

theorem extractUintAt_reads (N : Numbers ν) (hp : Terminated p) : ∃ v, extractUintAt N p = some v := by
  obtain ⟨q, hq, hterm⟩ := skipSeparators_reads hp
  rw [extractUintAt, hq, Option.bind_eq_bind, Option.bind_some]
  cases q with
  | nil =>
    obtain ⟨t, -, ht⟩ := hterm
    exact absurd ht.symm (List.append_ne_nil_of_right_ne_nil t (List.cons_ne_nil _ _))
  | cons c q =>
    dsimp only
    split
    · exact ⟨none, rfl⟩
    · simp only [strtoull, if_pos hterm.nul_mem, Option.bind_eq_bind, Option.bind_some]
      split
      · exact ⟨none, rfl⟩
      · exact ⟨_, rfl⟩

theorem extractBoolAt_reads (hp : Terminated p) : ∃ b, extractBoolAt p = some b := by
  obtain ⟨q, hq, hterm⟩ := skipSeparators_reads hp
  obtain ⟨isTrue, htrue⟩ := hterm.strncmpEq (s := "true".toList) (by decide)
  obtain ⟨isFalse, hfalse⟩ := hterm.strncmpEq (s := "false".toList) (by decide)
  simp only [extractBoolAt, hq, htrue, hfalse, Option.bind_eq_bind, Option.bind_some]
  cases isTrue with
  | true => exact ⟨some true, rfl⟩
  | false =>
    cases isFalse with
    | true => exact ⟨some false, rfl⟩
    | false => exact ⟨none, rfl⟩

theorem findBracketSpan_reads (hp : Terminated p) :
    ∃ r, findBracketSpan p = some r ∧ ∀ arrStart arrEnd, r = some (arrStart, arrEnd) → arrEnd <:+ arrStart := by
  obtain ⟨lb, hlb, hlbSpec⟩ := hp.strchr (c := '[') (by decide)
  rw [findBracketSpan, hlb, Option.bind_eq_bind, Option.bind_some]
  cases lb with
  | none => exact ⟨none, rfl, fun _ _ h => by cases h⟩
  | some lb =>
    obtain ⟨hsuffix, b, rfl⟩ := hlbSpec lb rfl
    obtain ⟨rb, hrb, hrbSpec⟩ := (hp.of_suffix hsuffix (List.cons_ne_nil _ _)).strchr (c := ']') (by decide)
    dsimp only
    rw [hrb, Option.bind_some]
    cases rb with
    | none => exact ⟨none, rfl, fun _ _ h => by cases h⟩
    | some rb =>
      refine ⟨_, rfl, ?_⟩
      rintro arrStart arrEnd h
      cases h
      obtain ⟨hrbSuffix, e, rfl⟩ := hrbSpec rb rfl
      -- the two brackets are not the same cell
      obtain h | h := List.suffix_cons_iff.mp hrbSuffix
      · exact absurd (List.cons.inj h).1 (by decide)
      · exact h

/-- One round of the loop, for what is in front of the end of the array. -/
theorem orNamedBits_append (names : List (String × UInt8)) (stop s : List Char) (out : UInt8) :
    orNamedBits names stop (s ++ stop) out =
      match firstMatch ['\x22'] s with
      | none => some out
      | some q₁ =>
        match firstMatch ['\x22'] q₁.tail with
        | none => some out
        | some q₂ =>
          orNamedBits names stop (q₂.tail ++ stop) (orNamed names (q₁.tail.take (q₁.tail.length - q₂.length)) out) := by
  have hmemchr (t : List Char) :
      memchr '\x22' ((t ++ stop).length - stop.length) (t ++ stop) =
        some ((firstMatch ['\x22'] t).map (· ++ stop)) := by
    rw [List.length_append, Nat.add_sub_cancel, memchr_append]
  rw [orNamedBits_eq]
  split
  · rename_i hempty
    have hs : s = [] := by
      rw [List.length_append] at hempty
      exact List.length_eq_zero_iff.mp (by omega)
    subst hs
    rfl
  · rw [hmemchr]
    obtain ⟨-, hnone⟩ | ⟨a, b, -, -, hsome⟩ := firstMatch_singleton_cases '\x22' s
    · rw [hnone]
      rfl
    · rw [hsome]
      simp only [Option.map_some, List.cons_append, List.tail_cons, hmemchr]
      obtain ⟨-, hnone⟩ | ⟨name, rest, rfl, -, hsome⟩ := firstMatch_singleton_cases '\x22' b
      · rw [hnone]
        rfl
      · rw [hsome]
        simp only [Option.map_some, List.cons_append, List.tail_cons]
        congr 2
        -- what the array ends with cancels out of the length of the name
        rw [List.append_assoc, List.cons_append, List.take_left' (by simp), List.take_left' (by simp)]

theorem orNamedBits_reads (names : List (String × UInt8)) (stop s : List Char) (out : UInt8) :
    ∃ r, orNamedBits names stop (s ++ stop) out = some r := by
  induction hn : s.length using Nat.strong_induction_on generalizing s out with
  | _ n ih =>
    subst hn
    rw [orNamedBits_append]
    obtain ⟨-, hnone⟩ | ⟨a, b, rfl, -, hsome⟩ := firstMatch_singleton_cases '\x22' s
    · exact ⟨out, by rw [hnone]⟩
    · rw [hsome]
      simp only [List.tail_cons]
      obtain ⟨-, hnone⟩ | ⟨name, rest, rfl, -, hsome⟩ := firstMatch_singleton_cases '\x22' b
      · exact ⟨out, by rw [hnone]⟩
      · rw [hsome]
        refine ih rest.length ?_ rest _ rfl
        simp only [List.length_append, List.length_cons]
        omega

/-! ### Fields -/

theorem uintOf_reads (N : Numbers ν) {r : Option Ptr} (h : ∀ k ∈ r, Terminated (afterKey key k)) :
    ∃ v, uintOf N key r = some v := by
  cases r with
  | none => exact ⟨none, rfl⟩
  | some k => exact extractUintAt_reads N (h k rfl)

theorem boolOf_reads {r : Option Ptr} (h : ∀ k ∈ r, Terminated (afterKey key k)) : ∃ b, boolOf key r = some b := by
  cases r with
  | none => exact ⟨none, rfl⟩
  | some k => exact extractBoolAt_reads (h k rfl)

theorem optionsOf_reads {r : Option Ptr} (h : ∀ k ∈ r, Terminated (afterKey "svr_implemented_options" k)) :
    ∃ v, optionsOf r = some v := by
  cases r with
  | none => exact ⟨0, rfl⟩
  | some k =>
    obtain ⟨span, hspan, hends⟩ := findBracketSpan_reads (h k rfl)
    simp only [optionsOf, hspan, Option.bind_eq_bind, Option.bind_some]
    obtain - | ⟨arrStart, arrEnd⟩ := span
    · exact ⟨0, rfl⟩
    · obtain ⟨s, rfl⟩ := hends arrStart arrEnd rfl
      exact orNamedBits_reads optionBitNames arrEnd s 0

theorem hwPinTypeOf_reads (closing : Ptr) {r : Option Ptr} (h : ∀ k ∈ r, Terminated (afterKey "hw_pin_type" k)) :
    ∃ v, hwPinTypeOf closing r = some v := by
  cases r with
  | none => exact ⟨0, rfl⟩
  | some k =>
    obtain ⟨span, hspan, hends⟩ := findBracketSpan_reads (h k rfl)
    simp only [hwPinTypeOf, hspan, Option.bind_eq_bind, Option.bind_some]
    obtain - | ⟨arrStart, arrEnd⟩ := span
    · exact ⟨0, rfl⟩
    · obtain ⟨s, rfl⟩ := hends arrStart arrEnd rfl
      dsimp only
      split
      · exact orNamedBits_reads pinPropNames arrEnd s 0
      · exact ⟨0, rfl⟩

theorem parseServerFields_reads (N : Numbers ν) (hp : Terminated p) : ∃ server, parseServerFields N p = some server := by
  obtain ⟨kVendor, hkVendor, hVendor⟩ := strstr_reads "vendor_id" hp (by decide)
  obtain ⟨kDevice, hkDevice, hDevice⟩ := strstr_reads "device_id" hp (by decide)
  obtain ⟨kMagic, hkMagic, hMagic⟩ := strstr_reads "magic" hp (by decide)
  obtain ⟨kOptions, hkOptions, hOptions⟩ := strstr_reads "svr_implemented_options" hp (by decide)
  obtain ⟨vendorId, hvVendor⟩ := uintOf_reads N hVendor
  obtain ⟨deviceId, hvDevice⟩ := uintOf_reads N hDevice
  obtain ⟨magic, hvMagic⟩ := uintOf_reads N hMagic
  obtain ⟨options, hvOptions⟩ := optionsOf_reads hOptions
  simp only [parseServerFields, hkVendor, hvVendor, hkDevice, hvDevice, hkMagic, hvMagic, hkOptions, hvOptions,
    Option.bind_eq_bind, Option.bind_some]
  exact ⟨_, rfl⟩

/-! ### Entries and objects -/

variable {arrays : Arrays ν} {alloc : Nat → Bool}

theorem parsePinEntry_reads (N : Numbers ν) (hp : Terminated opening) (hclosing : closing.tail <:+ opening) :
    ∃ r, parsePinEntry N opening closing = some r := by
  obtain ⟨kNr, hkNr, hNr⟩ := findKey_reads "hw_ep_nr" hp hclosing (by decide)
  obtain ⟨kPinNr, hkPinNr, hPinNr⟩ := findKey_reads "hw_ep_pin_nr" hp hclosing (by decide)
  obtain ⟨kType, hkType, hType⟩ := findKey_reads "hw_pin_type" hp hclosing (by decide)
  obtain ⟨hwEpNr, hvNr⟩ := uintOf_reads N hNr
  obtain ⟨hwEpPinNr, hvPinNr⟩ := uintOf_reads N hPinNr
  obtain ⟨hwPinType, hvType⟩ := hwPinTypeOf_reads closing hType
  simp only [parsePinEntry, hkNr, hvNr, hkPinNr, hvPinNr, hkType, hvType, Option.bind_eq_bind, Option.bind_some]
  cases hwEpNr <;> cases hwEpPinNr <;> exact ⟨_, rfl⟩

theorem parseEndpointEntry_reads (N : Numbers ν) (hp : Terminated opening) (hclosing : closing.tail <:+ opening) :
    ∃ r, parseEndpointEntry N opening closing = some r := by
  obtain ⟨kId, hkId, hId⟩ := findKey_reads "byte_bus_id" hp hclosing (by decide)
  obtain ⟨kType, hkType, hType⟩ := findKey_reads "ep_type" hp hclosing (by decide)
  obtain ⟨kEnable, hkEnable, hEnable⟩ := findKey_reads "ep_enable" hp hclosing (by decide)
  obtain ⟨byteBusId, hvId⟩ := uintOf_reads N hId
  obtain ⟨epType, hvType⟩ := uintOf_reads N hType
  obtain ⟨epEnable, hvEnable⟩ := boolOf_reads hEnable
  simp only [parseEndpointEntry, hkId, hvId, hkType, hvType, hkEnable, hvEnable, Option.bind_eq_bind, Option.bind_some]
  cases byteBusId <;> cases epType <;> exact ⟨_, rfl⟩

theorem parseStreamEntry_reads (N : Numbers ν) (hp : Terminated opening) (hclosing : closing.tail <:+ opening) :
    ∃ r, parseStreamEntry N opening closing = some r := by
  obtain ⟨kId, hkId, hId⟩ := findKey_reads "rx_stream_id" hp hclosing (by decide)
  obtain ⟨kConfigured, hkConfigured, hConfigured⟩ := findKey_reads "configured" hp hclosing (by decide)
  obtain ⟨rxStreamId, hvId⟩ := uintOf_reads N hId
  obtain ⟨configured, hvConfigured⟩ := boolOf_reads hConfigured
  simp only [parseStreamEntry, hkId, hvId, hkConfigured, hvConfigured, Option.bind_eq_bind, Option.bind_some]
  cases rxStreamId <;> exact ⟨_, rfl⟩

theorem parseConfigObject_reads (N : Numbers ν) (alloc : Nat → Bool) (closing : Ptr) (arrays : Arrays ν) (hp : Terminated opening)
    (hclosing : closing.tail <:+ opening) : ∃ r, parseConfigObject N alloc opening closing arrays = some r := by
  obtain ⟨kId, hkId, -⟩ := findKey_reads "byte_bus_id" hp hclosing (by decide)
  obtain ⟨kType, hkType, -⟩ := findKey_reads "ep_type" hp hclosing (by decide)
  obtain ⟨kNr, hkNr, -⟩ := findKey_reads "hw_ep_nr" hp hclosing (by decide)
  obtain ⟨kPinNr, hkPinNr, -⟩ := findKey_reads "hw_ep_pin_nr" hp hclosing (by decide)
  obtain ⟨kStream, hkStream, -⟩ := findKey_reads "rx_stream_id" hp hclosing (by decide)
  obtain ⟨kConfigured, hkConfigured, -⟩ := findKey_reads "configured" hp hclosing (by decide)
  obtain ⟨endpoint, hendpoint⟩ := parseEndpointEntry_reads N hp hclosing
  obtain ⟨pin, hpin⟩ := parsePinEntry_reads N hp hclosing
  obtain ⟨stream, hstream⟩ := parseStreamEntry_reads N hp hclosing
  simp only [parseConfigObject, hkId, hkType, hkNr, hkPinNr, hkStream, hkConfigured, hendpoint, hpin, hstream,
    Option.bind_eq_bind, Option.bind_some]
  split
  · cases endpoint <;> exact ⟨_, rfl⟩
  · split
    · cases pin <;> exact ⟨_, rfl⟩
    · split
      · cases stream <;> exact ⟨_, rfl⟩
      · exact ⟨_, rfl⟩

/-- The loop goes on behind an object, which is further on in the text. -/
theorem parseObjects_reads (N : Numbers ν) (alloc : Nat → Bool) (arrays : Arrays ν) (hp : Terminated p) :
    ∃ r, parseObjects N alloc p arrays = some r := by
  induction hn : p.length using Nat.strong_induction_on generalizing p arrays with
  | _ n ih =>
    subst hn
    rw [parseObjects_eq]
    split
    · exact ⟨_, rfl⟩
    obtain ⟨opening, hopening, hopens⟩ := hp.strchr (c := '\x7b') (by decide)
    cases opening with
    | none => exact ⟨.ok arrays, by simp only [hopening]⟩
    | some opening =>
      obtain ⟨hopeningSuffix, object, rfl⟩ := hopens _ rfl
      have hopeningTerm : Terminated ('\x7b' :: object) := hp.of_suffix hopeningSuffix (List.cons_ne_nil _ _)
      obtain ⟨closing, hclosing, hcloses⟩ := hopeningTerm.strchr (c := '\x7d') (by decide)
      cases closing with
      | none => exact ⟨.ok arrays, by simp only [hopening, hclosing]⟩
      | some closing =>
        obtain ⟨hclosingSuffix, rest, rfl⟩ := hcloses _ rfl
        have hclosingTerm := hopeningTerm.of_suffix hclosingSuffix (List.cons_ne_nil _ _)
        have hrest : Terminated rest := hclosingTerm.of_append (a := ['\x7d']) (by decide)
        have hrestSuffix : rest <:+ '\x7b' :: object := (List.suffix_cons _ rest).trans hclosingSuffix
        obtain ⟨r, hr⟩ := parseConfigObject_reads N alloc ('\x7d' :: rest) arrays hopeningTerm hrestSuffix
        simp only [hopening, hclosing, hr]
        cases r with
        | error e => exact ⟨_, rfl⟩
        | ok arrays =>
          have hshorter : rest.length < p.length := by
            have h₁ := hclosingSuffix.length_le
            have h₂ := hopeningSuffix.length_le
            simp only [List.length_cons] at h₁ h₂
            omega
          exact ih rest.length hshorter arrays hrest rfl

/-- Whatever the text is and whichever allocations succeed, a call returns, and leaves a manifest of zeros where it does
    not return `RCP_OK`. -/
theorem parseJson_reads (N : Numbers ν) (alloc : Nat → Bool) (json : CString) (errMsgCap : Nat) :
    ∃ r, parseJson N alloc json errMsgCap = some r ∧ (r.code ≠ .ok → r.out = .zero N) := by
  obtain ⟨server, hserver⟩ := parseServerFields_reads N json.terminated
  obtain ⟨arrays, harrays⟩ := parseObjects_reads N alloc {} json.terminated
  simp only [parseJson, hserver, harrays, Option.bind_eq_bind, Option.bind_some]
  cases arrays with
  | error e => exact ⟨_, rfl, fun _ => rfl⟩
  | ok arrays => exact ⟨_, rfl, fun h => absurd rfl h⟩

end Rcp.Config
