import Rcp.Theorems.Manifests

/-! The numbers of a manifest. The parser does nothing with a number but read it and cast it, so that over the integers
    that are written it does the same as over the integers of the machine, and the fields can be compared one by one. -/

namespace Rcp
open Lib Config ManifestText

/-- The integers as they are written. A field that no number was read for is `none`. -/
def writtenNumbers : Numbers fun _ => Option Int where
  Value := Int
  strtoull := fun p =>
    match scanNumeral p with
    | none => (0, p)
    | some n => (n.value, n.rest)
  cast := fun _ v => some v
  zero := fun _ => none

/-! ### Two kinds of numbers -/

/-- Numbers of two kinds that are read from the same cells and cast to related fields. -/
structure Numbers.Simulates {ν ν' : Nat → Type} (N : Numbers ν) (N' : Numbers ν')
    (R : (n : Nat) → ν n → ν' n → Prop) : Prop where
  rest : ∀ p, (N.strtoull p).2 = (N'.strtoull p).2
  cast : ∀ p n, n ≤ 64 → R n (N.cast n (N.strtoull p).1) (N'.cast n (N'.strtoull p).1)
  zero : ∀ n, R n (N.zero n) (N'.zero n)

section Simulation
variable {ν ν' : Nat → Type} {N : Numbers ν} {N' : Numbers ν'} {R : (n : Nat) → ν n → ν' n → Prop}
variable {α β γ δ : Type} {opening closing p : Ptr} {key : String}

/-- Values that every cast relates. -/
def Numbers.SameValue (N : Numbers ν) (N' : Numbers ν') (R : (n : Nat) → ν n → ν' n → Prop) (v : N.Value)
    (v' : N'.Value) : Prop := ∀ n, n ≤ 64 → R n (N.cast n v) (N'.cast n v')

/-- Results that are the same error, or related. -/
def SameResult (S : α → β → Prop) : Except ErrMsg α → Except ErrMsg β → Prop
  | .error e, .error e' => e = e'
  | .ok a, .ok b => S a b
  | _, _ => False

theorem bind_rel {S : α → β → Prop} {T : γ → δ → Prop} {x : Option α} {y : Option β} {f : α → Option γ}
    {g : β → Option δ} (h : Option.Rel S x y) (hfg : ∀ a b, S a b → Option.Rel T (f a) (g b)) :
    Option.Rel T (x.bind f) (y.bind g) := by
  cases h with
  | none => exact .none
  | some h => exact hfg _ _ h

/-- Where the results are the same error, or related, the errors are passed on alike. -/
theorem bind_result_rel {S : α → β → Prop} {T : γ → δ → Prop} {x : Option (Except ErrMsg α)}
    {y : Option (Except ErrMsg β)} {f : Except ErrMsg α → Option γ} {g : Except ErrMsg β → Option δ}
    (h : Option.Rel (SameResult S) x y) (herror : ∀ e, Option.Rel T (f (.error e)) (g (.error e)))
    (hok : ∀ a b, S a b → Option.Rel T (f (.ok a)) (g (.ok b))) : Option.Rel T (x.bind f) (y.bind g) := by
  refine bind_rel h fun r r' hr => ?_
  cases r <;> cases r' <;> first | exact hr.elim | skip
  · obtain rfl := hr
    exact herror _
  · exact hok _ _ hr

theorem bind_same {T : γ → δ → Prop} (x : Option α) {f : α → Option γ} {g : α → Option δ}
    (hfg : ∀ a, Option.Rel T (f a) (g a)) : Option.Rel T (x.bind f) (x.bind g) := by
  cases x with
  | none => exact .none
  | some a => exact hfg a

theorem extractUintAt_rel (h : N.Simulates N' R) (p : Ptr) :
    Option.Rel (Option.Rel (N.SameValue N' R)) (extractUintAt N p) (extractUintAt N' p) := by
  rw [extractUintAt, extractUintAt]
  refine bind_same _ fun q => ?_
  cases q with
  | nil => exact .none
  | cons c q =>
    dsimp only
    split
    · exact .some .none
    · rw [strtoull, strtoull]
      split
      · simp only [Option.bind_eq_bind, Option.bind_some, h.rest]
        split
        · exact .some .none
        · exact .some (.some fun n hn => h.cast _ n hn)
      · exact .none

theorem uintOf_rel (h : N.Simulates N' R) (key : String) (k : Option Ptr) :
    Option.Rel (Option.Rel (N.SameValue N' R)) (uintOf N key k) (uintOf N' key k) := by
  cases k with
  | none => exact .some .none
  | some k => exact extractUintAt_rel h _

theorem assigned_rel (h : N.Simulates N' R) {n : Nat} (hn : n ≤ 64) {v : Option N.Value} {v' : Option N'.Value}
    (hv : Option.Rel (N.SameValue N' R) v v') : R n (assigned N n v) (assigned N' n v') := by
  cases hv with
  | none => exact h.zero n
  | some hv => exact hv n hn

/-! ### The fields of a manifest -/

structure ServerRel (R : (n : Nat) → ν n → ν' n → Prop) (s : ConfigServer ν) (s' : ConfigServer ν') : Prop where
  vendorId : R 16 s.vendorId s'.vendorId
  deviceId : R 16 s.deviceId s'.deviceId
  magic : R 32 s.magic s'.magic
  svrImplementedOptions : s.svrImplementedOptions = s'.svrImplementedOptions

structure PinRel (R : (n : Nat) → ν n → ν' n → Prop) (pin : ConfigHwPin ν) (pin' : ConfigHwPin ν') : Prop where
  hwEpNr : R 8 pin.hwEpNr pin'.hwEpNr
  hwEpPinNr : R 8 pin.hwEpPinNr pin'.hwEpPinNr
  hwPinType : pin.hwPinType = pin'.hwPinType

structure EndpointRel (R : (n : Nat) → ν n → ν' n → Prop) (ep : ConfigEndpoint ν) (ep' : ConfigEndpoint ν') : Prop where
  byteBusId : R 16 ep.byteBusId ep'.byteBusId
  epType : R 8 ep.epType ep'.epType
  epEnable : ep.epEnable = ep'.epEnable

structure StreamRel (R : (n : Nat) → ν n → ν' n → Prop) (s : ConfigStream ν) (s' : ConfigStream ν') : Prop where
  configured : s.configured = s'.configured
  rxStreamId : R 64 s.rxStreamId s'.rxStreamId

/-- Manifests with the same entries, whose numbers are related. -/
structure ManifestRel (R : (n : Nat) → ν n → ν' n → Prop) (m : ConfigManifest ν) (m' : ConfigManifest ν') : Prop where
  server : ServerRel R m.server m'.server
  hwPinMap : List.Forall₂ (PinRel R) m.hwPinMap m'.hwPinMap
  endpoints : List.Forall₂ (EndpointRel R) m.endpoints m'.endpoints
  streams : List.Forall₂ (StreamRel R) m.streams m'.streams

theorem parseServerFields_rel (h : N.Simulates N' R) (p : Ptr) :
    Option.Rel (ServerRel R) (parseServerFields N p) (parseServerFields N' p) := by
  rw [parseServerFields, parseServerFields]
  refine bind_same _ fun k => bind_rel (uintOf_rel h _ k) fun vendorId vendorId' hvendor => ?_
  refine bind_same _ fun k => bind_rel (uintOf_rel h _ k) fun deviceId deviceId' hdevice => ?_
  refine bind_same _ fun k => bind_rel (uintOf_rel h _ k) fun magic magic' hmagic => ?_
  refine bind_same _ fun k => bind_same _ fun options => .some ?_
  exact ⟨assigned_rel h (by decide) hvendor, assigned_rel h (by decide) hdevice, assigned_rel h (by decide) hmagic, rfl⟩

theorem parsePinEntry_rel (h : N.Simulates N' R) (opening closing : Ptr) :
    Option.Rel (SameResult (PinRel R)) (parsePinEntry N opening closing) (parsePinEntry N' opening closing) := by
  rw [parsePinEntry, parsePinEntry]
  refine bind_same _ fun k => bind_rel (uintOf_rel h _ k) fun nr nr' hnr => ?_
  cases hnr with
  | none => exact .some rfl
  | some hnr =>
    refine bind_same _ fun k => bind_rel (uintOf_rel h _ k) fun pinNr pinNr' hpinNr => ?_
    cases hpinNr with
    | none => exact .some rfl
    | some hpinNr =>
      refine bind_same _ fun k => bind_same _ fun hwPinType => .some ?_
      exact ⟨hnr 8 (by decide), hpinNr 8 (by decide), rfl⟩

theorem parseEndpointEntry_rel (h : N.Simulates N' R) (opening closing : Ptr) :
    Option.Rel (SameResult (EndpointRel R)) (parseEndpointEntry N opening closing)
      (parseEndpointEntry N' opening closing) := by
  rw [parseEndpointEntry, parseEndpointEntry]
  refine bind_same _ fun k => bind_rel (uintOf_rel h _ k) fun id id' hid => ?_
  cases hid with
  | none => exact .some rfl
  | some hid =>
    refine bind_same _ fun k => bind_rel (uintOf_rel h _ k) fun type type' htype => ?_
    cases htype with
    | none => exact .some rfl
    | some htype =>
      refine bind_same _ fun k => bind_same _ fun epEnable => .some ?_
      exact ⟨hid 16 (by decide), htype 8 (by decide), rfl⟩

theorem parseStreamEntry_rel (h : N.Simulates N' R) (opening closing : Ptr) :
    Option.Rel (SameResult (StreamRel R)) (parseStreamEntry N opening closing) (parseStreamEntry N' opening closing) := by
  rw [parseStreamEntry, parseStreamEntry]
  refine bind_same _ fun k => bind_rel (uintOf_rel h _ k) fun id id' hid => ?_
  cases hid with
  | none => exact .some rfl
  | some hid =>
    refine bind_same _ fun k => bind_same _ fun configured => .some ?_
    exact ⟨rfl, hid 64 (by decide)⟩

/-! ### Arrays -/

structure EntriesRel (S : α → β → Prop) (arr : Entries α) (arr' : Entries β) : Prop where
  items : List.Forall₂ S arr.items arr'.items
  cap : arr.cap = arr'.cap

structure ArraysRel (R : (n : Nat) → ν n → ν' n → Prop) (arrays : Arrays ν) (arrays' : Arrays ν') : Prop where
  pins : EntriesRel (PinRel R) arrays.pins arrays'.pins
  endpoints : EntriesRel (EndpointRel R) arrays.endpoints arrays'.endpoints
  streams : EntriesRel (StreamRel R) arrays.streams arrays'.streams

theorem ArraysRel.count {arrays : Arrays ν} {arrays' : Arrays ν'} (h : ArraysRel R arrays arrays') :
    arrays.count = arrays'.count := by
  rw [Arrays.count, Arrays.count, h.pins.items.length_eq, h.endpoints.items.length_eq, h.streams.items.length_eq]

theorem append_rel {S : α → β → Prop} {arr : Entries α} {arr' : Entries β} {a : α} {b : β} (granted : Bool)
    (h : EntriesRel S arr arr') (hab : S a b) :
    Option.Rel (EntriesRel S) (arr.append granted a) (arr'.append granted b) := by
  have hitems : List.Forall₂ S (arr.items ++ [a]) (arr'.items ++ [b]) := List.rel_append h.items (.cons hab .nil)
  rw [Entries.append, Entries.append, h.items.length_eq, h.cap]
  split
  · cases granted with
    | true => exact .some ⟨hitems, rfl⟩
    | false => exact .none
  · exact .some ⟨hitems, rfl⟩

/-- An entry of either kind goes into its array, or into neither. -/
theorem appended_rel {S : α → β → Prop} {T : γ → δ → Prop} {arr : Entries α} {arr' : Entries β} {a : α} {b : β}
    (granted : Bool) (h : EntriesRel S arr arr') (hab : S a b) {f : Entries α → γ} {g : Entries β → δ}
    (hfg : ∀ x y, EntriesRel S x y → T (f x) (g y)) :
    SameResult T ((orOutOfMemory (arr.append granted a)).map f) ((orOutOfMemory (arr'.append granted b)).map g) := by
  have hrel := append_rel granted h hab
  generalize arr.append granted a = x at hrel ⊢
  generalize arr'.append granted b = y at hrel ⊢
  cases hrel with
  | none => exact rfl
  | some hxy => exact hfg _ _ hxy

theorem parseConfigObject_rel (h : N.Simulates N' R) (alloc : Nat → Bool) (opening closing : Ptr)
    {arrays : Arrays ν} {arrays' : Arrays ν'} (harrays : ArraysRel R arrays arrays') :
    Option.Rel (SameResult (ArraysRel R)) (parseConfigObject N alloc opening closing arrays)
      (parseConfigObject N' alloc opening closing arrays') := by
  rw [parseConfigObject, parseConfigObject, harrays.count]
  refine bind_same _ fun kId => bind_same _ fun kType => ?_
  split
  · refine bind_result_rel (parseEndpointEntry_rel h opening closing) (fun _ => .some rfl) fun entry entry' hentry => ?_
    exact .some (appended_rel _ harrays.endpoints hentry fun _ _ hrel => ⟨harrays.pins, hrel, harrays.streams⟩)
  refine bind_same _ fun kNr => bind_same _ fun kPinNr => ?_
  split
  · refine bind_result_rel (parsePinEntry_rel h opening closing) (fun _ => .some rfl) fun entry entry' hentry => ?_
    exact .some (appended_rel _ harrays.pins hentry fun _ _ hrel => ⟨hrel, harrays.endpoints, harrays.streams⟩)
  refine bind_same _ fun kStream => bind_same _ fun kConfigured => ?_
  split
  · refine bind_result_rel (parseStreamEntry_rel h opening closing) (fun _ => .some rfl) fun entry entry' hentry => ?_
    exact .some (appended_rel _ harrays.streams hentry fun _ _ hrel => ⟨harrays.pins, harrays.endpoints, hrel⟩)
  · exact .some harrays

theorem parseObjects_rel (h : N.Simulates N' R) (alloc : Nat → Bool) (p : Ptr) {arrays : Arrays ν}
    {arrays' : Arrays ν'} (harrays : ArraysRel R arrays arrays') :
    Option.Rel (SameResult (ArraysRel R)) (parseObjects N alloc p arrays) (parseObjects N' alloc p arrays') := by
  induction hn : p.length using Nat.strong_induction_on generalizing p arrays arrays' with
  | _ n ih =>
    subst hn
    rw [parseObjects_eq, parseObjects_eq]
    split
    · exact .some harrays
    cases hopening : strchr '\x7b' p with
    | none => exact .none
    | some opening =>
      cases opening with
      | none => exact .some harrays
      | some opening =>
        dsimp only
        cases hclosing : strchr '\x7d' opening with
        | none => exact .none
        | some closing =>
          cases closing with
          | none => exact .some harrays
          | some closing =>
            dsimp only
            have hobject := parseConfigObject_rel h alloc opening closing harrays
            generalize parseConfigObject N alloc opening closing arrays = x at hobject ⊢
            generalize parseConfigObject N' alloc opening closing arrays' = y at hobject ⊢
            cases hobject with
            | none => exact .none
            | @some r r' hr =>
              cases r <;> cases r' <;> first | exact hr.elim | skip
              · exact .some hr
              · have hshorter : closing.tail.length < p.length := by
                  obtain ⟨-, hle₁⟩ := strchr_length hopening
                  obtain ⟨hpos, hle₂⟩ := strchr_length hclosing
                  rw [List.length_tail]
                  omega
                exact ih closing.tail.length hshorter closing.tail hr rfl

/-- Calls over either kind return the same, with related manifests. -/
structure ParseRel (R : (n : Nat) → ν n → ν' n → Prop) (r : ParseResult ν) (r' : ParseResult ν') : Prop where
  code : r.code = r'.code
  out : ManifestRel R r.out r'.out
  errMsg : r.errMsg = r'.errMsg

theorem parseJson_rel (h : N.Simulates N' R) (alloc : Nat → Bool) (json : CString) (errMsgCap : Nat) :
    Option.Rel (ParseRel R) (parseJson N alloc json errMsgCap) (parseJson N' alloc json errMsgCap) := by
  have hempty {α β : Type} (S : α → β → Prop) : EntriesRel S {} {} := ⟨.nil, rfl⟩
  rw [parseJson, parseJson]
  refine bind_rel (parseServerFields_rel h _) fun server server' hserver => ?_
  refine bind_result_rel (parseObjects_rel h alloc _ ⟨hempty _, hempty _, hempty _⟩) (fun e => ?_)
    fun arrays arrays' harrays => ?_
  · exact .some ⟨rfl, ⟨⟨h.zero 16, h.zero 16, h.zero 32, rfl⟩, .nil, .nil, .nil⟩, rfl⟩
  · exact .some ⟨rfl, ⟨hserver, harrays.pins.items, harrays.endpoints.items, harrays.streams.items⟩, rfl⟩

end Simulation

/-! ### The numbers of the machine and the numbers that are written -/

/-- What a field of `n` bits holds where this number was read for it, or none was: the number when it fits, and its residue
    when it is negative and has at most 64 bits. Of other numbers nothing is said. -/
def Holds (n : Nat) (x : BitVec n) : Option Int → Prop
  | none => x = 0
  | some z => (0 ≤ z → z < 2 ^ n → (x.toNat : Int) = z) ∧ (-2 ^ 64 < z → z < 0 → (x.toNat : Int) = z % 2 ^ n)

theorem holds_ofInt (n : Nat) (z : Int) : Holds n (BitVec.ofInt n z) (some z) := by
  have hnat : ((BitVec.ofInt n z).toNat : Int) = z % 2 ^ n := by
    have hne : ((2 ^ n : Nat) : Int) ≠ 0 := Int.natCast_ne_zero.mpr (Nat.two_pow_pos n).ne'
    rw [BitVec.toNat_ofInt, Int.toNat_of_nonneg (Int.emod_nonneg z hne), Int.natCast_pow]
    rfl
  exact ⟨fun hpos hfits => by rw [hnat, Int.emod_eq_of_lt hpos hfits], fun _ _ => hnat⟩

theorem holds_of_scanNumeral {s : List Char} {numeral : Numeral} {n : Nat} (hn : n ≤ 64)
    (h : scanNumeral s = some numeral) : Holds n ((strtoul s).1.toBitVec.setWidth n) (some numeral.value) := by
  by_cases hfits : numeral.magnitude < 2 ^ 64
  · rw [strtoul_setWidth h hfits hn]
    exact holds_ofInt n numeral.value
  · -- no field holds a number this long
    have hpow : (2 : Int) ^ n ≤ 2 ^ 64 := by exact_mod_cast Nat.pow_le_pow_right (by decide) hn
    rw [Numeral.value]
    split
    · exact ⟨fun _ _ => by omega, fun _ _ => by omega⟩
    · exact ⟨fun _ _ => by omega, fun _ _ => by omega⟩

theorem machine_simulates_written : machineNumbers.Simulates writtenNumbers Holds where
  rest := by
    intro p
    simp only [machineNumbers, writtenNumbers, strtoul]
    cases scanNumeral p <;> rfl
  cast := by
    intro p n hn
    simp only [machineNumbers, writtenNumbers]
    cases hscan : scanNumeral p with
    | some numeral => exact holds_of_scanNumeral hn hscan
    | none =>
      have hzero : (strtoul p).1.toBitVec.setWidth n = BitVec.ofInt n 0 := by
        rw [strtoul, hscan]
        exact setWidth_ofInt_of_le hn 0
      rw [hzero]
      exact holds_ofInt n 0
  zero := fun _ => rfl

/-- Every field of a manifest that is accepted holds the number that is written for it, when that fits the field, and the
    residue of a negative one. -/
theorem config_numbers_written (alloc : Nat → Bool) (json : CString) (errMsgCap : Nat) (r : ParseResult BitVec)
    (h : parseJson machineNumbers alloc json errMsgCap = some r) (hok : r.code = .ok) :
    ∃ written, parseJson writtenNumbers alloc json errMsgCap = some written ∧ written.code = .ok ∧
      ManifestRel Holds r.out written.out := by
  have hrel := parseJson_rel machine_simulates_written alloc json errMsgCap
  rw [h] at hrel
  generalize parseJson writtenNumbers alloc json errMsgCap = x at hrel ⊢
  cases hrel with
  | some hwritten => exact ⟨_, rfl, hwritten.code ▸ hok, hwritten.out⟩

theorem config_numbers_written_oneStream :
    ∃ written, parseJson writtenNumbers (fun _ => true) oneStreamJson 0 = some written ∧ written.code = .ok ∧
      ManifestRel Holds oneStream.manifest written.out :=
  config_numbers_written (fun _ => true) oneStreamJson 0 { code := .ok, out := oneStream.manifest }
    (parseJson_manifest oneStream_isWritten 0) rfl

/-- The manifest of which `test_config.c` has it that its number wraps. -/
def negativeMagic : CString where
  text := "\x7b \"server\": \x7b \"magic\": -1 \x7d \x7d".toList
  nul_not_mem := by decide

variable {ν : Nat → Type} {N : Numbers ν}

theorem parseObjects_negativeMagic (N : Numbers ν) :
    parseObjects N (fun _ => true) negativeMagic.cells {} = some (.ok {}) := by
  have hopen : strchr '\x7b' negativeMagic.cells = some (some negativeMagic.cells) := rfl
  have hclose : strchr '\x7d' negativeMagic.cells = some (some "\x7d \x7d\x00".toList) := rfl
  have hobject : parseConfigObject N (fun _ => true) negativeMagic.cells "\x7d \x7d\x00".toList {} = some (.ok {}) := rfl
  have hrest : strchr '\x7b' "\x7d \x7d\x00".toList.tail = some none := rfl
  rw [parseObjects_eq, if_neg (by decide)]
  simp only [hopen, hclose, hobject]
  rw [parseObjects_eq, hrest, if_neg (by decide)]

/-- A negative number is accepted, and the field holds another one. -/
theorem negativeMagic_aliased :
    ∃ r written, parseJson machineNumbers (fun _ => true) negativeMagic 0 = some r ∧ r.code = .ok ∧
      parseJson writtenNumbers (fun _ => true) negativeMagic 0 = some written ∧
      written.out.server.magic = some (-1) ∧ (r.out.server.magic.toNat : Int) ≠ -1 := by
  let server : ConfigServer BitVec := { vendorId := 0, deviceId := 0, magic := 0xFFFFFFFF, svrImplementedOptions := 0 }
  let written : ConfigServer fun _ => Option Int :=
    { vendorId := none, deviceId := none, magic := some (-1), svrImplementedOptions := 0 }
  have hserver : parseServerFields machineNumbers negativeMagic.cells = some server := rfl
  have hwritten : parseServerFields writtenNumbers negativeMagic.cells = some written := rfl
  refine ⟨{ code := .ok, out := { server } }, { code := .ok, out := { server := written } }, ?_, rfl, ?_, rfl, by decide⟩
  · simp only [parseJson, hserver, parseObjects_negativeMagic, Option.bind_eq_bind, Option.bind_some]
    rfl
  · simp only [parseJson, hwritten, parseObjects_negativeMagic, Option.bind_eq_bind, Option.bind_some]
    rfl

end Rcp
