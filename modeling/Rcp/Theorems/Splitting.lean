import Rcp.Lib.Tiling
import Rcp.MockFrame
import Rcp.Theorems.Wrapping

/-! Frame splitting: the frames `rcp_sched_split_frame_members` takes are the concatenations of ACF messages, and what
    it finds in them is those messages. -/

namespace Rcp

/-! ### One member -/

/-- The fixed header of a message type. -/
def memberHeaderLen (msgType : UInt8) : Nat := if msgType = Acf.msgTypeAbb then Acf.abbHeaderLen else Acf.gbbHeaderLen

/-- An ACF message by its type and its length field alone. -/
structure IsMember (m : Octets) : Prop where
  type : m.at 0 >>> 1 = Acf.msgTypeAbb ∨ m.at 0 >>> 1 = Acf.msgTypeGbb
  header : memberHeaderLen (m.at 0 >>> 1) ≤ (lenField m).toNat * 4
  length : m.length = (lenField m).toNat * 4

theorem eight_le_memberHeaderLen (msgType : UInt8) : 8 ≤ memberHeaderLen msgType := by
  unfold memberHeaderLen
  split
  · exact Nat.le_refl 8
  · exact Nat.le_of_ble_eq_true rfl

theorem IsMember.eight_le {m : Octets} (h : IsMember m) : 8 ≤ m.length := by
  rw [h.length]
  exact Nat.le_trans (eight_le_memberHeaderLen _) h.header

theorem schedMemberLen_eq_some {b : Octets} {n : Nat} :
    schedMemberLen b = some n ↔
      (b.at 0 >>> 1 = Acf.msgTypeAbb ∨ b.at 0 >>> 1 = Acf.msgTypeGbb) ∧ memberHeaderLen (b.at 0 >>> 1) ≤ n ∧
        n ≤ b.length ∧ (lenField b).toNat * 4 = n := by
  have height := eight_le_memberHeaderLen (b.at 0 >>> 1)
  unfold schedMemberLen
  dsimp only
  rw [show ((b.at 0 &&& 0x01).toUInt16 <<< 8) ||| (b.at 1).toUInt16 = lenField b from rfl,
    show (if b.at 0 >>> 1 = Acf.msgTypeAbb then Acf.abbHeaderLen else Acf.gbbHeaderLen) =
      memberHeaderLen (b.at 0 >>> 1) from rfl]
  constructor
  · intro h
    split at h
    · cases h
    split at h
    · cases h
    rename_i htype
    split at h
    · cases h
    split at h
    · cases h
    split at h
    · cases h
    cases h
    exact ⟨by tauto, by omega, by omega, rfl⟩
  · rintro ⟨htype, hheader, hlen, rfl⟩
    rw [if_neg (by omega), if_neg (by tauto), if_neg (by omega), if_neg (by omega), if_neg (by omega)]

/-- A message at the front of a frame is found there. -/
theorem IsMember.found {m : Octets} (h : IsMember m) (rest : Octets) : schedMemberLen (m ++ rest) = some m.length := by
  have height := h.eight_le
  have hat0 : Octets.at (m ++ rest) 0 = m.at 0 := Octets.at_append_left (by omega)
  have hat1 : Octets.at (m ++ rest) 1 = m.at 1 := Octets.at_append_left (by omega)
  have hfield : lenField (m ++ rest) = lenField m := by rw [lenField, lenField, hat0, hat1]
  refine schedMemberLen_eq_some.mpr ⟨?_, ?_, ?_, ?_⟩
  · rw [hat0]
    exact h.type
  · rw [hat0, h.length]
    exact h.header
  · rw [List.length_append]
    omega
  · rw [hfield, ← h.length]

/-- What is found at the front of a frame is a message. -/
theorem isMember_of_found {b : Octets} {n : Nat} (h : schedMemberLen b = some n) :
    IsMember (b.take n) ∧ (b.take n).length = n := by
  obtain ⟨htype, hheader, hlen, rfl⟩ := schedMemberLen_eq_some.mp h
  have height := Nat.le_trans (eight_le_memberHeaderLen _) hheader
  have hat : Octets.at (b.take ((lenField b).toNat * 4)) 0 = b.at 0 := Octets.at_take (by omega)
  have hfield : lenField (b.take ((lenField b).toNat * 4)) = lenField b := lenField_take (by omega)
  have htake : (b.take ((lenField b).toNat * 4)).length = (lenField b).toNat * 4 := by
    rw [List.length_take]
    omega
  exact ⟨{ type := by rw [hat]; exact htype, header := by rw [hat, hfield]; exact hheader, length := by rw [hfield, htake] },
    htake⟩

/-! ### The scan -/

/-- Where consecutive members begin. -/
def offsetsFrom (offset : Nat) (members : List Octets) : List Nat :=
  (Lib.spansFrom offset (members.map List.length)).map Prod.fst

@[simp] theorem offsetsFrom_nil (offset : Nat) : offsetsFrom offset [] = [] := rfl

@[simp] theorem offsetsFrom_cons (offset : Nat) (m : Octets) (members : List Octets) :
    offsetsFrom offset (m :: members) = offset :: offsetsFrom (offset + m.length) members := rfl

theorem length_offsetsFrom (offset : Nat) (members : List Octets) :
    (offsetsFrom offset members).length = members.length := by
  rw [offsetsFrom, List.length_map, Lib.length_spansFrom, List.length_map]

/-- A concatenation of messages is split into them. -/
theorem schedSplitLoop_members {b : Octets} {members : List Octets} (h : ∀ m ∈ members, IsMember m) {fuel offset : Nat}
    (hrest : b.drop offset = members.flatten) (hfuel : b.length ≤ offset + fuel) :
    schedSplitLoop b fuel offset = some (offsetsFrom offset members) := by
  induction members generalizing fuel offset with
  | nil =>
    have hend : b.length ≤ offset := List.drop_eq_nil_iff.mp hrest
    cases fuel with
    | zero => rfl
    | succ fuel => rw [schedSplitLoop, if_pos hend, offsetsFrom_nil]
  | cons m members ih =>
    have hm := h m List.mem_cons_self
    have height := hm.eight_le
    have hlen := congrArg List.length hrest
    rw [List.length_drop, List.flatten_cons, List.length_append] at hlen
    cases fuel with
    | zero => omega
    | succ fuel =>
      have hnext : b.drop (offset + m.length) = members.flatten := by
        rw [← List.drop_drop, hrest, List.flatten_cons, List.drop_left]
      rw [schedSplitLoop, if_neg (by omega), hrest, List.flatten_cons, hm.found]
      dsimp only
      rw [ih (fun m hm => h m (List.mem_cons_of_mem _ hm)) hnext (by omega), Option.map_some, offsetsFrom_cons]

/-- Whatever is split is a concatenation of messages. -/
theorem members_of_schedSplitLoop {b : Octets} {fuel offset : Nat} {offsets : List Nat} (hfuel : b.length ≤ offset + fuel)
    (h : schedSplitLoop b fuel offset = some offsets) :
    ∃ members, b.drop offset = List.flatten members ∧ ∀ m ∈ members, IsMember m := by
  induction fuel generalizing offset offsets with
  | zero => exact ⟨[], List.drop_eq_nil_iff.mpr hfuel, by simp⟩
  | succ fuel ih =>
    rw [schedSplitLoop] at h
    split at h
    · rename_i hend
      exact ⟨[], List.drop_eq_nil_iff.mpr hend, by simp⟩
    split at h
    · cases h
    rename_i n hfound
    obtain ⟨rest, hloop, -⟩ := Option.map_eq_some_iff.mp h
    obtain ⟨hm, hlen⟩ := isMember_of_found hfound
    have height := hm.eight_le
    obtain ⟨members, hrest, hmembers⟩ := ih (by omega) hloop
    refine ⟨(b.drop offset).take n :: members, ?_, ?_⟩
    · rw [List.flatten_cons, ← hrest, ← List.drop_drop, List.take_append_drop]
    · intro m hmem
      rcases List.mem_cons.mp hmem with rfl | hmem
      · exact hm
      · exact hmembers m hmem

/-- The scan with its output array ends within as many turns as there are octets, and reports what the loop finds. -/
theorem schedSplitScan_eq (b : Octets) (outCap : Nat) {fuel : Nat} (offset found : Nat) (out : List Nat)
    (hfuel : b.length ≤ offset + fuel) :
    (∀ offsets, schedSplitLoop b fuel offset = some offsets →
      schedSplitScan b outCap fuel offset found out =
        some (found + offsets.length, out ++ offsets.take (outCap - found))) ∧
    (schedSplitLoop b fuel offset = none → ∃ out', schedSplitScan b outCap fuel offset found out = some (0, out')) := by
  induction fuel generalizing offset found out with
  | zero =>
    refine ⟨fun offsets h => ?_, fun h => ?_⟩
    · obtain rfl := Option.some.inj h
      rw [schedSplitScan, if_neg (by omega), List.length_nil, List.take_nil, List.append_nil, Nat.add_zero]
    · cases h
  | succ fuel ih =>
    rw [schedSplitLoop, schedSplitScan]
    by_cases hend : b.length ≤ offset
    · rw [if_pos hend, if_neg (by omega)]
      refine ⟨fun offsets h => ?_, fun h => by cases h⟩
      obtain rfl := Option.some.inj h
      rw [List.length_nil, List.take_nil, List.append_nil, Nat.add_zero]
    rw [if_neg hend, if_pos (by omega)]
    cases hfound : schedMemberLen (b.drop offset) with
    | none => exact ⟨fun offsets h => (by cases h), fun _ => ⟨out, rfl⟩⟩
    | some n =>
      obtain ⟨hm, hlen⟩ := isMember_of_found hfound
      have height := hm.eight_le
      obtain ⟨hsome, hnone⟩ := ih (offset + n) (found + 1) (if found < outCap then out ++ [offset] else out)
        (by omega)
      refine ⟨fun offsets h => ?_, fun h => hnone (Option.map_eq_none_iff.mp h)⟩
      obtain ⟨rest, hloop, rfl⟩ := Option.map_eq_some_iff.mp h
      dsimp only
      rw [hsome rest hloop, List.length_cons, Nat.add_assoc, Nat.add_comm 1]
      by_cases hroom : found < outCap
      · obtain ⟨k, hk⟩ := Nat.exists_eq_add_of_lt hroom
        rw [if_pos hroom, show outCap - found = k + 1 by omega, show outCap - (found + 1) = k by omega,
          List.take_succ_cons, List.append_assoc, List.singleton_append]
      · rw [if_neg hroom, show outCap - found = 0 by omega, show outCap - (found + 1) = 0 by omega, List.take_zero,
          List.take_zero]

theorem schedSplitFrameMembers_members {members : List Octets} (h : ∀ m ∈ members, IsMember m) :
    schedSplitFrameMembers members.flatten = some (offsetsFrom 0 members) :=
  schedSplitLoop_members h List.drop_zero (by omega)

/-- The scan of a whole frame: it ends, it counts the messages the frame consists of, and it writes down where the
    first of them begin. -/
theorem schedSplitInto_spec (b : Octets) (outCap : Nat) :
    ∃ n out, schedSplitInto b outCap = some (n, out) ∧
      (0 < n ↔ ∃ members, members ≠ [] ∧ List.flatten members = b ∧ ∀ m ∈ members, IsMember m) ∧
      ∀ members : List Octets, members.flatten = b → (∀ m ∈ members, IsMember m) →
        n = members.length ∧ out = (offsetsFrom 0 members).take outCap := by
  obtain ⟨hsome, hnone⟩ := schedSplitScan_eq b outCap 0 0 [] (Nat.le_add_left ..)
  cases hloop : schedSplitLoop b b.length 0 with
  | none =>
    obtain ⟨out, hscan⟩ := hnone hloop
    have hno : ∀ members : List Octets, members.flatten = b → ¬∀ m ∈ members, IsMember m := by
      rintro members rfl hmembers
      have hsplit := schedSplitFrameMembers_members hmembers
      rw [schedSplitFrameMembers, hloop] at hsplit
      cases hsplit
    refine ⟨0, out, hscan, ⟨fun h => absurd h (Nat.lt_irrefl 0), ?_⟩, fun members hb h => absurd h (hno members hb)⟩
    rintro ⟨members, -, hb, hmembers⟩
    exact absurd hmembers (hno members hb)
  | some offsets =>
    obtain ⟨members, hb, hmembers⟩ := members_of_schedSplitLoop (Nat.le_add_left ..) hloop
    have hoffsets : ∀ members : List Octets, members.flatten = b → (∀ m ∈ members, IsMember m) →
        offsets = offsetsFrom 0 members := by
      rintro members rfl hmembers
      exact Option.some.inj (hloop.symm.trans (schedSplitFrameMembers_members hmembers))
    refine ⟨_, _, hsome offsets hloop, ⟨fun hpos => ⟨members, ?_, hb.symm, hmembers⟩, ?_⟩, fun members hb hmembers => ?_⟩
    · rintro rfl
      rw [hoffsets [] hb.symm hmembers] at hpos
      exact absurd hpos (Nat.lt_irrefl 0)
    · rintro ⟨members, hne, hb, hmembers⟩
      rw [hoffsets members hb hmembers, length_offsetsFrom, Nat.zero_add]
      exact List.length_pos_of_ne_nil hne
    · rw [hoffsets members hb hmembers, length_offsetsFrom]
      exact ⟨Nat.zero_add _, rfl⟩

theorem offsetsFrom_append (offset : Nat) (a b : List Octets) :
    offsetsFrom offset (a ++ b) = offsetsFrom offset a ++ offsetsFrom (offset + a.flatten.length) b := by
  induction a generalizing offset with
  | nil => rfl
  | cons m a ih =>
    rw [List.cons_append, offsetsFrom_cons, offsetsFrom_cons, ih, List.flatten_cons, List.length_append, Nat.add_assoc,
      List.cons_append]

/-- The members a frame entry point cuts out between the offsets are the messages. -/
theorem memberOctets_members {members : List Octets} {i : Nat} {m : Octets} (hi : i < members.length)
    (h : MockServer.memberOctets members.flatten (offsetsFrom 0 members) i = some m) : members[i]? = some m := by
  have hlength := length_offsetsFrom 0 members
  obtain ⟨before, member, after, rfl, rfl⟩ : ∃ before member after, members = before ++ member :: after ∧
      before.length = i :=
    ⟨members.take i, members[i], members.drop (i + 1), by simp, by simp; omega⟩
  have hoffsets : offsetsFrom 0 (before ++ member :: after) =
      offsetsFrom 0 before ++ before.flatten.length :: offsetsFrom (before.flatten.length + member.length) after := by
    rw [offsetsFrom_append, offsetsFrom_cons, Nat.zero_add]
  have hat : (offsetsFrom 0 (before ++ member :: after)).getD before.length 0 = before.flatten.length := by
    rw [hoffsets, List.getD_eq_getElem?_getD, List.getElem?_append_right (by rw [length_offsetsFrom]),
      length_offsetsFrom, Nat.sub_self, List.getElem?_cons_zero, Option.getD_some]
  have hdrop : (before ++ member :: after).flatten.drop before.flatten.length = member ++ after.flatten := by
    rw [List.flatten_append, List.drop_left, List.flatten_cons]
  rw [List.getElem?_append_right (Nat.le_refl _), Nat.sub_self, List.getElem?_cons_zero]
  unfold MockServer.memberOctets at h
  dsimp only at h
  rw [hlength, hat, hdrop] at h
  simp only [List.length_append, List.length_cons] at h
  cases after with
  | nil =>
    rw [if_neg (by simp only [List.length_nil]; omega), if_pos (by simp only [List.length_nil])] at h
    rw [← h, List.flatten_nil, List.append_nil]
  | cons next after =>
    have hnext : (offsetsFrom 0 (before ++ member :: next :: after)).getD (before.length + 1) 0 =
        before.flatten.length + member.length := by
      rw [hoffsets, List.getD_eq_getElem?_getD, List.getElem?_append_right (by rw [length_offsetsFrom]; omega),
        length_offsetsFrom, Nat.add_sub_cancel_left, List.getElem?_cons_succ, offsetsFrom_cons, List.getElem?_cons_zero,
        Option.getD_some]
    split at h
    · rw [hnext, Nat.add_sub_cancel_left, List.take_left] at h
      exact h
    · rw [if_neg (by simp only [List.length_cons]; omega)] at h
      cases h

/-! ### The messages of a sender -/

open Acf in
theorem isMember_framed {type : UInt8} {info : ByteMessageInfo} {region payload : Octets}
    (htype : type = msgTypeAbb ∨ type = msgTypeGbb) (hregion : abbHeaderLen + region.length = memberHeaderLen type)
    (hfits : quadletsOf (abbHeaderLen + region.length + payload.length) ≤ 0x1FF) :
    IsMember (framed type info region payload) := by
  have hfield : (lenField (framed type info region payload)).toNat =
      quadletsOf (abbHeaderLen + region.length + payload.length) := lenField_framed hfits
  have hmul := quadletsOf_mul (abbHeaderLen + region.length + payload.length)
  have hat := framed_type type info region payload htype
  refine { type := ?_, header := ?_, length := ?_ }
  · rw [hat]
    exact htype
  · rw [hat, hfield, ← hregion]
    omega
  · rw [framed_length, hfield]

open Acf in
/-- What an encoder built is a message, and so is what wrapping makes of it. -/
theorem Encoded.isMember {m : Octets} (h : Encoded m) :
    IsMember m ∧ ∀ (crc : Octets → UInt32) (w : Octets), insertCrc crc m = some w → IsMember w := by
  obtain ⟨type, info, region, payload, htype, hregion, hfits, rfl⟩ : ∃ type info region payload,
      (type = msgTypeAbb ∨ type = msgTypeGbb) ∧ abbHeaderLen + region.length = memberHeaderLen type ∧
        quadletsOf (abbHeaderLen + region.length + payload.length) ≤ 0x1FF ∧ framed type info region payload = m := by
    rcases h.shape with ⟨info, payload, hfits, rfl⟩ | ⟨info, ts, payload, hfits, rfl⟩
    · exact ⟨_, info, [], payload, .inl rfl, rfl, hfits, rfl⟩
    · exact ⟨_, info, putU64 ts, payload, .inr rfl, rfl, hfits, rfl⟩
  refine ⟨isMember_framed htype hregion hfits, fun crc w hw => ?_⟩
  have hroom := insertCrc_framed_room hfits hw
  rw [insertCrc_framed crc hroom, Option.some.injEq] at hw
  rw [← hw]
  refine isMember_framed htype hregion ?_
  rw [List.length_append, putU32_length, ← Nat.add_assoc, quadletsOf_add_four]
  exact hroom

/-- How a message goes out: as an encoder built it, or wrapped for a header. -/
inductive Sent : Octets → Option E2eHeader → Octets → Prop where
  | plain {m : Octets} (hm : Encoded m) : Sent m none m
  | wrapped {m w : Octets} {h : E2eHeader} (hm : Encoded m) (hw : e2eWrap h m = some w) : Sent m (some h) w

/-- What the receiver makes of a member: unwrapped it has to verify. -/
def received : Option E2eHeader → Octets → Option Octets
  | none, w => some w
  | some h, w =>
    match e2eUnwrap h w with
    | (.ok (), m) => some m
    | (.error _, _) => none

/-- The message decodes, with the payload its encoder was given. -/
structure Reads (m : Octets) : Prop where
  decodes : (∃ hdr payload, Acf.decodeAbb m = .ok (hdr, payload)) ∨ ∃ hdr payload, Acf.decodeGbb m = .ok (hdr, payload)
  abb : ∀ info payload, Acf.encodeAbb info payload = some m → ∃ hdr, Acf.decodeAbb m = .ok (hdr, payload)
  gbb : ∀ hdr payload, Acf.encodeGbb hdr payload = some m → ∃ hdr, Acf.decodeGbb m = .ok (hdr, payload)
  repurposed : ∀ byteBusId cs evt transactionNum ts payload,
    encodeGbbRepurposed byteBusId cs evt transactionNum ts payload = some m →
      ∃ hdr, Acf.decodeGbb m = .ok (hdr, payload)

theorem Encoded.reads {m : Octets} (h : Encoded m) : Reads m where
  decodes := by
    rcases h.shape with ⟨info, payload, hfits, rfl⟩ | ⟨info, ts, payload, hfits, rfl⟩
    · exact .inl ⟨_, _, Acf.decodeAbb_framed info payload hfits⟩
    · exact .inr ⟨_, _, Acf.decodeGbb_framed info payload ts hfits⟩
  abb info payload henc := by
    obtain ⟨hfits, rfl⟩ := Acf.encodeAbb_eq_some.mp henc
    exact ⟨_, Acf.decodeAbb_framed info payload hfits⟩
  gbb hdr payload henc := by
    obtain ⟨hfits, rfl⟩ := Acf.encodeGbb_eq_some.mp henc
    exact ⟨_, Acf.decodeGbb_framed hdr.info payload _ hfits⟩
  repurposed byteBusId cs evt transactionNum ts payload henc := by
    obtain ⟨hfits, rfl⟩ := Acf.encodeGbbRepurposed_eq_some.mp henc
    exact ⟨_, Acf.decodeGbb_framed _ payload ts hfits⟩

theorem Sent.isMember {m w : Octets} {wrap : Option E2eHeader} (h : Sent m wrap w) : IsMember w := by
  cases h with
  | plain hm => exact hm.isMember.1
  | wrapped hm hw => exact hm.isMember.2 _ _ hw

theorem Sent.received {m w : Octets} {wrap : Option E2eHeader} (h : Sent m wrap w) :
    received wrap w = some m ∧ Reads m := by
  cases h with
  | plain hm => exact ⟨rfl, hm.reads⟩
  | @wrapped _ h hm hw =>
    have hlong := realLen_of_long hm.isMember.1.eight_le
    rw [e2eWrap_eq_insertCrc] at hw
    have hunwrap := e2eUnwrap_insertCrc h hw hlong
    rw [if_neg (not_not.mpr rfl)] at hunwrap
    refine ⟨?_, hm.reads⟩
    rw [Rcp.received, hunwrap]

/-- Splitting a frame ends with the number of messages the frame is the concatenation of, or with 0; the members are
    those messages, in the scan and where a frame is dispatched. Splitting what a sender put together gives each of
    its messages back. -/
theorem frameSplitting_exact :
    (∀ (b : Octets) (outCap : Nat), ∃ n out, schedSplitInto b outCap = some (n, out) ∧
      (0 < n ↔ ∃ members, members ≠ [] ∧ List.flatten members = b ∧ ∀ m ∈ members, IsMember m) ∧
      ∀ members : List Octets, members.flatten = b → (∀ m ∈ members, IsMember m) →
        n = members.length ∧ out = (offsetsFrom 0 members).take outCap ∧
        (Lib.spansFrom 0 (members.map List.length)).map (Lib.slice b) = members ∧
        schedSplitFrameMembers b = some (offsetsFrom 0 members) ∧
        ∀ (i : Nat) (m : Octets), i < members.length →
          MockServer.memberOctets b (offsetsFrom 0 members) i = some m → members[i]? = some m) ∧
    ∀ (sent : List (Octets × Option E2eHeader × Octets)) (outCap : Nat), (∀ s ∈ sent, Sent s.1 s.2.1 s.2.2) →
      schedSplitInto (sent.map (·.2.2)).flatten outCap =
        some (sent.length, (offsetsFrom 0 (sent.map (·.2.2))).take outCap) ∧
      (Lib.spansFrom 0 ((sent.map (·.2.2)).map List.length)).map (Lib.slice (sent.map (·.2.2)).flatten) =
        sent.map (·.2.2) ∧
      ∀ s ∈ sent, received s.2.1 s.2.2 = some s.1 ∧ Reads s.1 := by
  refine ⟨fun b outCap => ?_, fun sent outCap hsent => ?_⟩
  · obtain ⟨n, out, hscan, hiff, hmembers⟩ := schedSplitInto_spec b outCap
    refine ⟨n, out, hscan, hiff, ?_⟩
    rintro members rfl hvalid
    obtain ⟨hn, hout⟩ := hmembers members rfl hvalid
    exact ⟨hn, hout, Lib.map_slice_spansFrom [] members, schedSplitFrameMembers_members hvalid,
      fun i m hi h => memberOctets_members hi h⟩
  · have hvalid : ∀ w ∈ sent.map (·.2.2), IsMember w := by
      intro w hw
      obtain ⟨s, hs, rfl⟩ := List.mem_map.mp hw
      exact (hsent s hs).isMember
    obtain ⟨n, out, hscan, -, hmembers⟩ := schedSplitInto_spec (sent.map (·.2.2)).flatten outCap
    obtain ⟨rfl, rfl⟩ := hmembers _ rfl hvalid
    rw [List.length_map] at hscan
    exact ⟨hscan, Lib.map_slice_spansFrom [] _, fun s hs => (hsent s hs).received⟩

/-- Two clear-all requests and room for one offset. -/
theorem frameSplitting_exact_two :
    schedSplitInto (cancelEncodeClearAll 5 1 ++ cancelEncodeClearAll 5 2) 1 = some (2, [0]) :=
  (frameSplitting_exact.2
    [(cancelEncodeClearAll 5 1, none, cancelEncodeClearAll 5 1), (cancelEncodeClearAll 5 2, none, cancelEncodeClearAll 5 2)] 1
    (by
      intro s hs
      rcases List.mem_cons.mp hs with rfl | hs
      · exact .plain (.clearAll 5 1)
      · rw [List.mem_singleton.mp hs]
        exact .plain (.clearAll 5 2))).1

end Rcp
