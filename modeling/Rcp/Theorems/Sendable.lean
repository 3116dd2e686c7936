import Rcp.Theorems.Codec
import Rcp.Theorems.Reassembly
import Rcp.Theorems.ResponseQueue

/-! Fragments for a ceiling: a message cut up for the largest AVTPDU of a response queue is encoded segment by
    segment, passes the queue, and comes together again. -/

namespace Rcp

/-! ### Segments on the wire -/

/-- The ACF message forms. -/
inductive AcfForm where
  | abb | gbb
deriving DecidableEq, Repr

namespace AcfForm

def headerLen : AcfForm → Nat
  | abb => Acf.abbHeaderLen
  | gbb => Acf.gbbHeaderLen

def maxPayload : AcfForm → Nat
  | abb => Acf.abbMaxPayload
  | gbb => Acf.gbbMaxPayload

/-- `rcp_acf_encode_abb` or `rcp_acf_encode_gbb`. -/
def encode : AcfForm → Acf.GbbHeader → Octets → Option Octets
  | abb, hdr, payload => Acf.encodeAbb hdr.info payload
  | gbb, hdr, payload => Acf.encodeGbb hdr payload

/-- The fragment `rcp_acf_decode_abb` or `rcp_acf_decode_gbb` finds. -/
def decode : AcfForm → Octets → Option DecodedFragment
  | abb, b => (Acf.decodeAbb b).toOption.map fun (info, payload) => ⟨info.ms != 0, info.readSizeOrSegmentNum, payload⟩
  | gbb, b =>
    (Acf.decodeGbb b).toOption.map fun (hdr, payload) => ⟨hdr.info.ms != 0, hdr.info.readSizeOrSegmentNum, payload⟩

theorem encode_spec (form : AcfForm) (hdr : Acf.GbbHeader) {payload : Octets} (h : payload.length ≤ form.maxPayload) :
    ∃ m, form.encode hdr payload = some m ∧
      m.length = form.headerLen + payload.length + Acf.padLen (form.headerLen + payload.length) ∧
      form.decode m = some ⟨hdr.info.ms &&& 1 != 0, hdr.info.readSizeOrSegmentNum &&& 0xFFF, payload⟩ := by
  cases form with
  | abb =>
    have hfits : Acf.quadletsOf (Acf.abbHeaderLen + payload.length) ≤ 0x1FF := by
      rw [Acf.quadletsOf_le]
      simp only [maxPayload, Acf.abbMaxPayload, Acf.abbHeaderLen] at h ⊢
      omega
    refine ⟨_, Acf.encodeAbb_eq_some.mpr ⟨hfits, rfl⟩, ?_, ?_⟩
    · rw [Acf.framed_length, Acf.quadletsOf_mul]
      rfl
    · rw [decode, Acf.decodeAbb_framed _ _ hfits]
      rfl
  | gbb =>
    have hfits : Acf.quadletsOf (Acf.gbbHeaderLen + payload.length) ≤ 0x1FF :=
      (Acf.gbb_fits_iff payload).mpr (Nat.not_lt.mpr h)
    refine ⟨_, Acf.encodeGbb_eq_some.mpr ⟨hfits, rfl⟩, ?_, ?_⟩
    · rw [Acf.framed_length, Acf.quadletsOf_mul]
      rfl
    · rw [decode, Acf.decodeGbb_framed _ _ _ hfits]
      rfl

/-- The header of a planned segment: its own ms, and its segment_num where ms is set. -/
def segmentHeader (hdr : Acf.GbbHeader) (seg : FragmentSegment) : Acf.GbbHeader :=
  { hdr with
    info :=
      { hdr.info with
        ms := if seg.ms then 1 else 0
        readSizeOrSegmentNum := if seg.ms then seg.segmentNum else hdr.info.readSizeOrSegmentNum } }

/-- A planned segment of a payload, encoded. -/
def encodeSegment (form : AcfForm) (hdr : Acf.GbbHeader) (payload : Octets) (seg : FragmentSegment) : Option Octets :=
  form.encode (segmentHeader hdr seg) (seg.cut payload).payload

end AcfForm

/-! ### What is received -/

/-- Both do the same to every reassembler. -/
def DecodedFragment.FeedsAs (f g : DecodedFragment) : Prop :=
  ∀ r : Reassembler, r.feed f.ms f.segmentNum f.payload = r.feed g.ms g.segmentNum g.payload

theorem feed_unnumbered (r : Reassembler) (n n' : UInt16) (payload : Octets) :
    r.feed false n payload = r.feed false n' payload := by
  simp only [Reassembler.feed, Bool.not_false, if_true, Bool.false_and, Bool.false_eq_true, if_false]

/-- A segment the encoder has room for is sent, and is received as its slice. -/
theorem AcfForm.encodeSegment_spec (form : AcfForm) (hdr : Acf.GbbHeader) (payload : Octets) (seg : FragmentSegment)
    (hlen : (seg.cut payload).payload.length ≤ form.maxPayload)
    (hnum : seg.ms = true → seg.segmentNum &&& 0xFFF = seg.segmentNum) :
    ∃ m, form.encodeSegment hdr payload seg = some m ∧
      m.length = form.headerLen + (seg.cut payload).payload.length +
        Acf.padLen (form.headerLen + (seg.cut payload).payload.length) ∧
      ∃ f, form.decode m = some f ∧ f.FeedsAs (seg.cut payload) := by
  obtain ⟨m, hencode, hmlen, hdecode⟩ := form.encode_spec (segmentHeader hdr seg) hlen
  refine ⟨m, hencode, hmlen, _, hdecode, fun r => ?_⟩
  cases hms : seg.ms with
  | true =>
    simp only [segmentHeader, FragmentSegment.cut, hms, if_true, hnum hms]
    rfl
  | false =>
    simp only [segmentHeader, FragmentSegment.cut, hms, Bool.false_eq_true, if_false]
    exact feed_unnumbered ..

/-- The fragments of a list, sent one by one and received in order. -/
theorem feedAll_of_each {form : AcfForm} {hdr : Acf.GbbHeader} {payload : Octets} {bound : Octets → Prop}
    {plan : List FragmentSegment}
    (h : ∀ seg ∈ plan, ∃ m, form.encodeSegment hdr payload seg = some m ∧ bound m ∧
      ∃ f, form.decode m = some f ∧ f.FeedsAs (seg.cut payload)) :
    ∃ frames, plan.mapM (form.encodeSegment hdr payload) = some frames ∧ (∀ m ∈ frames, bound m) ∧
      ∃ fragments, frames.mapM form.decode = some fragments ∧
        ∀ r : Reassembler, r.feedAll fragments = r.feedAll (plan.map (FragmentSegment.cut payload)) := by
  induction plan with
  | nil => exact ⟨[], rfl, by simp, [], rfl, fun _ => rfl⟩
  | cons seg rest ih =>
    obtain ⟨m, hencode, hm, f, hdecode, hfeeds⟩ := h seg List.mem_cons_self
    obtain ⟨frames, hframes, hbound, fragments, hfragments, hfeed⟩ := ih fun s hs => h s (List.mem_cons_of_mem _ hs)
    refine ⟨m :: frames, ?_, ?_, f :: fragments, ?_, fun r => ?_⟩
    · rw [List.mapM_cons, hencode, hframes]
      rfl
    · intro m' hm'
      rcases List.mem_cons.mp hm' with rfl | hm'
      · exact hm
      · exact hbound m' hm'
    · rw [List.mapM_cons, hdecode, hfragments]
      rfl
    · simp only [List.map_cons, Reassembler.feedAll, hfeeds r, hfeed]

/-! ### The ceiling -/

/-- The largest fragment payload for a ceiling leaves room for the header and the longest pad. -/
theorem RespQueue.maxFragmentPayload_add (form : AcfForm) {maxAvtpdu : UInt64}
    (h : maxFragmentPayload maxAvtpdu (UInt64.ofNat form.headerLen) ≠ 0) :
    form.headerLen + (maxFragmentPayload maxAvtpdu (UInt64.ofNat form.headerLen)).toNat + 3 = maxAvtpdu.toNat := by
  have hreserved : (UInt64.ofNat form.headerLen + 3).toNat = form.headerLen + 3 := by
    cases form with
    | abb => rfl
    | gbb => rfl
  unfold maxFragmentPayload at h ⊢
  split
  · simp_all
  dsimp only at h ⊢
  split
  · simp_all
  rename_i hreserve
  rw [ge_iff_le, UInt64.le_iff_toNat_le, hreserved] at hreserve
  rw [UInt64.toNat_sub_of_le, hreserved]
  · omega
  · rw [UInt64.le_iff_toNat_le, hreserved]
    omega

theorem RespQueue.push_of_fits {capacity maxAvtpdu : UInt64} {calls : List RespQueueCall} {q : RespQueue}
    (hrun : RespQueue.run capacity maxAvtpdu calls = some q) {b : RcpBytes}
    (hmax : maxAvtpdu ≠ 0 → b.data.length ≤ maxAvtpdu.toNat) (hcap : capacity = 0 ∨ b.data.length ≤ capacity.toNat) :
    ∃ q', q.push b = some (true, q') := by
  obtain ⟨q', hrun', hinv, hcapacity, hceiling, -⟩ := foldlM_spec (init_inv capacity maxAvtpdu) calls
  rw [RespQueue.run, hrun', Option.some.injEq] at hrun
  subst hrun
  rcases push_spec hinv b with ⟨hbig, -⟩ | ⟨q'', -, hpush, -⟩
  · rcases hbig with ⟨hne, hlt⟩ | ⟨hne, hlt⟩
    · rw [hceiling] at hne hlt
      exact absurd (hmax hne) (Nat.not_le.mpr hlt)
    · rw [hcapacity] at hne hlt
      rcases hcap with h0 | hle
      · exact absurd h0 hne
      · exact absurd hle (Nat.not_le.mpr hlt)
  · exact ⟨q'', hpush⟩

/-- The encoder has room for the longest segment, and the ceiling has room for the header of an empty message. -/
structure Sendable (form : AcfForm) (maxAvtpdu : UInt64) (payload : Octets) : Prop where
  header : payload = [] → maxAvtpdu = 0 ∨ form.headerLen ≤ maxAvtpdu.toNat
  segment : payload ≠ [] →
    min payload.length (RespQueue.maxFragmentPayload maxAvtpdu (UInt64.ofNat form.headerLen)).toNat ≤ form.maxPayload

theorem mem_planOf_segmentNum {payloadLen maxPayload n : Nat} (hn : n ≤ fragmentMaxIntermediateSegments) :
    ∀ seg ∈ planOf payloadLen maxPayload n, seg.ms = true → seg.segmentNum &&& 0xFFF = seg.segmentNum := by
  intro seg hseg hms
  rcases List.mem_append.mp hseg with hseg | hseg
  · obtain ⟨i, hi, rfl⟩ := List.mem_map.mp hseg
    exact ofNat_and_segmentMask (Nat.lt_of_lt_of_le (List.mem_range.mp hi) hn)
  · rw [List.mem_singleton.mp hseg] at hms
    cases hms

/-- Each segment of a plan for the ceiling is encoded within it. -/
theorem Sendable.each {form : AcfForm} {maxAvtpdu : UInt64} {payload : Octets} (h : Sendable form maxAvtpdu payload)
    {n : Nat}
    (hn : Planned payload.length (RespQueue.maxFragmentPayload maxAvtpdu (UInt64.ofNat form.headerLen)).toNat n)
    (hdr : Acf.GbbHeader) :
    ∀ seg ∈ planOf payload.length (RespQueue.maxFragmentPayload maxAvtpdu (UInt64.ofNat form.headerLen)).toNat n,
      ∃ m, form.encodeSegment hdr payload seg = some m ∧ (maxAvtpdu ≠ 0 → m.length ≤ maxAvtpdu.toNat) ∧
        ∃ f, form.decode m = some f ∧ f.FeedsAs (seg.cut payload) := by
  intro seg hseg
  have hnum := mem_planOf_segmentNum hn.few seg hseg
  by_cases hempty : payload = []
  · have hcut : (seg.cut payload).payload.length = 0 := by
      rw [hempty, FragmentSegment.cut, Lib.slice, List.drop_nil, List.take_nil]
      rfl
    have hpad : Acf.padLen (form.headerLen + 0) = 0 := by cases form <;> rfl
    obtain ⟨m, hencode, hmlen, hdecode⟩ := form.encodeSegment_spec hdr payload seg (by rw [hcut]; exact Nat.zero_le _) hnum
    rw [hcut, hpad] at hmlen
    refine ⟨m, hencode, fun hne => ?_, hdecode⟩
    rcases h.header hempty with h0 | hle
    · exact absurd h0 hne
    · omega
  · have hlen := List.length_pos_of_ne_nil hempty
    have hcut : (seg.cut payload).payload.length ≤ min seg.len payload.length := by
      rw [FragmentSegment.cut, Lib.slice, FragmentSegment.span, List.length_take, List.length_drop]
      omega
    have hseglen := hn.len_le seg hseg
    have hsegment := h.segment hempty
    obtain ⟨m, hencode, hmlen, hdecode⟩ := form.encodeSegment_spec hdr payload seg (by omega) hnum
    refine ⟨m, hencode, fun _ => ?_, hdecode⟩
    have hbudget : RespQueue.maxFragmentPayload maxAvtpdu (UInt64.ofNat form.headerLen) ≠ 0 := by
      intro h0
      have hrest := hn.rest
      rw [h0] at hrest
      simp only [UInt64.toNat_zero, Nat.mul_zero] at hrest
      omega
    have hmax := RespQueue.maxFragmentPayload_add form hbudget
    have hpad := Acf.padLen_lt (form.headerLen + (seg.cut payload).payload.length)
    omega

/-- A message cut up for the ceiling of a response queue is encoded segment by segment within the ceiling, each
    fragment passes the queue, and the fragments decode and come together to the payload. -/
theorem fragments_sendable (form : AcfForm) (hdr : Acf.GbbHeader) (maxAvtpdu payloadLen count : UInt64)
    (payload : Octets) (plan : List FragmentSegment) (hlen : payload.length = payloadLen.toNat)
    (hplan : SizeT.fragmentPlan payloadLen (RespQueue.maxFragmentPayload maxAvtpdu (UInt64.ofNat form.headerLen)) count =
      .ok plan)
    (hsendable : Sendable form maxAvtpdu payload) :
    ∃ frames, plan.mapM (form.encodeSegment hdr payload) = some frames ∧
      (∀ m ∈ frames, (maxAvtpdu ≠ 0 → m.length ≤ maxAvtpdu.toNat) ∧
        ∀ (capacity : UInt64) (calls : List RespQueueCall) (q : RespQueue) (b : RcpBytes),
          RespQueue.run capacity maxAvtpdu calls = some q → b.data = m → capacity = 0 ∨ m.length ≤ capacity.toNat →
            ∃ q', q.push b = some (true, q')) ∧
      ∃ fragments, frames.mapM form.decode = some fragments ∧
        ∀ r : Reassembler, r.Fresh → payload.length ≤ r.maxTotalLen →
          (r.feedAll fragments).1 = plan.map (fun seg => if seg.ms then .continue else .complete) ∧
            (r.feedAll fragments).2.buf = payload := by
  obtain ⟨n, hn, rfl⟩ := SizeT.fragmentPlan_planned hplan
  rw [← hlen] at hn ⊢
  obtain ⟨frames, hframes, hbound, fragments, hfragments, hfeed⟩ := feedAll_of_each (hsendable.each hn hdr)
  refine ⟨frames, hframes, fun m hm => ⟨hbound m hm, ?_⟩, fragments, hfragments, fun r hfresh hmax => ?_⟩
  · rintro capacity calls q b hrun rfl hcap
    exact RespQueue.push_of_fits hrun (hbound _ hm) hcap
  · rw [hfeed, hfresh.eq_init, Reassembler.feedAll_plan hmax]
    exact ⟨(Reassembler.planOf_results ..).symm, rfl⟩

/-- Seven octets under a ceiling of sixteen. -/
theorem fragments_sendable_twoSegments :
    ∃ frames, (planOf 7 5 1).mapM (AcfForm.abb.encodeSegment {} [1, 2, 3, 4, 5, 6, 7]) = some frames ∧
      ∀ m ∈ frames, m.length ≤ 16 := by
  obtain ⟨frames, hframes, hbound, -⟩ := fragments_sendable .abb {} 16 7 2 [1, 2, 3, 4, 5, 6, 7] (planOf 7 5 1) rfl rfl
    { header := fun h => absurd h (by decide), segment := fun _ => by decide }
  exact ⟨frames, hframes, fun m hm => (hbound m hm).1 (by decide)⟩

/-- An empty message is never fragmented, and its header can be over the ceiling; a ceiling beyond what an ACF
    message can hold leaves segments no encoder takes. -/
theorem fragments_not_sendable :
    (¬∀ (form : AcfForm) (hdr : Acf.GbbHeader) (maxAvtpdu payloadLen count : UInt64) (payload : Octets)
      (plan : List FragmentSegment), payload.length = payloadLen.toNat → maxAvtpdu ≠ 0 →
      SizeT.fragmentPlan payloadLen (RespQueue.maxFragmentPayload maxAvtpdu (UInt64.ofNat form.headerLen)) count =
        .ok plan →
      ∀ frames, plan.mapM (form.encodeSegment hdr payload) = some frames → ∀ m ∈ frames, m.length ≤ maxAvtpdu.toNat) ∧
    ¬∀ (form : AcfForm) (hdr : Acf.GbbHeader) (maxAvtpdu payloadLen count : UInt64) (payload : Octets)
      (plan : List FragmentSegment), payload.length = payloadLen.toNat → payload ≠ [] →
      SizeT.fragmentPlan payloadLen (RespQueue.maxFragmentPayload maxAvtpdu (UInt64.ofNat form.headerLen)) count =
        .ok plan →
      ∃ frames, plan.mapM (form.encodeSegment hdr payload) = some frames := by
  refine ⟨fun h => ?_, fun h => ?_⟩
  · exact absurd (h .abb {} 4 0 1 [] (planOf 0 0 0) rfl (by decide) rfl
      [[0x1C, 2, 0, 0, 0, 0, 0x80, 0]] (by decide) [0x1C, 2, 0, 0, 0, 0, 0x80, 0] (by decide)) (by decide)
  · obtain ⟨frames, hframes⟩ := h .abb {} 4000 3000 1 (List.replicate 3000 0) (planOf 3000 3989 0)
      (by rw [List.length_replicate]; rfl) (by rw [List.replicate_succ]; exact List.cons_ne_nil _ _) rfl
    have hcut : ((finalSegment 3000 3989 0).cut (List.replicate 3000 0)).payload.length > Acf.abbMaxPayload := by
      simp only [FragmentSegment.cut, FragmentSegment.span, finalSegment, Lib.slice, Nat.zero_mul, List.drop_zero,
        Nat.sub_zero, List.length_take, List.length_replicate]
      decide
    have hnone : AcfForm.abb.encodeSegment {} (List.replicate 3000 0) (finalSegment 3000 3989 0) = none := by
      rw [AcfForm.encodeSegment, AcfForm.encode, Acf.encodeAbb, if_pos hcut]
    rw [planOf, List.range_zero, List.map_nil, List.nil_append, List.mapM_cons, hnone] at hframes
    cases hframes

end Rcp
