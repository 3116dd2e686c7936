import Rcp.Discovery
import Rcp.Uart
import Rcp.Theorems.FrameFormats
import Rcp.Theorems.Framing
import Rcp.Theorems.Sendable

/-! Responses in fragments. What a fragmented encoder sends is decoded fragment by fragment and comes together again, as
    long as the segment numbers fit the octet in which a fragment decoder returns them. -/

namespace Rcp
open Acf

/-! ### Plans -/

namespace Planned

variable {payloadLen maxPayload n n' : Nat}

theorem le_of (h : Planned payloadLen maxPayload n) (h' : Planned payloadLen maxPayload n') : n ≤ n' := by
  rcases Nat.eq_zero_or_pos n with rfl | hn
  · exact Nat.zero_le _
  have hbelow := h.below (Nat.ne_of_gt hn)
  have hrest := h'.rest
  refine Nat.le_of_not_lt fun hlt => ?_
  have := Nat.mul_le_mul_right maxPayload (Nat.succ_le_of_lt hlt)
  rw [Nat.succ_mul] at this
  omega

/-- A payload has one plan only. -/
theorem unique (h : Planned payloadLen maxPayload n) (h' : Planned payloadLen maxPayload n') : n = n' :=
  Nat.le_antisymm (h.le_of h') (h'.le_of h)

/-- At most `k` segments are planned exactly for what `k` segments can hold. -/
theorem lt_iff (h : Planned payloadLen maxPayload n) {k : Nat} (hk : 0 < k) : n < k ↔ payloadLen ≤ k * maxPayload := by
  have hrest := h.rest
  constructor
  · intro hlt
    have := Nat.mul_le_mul_right maxPayload (Nat.succ_le_of_lt hlt)
    rw [Nat.succ_mul] at this
    omega
  · intro hle
    refine Nat.lt_of_not_le fun hkn => ?_
    have hbelow := h.below (by omega)
    have := Nat.mul_le_mul_right maxPayload hkn
    omega

end Planned

/-! ### Frames decoded one by one -/

theorem mapM_decode {α β γ : Type} {encode : α → Option β} {decode : β → Option γ} {g : α → γ} {l : List α}
    {frames : List β} (h : l.mapM encode = some frames)
    (hdec : ∀ a ∈ l, ∀ m, encode a = some m → decode m = some (g a)) : frames.mapM decode = some (l.map g) := by
  induction l generalizing frames with
  | nil =>
    obtain rfl := Option.some.inj h
    rfl
  | cons a rest ih =>
    rw [List.mapM_cons] at h
    obtain ⟨m, hm, h⟩ := Option.bind_eq_some_iff.mp h
    obtain ⟨ms, hms, h⟩ := Option.bind_eq_some_iff.mp h
    obtain rfl := Option.some.inj h
    rw [List.mapM_cons, hdec a List.mem_cons_self m hm, ih hms fun b hb => hdec b (List.mem_cons_of_mem _ hb)]
    rfl

/-! ### Feeding -/

/-- All fragments but the last continue, the last completes, and the octets are those of the payload. -/
def Reassembles (maxTotalLen : Nat) (fragments : List DecodedFragment) (payload : Octets) : Prop :=
  ((Reassembler.init maxTotalLen).feedAll fragments).1 =
      List.replicate (fragments.length - 1) .continue ++ [.complete] ∧
    ((Reassembler.init maxTotalLen).feedAll fragments).2.buf = payload

namespace Reassembler

theorem feedAll_congr {α : Type} {f g : α → DecodedFragment} {l : List α} (h : ∀ a ∈ l, (f a).FeedsAs (g a))
    (r : Reassembler) : r.feedAll (l.map f) = r.feedAll (l.map g) := by
  induction l generalizing r with
  | nil => rfl
  | cons a rest ih =>
    have hrest := ih fun b hb => h b (List.mem_cons_of_mem _ hb)
    simp only [List.map_cons, feedAll, h a List.mem_cons_self r, hrest]

end Reassembler

theorem reassembles_planOf {maxTotalLen maxPayload n : Nat} {payload : Octets} (hlen : payload.length ≤ maxTotalLen)
    {f : FragmentSegment → DecodedFragment}
    (h : ∀ seg ∈ planOf payload.length maxPayload n, (f seg).FeedsAs (seg.cut payload)) :
    Reassembles maxTotalLen ((planOf payload.length maxPayload n).map f) payload := by
  have hcount : (planOf payload.length maxPayload n).length = n + 1 := by
    rw [planOf, List.length_append, List.length_map, List.length_range, List.length_singleton]
  rw [Reassembles, Reassembler.feedAll_congr h, Reassembler.feedAll_plan hlen, List.length_map, hcount]
  exact ⟨rfl, rfl⟩

theorem planOf_split (payloadLen maxPayload m k : Nat) :
    ∃ rest, planOf payloadLen maxPayload (m + (k + 1)) =
      (List.range m).map (intermediate maxPayload) ++ intermediate maxPayload m :: rest := by
  rw [planOf, List.range_add, List.range_succ_eq_map]
  simp only [List.map_append, List.map_cons, List.append_assoc, List.cons_append, Nat.add_zero]
  exact ⟨_, rfl⟩

/-- The segment number `256` is lost in an octet. -/
theorem not_reassembles_planOf {maxTotalLen maxPayload n : Nat} {payload : Octets} (hlen : payload.length ≤ maxTotalLen)
    (hn : 256 < n) {f : FragmentSegment → DecodedFragment}
    (hlow : ∀ i < 256, (f (intermediate maxPayload i)).FeedsAs ((intermediate maxPayload i).cut payload))
    (hms : (f (intermediate maxPayload 256)).ms = true)
    (hlost : (f (intermediate maxPayload 256)).segmentNum = 0) :
    ¬Reassembles maxTotalLen ((planOf payload.length maxPayload n).map f) payload := by
  -- the first 256 fragments are taken; the next one is out of order
  obtain ⟨k, rfl⟩ : ∃ k, n = 256 + (k + 1) := ⟨n - 257, by omega⟩
  obtain ⟨rest, hsplit⟩ := planOf_split payload.length maxPayload 256 k
  have hfirst : (Reassembler.init maxTotalLen).feedAll (((List.range 256).map (intermediate maxPayload)).map f) =
      (List.replicate 256 .continue, Reassembler.behind maxTotalLen payload maxPayload 256) := by
    rw [Reassembler.feedAll_congr (g := FragmentSegment.cut payload) fun seg hseg => ?_,
      Reassembler.feedAll_intermediates hlen]
    obtain ⟨i, hi, rfl⟩ := List.mem_map.mp hseg
    exact hlow i (List.mem_range.mp hi)
  have hbad : ((Reassembler.behind maxTotalLen payload maxPayload 256).feed (f (intermediate maxPayload 256)).ms
      (f (intermediate maxPayload 256)).segmentNum (f (intermediate maxPayload 256)).payload).1 = .outOfOrder := by
    rw [hms, hlost]
    rfl
  rintro ⟨hresults, -⟩
  have hmem : ReasmResult.outOfOrder ∈
      ((Reassembler.init maxTotalLen).feedAll ((planOf payload.length maxPayload (256 + (k + 1))).map f)).1 := by
    rw [hsplit, List.map_append, Reassembler.feedAll_append, hfirst]
    refine List.mem_append_right _ ?_
    rw [← hbad]
    exact List.mem_cons_self
  rw [hresults] at hmem
  simp at hmem

/-! ### The fragments of a response -/

/-- What is fed of a fragment. -/
def EpFragment.fed (f : EpFragment) : DecodedFragment :=
  { ms := f.ms, segmentNum := f.segmentNum.toUInt16, payload := f.payload }

/-- The fragment a decoder finds in a segment that was sent. -/
def sentFragment (payload : Octets) (timed : Bool) (timestamp : UInt64) (transactionNum : UInt8)
    (seg : FragmentSegment) : EpFragment where
  ms := seg.ms
  segmentNum := ((if seg.ms then seg.segmentNum else 0) &&& 0xFFF).toUInt8
  payload := (seg.cut payload).payload
  timed := timed
  timestamp := if timed then timestamp else 0
  transactionNum := transactionNum

theorem sentResponse_fragment (info : ByteMessageInfo) (payload : Octets) (timed : Bool) (timestamp : UInt64)
    (seg : FragmentSegment) :
    (sentResponse
        { info with ms := if seg.ms then 1 else 0, readSizeOrSegmentNum := if seg.ms then seg.segmentNum else 0 }
        (Lib.slice payload (seg.offset, seg.len)) timed timestamp).fragment =
      sentFragment payload timed timestamp info.transactionNum seg := by
  have hms : ((if seg.ms then 1 else 0 : UInt8) &&& 0x1 != 0) = seg.ms := by
    cases seg.ms <;> rfl
  simp only [EpResponse.fragment, sentResponse_ms, sentResponse_segmentNum, sentResponse_payload, sentResponse_timed,
    sentResponse_timestamp, sentResponse_transactionNum, hms]
  rfl

/-- The fragments that are decoded from the frames of a plan. -/
theorem epDecodeFragments {info : ByteMessageInfo} {payload : Octets} {timed : Bool} {timestamp : UInt64}
    {segs : List FragmentSegment} {frames : List Octets} {decode : Octets → Except EpErrc EpFragment}
    (h : epEncodeResponseFragments info payload timed timestamp segs = some frames)
    (hdec : ∀ b r, epDecodeResponse b (info.byteBusId &&& 0x7FF) = .ok r → evtRow2IsPlain r.info.evt = true →
      decode b = .ok r.fragment) (hevt : info.evt = 0) :
    frames.mapM (fun b => (decode b).toOption) =
      some (segs.map (sentFragment payload timed timestamp info.transactionNum)) := by
  refine mapM_decode h fun seg _ m hm => ?_
  have hresponse := epDecodeResponse_encoded hm
  rw [hdec m _ hresponse (by rw [sentResponse_evt, hevt]; exact evtRow2IsPlain_zero), sentResponse_fragment]
  rfl

theorem sentFragment_agrees {payload : Octets} {timed : Bool} {timestamp : UInt64} {transactionNum : UInt8}
    {segs : List FragmentSegment} :
    ∀ f ∈ segs.map (sentFragment payload timed timestamp transactionNum),
      f.timed = timed ∧ f.timestamp = (if timed then timestamp else 0) ∧ f.transactionNum = transactionNum := by
  intro f hf
  obtain ⟨seg, -, rfl⟩ := List.mem_map.mp hf
  exact ⟨rfl, rfl, rfl⟩

/-- A number below 256 comes through the octet. -/
theorem ofNat_toUInt8_toUInt16 {i : Nat} (hi : i < 256) : (UInt16.ofNat i).toUInt8.toUInt16 = UInt16.ofNat i := by
  apply UInt16.toNat_inj.mp
  rw [UInt8.toNat_toUInt16, UInt16.toNat_toUInt8, UInt16.toNat_ofNat_of_lt' (by rw [UInt16.size]; omega)]
  exact Nat.mod_eq_of_lt hi

variable {payload : Octets} {maxPayload : Nat} {timed : Bool} {timestamp : UInt64} {transactionNum : UInt8}

theorem sentFragment_intermediate {i : Nat} (hi : i < fragmentMaxIntermediateSegments) :
    (sentFragment payload timed timestamp transactionNum (intermediate maxPayload i)).segmentNum =
      (UInt16.ofNat i).toUInt8 := by
  simp only [sentFragment, intermediate, if_true, ofNat_and_segmentMask hi]

theorem sentFragment_feeds_intermediate {i : Nat} (hi : i < 256) :
    (sentFragment payload timed timestamp transactionNum (intermediate maxPayload i)).fed.FeedsAs
      ((intermediate maxPayload i).cut payload) := by
  intro r
  rw [EpFragment.fed, sentFragment_intermediate (Nat.lt_trans hi (by decide)), ofNat_toUInt8_toUInt16 hi]
  rfl

theorem sentFragment_feeds_final (n : Nat) :
    (sentFragment payload timed timestamp transactionNum (finalSegment payload.length maxPayload n)).fed.FeedsAs
      ((finalSegment payload.length maxPayload n).cut payload) :=
  fun r => feed_unnumbered r _ _ _

theorem forall_mem_planOf {P : FragmentSegment → Prop} {payloadLen n : Nat}
    (hlow : ∀ i < n, P (intermediate maxPayload i)) (hlast : P (finalSegment payloadLen maxPayload n)) :
    ∀ seg ∈ planOf payloadLen maxPayload n, P seg := by
  intro seg hseg
  rcases List.mem_append.mp hseg with hseg | hseg
  · obtain ⟨i, hi, rfl⟩ := List.mem_map.mp hseg
    exact hlow i (List.mem_range.mp hi)
  · rw [List.mem_singleton.mp hseg]
    exact hlast

/-- At most 257 fragments come together again, and no more. -/
theorem reassembles_sent_iff {maxTotalLen n : Nat} (hlen : payload.length ≤ maxTotalLen)
    (hn : Planned payload.length maxPayload n) :
    Reassembles maxTotalLen
        (((planOf payload.length maxPayload n).map (sentFragment payload timed timestamp transactionNum)).map
          EpFragment.fed) payload ↔ n < 257 := by
  rw [List.map_map]
  constructor
  · intro h
    refine Nat.lt_of_not_le fun hlong => not_reassembles_planOf hlen hlong ?_ rfl ?_ h
    · exact fun i hi => sentFragment_feeds_intermediate hi
    · have := hn.few
      change (sentFragment payload timed timestamp transactionNum (intermediate maxPayload 256)).segmentNum.toUInt16 = 0
      rw [sentFragment_intermediate (by decide)]
      rfl
  · intro hshort
    exact reassembles_planOf hlen
      (forall_mem_planOf (fun i hi => sentFragment_feeds_intermediate (by omega)) (sentFragment_feeds_final n))

/-! ### The fragments of a discovery response -/

def DiscoveryFragment.fed (f : DiscoveryFragment) : DecodedFragment :=
  { ms := f.ms, segmentNum := f.segmentNum.toUInt16, payload := f.payload }

def sentDiscoveryFragment (payload : Octets) (readSize : UInt8) (serverStreamId : StreamId)
    (seg : FragmentSegment) : DiscoveryFragment where
  serverStreamId := serverStreamId
  ms := seg.ms
  segmentNum := ((if seg.ms then seg.segmentNum else readSize.toUInt16) &&& 0xFFF).toUInt8
  payload := (seg.cut payload).payload

theorem discoveryDecodeFragments {payload : Octets} {readSize transactionNum : UInt8} {serverStreamId : StreamId}
    {segs : List FragmentSegment} {frames : List Octets}
    (h : segs.mapM (fun seg =>
        discoveryEncode
          { discoveryResponseHeader transactionNum with
            ms := if seg.ms then 1 else 0
            readSizeOrSegmentNum := if seg.ms then seg.segmentNum else readSize.toUInt16 }
          (Lib.slice payload (seg.offset, seg.len)) serverStreamId) = some frames) :
    frames.mapM (fun b => (discoveryDecodeResponseFragment b).toOption) =
      some (segs.map (sentDiscoveryFragment payload readSize serverStreamId)) := by
  refine mapM_decode h fun seg _ m hm => ?_
  have hms : ((if seg.ms then 1 else 0 : UInt8) &&& 0x1 != 0) = seg.ms := by
    cases seg.ms <;> rfl
  rw [discoveryDecodeResponseFragment, discoveryDecodeCommon_encoded hm rfl rfl]
  change some ({ serverStreamId, ms := (if seg.ms then 1 else 0 : UInt8) &&& 0x1 != 0, segmentNum := _, payload := _ } :
    DiscoveryFragment) = _
  rw [hms]
  rfl

theorem slice_take {l : Octets} {k offset len : Nat} (h : offset + len ≤ k) :
    Lib.slice (l.take k) (offset, len) = Lib.slice l (offset, len) := by
  simp only [Lib.slice, List.drop_take, List.take_take, Nat.min_eq_left (show len ≤ k - offset by omega)]

/-- The segments of a plan lie in the payload. -/
theorem Planned.inside {payloadLen n : Nat} (h : Planned payloadLen maxPayload n) :
    ∀ seg ∈ planOf payloadLen maxPayload n, seg.offset + seg.len ≤ payloadLen := by
  have hle := h.le
  refine forall_mem_planOf (fun i hi => ?_) ?_
  · have := Nat.mul_le_mul_right maxPayload (Nat.succ_le_of_lt hi)
    rw [Nat.succ_mul] at this
    exact Nat.le_trans this hle
  · exact Nat.le_of_eq (Nat.add_sub_cancel' hle)

theorem discovery_reassembles {maxTotalLen n k : Nat} {readSize : UInt8} {serverStreamId : StreamId}
    (hk : k ≤ payload.length) (hlen : k ≤ maxTotalLen) (hn : Planned k maxPayload n) (hshort : n < 257) :
    Reassembles maxTotalLen
      (((planOf k maxPayload n).map (sentDiscoveryFragment payload readSize serverStreamId)).map DiscoveryFragment.fed)
      (payload.take k) := by
  have hkeep : (payload.take k).length = k := List.length_take_of_le hk
  rw [List.map_map]
  conv in planOf k _ _ => rw [← hkeep]
  have hcut : ∀ seg ∈ planOf k maxPayload n, seg.cut payload = seg.cut (payload.take k) := by
    intro seg hseg
    rw [FragmentSegment.cut, FragmentSegment.cut, FragmentSegment.span, slice_take (hn.inside seg hseg)]
  have hfeeds : ∀ seg ∈ planOf k maxPayload n,
      (sentDiscoveryFragment payload readSize serverStreamId seg).fed.FeedsAs (seg.cut payload) := by
    refine forall_mem_planOf (fun i hi => ?_) fun r => feed_unnumbered r _ _ _
    have hnum : (sentDiscoveryFragment payload readSize serverStreamId (intermediate maxPayload i)).segmentNum =
        (UInt16.ofNat i).toUInt8 := by
      simp only [sentDiscoveryFragment, intermediate, if_true, ofNat_and_segmentMask (Nat.lt_of_lt_of_le hi hn.few)]
    intro r
    rw [DiscoveryFragment.fed, hnum, ofNat_toUInt8_toUInt16 (by omega)]
    rfl
  refine reassembles_planOf (by rw [hkeep]; exact hlen) ?_
  rw [hkeep]
  exact fun seg hseg => hcut seg hseg ▸ hfeeds seg hseg

/-! ### The three encoders -/

theorem uartDecodeReadResponseFragment_of {b : Octets} {byteBusId : ByteBusId} {r : EpResponse}
    (h : epDecodeResponse b byteBusId = .ok r) : uartDecodeReadResponseFragment b byteBusId = .ok r.fragment := by
  rw [uartDecodeReadResponseFragment, h]
  rfl

theorem canDecodeFrameResponseFragment_of {b : Octets} {byteBusId : ByteBusId} {r : EpResponse}
    (h : epDecodeResponse b byteBusId = .ok r) (hevt : evtRow2IsPlain r.info.evt = true) :
    canDecodeFrameResponseFragment b byteBusId = .ok r.fragment := by
  rw [canDecodeFrameResponseFragment, h]
  simp [bind, Except.bind, hevt]

theorem uartEncodeFragmented_eq_some {byteBusId : ByteBusId} {rxData : Octets} {maxFragmentPayload : UInt64}
    {frames : List Octets} (hsize : rxData.length < 2 ^ 64)
    (h : uartEncodeReadResponseFragmented byteBusId rxData transactionNum timed timestamp maxFragmentPayload =
      some frames) :
    ∃ n, Planned rxData.length maxFragmentPayload.toNat n ∧
      epEncodeResponseFragments (uartReadResponseHeader byteBusId transactionNum) rxData timed timestamp
        (planOf rxData.length maxFragmentPayload.toNat n) = some frames := by
  unfold uartEncodeReadResponseFragmented at h
  simp only at h
  split at h
  · cases h
  split at h
  · cases h
  rename_i segs hplan
  obtain ⟨n, hn, rfl⟩ := SizeT.fragmentPlan_planned hplan
  rw [UInt64.toNat_ofNat_of_lt' hsize] at hn h
  exact ⟨n, hn, h⟩

/-- A count that is not 0 is the length of the plan. -/
theorem planned_of_count {payloadLen maxPayload count : UInt64} {segs : List FragmentSegment}
    (hcount : count = SizeT.fragmentPlanCount payloadLen maxPayload) (hzero : count ≠ 0)
    (hplan : SizeT.fragmentPlan payloadLen maxPayload count = .ok segs) :
    ∃ n, Planned payloadLen.toNat maxPayload.toNat n ∧ count.toNat = n + 1 ∧
      segs = planOf payloadLen.toNat maxPayload.toNat n := by
  subst hcount
  obtain ⟨n, hn, hcount⟩ := SizeT.fragmentPlanCount_planned hzero
  obtain ⟨n', hn', hsegs⟩ := SizeT.fragmentPlan_planned hplan
  obtain rfl := hn.unique hn'
  exact ⟨n, hn, hcount, hsegs⟩

theorem canBuildPayload_length (f : CanFrame) :
    (canBuildPayload f).length = canPrefixLenFor f.frameFormat + f.data.length := by
  rw [canBuildPayload, List.length_append, canWritePrefix_length]

theorem canPrefixLenFor_le (format : UInt32) : canPrefixLenFor format ≤ 10 := by
  rw [canPrefixLenFor]
  split <;> decide

theorem canFrameFormatMaxDataLen_le (format : UInt32) : canFrameFormatMaxDataLen format ≤ 2048 := by
  rw [canFrameFormatMaxDataLen]
  repeat' split
  all_goals decide

theorem canEncodeFragmented_eq_some {byteBusId : ByteBusId} {f : CanFrame} {maxFragmentPayload : UInt64}
    {frames : List Octets}
    (h : canEncodeFrameResponseFragmented byteBusId f transactionNum timed timestamp maxFragmentPayload = some frames) :
    canEncodePreconditionsOk f = true ∧
      ∃ n, n < 257 ∧ Planned (canBuildPayload f).length maxFragmentPayload.toNat n ∧
        epEncodeResponseFragments (canResponseHeader byteBusId transactionNum) (canBuildPayload f) timed timestamp
          (planOf (canBuildPayload f).length maxFragmentPayload.toNat n) = some frames := by
  unfold canEncodeFrameResponseFragmented at h
  simp only at h
  split at h
  · cases h
  rename_i hzero
  split at h
  · cases h
  rename_i segs hplan
  generalize hcount : canFrameResponseFragmentCount f maxFragmentPayload = count at hzero hplan
  unfold canFrameResponseFragmentCount at hcount
  split at hcount
  · exact absurd hcount.symm hzero
  rename_i hpre
  have hpre' : canEncodePreconditionsOk f = true := by simpa using hpre
  rw [← canBuildPayload_length] at hcount
  simp only at hcount
  split at hcount
  · exact absurd hcount.symm hzero
  rename_i hfew
  obtain ⟨n, hn, hlen, rfl⟩ := planned_of_count hcount.symm hzero hplan
  have hsize : (canBuildPayload f).length < 2 ^ 64 := by
    have hdata := (canEncodePreconditionsOk_iff.mp hpre').2.2.1
    have := canPrefixLenFor_le f.frameFormat
    have := canFrameFormatMaxDataLen_le f.frameFormat
    rw [canBuildPayload_length]
    omega
  rw [UInt64.toNat_ofNat_of_lt' hsize] at hn h
  refine ⟨hpre', n, ?_, hn, h⟩
  have hle := UInt64.le_iff_toNat_le.mp (UInt64.not_lt.mp hfew)
  rw [hcount, hlen] at hle
  exact Nat.lt_of_lt_of_le (Nat.lt_succ_self n) (Nat.le_trans hle (by decide))

theorem discoveryPayload_length (map : RegmapGeneral) (readSize : UInt8) :
    (discoveryPayload map readSize).length = 256 := by
  by_cases h : readSize.toNat < discoveryGeneralSliceLen
  all_goals
    simp only [discoveryPayload, h, if_true, if_false, List.length_append, List.length_take, List.length_replicate,
      putU32_length, putU16_length]
    rw [discoveryGeneralSliceLen] at *
    omega

theorem discoveryEncodeFragmented_eq_some {map : RegmapGeneral} {readSize : UInt8} {serverStreamId : StreamId}
    {maxFragmentPayload : UInt64} {frames : List Octets}
    (h : discoveryEncodeResponseFragmented map readSize transactionNum serverStreamId maxFragmentPayload = some frames) :
    ∃ n, n < 257 ∧ Planned readSize.toNat maxFragmentPayload.toNat n ∧
      frames.mapM (fun b => (discoveryDecodeResponseFragment b).toOption) =
        some ((planOf readSize.toNat maxFragmentPayload.toNat n).map
          (sentDiscoveryFragment (discoveryPayload map readSize) readSize serverStreamId)) := by
  unfold discoveryEncodeResponseFragmented at h
  simp only at h
  split at h
  · cases h
  rename_i hzero
  split at h
  · cases h
  rename_i hfew
  split at h
  · cases h
  rename_i segs hplan
  obtain ⟨n, hn, hlen, rfl⟩ := planned_of_count rfl hzero hplan
  rw [UInt8.toNat_toUInt64] at hn h
  refine ⟨n, ?_, hn, discoveryDecodeFragments h⟩
  have hle := UInt64.le_iff_toNat_le.mp (UInt64.not_lt.mp hfew)
  rw [discoveryResponseFragmentCount, hlen] at hle
  exact Nat.lt_of_lt_of_le (Nat.lt_succ_self n) (Nat.le_trans hle (by decide))

/-- Fragments of UART read responses come together again exactly when 257 segments can hold the data: the numbers of
    more do not fit the octet. The encoders of CAN and discovery responses do not send that many, so that their fragments
    always come together, to what is decoded as the whole response is; of CAN, that is the frame that was encoded exactly
    when its format is a value of the enumeration. -/
theorem response_fragments_iff (byteBusId : ByteBusId) (transactionNum : UInt8) (timed : Bool)
    (timestamp maxFragmentPayload : UInt64) (maxTotalLen : Nat) (frames : List Octets) :
    (∀ rxData, rxData.length < 2 ^ 64 →
      uartEncodeReadResponseFragmented byteBusId rxData transactionNum timed timestamp maxFragmentPayload = some frames →
      rxData.length ≤ maxTotalLen →
      ∃ fragments,
        frames.mapM (fun b => (uartDecodeReadResponseFragment b (byteBusId &&& 0x7FF)).toOption) = some fragments ∧
        (∀ f ∈ fragments, f.timed = timed ∧ f.timestamp = (if timed then timestamp else 0) ∧
          f.transactionNum = transactionNum) ∧
        (Reassembles maxTotalLen (fragments.map EpFragment.fed) rxData ↔
          rxData.length ≤ 257 * maxFragmentPayload.toNat)) ∧
    (∀ f,
      canEncodeFrameResponseFragmented byteBusId f transactionNum timed timestamp maxFragmentPayload = some frames →
      (canBuildPayload f).length ≤ maxTotalLen →
      ∃ fragments,
        frames.mapM (fun b => (canDecodeFrameResponseFragment b (byteBusId &&& 0x7FF)).toOption) = some fragments ∧
        (∀ f ∈ fragments, f.timed = timed ∧ f.timestamp = (if timed then timestamp else 0) ∧
          f.transactionNum = transactionNum) ∧
        ∃ reassembled, Reassembles maxTotalLen (fragments.map EpFragment.fed) reassembled ∧
          (canDecodeReassembledFrameResponse reassembled = .ok f ↔ f.frameFormat ≤ canFrameXlNewPl)) ∧
    (∀ map readSize serverStreamId,
      discoveryEncodeResponseFragmented map readSize transactionNum serverStreamId maxFragmentPayload = some frames →
      readSize.toNat ≤ maxTotalLen →
      ∃ fragments, frames.mapM (fun b => (discoveryDecodeResponseFragment b).toOption) = some fragments ∧
        (∀ f ∈ fragments, f.serverStreamId = serverStreamId) ∧
        ∃ reassembled, Reassembles maxTotalLen (fragments.map DiscoveryFragment.fed) reassembled ∧
          ∃ whole, discoveryEncodeResponse map readSize transactionNum serverStreamId = some whole ∧
            discoveryDecodeReassembledResponse reassembled serverStreamId = discoveryDecodeResponse whole) := by
  refine ⟨?_, ?_, ?_⟩
  · intro rxData hsize h hlen
    obtain ⟨n, hn, hframes⟩ := uartEncodeFragmented_eq_some hsize h
    refine ⟨_, epDecodeFragments hframes (fun b r hr _ => uartDecodeReadResponseFragment_of hr) rfl,
      sentFragment_agrees, ?_⟩
    rw [reassembles_sent_iff hlen hn, hn.lt_iff (by decide)]
  · intro f h hlen
    obtain ⟨hpre, n, hshort, hn, hframes⟩ := canEncodeFragmented_eq_some h
    exact ⟨_, epDecodeFragments hframes (fun b r hr hevt => canDecodeFrameResponseFragment_of hr hevt) rfl,
      sentFragment_agrees, _, (reassembles_sent_iff hlen hn).mpr hshort, canDecode_canBuildPayload_iff hpre⟩
  · intro map readSize serverStreamId h hlen
    obtain ⟨n, hshort, hn, hfragments⟩ := discoveryEncodeFragmented_eq_some h
    have hreadSize := readSize.toNat_lt
    have hpayload := discoveryPayload_length map readSize
    refine ⟨_, hfragments, ?_, _, discovery_reassembles (by omega) hlen hn hshort, ?_⟩
    · intro f hf
      obtain ⟨seg, -, rfl⟩ := List.mem_map.mp hf
      rfl
    · have hwhole : ((discoveryPayload map readSize).take readSize.toNat).length ≤ 255 := by
        rw [List.length_take]
        omega
      obtain ⟨whole, hwhole⟩ := discoveryEncode_isSome
        { discoveryResponseHeader transactionNum with readSizeOrSegmentNum := readSize.toUInt16 } serverStreamId hwhole
      refine ⟨whole, hwhole, ?_⟩
      rw [discoveryDecodeResponse, discoveryDecodeCommon_encoded hwhole rfl rfl]
      rfl

theorem response_fragments_read :
    ∃ frames fragments, uartEncodeReadResponseFragmented 5 [1, 2, 3] 7 true 99 2 = some frames ∧
      frames.mapM (fun b => (uartDecodeReadResponseFragment b 5).toOption) = some fragments ∧
      Reassembles 3 (fragments.map EpFragment.fed) [1, 2, 3] := by
  obtain ⟨fragments, hfragments, -, hiff⟩ :=
    (response_fragments_iff 5 7 true 99 2 3 _).1 [1, 2, 3] (by decide) rfl (by decide)
  exact ⟨_, fragments, rfl, hfragments, hiff.mpr (by decide)⟩

/-- A read of 258 octets in fragments of one octet. -/
def longRead : Option (List ReasmResult × Octets) := do
  let frames ← uartEncodeReadResponseFragmented 5 (List.replicate 258 0xAA) 7 false 0 1
  let fragments ← frames.mapM fun b => (uartDecodeReadResponseFragment b 5).toOption
  let (results, r) := (Reassembler.init 258).feedAll (fragments.map EpFragment.fed)
  return (results, r.buf)

/-- Its fragment number 256 is refused, and its octet is missing from what is put together. -/
theorem response_fragments_lost :
    longRead = some (List.replicate 256 .continue ++ [.outOfOrder, .complete], List.replicate 257 0xAA) := by
  decide +kernel

end Rcp
