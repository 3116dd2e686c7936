import Rcp.Server
import Rcp.Theorems.Canonical

/-! The codecs of the eight request kinds. The timestamp region of a kind is packed and unpacked field by field;
    over it, each decoder takes what its own encoder builds, and the opcode keeps the decoders apart. -/

namespace Rcp

/-! ### The fields of a repurposed timestamp region -/

theorem getLsbD_wordMask (j : Nat) : (65535#64).getLsbD j = decide (j < 16) := by
  have hbits : (65535#64).getLsbD j = (decide (j < 64) && Nat.testBit (2 ^ 16 - 1) j) := BitVec.getLsbD_ofNat ..
  rw [hbits, Nat.testBit_two_pow_sub_one]
  grind

section pack
variable (requestType : UInt8) (step : CompoundStep)

theorem compoundPackTs_octets :
    opcodeOf (compoundPackTs requestType step) = requestType ∧
      ((compoundPackTs requestType step >>> 48) &&& 0xFF).toUInt8 = step.startState ∧
      ((compoundPackTs requestType step >>> 40) &&& 0xFF).toUInt8 = step.nextState ∧
      ((compoundPackTs requestType step >>> 32) &&& 0xFF).toUInt8 = step.sequencerIndex := by
  refine ⟨?_, ?_, ?_, ?_⟩
  all_goals
    apply UInt8.toBitVec_inj.mp
    apply BitVec.eq_of_getLsbD_eq
    intro i hi
    simp only [opcodeOf, compoundPackTs, UInt64.toBitVec_or, UInt64.toBitVec_and, UInt64.toBitVec_shiftLeft,
      UInt64.toBitVec_shiftRight, UInt8.toBitVec_toUInt64, UInt16.toBitVec_toUInt64, UInt64.toBitVec_toUInt8,
      UInt64.toBitVec_ofNat, BitVec.shiftLeft_eq', BitVec.ushiftRight_eq', BitVec.getLsbD_or, BitVec.getLsbD_and,
      BitVec.getLsbD_shiftLeft, BitVec.getLsbD_ushiftRight, BitVec.getLsbD_setWidth, getLsbD_octetMask]
    grind

theorem compoundPackTs_words :
    ((compoundPackTs requestType step >>> 16) &&& 0xFFFF).toUInt16 = step.execDelay ∧
      (compoundPackTs requestType step &&& 0xFFFF).toUInt16 = step.repeatCount := by
  refine ⟨?_, ?_⟩
  all_goals
    apply UInt16.toBitVec_inj.mp
    apply BitVec.eq_of_getLsbD_eq
    intro i hi
    simp only [compoundPackTs, UInt64.toBitVec_or, UInt64.toBitVec_and, UInt64.toBitVec_shiftLeft,
      UInt64.toBitVec_shiftRight, UInt8.toBitVec_toUInt64, UInt16.toBitVec_toUInt64, UInt64.toBitVec_toUInt16,
      UInt64.toBitVec_ofNat, BitVec.shiftLeft_eq', BitVec.ushiftRight_eq', BitVec.getLsbD_or, BitVec.getLsbD_and,
      BitVec.getLsbD_shiftLeft, BitVec.getLsbD_ushiftRight, BitVec.getLsbD_setWidth, getLsbD_wordMask]
    grind

theorem compoundUnpackTs_compoundPackTs : compoundUnpackTs (compoundPackTs requestType step) = step := by
  obtain ⟨-, hstart, hnext, hindex⟩ := compoundPackTs_octets requestType step
  obtain ⟨hdelay, hrepeat⟩ := compoundPackTs_words requestType step
  simp only [compoundUnpackTs, hstart, hnext, hindex, hdelay, hrepeat]

end pack

/-- The compound region with the fields of a triggered one. -/
theorem triggeredPackTs_eq (requestType : UInt8) (step : TriggeredStep) :
    triggeredPackTs requestType step =
      compoundPackTs requestType
        ⟨step.triggerSourceEp, step.triggerSignalNr, step.triggerThreshold, step.execDelay, step.repeatCount⟩ := rfl

theorem triggeredUnpackTs_triggeredPackTs (requestType : UInt8) (step : TriggeredStep) :
    triggeredUnpackTs (triggeredPackTs requestType step) = step := by
  have hstep := compoundUnpackTs_compoundPackTs requestType
    ⟨step.triggerSourceEp, step.triggerSignalNr, step.triggerThreshold, step.execDelay, step.repeatCount⟩
  obtain ⟨hsource, hsignal, hthreshold, hdelay, hrepeat⟩ := CompoundStep.mk.inj hstep
  rw [triggeredPackTs_eq, triggeredUnpackTs, hsource, hsignal, hthreshold, hdelay, hrepeat]

theorem chainedTs_eq (chainExecDelay : UInt16) :
    RequestType.chained.toUInt64 <<< 56 ||| chainExecDelay.toUInt64 <<< 16 =
      compoundPackTs RequestType.chained { execDelay := chainExecDelay } := by
  simp [compoundPackTs]

theorem clearSingleTs_eq (clearTransactionNum : UInt8) :
    RequestType.clearSingle.toUInt64 <<< 56 ||| clearTransactionNum.toUInt64 <<< 32 =
      compoundPackTs RequestType.clearSingle { sequencerIndex := clearTransactionNum } := by
  simp [compoundPackTs]

/-- A shifted field that is `m` wide has no bit outside `m`. -/
theorem shiftLeft_and_eq_zero {x m reserved : UInt64} {n : UInt64} (hx : x &&& m = x) (hm : m <<< n &&& reserved = 0) :
    x <<< n &&& reserved = 0 := by
  rw [← hx, UInt64.shiftLeft_and, UInt64.and_assoc, hm, UInt64.and_zero]

theorem toUInt64_and_mask (x : UInt8) : x.toUInt64 &&& 0xFF = x.toUInt64 := by
  apply UInt64.toNat_inj.mp
  rw [UInt64.toNat_and]
  exact Nat.and_two_pow_sub_one_of_lt_two_pow (n := 8) (by simpa using x.toNat_lt)

theorem toUInt64_and_wordMask (x : UInt16) : x.toUInt64 &&& 0xFFFF = x.toUInt64 := by
  apply UInt64.toNat_inj.mp
  rw [UInt64.toNat_and]
  exact Nat.and_two_pow_sub_one_of_lt_two_pow (n := 16) (by simpa using x.toNat_lt)

theorem or_and_distrib (x y m : UInt64) : (x ||| y) &&& m = x &&& m ||| y &&& m := by
  apply UInt64.toNat_inj.mp
  rw [UInt64.toNat_and, UInt64.toNat_or, UInt64.toNat_or, UInt64.toNat_and, UInt64.toNat_and, Nat.and_or_distrib_right]

theorem chainedTs_reserved (chainExecDelay : UInt16) :
    (RequestType.chained.toUInt64 <<< 56 ||| chainExecDelay.toUInt64 <<< 16) &&& 0x00FFFFFF0000FFFF = 0 := by
  rw [or_and_distrib, shiftLeft_and_eq_zero (toUInt64_and_wordMask chainExecDelay) (by decide)]
  decide

theorem clearSingleTs_reserved (clearTransactionNum : UInt8) :
    (RequestType.clearSingle.toUInt64 <<< 56 ||| clearTransactionNum.toUInt64 <<< 32) &&& 0x00FFFF00FFFFFFFF = 0 := by
  rw [or_and_distrib, shiftLeft_and_eq_zero (toUInt64_and_mask clearTransactionNum) (by decide)]
  decide

/-- The three fields of the timed region: opcode, reserved octet, presentation time. -/
theorem timedTs_fields {presentationTime : UInt64} (h : ¬presentationTime > timedPresentationTimeMax) :
    opcodeOf (RequestType.timed.toUInt64 <<< 56 ||| (presentationTime &&& timedPresentationTimeMax)) =
        RequestType.timed ∧
      (((RequestType.timed.toUInt64 <<< 56 ||| (presentationTime &&& timedPresentationTimeMax)) >>> 48) &&&
        0xFF).toUInt8 = 0 ∧
      (RequestType.timed.toUInt64 <<< 56 ||| (presentationTime &&& timedPresentationTimeMax)) &&&
        timedPresentationTimeMax = presentationTime := by
  have hlt : presentationTime.toNat < 2 ^ 48 := by
    rw [gt_iff_lt, UInt64.lt_iff_toNat_lt] at h
    exact Nat.lt_succ_of_le (Nat.not_lt.mp h)
  have hmask : presentationTime &&& timedPresentationTimeMax = presentationTime := by
    apply UInt64.toNat_inj.mp
    rw [UInt64.toNat_and]
    exact Nat.and_two_pow_sub_one_of_lt_two_pow (n := 48) hlt
  have hhigh : presentationTime >>> 48 = 0 := by
    rw [← hmask, UInt64.shiftRight_and, show timedPresentationTimeMax >>> 48 = 0 by decide, UInt64.and_zero]
  have htop : presentationTime >>> 56 = 0 := by
    rw [← hmask, UInt64.shiftRight_and, show timedPresentationTimeMax >>> 56 = 0 by decide, UInt64.and_zero]
  rw [hmask]
  refine ⟨?_, ?_, ?_⟩
  · rw [opcodeOf, UInt64.shiftRight_or, htop]
    decide
  · rw [UInt64.shiftRight_or, hhigh]
    decide
  · rw [or_and_distrib, hmask, show RequestType.timed.toUInt64 <<< 56 &&& timedPresentationTimeMax = 0 by decide,
      UInt64.zero_or]

/-! ### The eight kinds -/

/-- What the encoder of one request kind is given, and what a decoder gives back. Compound and compound-wait
    share their encoder and their decoder; the request type tells them apart. -/
inductive KindRequest where
  | compound (r : CompoundRequest)
  | triggered (r : TriggeredRequest)
  | chained (r : ChainedMember)
  | timed (r : TimedRequest)
  | clearAll (byteBusId : ByteBusId) (transactionNum : UInt8)
  | clearSingle (byteBusId : ByteBusId) (clearTransactionNum transactionNum : UInt8)
  | clearNonSafestate (byteBusId : ByteBusId) (transactionNum : UInt8)

/-- The seven request decoders. -/
inductive RequestDecoder where
  | compound | triggered | chained | timed | clearAll | clearSingle | clearNonSafestate
deriving DecidableEq

def RequestDecoder.decode : RequestDecoder → Octets → Except RequestErrc KindRequest
  | .compound, b => (compoundDecodeRequest b).map .compound
  | .triggered, b => (triggeredDecodeRequest b).map .triggered
  | .chained, b => (chainedDecodeMember b).map .chained
  | .timed, b => (timedDecodeRequest b).map .timed
  | .clearAll, b => (cancelDecodeClearAll b).map fun (bus, tn) => .clearAll bus tn
  | .clearSingle, b => (cancelDecodeClearSingle b).map fun (bus, clearTn, tn) => .clearSingle bus clearTn tn
  | .clearNonSafestate, b => (compoundDecodeClearNonSafestate b).map fun (bus, tn) => .clearNonSafestate bus tn

/-- The decoder of the opcode `requestType`. -/
def RequestDecoder.ofOpcode (requestType : UInt8) : Option RequestDecoder :=
  if RequestType.isCompound requestType || RequestType.isCompoundWait requestType then some .compound else
  if RequestType.isTriggered requestType then some .triggered else
  if requestType = RequestType.chained then some .chained else
  if requestType = RequestType.timed then some .timed else
  if requestType = RequestType.clearAll then some .clearAll else
  if requestType = RequestType.clearSingle then some .clearSingle else
  if requestType = RequestType.clearNonSafestate then some .clearNonSafestate else
  none

namespace KindRequest

def encode : KindRequest → Option Octets
  | .compound r => compoundEncodeRequest r.requestType r.byteBusId r.step r.evt r.transactionNum r.payload
  | .triggered r => triggeredEncodeRequest r.requestType r.byteBusId r.step r.transactionNum r.payload
  | .chained r => chainedEncodeMember r.byteBusId r.chainExecDelay r.cs r.transactionNum r.payload
  | .timed r => timedEncodeRequest r.byteBusId r.presentationTime r.transactionNum r.payload
  | .clearAll bus tn => some (cancelEncodeClearAll bus tn)
  | .clearSingle bus clearTn tn => some (cancelEncodeClearSingle bus clearTn tn)
  | .clearNonSafestate bus tn => compoundEncodeClearNonSafestate bus tn

/-- What the encoders check. -/
def Encodable : KindRequest → Prop
  | .compound r =>
    (RequestType.isCompound r.requestType || RequestType.isCompoundWait r.requestType) = true ∧
      r.payload.length ≤ Acf.gbbMaxPayload
  | .triggered r => RequestType.isTriggered r.requestType = true ∧ r.payload.length ≤ Acf.gbbMaxPayload
  | .chained r => r.payload.length ≤ Acf.gbbMaxPayload
  | .timed r => r.presentationTime ≤ timedPresentationTimeMax ∧ r.payload.length ≤ Acf.gbbMaxPayload
  | .clearAll .. | .clearSingle .. | .clearNonSafestate .. => True

/-- The request with the fields narrowed to the bits the header has for them. -/
def onWire : KindRequest → KindRequest
  | .compound r => .compound { r with byteBusId := r.byteBusId &&& 0x7FF, evt := r.evt &&& 0xF }
  | .triggered r => .triggered { r with byteBusId := r.byteBusId &&& 0x7FF }
  | .chained r => .chained { r with byteBusId := r.byteBusId &&& 0x7FF, cs := r.cs &&& 0x1 }
  | .timed r => .timed { r with byteBusId := r.byteBusId &&& 0x7FF }
  | .clearAll bus tn => .clearAll (bus &&& 0x7FF) tn
  | .clearSingle bus clearTn tn => .clearSingle (bus &&& 0x7FF) clearTn tn
  | .clearNonSafestate bus tn => .clearNonSafestate (bus &&& 0x7FF) tn

def decoder : KindRequest → RequestDecoder
  | .compound _ => .compound
  | .triggered _ => .triggered
  | .chained _ => .chained
  | .timed _ => .timed
  | .clearAll .. => .clearAll
  | .clearSingle .. => .clearSingle
  | .clearNonSafestate .. => .clearNonSafestate

def opcode : KindRequest → UInt8
  | .compound r => r.requestType
  | .triggered r => r.requestType
  | .chained _ => RequestType.chained
  | .timed _ => RequestType.timed
  | .clearAll .. => RequestType.clearAll
  | .clearSingle .. => RequestType.clearSingle
  | .clearNonSafestate .. => RequestType.clearNonSafestate

/-- The kind the server is to store the request under. -/
def kind : KindRequest → SchedKind
  | .compound r => if RequestType.isCompoundWait r.requestType then .compoundWait else .compound
  | .triggered _ => .triggered
  | .chained _ => .chained
  | .timed _ => .timed
  | .clearAll .. | .clearSingle .. | .clearNonSafestate .. => .cancellation

/-- The fields of the request are in the slot. -/
def Fields : KindRequest → Pending → Prop
  | .compound r, slot =>
    slot.compound = r.step ∧ slot.transactionNum = r.transactionNum ∧
      (RequestType.isCompoundWait r.requestType = true →
        slot.compoundWaitEvt = r.evt ∧ slot.compoundWaitTarget = r.payload)
  | .triggered r, slot => slot.triggered = r.step ∧ slot.transactionNum = r.transactionNum
  | .chained r, slot =>
    slot.chainExecDelay = r.chainExecDelay ∧ slot.cs = r.cs ∧ slot.transactionNum = r.transactionNum
  | .timed r, slot => slot.presentationTime = r.presentationTime ∧ slot.transactionNum = r.transactionNum
  | .clearAll .., _ | .clearSingle .., _ | .clearNonSafestate .., _ => False

/-- A compound-wait request with the reserved comparison mode. -/
def ReservedWait : KindRequest → Prop
  | .compound r => RequestType.isCompoundWait r.requestType = true ∧ r.evt &&& 0x7 = Acf.compoundWaitModeReserved
  | _ => False

end KindRequest

/-! ### Opcodes -/

namespace KindRequest
variable {req : KindRequest}

/-- The opcode is one of the kind's own. -/
def Typed : KindRequest → Prop
  | .compound r => (RequestType.isCompound r.requestType || RequestType.isCompoundWait r.requestType) = true
  | .triggered r => RequestType.isTriggered r.requestType = true
  | .chained _ | .timed _ | .clearAll .. | .clearSingle .. | .clearNonSafestate .. => True

theorem isTriggered_cases {requestType : UInt8} (h : RequestType.isTriggered requestType = true) :
    requestType = RequestType.triggered ∨ requestType = RequestType.triggeredSafety := by
  simpa only [RequestType.isTriggered, Bool.or_eq_true, beq_iff_eq] using h

theorem isCompoundWait_cases {requestType : UInt8} (h : RequestType.isCompoundWait requestType = true) :
    requestType = RequestType.compoundWait ∨ requestType = RequestType.compoundWaitSafety := by
  simpa only [RequestType.isCompoundWait, Bool.or_eq_true, beq_iff_eq] using h

theorem isCompound_cases {requestType : UInt8} (h : RequestType.isCompound requestType = true) :
    requestType = RequestType.compound ∨ requestType = RequestType.compoundSafety := by
  simpa only [RequestType.isCompound, Bool.or_eq_true, beq_iff_eq] using h

/-- The classification puts every request under its own kind. -/
theorem Typed.classify (h : req.Typed) : schedClassify true req.opcode = req.kind := by
  cases req with
  | compound r =>
    simp only [opcode, kind]
    rcases (Bool.or_eq_true _ _).mp h with hc | hc
    · rcases isCompound_cases hc with hrt | hrt <;> rw [hrt] <;> rfl
    · rcases isCompoundWait_cases hc with hrt | hrt <;> rw [hrt] <;> rfl
  | triggered r =>
    simp only [opcode, kind]
    rcases isTriggered_cases h with hrt | hrt <;> rw [hrt] <;> rfl
  | chained r => rfl
  | timed r => rfl
  | clearAll bus tn => rfl
  | clearSingle bus clearTn tn => rfl
  | clearNonSafestate bus tn => rfl

/-- The opcode names the decoder. -/
theorem Typed.ofOpcode (h : req.Typed) : RequestDecoder.ofOpcode req.opcode = some req.decoder := by
  cases req with
  | compound r => exact if_pos h
  | triggered r =>
    simp only [opcode, decoder]
    rcases isTriggered_cases h with hrt | hrt <;> rw [hrt] <;> rfl
  | chained r => rfl
  | timed r => rfl
  | clearAll bus tn => rfl
  | clearSingle bus clearTn tn => rfl
  | clearNonSafestate bus tn => rfl

end KindRequest

/-! ### What a decoder accepts -/

theorem compoundDecodeRequest_ok {b : Octets} {r : CompoundRequest} (h : compoundDecodeRequest b = .ok r) :
    ∃ hdr payload, decodeRepurposed b = .ok (hdr, payload) ∧ r.requestType = opcodeOf hdr.messageTimestamp ∧
      (RequestType.isCompound r.requestType || RequestType.isCompoundWait r.requestType) = true := by
  unfold compoundDecodeRequest at h
  split at h
  · cases h
  rename_i hdr payload hdec
  dsimp only at h
  split at h
  · cases h
  rename_i hrt
  obtain rfl := Except.ok.inj h
  refine ⟨hdr, payload, hdec, rfl, ?_⟩
  simp only [Bool.and_eq_true, Bool.not_eq_true', not_and, Bool.not_eq_false] at hrt
  simp only [Bool.or_eq_true]
  cases hc : RequestType.isCompound (opcodeOf hdr.messageTimestamp) with
  | false => exact Or.inr (hrt hc)
  | true => exact Or.inl rfl

theorem triggeredDecodeRequest_ok {b : Octets} {r : TriggeredRequest} (h : triggeredDecodeRequest b = .ok r) :
    ∃ hdr payload, decodeRepurposed b = .ok (hdr, payload) ∧ r.requestType = opcodeOf hdr.messageTimestamp ∧
      RequestType.isTriggered r.requestType = true := by
  unfold triggeredDecodeRequest at h
  split at h
  · cases h
  rename_i hdr payload hdec
  dsimp only at h
  split at h
  · cases h
  rename_i hrt
  obtain rfl := Except.ok.inj h
  exact ⟨hdr, payload, hdec, rfl, by simpa using hrt⟩

theorem chainedDecodeMember_ok {b : Octets} {r : ChainedMember} (h : chainedDecodeMember b = .ok r) :
    ∃ hdr payload, decodeRepurposed b = .ok (hdr, payload) ∧ RequestType.chained = opcodeOf hdr.messageTimestamp := by
  unfold chainedDecodeMember at h
  split at h
  · cases h
  rename_i hdr payload hdec
  split at h
  · cases h
  rename_i hrt
  exact ⟨hdr, payload, hdec, (not_not.mp hrt).symm⟩

theorem timedDecodeRequest_ok {b : Octets} {r : TimedRequest} (h : timedDecodeRequest b = .ok r) :
    ∃ hdr payload, decodeRepurposed b = .ok (hdr, payload) ∧ RequestType.timed = opcodeOf hdr.messageTimestamp := by
  unfold timedDecodeRequest at h
  split at h
  · cases h
  rename_i hdr payload hdec
  split at h
  · cases h
  rename_i hrt
  exact ⟨hdr, payload, hdec, (not_not.mp hrt).symm⟩

theorem exceptMap_eq_ok {ε α β : Type} {f : α → β} {x : Except ε α} {y : β} (h : x.map f = .ok y) :
    ∃ z, x = .ok z ∧ f z = y := by
  cases x with
  | error e => cases h
  | ok z => exact ⟨z, rfl, Except.ok.inj h⟩

theorem cancelDecode_ok {α : Type} {b : Octets} {code : UInt8} {reserved : UInt64} {f : Acf.GbbHeader → α} {y : α}
    (h : (cancelDecode code reserved b).map f = .ok y) :
    ∃ hdr payload, decodeRepurposed b = .ok (hdr, payload) ∧ code = opcodeOf hdr.messageTimestamp := by
  obtain ⟨hdr, h, -⟩ := exceptMap_eq_ok h
  unfold cancelDecode at h
  split at h
  · cases h
  rename_i hdr' payload hdec
  split at h
  · cases h
  rename_i hrt
  exact ⟨hdr', payload, hdec, (not_not.mp hrt).symm⟩

/-- A decoder accepts its own opcodes only, under a repurposed region. -/
theorem RequestDecoder.decode_ok {d : RequestDecoder} {b : Octets} {req : KindRequest} (h : d.decode b = .ok req) :
    req.decoder = d ∧ req.Typed ∧
      ∃ hdr payload, decodeRepurposed b = .ok (hdr, payload) ∧ req.opcode = opcodeOf hdr.messageTimestamp := by
  cases d with
  | compound =>
    obtain ⟨r, hr, rfl⟩ := exceptMap_eq_ok h
    obtain ⟨hdr, payload, hdec, hrt, howns⟩ := compoundDecodeRequest_ok hr
    exact ⟨rfl, howns, hdr, payload, hdec, hrt⟩
  | triggered =>
    obtain ⟨r, hr, rfl⟩ := exceptMap_eq_ok h
    obtain ⟨hdr, payload, hdec, hrt, howns⟩ := triggeredDecodeRequest_ok hr
    exact ⟨rfl, howns, hdr, payload, hdec, hrt⟩
  | chained =>
    obtain ⟨r, hr, rfl⟩ := exceptMap_eq_ok h
    exact ⟨rfl, trivial, chainedDecodeMember_ok hr⟩
  | timed =>
    obtain ⟨r, hr, rfl⟩ := exceptMap_eq_ok h
    exact ⟨rfl, trivial, timedDecodeRequest_ok hr⟩
  | clearAll =>
    obtain ⟨_, hr, rfl⟩ := exceptMap_eq_ok h
    exact ⟨rfl, trivial, cancelDecode_ok hr⟩
  | clearSingle =>
    obtain ⟨_, hr, rfl⟩ := exceptMap_eq_ok h
    exact ⟨rfl, trivial, cancelDecode_ok hr⟩
  | clearNonSafestate =>
    obtain ⟨_, hr, rfl⟩ := exceptMap_eq_ok h
    exact ⟨rfl, trivial, cancelDecode_ok hr⟩

/-- At most one decoder accepts an octet string. -/
theorem RequestDecoder.decode_unique {d d' : RequestDecoder} {b : Octets} {req req' : KindRequest}
    (h : d.decode b = .ok req) (h' : d'.decode b = .ok req') : d = d' := by
  obtain ⟨rfl, htyped, hdr, payload, hdec, hop⟩ := RequestDecoder.decode_ok h
  obtain ⟨rfl, htyped', hdr', payload', hdec', hop'⟩ := RequestDecoder.decode_ok h'
  obtain ⟨rfl, -⟩ := Prod.mk.inj (Except.ok.inj (hdec.symm.trans hdec'))
  have hsame : some req.decoder = some req'.decoder := by
    rw [← htyped.ofOpcode, ← htyped'.ofOpcode, hop, hop']
  exact Option.some.inj hsame

/-! ### What an encoder builds -/

section encoded
variable {byteBusId : ByteBusId} {cs evt transactionNum : UInt8} {ts : UInt64} {payload m : Octets}

theorem encodeGbbRepurposed_isSome :
    (encodeGbbRepurposed byteBusId cs evt transactionNum ts payload).isSome = true ↔
      payload.length ≤ Acf.gbbMaxPayload := by
  rw [Option.isSome_iff_exists, ← Nat.not_lt, ← gt_iff_lt, ← Acf.gbb_fits_iff]
  constructor
  · rintro ⟨m, hm⟩
    exact (Acf.encodeGbbRepurposed_eq_some.mp hm).1
  · intro hfits
    exact ⟨_, Acf.encodeGbbRepurposed_eq_some.mpr ⟨hfits, rfl⟩⟩

/-- The header of such a message as it reads back. -/
def repurposedHeader (byteBusId : ByteBusId) (cs evt transactionNum : UInt8) (ts : UInt64) (payload : Octets) :
    Acf.GbbHeader where
  info := (Acf.repurposedInfo byteBusId cs evt transactionNum).sent Acf.msgTypeGbb (Acf.gbbHeaderLen + payload.length)
  messageTimestamp := ts

theorem repurposedHeader_mtv :
    (repurposedHeader byteBusId cs evt transactionNum ts payload).info.mtv = Acf.mtvUntimed := by
  change (0 : UInt8) &&& 0x1 = 0
  decide

theorem repurposedHeader_hs : (repurposedHeader byteBusId cs evt transactionNum ts payload).info.hs = 0 := by
  change (0 : UInt8) &&& 0x1 = 0
  decide

theorem repurposedHeader_cs_zero : (repurposedHeader byteBusId 0 evt transactionNum ts payload).info.cs = 0 := by
  change (0 : UInt8) &&& 0x1 = 0
  decide

theorem repurposedHeader_evt_zero :
    (repurposedHeader byteBusId cs 0 transactionNum ts payload).info.evt &&& 0x07 = 0 := by
  change ((0 : UInt8) &&& 0xF) &&& 0x07 = 0
  decide

theorem repurposedHeader_byteBusId :
    (repurposedHeader byteBusId cs evt transactionNum ts payload).info.byteBusId = byteBusId &&& 0x7FF := rfl

theorem repurposedHeader_evt :
    (repurposedHeader byteBusId cs evt transactionNum ts payload).info.evt = evt &&& 0xF := rfl

theorem repurposedHeader_cs :
    (repurposedHeader byteBusId cs evt transactionNum ts payload).info.cs = cs &&& 0x1 := rfl

theorem repurposedHeader_transactionNum :
    (repurposedHeader byteBusId cs evt transactionNum ts payload).info.transactionNum = transactionNum := rfl

theorem repurposedHeader_messageTimestamp :
    (repurposedHeader byteBusId cs evt transactionNum ts payload).messageTimestamp = ts := rfl

theorem decodeRepurposed_encoded (h : encodeGbbRepurposed byteBusId cs evt transactionNum ts payload = some m) :
    decodeRepurposed m = .ok (repurposedHeader byteBusId cs evt transactionNum ts payload, payload) := by
  obtain ⟨hfits, rfl⟩ := Acf.encodeGbbRepurposed_eq_some.mp h
  have hinfo := Acf.framedInfo_eq_sent (Acf.repurposedInfo byteBusId cs evt transactionNum) (putU64 ts) payload
    (Or.inr rfl) hfits
  rw [decodeRepurposed, Acf.decodeGbb_framed _ payload ts hfits, hinfo]
  exact if_neg (not_not.mpr (repurposedHeader_mtv))

theorem encodeGbbRepurposed_cancel :
    encodeGbbRepurposed byteBusId 0 0 transactionNum ts [] =
      some (cancelEncodeGbbRepurposed byteBusId transactionNum ts) := by
  rw [Acf.cancelEncodeGbbRepurposed_eq]
  exact Acf.encodeGbbRepurposed_eq_some.mpr ⟨by decide, rfl⟩

theorem cancelDecode_encoded {code : UInt8} {reserved : UInt64}
    (h : encodeGbbRepurposed byteBusId 0 0 transactionNum ts [] = some m) (hcode : opcodeOf ts = code)
    (hreserved : ts &&& reserved = 0) :
    cancelDecode code reserved m = .ok (repurposedHeader byteBusId 0 0 transactionNum ts []) := by
  rw [cancelDecode, decodeRepurposed_encoded h]
  simp only [repurposedHeader_messageTimestamp, repurposedHeader_evt_zero, repurposedHeader_hs,
    repurposedHeader_cs_zero, hcode, hreserved, ne_eq, not_true_eq_false, or_self, if_false]

theorem compoundDecodeRequest_encoded {requestType : UInt8} {step : CompoundStep}
    (howns : (RequestType.isCompound requestType || RequestType.isCompoundWait requestType) = true)
    (h : compoundEncodeRequest requestType byteBusId step evt transactionNum payload = some m) :
    compoundDecodeRequest m =
      .ok ⟨requestType, byteBusId &&& 0x7FF, step, evt &&& 0xF, payload, transactionNum⟩ := by
  have hnot : ¬(!RequestType.isCompound requestType && !RequestType.isCompoundWait requestType) = true := by
    rw [← Bool.not_or, howns]
    decide
  rw [compoundEncodeRequest, if_neg hnot] at h
  rw [compoundDecodeRequest, decodeRepurposed_encoded h]
  simp only [repurposedHeader_messageTimestamp, repurposedHeader_byteBusId, repurposedHeader_evt,
    repurposedHeader_transactionNum, compoundUnpackTs_compoundPackTs, (compoundPackTs_octets requestType step).1]
  rw [if_neg hnot]

theorem triggeredDecodeRequest_encoded {requestType : UInt8} {step : TriggeredStep}
    (howns : RequestType.isTriggered requestType = true)
    (h : triggeredEncodeRequest requestType byteBusId step transactionNum payload = some m) :
    triggeredDecodeRequest m = .ok ⟨requestType, byteBusId &&& 0x7FF, step, payload, transactionNum⟩ := by
  have hnot : ¬(!RequestType.isTriggered requestType) = true := by
    rw [howns]
    decide
  have hop : opcodeOf (triggeredPackTs requestType step) = requestType := by
    rw [triggeredPackTs_eq]
    exact (compoundPackTs_octets _ _).1
  rw [triggeredEncodeRequest, if_neg hnot] at h
  rw [triggeredDecodeRequest, decodeRepurposed_encoded h]
  simp only [repurposedHeader_messageTimestamp, repurposedHeader_byteBusId, repurposedHeader_transactionNum,
    triggeredUnpackTs_triggeredPackTs, hop]
  rw [if_neg hnot]

theorem chainedDecodeMember_encoded {chainExecDelay : UInt16}
    (h : chainedEncodeMember byteBusId chainExecDelay cs transactionNum payload = some m) :
    chainedDecodeMember m = .ok ⟨byteBusId &&& 0x7FF, chainExecDelay, cs &&& 0x1, payload, transactionNum⟩ := by
  have hcs : cs &&& 0x1 &&& 0x1 = cs &&& 0x1 := by rw [UInt8.and_assoc, UInt8.and_self]
  have hreserved := chainedTs_reserved chainExecDelay
  rw [chainedTs_eq] at hreserved
  rw [chainedEncodeMember, chainedTs_eq] at h
  rw [chainedDecodeMember, decodeRepurposed_encoded h]
  simp only [repurposedHeader_messageTimestamp, repurposedHeader_byteBusId, repurposedHeader_transactionNum,
    repurposedHeader_cs, hcs, hreserved, (compoundPackTs_octets RequestType.chained _).1,
    (compoundPackTs_words RequestType.chained _).1, ne_eq, not_true_eq_false, if_false]

theorem timedDecodeRequest_encoded {presentationTime : UInt64}
    (h : timedEncodeRequest byteBusId presentationTime transactionNum payload = some m) :
    timedDecodeRequest m = .ok ⟨byteBusId &&& 0x7FF, presentationTime, payload, transactionNum⟩ := by
  unfold timedEncodeRequest at h
  split at h
  · cases h
  rename_i hmax
  obtain ⟨hop, hreserved, htime⟩ := timedTs_fields hmax
  rw [timedDecodeRequest, decodeRepurposed_encoded h]
  simp only [repurposedHeader_messageTimestamp, repurposedHeader_byteBusId, repurposedHeader_transactionNum,
    repurposedHeader_hs, repurposedHeader_cs_zero, hop, hreserved, htime, ne_eq, not_true_eq_false, or_self, if_false]

end encoded

namespace KindRequest
variable {req : KindRequest} {m : Octets}

theorem encode_isSome (req : KindRequest) : req.encode.isSome = true ↔ req.Encodable := by
  cases req with
  | compound r =>
    simp only [encode, compoundEncodeRequest, Encodable]
    rw [← Bool.not_or]
    cases RequestType.isCompound r.requestType || RequestType.isCompoundWait r.requestType with
    | false => simp
    | true => simpa using encodeGbbRepurposed_isSome
  | triggered r =>
    simp only [encode, triggeredEncodeRequest, Encodable]
    cases RequestType.isTriggered r.requestType with
    | false => simp
    | true => simpa using encodeGbbRepurposed_isSome
  | chained r => exact encodeGbbRepurposed_isSome
  | timed r =>
    simp only [encode, timedEncodeRequest, Encodable]
    by_cases hmax : r.presentationTime > timedPresentationTimeMax
    · rw [if_pos hmax]
      simp [UInt64.not_le.mpr hmax]
    · rw [if_neg hmax]
      simpa [UInt64.not_lt.mp hmax] using encodeGbbRepurposed_isSome
  | clearAll bus tn => exact iff_of_true rfl trivial
  | clearSingle bus clearTn tn => exact iff_of_true rfl trivial
  | clearNonSafestate bus tn => exact iff_of_true rfl trivial

theorem Encodable.typed (h : req.Encodable) : req.Typed := by
  cases req with
  | compound r => exact h.1
  | triggered r => exact h.1
  | chained r => trivial
  | timed r => trivial
  | clearAll bus tn => trivial
  | clearSingle bus clearTn tn => trivial
  | clearNonSafestate bus tn => trivial

/-- The decoder of the kind takes the encoded frame and returns the fields of the request. -/
theorem decode_encode (h : req.encode = some m) : req.decoder.decode m = .ok req.onWire := by
  have htyped : req.Typed := Encodable.typed ((encode_isSome req).mp (Option.isSome_iff_exists.mpr ⟨m, h⟩))
  cases req with
  | compound r =>
    simp only [decoder, RequestDecoder.decode, compoundDecodeRequest_encoded htyped h]
    rfl
  | triggered r =>
    simp only [decoder, RequestDecoder.decode, triggeredDecodeRequest_encoded htyped h]
    rfl
  | chained r =>
    simp only [decoder, RequestDecoder.decode, chainedDecodeMember_encoded h]
    rfl
  | timed r =>
    simp only [decoder, RequestDecoder.decode, timedDecodeRequest_encoded h]
    rfl
  | clearAll bus tn =>
    have hdec := cancelDecode_encoded (encodeGbbRepurposed_cancel.trans h) (show _ = RequestType.clearAll by decide)
      (show _ &&& 0x00FFFFFFFFFFFFFF = 0 by decide)
    simp only [decoder, RequestDecoder.decode, cancelDecodeClearAll, hdec]
    rfl
  | clearSingle bus clearTn tn =>
    obtain ⟨hop, -, -, hclear⟩ := compoundPackTs_octets RequestType.clearSingle { sequencerIndex := clearTn }
    rw [← clearSingleTs_eq] at hop hclear
    have hdec := cancelDecode_encoded (encodeGbbRepurposed_cancel.trans h) hop (clearSingleTs_reserved clearTn)
    simp only [decoder, RequestDecoder.decode, cancelDecodeClearSingle, hdec, Except.map,
      repurposedHeader_messageTimestamp, hclear]
    rfl
  | clearNonSafestate bus tn =>
    have hdec := cancelDecode_encoded h (show _ = RequestType.clearNonSafestate by decide)
      (show _ &&& 0x00FFFFFFFFFFFFFF = 0 by decide)
    simp only [decoder, RequestDecoder.decode, compoundDecodeClearNonSafestate, hdec]
    rfl

end KindRequest

end Rcp
