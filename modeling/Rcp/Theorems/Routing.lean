import Rcp.Theorems.KindCodecs
import Rcp.Theorems.Numbers

/-! The router of the server against the codecs of the request kinds: a frame goes to the kind whose decoder
    accepts it, and what is stored are the fields that decoder returns. -/

namespace Rcp

/-! ### The router -/

theorem opcodeOf_getU64 (b : Octets) (n : Nat) : opcodeOf (getU64 b n) = b.at n :=
  List.head_eq_of_cons_eq (putU64_getU64 b n)

/-- The router peeks the opcode that the decoders read. -/
theorem compoundPeekRequestType_of_decode {b payload : Octets} {hdr : Acf.GbbHeader}
    (h : decodeRepurposed b = .ok (hdr, payload)) :
    compoundPeekRequestType b = .ok (opcodeOf hdr.messageTimestamp) := by
  unfold decodeRepurposed at h
  split at h
  · cases h
  rename_i hdr' payload' hdec
  split at h
  · cases h
  rename_i hmtv
  obtain ⟨rfl, rfl⟩ := Prod.mk.inj (Except.ok.inj h)
  obtain ⟨htype, hin, hcut, rfl, -⟩ := Acf.decodeGbb_eq_ok hdec
  have huntimed : ¬(b.at 2 >>> 5) &&& 0x1 ≠ Acf.mtvUntimed := hmtv
  rw [compoundPeekRequestType, if_neg (by omega), if_neg (not_not.mpr htype), if_neg huntimed, opcodeOf_getU64]

theorem RequestDecoder.peek_of_decode {d : RequestDecoder} {b : Octets} {req : KindRequest}
    (h : d.decode b = .ok req) : compoundPeekRequestType b = .ok req.opcode := by
  obtain ⟨-, -, hdr, payload, hdec, hop⟩ := RequestDecoder.decode_ok h
  rw [compoundPeekRequestType_of_decode hdec, hop]

namespace KindRequest
variable {req : KindRequest} {b : Octets} {slot slot' : Pending}

/-- The switch of the admission decodes a request of the slot's kind into the slot. -/
theorem decodeCondition_of_decode (slot : Pending) (h : req.decoder.decode b = .ok req) (hkind : slot.kind = req.kind)
    (hcancel : req.kind ≠ .cancellation) (hwait : ¬req.ReservedWait) :
    ∃ slot', decodeCondition b slot = .ok slot' ∧ req.Fields slot' := by
  cases req with
  | compound r =>
    obtain ⟨r', hr, heq⟩ := exceptMap_eq_ok h
    obtain rfl := KindRequest.compound.inj heq
    cases hw : RequestType.isCompoundWait r'.requestType with
    | false =>
      simp only [kind, hw, Bool.false_eq_true, if_false] at hkind
      simp only [decodeCondition, hkind, hr, Except.ok.injEq, exists_eq_left', Fields, hw]
      exact ⟨trivial, trivial, fun hf => absurd hf Bool.false_ne_true⟩
    | true =>
      have hevt : Acf.compoundWaitEvtValid r'.evt = true := bne_iff_ne.mpr fun hres => hwait ⟨hw, hres⟩
      simp only [kind, hw, if_true] at hkind
      simp only [decodeCondition, hkind, hr, hevt, Bool.not_true, Bool.false_eq_true, if_false, Except.ok.injEq,
        exists_eq_left', Fields]
      exact ⟨trivial, trivial, fun _ => ⟨trivial, trivial⟩⟩
  | triggered r =>
    obtain ⟨r', hr, heq⟩ := exceptMap_eq_ok h
    obtain rfl := KindRequest.triggered.inj heq
    simp only [kind] at hkind
    simp only [decodeCondition, hkind, hr, Except.ok.injEq, exists_eq_left', Fields]
    exact ⟨trivial, trivial⟩
  | chained r =>
    obtain ⟨r', hr, heq⟩ := exceptMap_eq_ok h
    obtain rfl := KindRequest.chained.inj heq
    simp only [kind] at hkind
    simp only [decodeCondition, hkind, hr, Except.ok.injEq, exists_eq_left', Fields]
    exact ⟨trivial, trivial, trivial⟩
  | timed r =>
    obtain ⟨r', hr, heq⟩ := exceptMap_eq_ok h
    obtain rfl := KindRequest.timed.inj heq
    simp only [kind] at hkind
    simp only [decodeCondition, hkind, hr, Except.ok.injEq, exists_eq_left', Fields]
    exact ⟨trivial, trivial⟩
  | clearAll bus tn => exact absurd rfl hcancel
  | clearSingle bus clearTn tn => exact absurd rfl hcancel
  | clearNonSafestate bus tn => exact absurd rfl hcancel

/-- Only the reserved comparison mode is turned down, with its own error code. -/
theorem decodeCondition_of_reservedWait (slot : Pending) (h : req.decoder.decode b = .ok req)
    (hkind : slot.kind = req.kind) (hwait : req.ReservedWait) : decodeCondition b slot = .error .unsupportedCmd := by
  cases req with
  | compound r =>
    obtain ⟨r', hr, heq⟩ := exceptMap_eq_ok h
    obtain rfl := KindRequest.compound.inj heq
    obtain ⟨hw, hres⟩ := hwait
    have hevt : Acf.compoundWaitEvtValid r'.evt = false := by
      rw [Acf.compoundWaitEvtValid, hres]
      rfl
    simp only [kind, hw, if_true] at hkind
    simp only [decodeCondition, hkind, hr, hevt, Bool.not_false, if_true]
  | triggered r => exact hwait.elim
  | chained r => exact hwait.elim
  | timed r => exact hwait.elim
  | clearAll bus tn => exact hwait.elim
  | clearSingle bus clearTn tn => exact hwait.elim
  | clearNonSafestate bus tn => exact hwait.elim

/-- A condition that was decoded is that of a request the kind's decoder accepts. -/
theorem decode_of_decodeCondition {requestType : UInt8} (h : decodeCondition b slot = .ok slot')
    (hpeek : compoundPeekRequestType b = .ok requestType) (hkind : slot.kind = schedClassify true requestType) :
    ∃ req : KindRequest, req.decoder.decode b = .ok req ∧ req.opcode = requestType ∧ req.kind = slot.kind ∧
      req.Fields slot' := by
  have hsame : ∀ req : KindRequest, req.decoder.decode b = .ok req →
      req.opcode = requestType ∧ req.kind = slot.kind := by
    intro req hdec
    have hop : req.opcode = requestType := Except.ok.inj ((RequestDecoder.peek_of_decode hdec).symm.trans hpeek)
    obtain ⟨-, htyped, -⟩ := RequestDecoder.decode_ok hdec
    exact ⟨hop, by rw [hkind, ← hop, htyped.classify]⟩
  unfold decodeCondition at h
  cases hk : slot.kind <;> simp only [hk] at h
  case standard => cases h
  case cancellation => cases h
  case chained =>
    split at h
    · cases h
    rename_i r hr
    obtain rfl := Except.ok.inj h
    have hdec : (KindRequest.chained r).decoder.decode b = .ok (.chained r) :=
      congrArg (Except.map KindRequest.chained) hr
    exact ⟨_, hdec, (hsame _ hdec).1, rfl, rfl, rfl, rfl⟩
  case timed =>
    split at h
    · cases h
    rename_i r hr
    obtain rfl := Except.ok.inj h
    have hdec : (KindRequest.timed r).decoder.decode b = .ok (.timed r) :=
      congrArg (Except.map KindRequest.timed) hr
    exact ⟨_, hdec, (hsame _ hdec).1, rfl, rfl, rfl⟩
  case triggered =>
    split at h
    · cases h
    rename_i r hr
    obtain rfl := Except.ok.inj h
    have hdec : (KindRequest.triggered r).decoder.decode b = .ok (.triggered r) :=
      congrArg (Except.map KindRequest.triggered) hr
    exact ⟨_, hdec, (hsame _ hdec).1, rfl, rfl, rfl⟩
  case compound =>
    split at h
    · cases h
    rename_i r hr
    obtain rfl := Except.ok.inj h
    have hdec : (KindRequest.compound r).decoder.decode b = .ok (.compound r) :=
      congrArg (Except.map KindRequest.compound) hr
    obtain ⟨hop, hreq⟩ := hsame _ hdec
    refine ⟨_, hdec, hop, hreq.trans hk, rfl, rfl, ?_⟩
    intro hw
    rw [hk, kind, if_pos hw] at hreq
    cases hreq
  case compoundWait =>
    split at h
    · cases h
    rename_i r hr
    split at h
    · cases h
    obtain rfl := Except.ok.inj h
    have hdec : (KindRequest.compound r).decoder.decode b = .ok (.compound r) :=
      congrArg (Except.map KindRequest.compound) hr
    obtain ⟨hop, hreq⟩ := hsame _ hdec
    exact ⟨_, hdec, hop, hreq.trans hk, rfl, rfl, fun _ => ⟨rfl, rfl⟩⟩

end KindRequest

/-! ### Admission -/

namespace Endpoint
variable {ep : Endpoint} {i : SlotIx} {frame : Octets} {now : UInt32} {tv : Bool} {gate : UInt64}
  {kind : SchedKind} {requestType : UInt8}

theorem exists_firstFree {j : SlotIx} (h : (ep.pending j).inUse = false) : ∃ i, ep.firstFree = some i := by
  cases hfree : ep.firstFree with
  | some i => exact ⟨i, rfl⟩
  | none =>
    have hall := Fin.find?_eq_none_iff.mp hfree j
    rw [h] at hall
    cases hall

theorem admitConditional_stored {slot : Pending} (hi : ep.firstFree = some i)
    (hd : decodeCondition frame
      { Pending.claimed ep.nextSequence with kind := kind, requestType := requestType } = .ok slot) :
    ep.admitConditional frame now tv gate kind requestType =
      ({ outcome := .pending, requestType := requestType, index := some i, ack := buildStoreAck frame },
        ep.storeAt i (conditionalSlot slot frame now tv gate)) := by
  unfold admitConditional claimSlot
  generalize ep.firstFree = found at hi
  subst hi
  simp only [claimAt_pending_self, hd]
  rfl

theorem admitConditional_refused {error : WireError} (hi : ep.firstFree = some i)
    (hd : decodeCondition frame
      { Pending.claimed ep.nextSequence with kind := kind, requestType := requestType } = .error error) :
    ep.admitConditional frame now tv gate kind requestType =
      ({ outcome := .rejected, requestType := requestType, error := error }, ep.burnAt i) := by
  unfold admitConditional claimSlot
  generalize ep.firstFree = found at hi
  subst hi
  simp only [claimAt_pending_self, hd]
  rfl

/-- A conditional request that is stored was decoded. -/
theorem admitConditional_pending (h : (ep.admitConditional frame now tv gate kind requestType).1.outcome = .pending) :
    ∃ i slot, ep.firstFree = some i ∧
      decodeCondition frame { Pending.claimed ep.nextSequence with kind := kind, requestType := requestType } =
        .ok slot ∧
      ep.admitConditional frame now tv gate kind requestType =
        ({ outcome := .pending, requestType := requestType, index := some i, ack := buildStoreAck frame },
          ep.storeAt i (conditionalSlot slot frame now tv gate)) := by
  cases hi : ep.firstFree with
  | none =>
    unfold admitConditional claimSlot at h
    generalize ep.firstFree = found at hi h
    subst hi
    cases h
  | some i =>
    cases hd : decodeCondition frame
        { Pending.claimed ep.nextSequence with kind := kind, requestType := requestType } with
    | error e =>
      rw [admitConditional_refused hi hd] at h
      cases h
    | ok slot => exact ⟨i, slot, rfl, rfl, admitConditional_stored hi hd⟩

section route
variable (now : UInt32) (tv : Bool) (avtpTimestamp : UInt32) (gptpReferenceNow : UInt64)

theorem admitWithAck_suspended (hs : ep.admissionSuspended = true) :
    ep.admitWithAck frame now tv avtpTimestamp gptpReferenceNow = ({ outcome := .suspended }, ep) := by
  rw [admitWithAck]
  exact if_pos hs

/-- Past the two checks, a peeked opcode goes the way of its kind. -/
theorem admitWithAck_routed (hs : ep.admissionSuspended = false)
    (hrsp : Acf.headerIsRequest (Acf.unpackHeader frame) = true)
    (hpeek : compoundPeekRequestType frame = .ok requestType) (hkind : schedClassify true requestType = kind) (hstd : kind ≠ .standard) :
    ep.admitWithAck frame now tv avtpTimestamp gptpReferenceNow =
      if kind = .cancellation then
        if tv then
          ({ (ep.admitUnderTscfGate frame now (if tv then avtpExtendTimestamp avtpTimestamp gptpReferenceNow else 0)
              .cancellation requestType).1 with requestType := requestType },
            (ep.admitUnderTscfGate frame now (if tv then avtpExtendTimestamp avtpTimestamp gptpReferenceNow else 0)
              .cancellation requestType).2)
        else ({ outcome := .cancellation, requestType := requestType }, ep)
      else
        ep.admitConditional frame now tv (if tv then avtpExtendTimestamp avtpTimestamp gptpReferenceNow else 0) kind
          requestType := by
  have hresp : ¬(frame.length ≥ 8 ∧ (!Acf.headerIsRequest (Acf.unpackHeader frame)) = true) := by
    rw [hrsp]
    simp
  have hsus : ¬ep.admissionSuspended = true := by
    rw [hs]
    decide
  unfold admitWithAck
  rw [hpeek]
  dsimp only
  rw [if_neg hsus, if_neg hresp]
  cases kind with
  | standard => exact absurd rfl hstd
  | cancellation => rw [hkind, if_pos rfl]
  | _ => simp only [hkind, reduceCtorEq, if_false]

end route

/-- What is stored of an untimed frame is a condition that was decoded. -/
theorem admitWithAck_untimed {avtpTimestamp : UInt32} {gptpReferenceNow : UInt64}
    (h : (ep.admitWithAck frame now false avtpTimestamp gptpReferenceNow).1.outcome = .pending) :
    ∃ i requestType slot, ep.firstFree = some i ∧ compoundPeekRequestType frame = .ok requestType ∧
      decodeCondition frame
        { Pending.claimed ep.nextSequence with kind := schedClassify true requestType, requestType := requestType } =
          .ok slot ∧
      ep.admitWithAck frame now false avtpTimestamp gptpReferenceNow =
        ({ outcome := .pending, requestType := requestType, index := some i, ack := buildStoreAck frame },
          ep.storeAt i (conditionalSlot slot frame now false 0)) := by
  have hstd : (ep.admitStandard frame now false 0).1.outcome ≠ .pending := by
    rw [admitStandard]
    rcases ep.submit frame with ⟨executeNow, ack, ep'⟩
    cases executeNow <;> simp
  have hsus : ¬ep.admissionSuspended = true := by
    intro hs
    rw [admitWithAck_suspended now false _ _ hs] at h
    cases h
  have hresp : ¬(frame.length ≥ 8 ∧ (!Acf.headerIsRequest (Acf.unpackHeader frame)) = true) := by
    intro hr
    rw [admitWithAck, if_neg hsus, if_pos hr] at h
    cases h
  unfold admitWithAck at h ⊢
  simp only [if_neg hsus, if_neg hresp, Bool.false_eq_true, if_false] at h ⊢
  cases hpeek : compoundPeekRequestType frame with
  | error e =>
    simp only [hpeek] at h
    exact absurd h hstd
  | ok requestType =>
    simp only [hpeek] at h ⊢
    split at h
    · exact absurd h hstd
    · cases h
    · obtain ⟨i, slot, hi, hd, heq⟩ := admitConditional_pending h
      exact ⟨i, requestType, slot, hi, rfl, hd, heq⟩

end Endpoint

namespace KindRequest
variable {req : KindRequest} {m : Octets} {ep : Endpoint}

/-- Every encoder builds its frame around a repurposed region. -/
theorem encode_repurposed (h : req.encode = some m) :
    ∃ bus cs evt tn ts payload, encodeGbbRepurposed bus cs evt tn ts payload = some m := by
  cases req with
  | compound r =>
    simp only [encode, compoundEncodeRequest] at h
    split at h
    · cases h
    · exact ⟨_, _, _, _, _, _, h⟩
  | triggered r =>
    simp only [encode, triggeredEncodeRequest] at h
    split at h
    · cases h
    · exact ⟨_, _, _, _, _, _, h⟩
  | chained r => exact ⟨_, _, _, _, _, _, h⟩
  | timed r =>
    simp only [encode, timedEncodeRequest] at h
    split at h
    · cases h
    · exact ⟨_, _, _, _, _, _, h⟩
  | clearAll bus tn => exact ⟨_, _, _, _, _, _, encodeGbbRepurposed_cancel.trans h⟩
  | clearSingle bus clearTn tn => exact ⟨_, _, _, _, _, _, encodeGbbRepurposed_cancel.trans h⟩
  | clearNonSafestate bus tn =>
    rw [encode, compoundEncodeClearNonSafestate] at h
    exact ⟨_, _, _, _, _, _, h⟩

theorem encode_isRequest (h : req.encode = some m) : Acf.headerIsRequest (Acf.unpackHeader m) = true := by
  obtain ⟨bus, cs, evt, tn, ts, payload, hm⟩ := encode_repurposed h
  rw [← decodeRepurposed_info (decodeRepurposed_encoded hm)]
  change ((0 : UInt8) &&& 0x1 == 0) = true
  decide

@[simp] theorem onWire_kind (req : KindRequest) : req.onWire.kind = req.kind := by
  cases req <;> rfl

@[simp] theorem onWire_opcode (req : KindRequest) : req.onWire.opcode = req.opcode := by
  cases req <;> rfl

@[simp] theorem onWire_decoder (req : KindRequest) : req.onWire.decoder = req.decoder := by
  cases req <;> rfl

theorem onWire_reservedWait (req : KindRequest) : req.onWire.ReservedWait ↔ req.ReservedWait := by
  cases req with
  | compound r =>
    have hevt : r.evt &&& 0xF &&& 0x7 = r.evt &&& 0x7 := by
      rw [UInt8.and_assoc]
      rfl
    simp only [onWire, ReservedWait, hevt]
  | _ => exact Iff.rfl

theorem kind_ne_standard (req : KindRequest) : req.kind ≠ .standard := by
  cases req with
  | compound r =>
    rw [kind]
    split <;> decide
  | _ => simp [kind]

theorem Fields.conditionalSlot {slot : Pending} (h : req.Fields slot) (frame : Octets) (now : UInt32) (tv : Bool)
    (gate : UInt64) :
    req.Fields (Endpoint.conditionalSlot slot frame now tv gate) := by
  cases req <;> exact h

/-- The slot holds the request: its kind, its opcode, its fields and the frame it came in. -/
structure Stored (req : KindRequest) (frame : Octets) (slot : Pending) : Prop where
  inUse : slot.inUse = true
  kind : slot.kind = req.kind
  requestType : slot.requestType = req.opcode
  frame : slot.frame = frame
  fields : req.Fields slot

theorem Fields.stored {slot : Pending} {sequence : UInt64} (h : req.Fields slot) (now : UInt32) (tv : Bool)
    (gate : UInt64) (hd : decodeCondition m
      { Pending.claimed sequence with kind := req.kind, requestType := req.opcode } = .ok slot) :
    req.Stored m (Endpoint.conditionalSlot slot m now tv gate) where
  inUse := (decodeCondition_decoded hd).inUse
  kind := (decodeCondition_decoded hd).kind
  requestType := (decodeCondition_decoded hd).requestType
  frame := rfl
  fields := h.conditionalSlot m now tv gate

/-- What admission makes of the frame of `req`: the result and the endpoint after it. -/
structure Routed (req : KindRequest) (m : Octets) (tv : Bool) (ep : Endpoint) (r : AdmitResult × Endpoint) : Prop where
  stored : req.kind ≠ .cancellation → ¬req.ReservedWait →
    ∃ i, (ep.pending i).inUse = false ∧ r.1.outcome = .pending ∧ r.1.requestType = req.opcode ∧ r.1.index = some i ∧
      r.1.error = .none ∧ req.onWire.Stored m (r.2.pending i) ∧ ∀ j ≠ i, r.2.pending j = ep.pending j
  reserved : req.ReservedWait →
    r.1.outcome = .rejected ∧ r.1.requestType = req.opcode ∧ r.1.error = .unsupportedCmd
  cancellation : req.kind = .cancellation → tv = false →
    r = ({ outcome := .cancellation, requestType := req.opcode }, ep)
  gated : req.kind = .cancellation → tv = true →
    ∃ i, (ep.pending i).inUse = false ∧ r.1.outcome = .pending ∧ r.1.requestType = req.opcode ∧ r.1.index = some i ∧
      (r.2.pending i).inUse = true ∧ (r.2.pending i).kind = .cancellation ∧
      (r.2.pending i).requestType = req.opcode ∧ (r.2.pending i).frame = m ∧ ∀ j ≠ i, r.2.pending j = ep.pending j

theorem ReservedWait.kind_ne (h : req.ReservedWait) : req.kind ≠ .cancellation := by
  cases req with
  | compound r =>
    rw [KindRequest.kind, if_pos h.1]
    decide
  | triggered r => exact h.elim
  | chained r => exact h.elim
  | timed r => exact h.elim
  | clearAll bus tn => exact h.elim
  | clearSingle bus clearTn tn => exact h.elim
  | clearNonSafestate bus tn => exact h.elim

/-- The router takes every encoded request for the kind it was encoded as. -/
theorem encode_routed (ep : Endpoint) (h : req.encode = some m) (hs : ep.admissionSuspended = false)
    (hfree : ∃ j, (ep.pending j).inUse = false) (now : UInt32) (tv : Bool) (avtpTimestamp : UInt32)
    (gptpReferenceNow : UInt64) : req.Routed m tv ep (ep.admitWithAck m now tv avtpTimestamp gptpReferenceNow) := by
  obtain ⟨j, hj⟩ := hfree
  obtain ⟨i, hi⟩ := Endpoint.exists_firstFree hj
  have hdec := decode_encode h
  obtain ⟨-, htyped, -⟩ := RequestDecoder.decode_ok hdec
  have hpeek := RequestDecoder.peek_of_decode hdec
  have hclass := htyped.classify
  rw [onWire_opcode] at hpeek hclass
  rw [onWire_kind] at hclass
  have hroute := Endpoint.admitWithAck_routed now tv avtpTimestamp gptpReferenceNow hs (encode_isRequest h)
    hpeek hclass (kind_ne_standard req)
  rw [hroute]
  refine ⟨?_, ?_, ?_, ?_⟩
  · intro hcancel hwait
    rw [if_neg hcancel]
    obtain ⟨slot, hd, hfields⟩ := decodeCondition_of_decode
      { Pending.claimed ep.nextSequence with kind := req.onWire.kind, requestType := req.onWire.opcode }
      (onWire_decoder req ▸ hdec) rfl (onWire_kind req ▸ hcancel) (mt (onWire_reservedWait req).mp hwait)
    have hstored := hfields.stored now tv (if tv then avtpExtendTimestamp avtpTimestamp gptpReferenceNow else 0) hd
    rw [onWire_kind, onWire_opcode] at hd
    rw [Endpoint.admitConditional_stored hi hd]
    refine ⟨i, Endpoint.firstFree_free hi, rfl, rfl, rfl, rfl, ?_, ?_⟩
    · rw [Endpoint.storeAt_pending, Function.update_self]
      exact hstored
    · intro k hk
      rw [Endpoint.storeAt_pending, Function.update_of_ne hk]
  · intro hwait
    rw [if_neg hwait.kind_ne]
    have hd := decodeCondition_of_reservedWait
      { Pending.claimed ep.nextSequence with kind := req.onWire.kind, requestType := req.onWire.opcode }
      (onWire_decoder req ▸ hdec) rfl ((onWire_reservedWait req).mpr hwait)
    rw [onWire_kind, onWire_opcode] at hd
    rw [Endpoint.admitConditional_refused hi hd]
    exact ⟨rfl, rfl, rfl⟩
  · intro hcancel htv
    rw [if_pos hcancel, htv]
    rfl
  · intro hcancel htv
    rw [if_pos hcancel, if_pos htv, Endpoint.admitUnderTscfGate_free hi]
    refine ⟨i, Endpoint.firstFree_free hi, rfl, rfl, rfl, ?_⟩
    simp only [Endpoint.storeAt_pending, Function.update_self]
    refine ⟨rfl, rfl, rfl, rfl, ?_⟩
    intro k hk
    rw [Function.update_of_ne hk]

theorem decode_other (h : req.encode = some m) {d : RequestDecoder} (hd : d ≠ req.decoder) :
    ∃ e, d.decode m = .error e := by
  cases hdec : d.decode m with
  | error e => exact ⟨e, rfl⟩
  | ok req' => exact absurd (RequestDecoder.decode_unique hdec (decode_encode h)) hd

/-- What an untimed admission stores is a request of the kind it is stored under. -/
theorem stored_of_pending {b : Octets} {now avtpTimestamp : UInt32} {gptpReferenceNow : UInt64}
    (h : (ep.admitWithAck b now false avtpTimestamp gptpReferenceNow).1.outcome = .pending) :
    ∃ i, ∃ req : KindRequest, (ep.admitWithAck b now false avtpTimestamp gptpReferenceNow).1.index = some i ∧
      req.decoder.decode b = .ok req ∧
      req.Stored b ((ep.admitWithAck b now false avtpTimestamp gptpReferenceNow).2.pending i) := by
  obtain ⟨i, requestType, slot, hi, hpeek, hd, heq⟩ := Endpoint.admitWithAck_untimed h
  obtain ⟨req, hdec, rfl, hkind, hfields⟩ := decode_of_decodeCondition hd hpeek rfl
  rw [← show req.kind = schedClassify true req.opcode from hkind] at hd
  refine ⟨i, req, ?_, hdec, ?_⟩
  · rw [heq]
  · rw [heq, Endpoint.storeAt_pending, Function.update_self]
    exact hfields.stored now false 0 hd

end KindRequest

/-- The codecs of the request kinds and the router of the server agree. -/
theorem kindCodecs_agree :
    (∀ req : KindRequest, req.encode.isSome = true ↔ req.Encodable) ∧
    (∀ (req : KindRequest) (m : Octets), req.encode = some m →
      req.decoder.decode m = .ok req.onWire ∧ (∀ d, d ≠ req.decoder → ∃ e, d.decode m = .error e) ∧
      ∀ (ep : Endpoint) (now : UInt32) (tv : Bool) (avtpTimestamp : UInt32) (gptpReferenceNow : UInt64),
        (ep.admissionSuspended = true →
          ep.admitWithAck m now tv avtpTimestamp gptpReferenceNow = ({ outcome := .suspended }, ep)) ∧
        (ep.admissionSuspended = false → (∃ j, (ep.pending j).inUse = false) →
          req.Routed m tv ep (ep.admitWithAck m now tv avtpTimestamp gptpReferenceNow))) ∧
    (∀ (b : Octets) (d d' : RequestDecoder) (req req' : KindRequest),
      d.decode b = .ok req → d'.decode b = .ok req' → d = d') ∧
    (∀ (ep : Endpoint) (b : Octets) (now avtpTimestamp : UInt32) (gptpReferenceNow : UInt64),
      (ep.admitWithAck b now false avtpTimestamp gptpReferenceNow).1.outcome = .pending →
      ∃ i, ∃ req : KindRequest, (ep.admitWithAck b now false avtpTimestamp gptpReferenceNow).1.index = some i ∧
        req.decoder.decode b = .ok req ∧
        req.Stored b ((ep.admitWithAck b now false avtpTimestamp gptpReferenceNow).2.pending i)) := by
  refine ⟨KindRequest.encode_isSome, ?_, ?_, ?_⟩
  · intro req m h
    refine ⟨KindRequest.decode_encode h, fun d hd => KindRequest.decode_other h hd, ?_⟩
    intro ep now tv avtpTimestamp gptpReferenceNow
    refine ⟨fun hs => Endpoint.admitWithAck_suspended now tv avtpTimestamp gptpReferenceNow hs, ?_⟩
    intro hs hfree
    exact KindRequest.encode_routed ep h hs hfree now tv avtpTimestamp gptpReferenceNow
  · intro b d d' req req' h h'
    exact RequestDecoder.decode_unique h h'
  · intro ep b now avtpTimestamp gptpReferenceNow h
    exact KindRequest.stored_of_pending h

/-- A safety-tagged compound-wait request with a target of one octet. -/
def waitRequest : KindRequest :=
  .compound ⟨RequestType.compoundWaitSafety, 5, { startState := 1, nextState := 2, sequencerIndex := 3 }, 0, [0xAA], 9⟩

theorem kindCodecs_agree_wait :
    ∃ m, waitRequest.encode = some m ∧ RequestDecoder.compound.decode m = .ok waitRequest ∧
      (∃ e, RequestDecoder.chained.decode m = .error e) ∧
      (∃ i, ((Endpoint.init true).admitWithAck m 0 false 0 0).1.index = some i ∧
        waitRequest.Stored m (((Endpoint.init true).admitWithAck m 0 false 0 0).2.pending i)) ∧
      ((∃ req, RequestDecoder.chained.decode m = .ok req) → RequestDecoder.compound = .chained) ∧
      ∃ i, ∃ req : KindRequest, ((Endpoint.init true).admitWithAck m 0 false 0 0).1.index = some i ∧
        req.decoder.decode m = .ok req := by
  obtain ⟨hsome, hencode, hunique, hpending⟩ := kindCodecs_agree
  obtain ⟨m, hm⟩ := Option.isSome_iff_exists.mp ((hsome waitRequest).mpr ⟨by decide, by decide⟩)
  obtain ⟨hdecode, hother, hroute⟩ := hencode waitRequest m hm
  have hnot : ¬waitRequest.ReservedWait := fun h => absurd h.2 (by decide)
  obtain ⟨i, -, hout, -, hindex, -, hstored, -⟩ :=
    ((hroute (Endpoint.init true) 0 false 0 0).2 rfl ⟨0, rfl⟩).stored (by decide) hnot
  obtain ⟨k, req, hk, hreq, -⟩ := hpending (Endpoint.init true) m 0 0 0 hout
  refine ⟨m, hm, hdecode, hother .chained (by decide), ⟨i, hindex, hstored⟩, ?_, k, req, hk, hreq⟩
  rintro ⟨req', hreq'⟩
  exact hunique m .compound .chained waitRequest req' hdecode hreq'

/-- A compound-wait request with the reserved comparison mode and a bus id of twelve bits. -/
def reservedWaitRequest : KindRequest := .compound ⟨RequestType.compoundWait, 0x801, {}, 3, [], 9⟩

/-- The encoder takes the reserved comparison mode and the decoder gives it back, with the bus id cut to eleven
    bits; the router turns the request down. -/
theorem kindCodecs_disagree :
    ∃ m, reservedWaitRequest.encode = some m ∧
      compoundDecodeRequest m = .ok ⟨RequestType.compoundWait, 0x001, {}, 3, [], 9⟩ ∧
      (Endpoint.init true).admissionSuspended = false ∧ ((Endpoint.init true).pending 0).inUse = false ∧
      ((Endpoint.init true).admitWithAck m 0 false 0 0).1.outcome = .rejected := by
  obtain ⟨m, hm⟩ := Option.isSome_iff_exists.mp
    ((KindRequest.encode_isSome reservedWaitRequest).mpr ⟨by decide, by decide⟩)
  have hrouted := KindRequest.encode_routed (Endpoint.init true) hm rfl ⟨0, rfl⟩ 0 false 0 0
  have hdecode := compoundDecodeRequest_encoded (by decide) hm
  exact ⟨m, hm, hdecode, rfl, rfl, (hrouted.reserved ⟨by decide, by decide⟩).1⟩

end Rcp
