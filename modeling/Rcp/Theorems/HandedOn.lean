import Rcp.Theorems.SeqGate

/-! Which request a call hands to `dispatch_plain`. A call that hands on none ends with an answer of its own, and
    the most it does to an endpoint is to put it into the safe state. -/

namespace Rcp

/-- The arguments of `dispatch_plain`. -/
abbrev PlainArgs := Envelope × TscfTiming × Octets

namespace MockServer
variable {σ : Type} {srv srv' srv'' : MockServer σ}

def e2eHandsOn (srv : MockServer σ) (env : Envelope) (timing : TscfTiming) (avtpTimestamp : UInt32) (request : Octets) :
    Option PlainArgs :=
  if srv.streamFaulted env.streamId then none else
  match srv.findSlotOnStream env.streamId env.byteBusId with
  | none => some (env, timing, request)
  | some e =>
    if !(srv.endpoints e).reqCrcEnable then some (env, timing, request) else
    match e2eUnwrapFramed env.streamId (env.avtpSubtype == avtpSubtypeNtscf) 0 false avtpTimestamp request with
    | (.error _, _) => none
    | (.ok _, unwrapped) => some (env, timing, unwrapped)

def reassembledHandsOn (srv : MockServer σ) (row : StreamIx) (env : Envelope) (timing : TscfTiming)
    (avtpTimestamp : UInt32) (final : FinalFragment) (got : UInt32) (reassembled : Octets) : Option PlainArgs :=
  let effectiveTs := if env.avtpSubtype = avtpSubtypeNtscf then 0 else avtpTimestamp
  let want := e2eComputeFragmentedCrc
    { avtpSubtype := env.avtpSubtype, streamId := env.streamId, avtpTimestamp := effectiveTs }
    (srv.fragFirstHeader row) reassembled
  if got ≠ want then none else
  match final.reencode reassembled with
  | none => if reassembled.length ≠ 0 then none else some (env, timing, [])
  | some encoded => some (env, timing, encoded)

def finalHandsOn (srv : MockServer σ) (row : StreamIx) (env : Envelope) (timing : TscfTiming) (avtpTimestamp : UInt32)
    (fragment : Octets) : Option PlainArgs :=
  match srv.finalMessage row env avtpTimestamp fragment with
  | none => none
  | some (final, got, reasm) => srv.reassembledHandsOn row env timing avtpTimestamp final got reasm.buf

def fragmentHandsOn (srv : MockServer σ) (env : Envelope) (timing : TscfTiming) (avtpTimestamp : UInt32)
    (fragment : Octets) : Option PlainArgs :=
  if srv.streamFaulted env.streamId then none else
  match srv.findSlotOnStream env.streamId env.byteBusId with
  | none => some (env, timing, fragment)
  | some e =>
    if !(srv.endpoints e).reqCrcEnable then some (env, timing, fragment) else
    if fragment.length < 8 then none else
    match srv.requestStreamCfg.resolveRow env.streamId with
    | none => srv.e2eHandsOn env timing avtpTimestamp fragment
    | some row =>
      if (Acf.unpackHeader fragment).ms ≠ 0 then none else
      if !(srv.fragReasm row).collecting then srv.e2eHandsOn env timing avtpTimestamp fragment else
      srv.finalHandsOn row env timing avtpTimestamp fragment

/-- What a call hands to `dispatch_plain`. -/
def handsOn (srv : MockServer σ) : DispatchCall → Option PlainArgs
  | .dispatch env request => some (env, {}, request)
  | .dispatchTscf env timing tscfReservedAllZero request =>
    if env.avtpSubtype = avtpSubtypeTscf ∧ tscfReservedAllZero then
      if srv.tscfUnsupportedTimeSyncPolicy = .drop then none
      else some ({ env with avtpSubtype := avtpSubtypeNtscf }, { timing with tv := false }, request)
    else some (env, timing, request)
  | .dispatchE2e env avtpTimestamp request => srv.e2eHandsOn env {} avtpTimestamp request
  | .dispatchE2eTscf env timing request => srv.e2eHandsOn env timing timing.avtpTimestamp request
  | .dispatchE2eFragment env avtpTimestamp fragment => srv.fragmentHandsOn env {} avtpTimestamp fragment
  | .dispatchE2eFragmentTscf env timing fragment => srv.fragmentHandsOn env timing timing.avtpTimestamp fragment

/-! ### Every call ends there or in the safe state -/

theorem SafeStatePurge.noteOverflow (srv : MockServer σ) (streamId : UInt64) :
    SafeStatePurge srv (srv.noteOverflow streamId) := by
  unfold MockServer.noteOverflow
  split
  · exact .refl srv
  · refine SafeStatePurge.trans ?_ (.enter _ _ _)
    exact .of_eq rfl rfl

theorem SafeStatePurge.noteCrcError (srv : MockServer σ) (streamId : UInt64) (rxEnforceE2e : Bool) :
    SafeStatePurge srv (srv.noteCrcError streamId rxEnforceE2e) := by
  unfold MockServer.noteCrcError
  dsimp only
  split
  · exact .of_eq rfl rfl
  · refine SafeStatePurge.trans ?_ (.enter _ _ _)
    exact .of_eq rfl rfl

/-- All that `dispatch_plain` reads is the same. -/
structure SameAdmission (srv srv' : MockServer σ) : Prop extends SameStores srv srv' where
  state : srv'.state = srv.state
  policy : srv'.tscfUnsupportedTimeSyncPolicy = srv.tscfUnsupportedTimeSyncPolicy

theorem SameAdmission.refl (srv : MockServer σ) : SameAdmission srv srv := ⟨.refl srv, rfl, rfl⟩

/-- The server a call leaves, given what it hands on. -/
inductive HandedOn (srv : MockServer σ) : Option PlainArgs → MockServer σ → Prop
  | none {srv' : MockServer σ} (h : SafeStatePurge srv srv') : HandedOn srv none srv'
  | plain {srv' : MockServer σ} {env : Envelope} {timing : TscfTiming} {request : Octets} (h : SameAdmission srv srv') :
      HandedOn srv (some (env, timing, request)) (srv'.dispatchPlain env timing request).server

section
variable (env : Envelope) (timing : TscfTiming) (avtpTimestamp : UInt32)

theorem dispatchE2eWith_handedOn (srv : MockServer σ) (request : Octets) :
    HandedOn srv (srv.e2eHandsOn env timing avtpTimestamp request)
      (srv.dispatchE2eWith env timing avtpTimestamp request).server := by
  unfold dispatchE2eWith e2eHandsOn
  cases srv.streamFaulted env.streamId with
  | true => exact .none (.refl srv)
  | false =>
    cases srv.findSlotOnStream env.streamId env.byteBusId with
    | none => exact .plain (.refl srv)
    | some e =>
      cases hcrc : (srv.endpoints e).reqCrcEnable with
      | false =>
        simp only [hcrc, Bool.not_false, if_true, Bool.false_eq_true, if_false]
        exact .plain (.refl srv)
      | true =>
        simp only [hcrc, Bool.not_true, Bool.false_eq_true, if_false]
        rcases e2eUnwrapFramed env.streamId (env.avtpSubtype == avtpSubtypeNtscf) 0 false avtpTimestamp request with
          ⟨error | _, unwrapped⟩
        · exact .none (.noteCrcError _ _ _)
        · exact .plain (.refl srv)

theorem dispatchIntermediateFragment_purge (srv : MockServer σ) (row : StreamIx) (acfMsgType : UInt8)
    (fragment : Octets) : SafeStatePurge srv (srv.dispatchIntermediateFragment row acfMsgType fragment).server := by
  unfold dispatchIntermediateFragment
  split
  · exact .refl srv
  dsimp only
  split <;> split <;> exact .of_eq rfl rfl

theorem dispatchReassembled_handedOn (row : StreamIx) (reasm : Reassembler) (rxEnforceE2e : Bool)
    (final : FinalFragment) (got : UInt32) (reassembled : Octets) :
    HandedOn srv (srv.reassembledHandsOn row env timing avtpTimestamp final got reassembled)
      ((srv.setReasm row reasm).dispatchReassembled row env timing avtpTimestamp rxEnforceE2e final got
        reassembled).server := by
  have hsame : SameAdmission srv
      ((srv.setReasm row reasm).setReasm row ((srv.setReasm row reasm).fragReasm row).reset) :=
    ⟨⟨rfl, rfl, rfl⟩, rfl, rfl⟩
  have hfirst : (srv.setReasm row reasm).fragFirstHeader = srv.fragFirstHeader := rfl
  unfold dispatchReassembled reassembledHandsOn
  dsimp only
  rw [hfirst]
  generalize e2eComputeFragmentedCrc _ _ _ = want
  by_cases hcrc : got ≠ want
  · rw [if_pos hcrc, if_pos hcrc]
    have hset : SafeStatePurge srv (srv.setReasm row reasm) := .of_eq rfl rfl
    refine .none ((hset.trans (.noteCrcError _ env.streamId rxEnforceE2e)).trans ?_)
    exact .of_eq rfl rfl
  rw [if_neg hcrc, if_neg hcrc]
  cases final.reencode reassembled with
  | none =>
    dsimp only
    by_cases hlen : reassembled.length ≠ 0
    · rw [if_pos hlen, if_pos hlen]
      exact .none (.of_eq rfl rfl)
    · rw [if_neg hlen, if_neg hlen]
      exact .plain hsame
  | some encoded => exact .plain hsame

theorem dispatchFinalFragment_handedOn (srv : MockServer σ) (row : StreamIx) (rxEnforceE2e : Bool)
    (fragment : Octets) :
    HandedOn srv (srv.finalHandsOn row env timing avtpTimestamp fragment)
      (srv.dispatchFinalFragment row env timing avtpTimestamp rxEnforceE2e fragment).server := by
  unfold finalHandsOn
  obtain ⟨hmsg, reasm, -, heq⟩ | ⟨final, got, reasm, hmsg, -, heq⟩ :=
    dispatchFinalFragment_cases srv row env timing avtpTimestamp rxEnforceE2e fragment <;> rw [hmsg, heq]
  · exact .none (.of_eq rfl rfl)
  · exact dispatchReassembled_handedOn env timing avtpTimestamp row reasm rxEnforceE2e final got reasm.buf

theorem dispatchE2eFragmentWith_handedOn (srv : MockServer σ) (fragment : Octets) :
    HandedOn srv (srv.fragmentHandsOn env timing avtpTimestamp fragment)
      (srv.dispatchE2eFragmentWith env timing avtpTimestamp fragment).server := by
  unfold dispatchE2eFragmentWith fragmentHandsOn
  cases srv.streamFaulted env.streamId with
  | true => exact .none (.refl srv)
  | false =>
  cases srv.findSlotOnStream env.streamId env.byteBusId with
  | none => exact .plain (.refl srv)
  | some e =>
  dsimp only
  cases (srv.endpoints e).reqCrcEnable with
  | false => exact .plain (.refl srv)
  | true =>
  simp only [Bool.not_true, Bool.false_eq_true, if_false]
  by_cases hlen : fragment.length < 8
  · rw [if_pos hlen, if_pos hlen]
    exact .none (.refl srv)
  rw [if_neg hlen, if_neg hlen]
  cases srv.requestStreamCfg.resolveRow env.streamId with
  | none => exact dispatchE2eWith_handedOn env timing avtpTimestamp srv fragment
  | some row =>
    dsimp only
    by_cases hms : (Acf.unpackHeader fragment).ms = 0
    · rw [if_neg (not_not.mpr hms), if_neg (not_not.mpr hms)]
      cases (srv.fragReasm row).collecting with
      | false => exact dispatchE2eWith_handedOn env timing avtpTimestamp srv fragment
      | true => exact dispatchFinalFragment_handedOn env timing avtpTimestamp srv row _ fragment
    · rw [if_pos hms, if_pos hms]
      exact .none (dispatchIntermediateFragment_purge srv row env.acfMsgType fragment)

end

/-- What a call hands on decides what it can do to the endpoints. -/
theorem call_handedOn (srv : MockServer σ) (c : DispatchCall) : HandedOn srv (srv.handsOn c) (srv.call c).server := by
  cases c with
  | dispatch env request => exact .plain (.refl srv)
  | dispatchTscf env timing tscfReservedAllZero request =>
    unfold call dispatchTscf handsOn
    dsimp only
    by_cases hall : env.avtpSubtype = avtpSubtypeTscf ∧ tscfReservedAllZero = true
    · rw [if_pos hall, if_pos hall]
      cases srv.tscfUnsupportedTimeSyncPolicy with
      | drop => exact .none (.refl srv)
      | ignore => exact .plain (.refl srv)
    · rw [if_neg hall, if_neg hall]
      exact .plain (.refl srv)
  | dispatchE2e env avtpTimestamp request => exact dispatchE2eWith_handedOn env {} avtpTimestamp srv request
  | dispatchE2eTscf env timing request => exact dispatchE2eWith_handedOn env timing _ srv request
  | dispatchE2eFragment env avtpTimestamp fragment =>
    exact dispatchE2eFragmentWith_handedOn env {} avtpTimestamp srv fragment
  | dispatchE2eFragmentTscf env timing fragment =>
    exact dispatchE2eFragmentWith_handedOn env timing _ srv fragment

end MockServer
end Rcp
