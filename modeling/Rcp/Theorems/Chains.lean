import Rcp.Theorems.Unadmission

/-! The chains of one frame. The loop over the members carries `chain_aborted` from one chain into the next,
    so a chain is judged on its own exactly where that flag is not set or makes no difference. -/

namespace Rcp

/-- What the frame loop reports about a member: the verdict on its place in the chain, and whether it
    reached its endpoint. -/
def FrameMemberResult.outcome (kind : FrameKind) (out : FrameMemberResult) : ChainedOutcome × Bool :=
  match out.result with
  | .chainError => (.chainError, false)
  | .chainAborted => (.chainAborted, false)
  | result => (.ok, !kind.isError result)

/-- A chained member has decoded as an ACF_GBB message, so its bus is known. -/
theorem isChainedMember_peek {member : Octets} {x : UInt8 × UInt8} (h : isChainedMember member = some x) :
    ∃ byteBusId, peekMemberByteBusId member = some (Acf.msgTypeGbb, byteBusId) := by
  unfold isChainedMember at h
  split at h
  · cases h
  split at h
  · cases h
  split at h
  · cases h
  rename_i hdec
  unfold chainedDecodeMember decodeRepurposed at hdec
  cases hgbb : Acf.decodeGbb member with
  | error e => simp [hgbb] at hdec
  | ok p =>
    have htype : member.at 0 >>> 1 = Acf.msgTypeGbb ∧ ¬member.length < Acf.gbbHeaderLen := by
      unfold Acf.decodeGbb at hgbb
      split at hgbb
      · cases hgbb
      split at hgbb
      · cases hgbb
      exact ⟨not_not.mp ‹_›, ‹_›⟩
    have hlen : ¬member.length < 1 := by
      have := htype.2
      simp only [Acf.gbbHeaderLen] at this
      omega
    have hne : Acf.msgTypeGbb ≠ Acf.msgTypeAbb := by decide
    exact ⟨p.1.info.byteBusId, by simp [peekMemberByteBusId, Acf.peekMsgType, hlen, htype.1, hne, hgbb]⟩

namespace FrameLoop
variable (l : FrameLoop)

/-- The loop variables with another value of `chain_aborted`. -/
def withAborted (aborted : Bool) : FrameLoop := { l with chainAborted := aborted }

@[simp] theorem withAborted_results (b : Bool) : (l.withAborted b).results = l.results := rfl
@[simp] theorem withAborted_withAborted (b b' : Bool) : (l.withAborted b).withAborted b' = l.withAborted b' := rfl

theorem enter_keeps (chained : Bool) : (l.enter chained).results = l.results ∧ (l.enter chained).index = l.index := by
  cases chained <;> exact ⟨rfl, rfl⟩

theorem advance_keeps (chained : Option (UInt8 × UInt8)) :
    (l.advance chained).2.results = l.results ∧ (l.advance chained).2.index = l.index := by
  cases chained <;> exact ⟨rfl, rfl⟩

end FrameLoop

namespace MockServer
variable {σ : Type} (kind : FrameKind) (env : FrameEnvelope) {member : Octets}

/-! ### One turn of the loop -/

theorem memberVerdict_keeps (l : FrameLoop) (member : Octets) :
    (memberVerdict env l member).2.results = l.results ∧ (memberVerdict env l member).2.index = l.index := by
  unfold memberVerdict
  cases peekMemberByteBusId member with
  | none => exact ⟨rfl, rfl⟩
  | some p =>
    obtain ⟨msgType, byteBusId⟩ := p
    dsimp only
    have henter := l.enter_keeps (isChainedMember member).isSome
    have hadvance := (l.enter (isChainedMember member).isSome).advance_keeps (isChainedMember member)
    generalize (l.enter (isChainedMember member).isSome).advance (isChainedMember member) = a at hadvance ⊢
    obtain ⟨outcome, l'⟩ := a
    cases outcome <;> exact ⟨hadvance.1.trans henter.1, hadvance.2.trans henter.2⟩

/-- A turn appends one result and counts it. -/
theorem frameMember_results (s : MockServer σ × FrameLoop) (member : Octets) :
    (∃ out, (frameMember kind env s member).2.results = s.2.results ++ [out]) ∧
      (frameMember kind env s member).2.index = s.2.index + 1 := by
  obtain ⟨hresults, hindex⟩ := memberVerdict_keeps env s.2 member
  unfold frameMember
  dsimp only
  generalize memberVerdict env s.2 member = v at hresults hindex ⊢
  obtain ⟨verdict, l⟩ := v
  cases verdict <;> simp only [FrameLoop.finish] <;> exact ⟨⟨_, by rw [← hresults]⟩, by rw [← hindex]⟩

section Chained
variable {cs tn msgType : UInt8} {byteBusId : ByteBusId} (s : MockServer σ × FrameLoop)

end Chained

/-! ### Two chains in one frame -/

/-- The header arguments of an NTSCF frame on stream 9. -/
def stream9 : FrameEnvelope :=
  { avtpSubtype := avtpSubtypeNtscf, timeSyncSupported := false, streamId := 9, sequenceNum := 0 }

/-- A write to a bus; nothing is registered on bus 5. -/
def writeTo (byteBusId : UInt8) : Octets := [0x1C, 0x02, 0x00, byteBusId, 0x00, 0x01, 0x80, 0x00]
/-- A chained request for bus 1 that wants to be aborted if its predecessor fails. -/
def chainedAbort : Octets := [0x1A, 0x04, 0x00, 0x01, 0x01, 0x02, 0x80, 0x00, 0x01, 0, 0, 0, 0, 0, 0, 0]

end MockServer
end Rcp
