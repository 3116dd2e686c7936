import Rcp.Lib.Trace
import Rcp.Theorems.Quiet

/-! The log of a run: every dispatch of a single request, also of a member of a frame, every decision of the
    sequence gate, and every other call, each with the server it finds. -/

namespace Rcp

/-- An entry of the log. -/
inductive Event (σ : Type) where
  | call (srv : MockServer σ) (c : DispatchCall)
  | gate (srv : MockServer σ) (streamId : UInt64) (sequenceNum : UInt8)
  | other (srv : MockServer σ) (op : MockOp σ) (h : op.dispatches = false)

namespace Event
variable {σ : Type}

def before : Event σ → MockServer σ
  | .call srv _ | .gate srv _ _ | .other srv _ _ => srv

def after : Event σ → MockServer σ
  | .call srv c => (srv.call c).server
  | .gate srv streamId sequenceNum => (srv.frameSeqGateAdmits streamId sequenceNum).2
  | .other srv op _ => srv.step op

end Event

namespace MockServer
variable {σ : Type}

/-! ### The entries of one call -/

/-- A turn of the loop over the members dispatches at most one request. -/
def memberLog (kind : FrameKind) (env : FrameEnvelope) (s : MockServer σ × FrameLoop) (member : Octets) :
    List (Event σ) :=
  match memberVerdict env s.2 member with
  | (.dispatch menv, _) => [.call s.1 (kind.memberCall menv member)]
  | _ => []

def loopLog (kind : FrameKind) (env : FrameEnvelope) : MockServer σ × FrameLoop → List Octets → List (Event σ)
  | _, [] => []
  | s, member :: members => memberLog kind env s member ++ loopLog kind env (frameMember kind env s member) members

def frameLog (kind : FrameKind) (srv : MockServer σ) (env : FrameEnvelope) (frame : Octets) (outCap : Nat) :
    List (Event σ) :=
  match schedSplitFrameMembers frame with
  | none | some [] => []
  | some offsets =>
    .gate srv env.streamId env.sequenceNum ::
      match srv.frameSeqGateAdmits env.streamId env.sequenceNum with
      | (false, _) => []
      | (true, srv) => loopLog kind env (srv, {}) (frameMembers frame offsets outCap)

def stepLog (srv : MockServer σ) : MockOp σ → List (Event σ)
  | .call c => [.call srv c]
  | .dispatchFrame kind env frame outCap => frameLog kind srv env frame outCap
  | op => if h : op.dispatches = false then [.other srv op h] else []

/-- The log of a run. -/
def log (srv : MockServer σ) : List (MockOp σ) → List (Event σ)
  | [] => []
  | op :: ops => stepLog srv op ++ log (srv.step op) ops

/-! ### The log accounts for the run -/

/-- A relation that may hold between two entries of the log: between them, only the loop over the members of a frame
    tags what it has stored. -/
structure Gap (same : MockServer σ → MockServer σ → Prop) : Prop where
  refl : ∀ srv, same srv srv
  trans : ∀ a b c, same a b → same b c → same a c
  tagMember : ∀ (srv : MockServer σ) (streamId : UInt64) (byteBusId : ByteBusId) (l : FrameLoop) (result : DispatchResult),
    same srv (srv.tagMember streamId byteBusId l result)

namespace Gap
variable {same : MockServer σ → MockServer σ → Prop} {srv srv' srv'' : MockServer σ}

/-- The entries lead from one server to another, but for changes `same` does not see. -/
abbrev Leads (same : MockServer σ → MockServer σ → Prop) (srv : MockServer σ) (es : List (Event σ)) (srv' : MockServer σ) :
    Prop :=
  Lib.Trace Event.before Event.after same srv es srv'

theorem append (h : Gap same) {es es' : List (Event σ)} (hl : Leads same srv es srv') (hl' : Leads same srv' es' srv'') :
    Leads same srv (es ++ es') srv'' :=
  Lib.Trace.append hl hl' h.trans

/-- An entry by itself. -/
theorem one (h : Gap same) (e : Event σ) : Leads same e.before [e] e.after :=
  .cons (h.refl _) (.nil (h.refl _))

theorem memberLog (h : Gap same) (kind : FrameKind) (env : FrameEnvelope) (s : MockServer σ × FrameLoop)
    (member : Octets) : Leads same s.1 (memberLog kind env s member) (frameMember kind env s member).1 := by
  obtain ⟨srv, l⟩ := s
  unfold MockServer.memberLog frameMember
  dsimp only
  rcases memberVerdict env l member with ⟨_ | out | menv, l'⟩
  · exact .nil (h.refl srv)
  · exact .nil (h.refl srv)
  · exact (h.one (.call srv (kind.memberCall menv member))).extend (h.tagMember _ _ _ _ _) h.trans

theorem loopLog (h : Gap same) (kind : FrameKind) (env : FrameEnvelope) (members : List Octets) :
    ∀ s : MockServer σ × FrameLoop,
      Leads same s.1 (loopLog kind env s members) (members.foldl (frameMember kind env) s).1 := by
  induction members with
  | nil => exact fun s => .nil (h.refl s.1)
  | cons member members ih => exact fun s => h.append (h.memberLog kind env s member) (ih _)

theorem frameLog (h : Gap same) (kind : FrameKind) (srv : MockServer σ) (env : FrameEnvelope) (frame : Octets)
    (outCap : Nat) :
    Leads same srv (frameLog kind srv env frame outCap) (dispatchFrameWith kind srv env frame outCap).2 := by
  have hgate := h.one (.gate srv env.streamId env.sequenceNum)
  unfold MockServer.frameLog dispatchFrameWith
  dsimp only [Event.before, Event.after] at hgate
  rcases schedSplitFrameMembers frame with _ | _ | ⟨offset, offsets⟩
  · exact .nil (h.refl srv)
  · exact .nil (h.refl srv)
  dsimp only
  rcases hadm : srv.frameSeqGateAdmits env.streamId env.sequenceNum with ⟨_ | _, srv'⟩
  · rw [hadm] at hgate
    exact hgate
  · rw [hadm] at hgate
    exact h.append hgate (h.loopLog kind env _ (srv', {}))

theorem stepLog (h : Gap same) (srv : MockServer σ) (op : MockOp σ) : Leads same srv (srv.stepLog op) (srv.step op) := by
  cases op with
  | call c => exact h.one (.call srv c)
  | dispatchFrame kind env frame outCap => exact h.frameLog kind srv env frame outCap
  | _ => exact h.one (.other srv _ rfl)

theorem log (h : Gap same) (ops : List (MockOp σ)) : ∀ srv : MockServer σ, Leads same srv (srv.log ops) (srv.run ops) := by
  induction ops with
  | nil => exact fun srv => .nil (h.refl srv)
  | cons op ops ih => exact fun srv => h.append (h.stepLog srv op) (ih _)

end Gap

/-- The entries lead from one server to another, but for changes that no stream and no sequencer sees. -/
abbrev Logs (srv : MockServer σ) (es : List (Event σ)) (srv' : MockServer σ) : Prop :=
  Lib.Trace Event.before Event.after SameSides srv es srv'

variable {srv srv' : MockServer σ}

theorem sameSides_gap : Gap (@SameSides σ) where
  refl := .refl
  trans _ _ _ := SameSides.trans
  tagMember := .tagMember

theorem log_logs (ops : List (MockOp σ)) (srv : MockServer σ) : Logs srv (srv.log ops) (srv.run ops) :=
  sameSides_gap.log ops srv

/-! ### What is logged -/

theorem memberVerdict_streamId {env : FrameEnvelope} {l l' : FrameLoop} {member : Octets} {menv : Envelope}
    (h : memberVerdict env l member = (.dispatch menv, l')) : menv.streamId = env.streamId := by
  unfold memberVerdict at h
  dsimp only at h
  split at h
  · cases h
  · split at h <;> cases h
    rfl

end MockServer
end Rcp
