import Rcp.Theorems.Chains
import Rcp.Theorems.Kept

/-! Where a stored request came from. The server has no record of it, so `Tracked` runs the server and notes,
    for every slot, the dispatch that filled it. What has to hold of every dispatch and of every tick of a run is
    said of its visits. -/

namespace Rcp

/-- The place of a request in the frame it arrived in, as the loop has it. `frame` numbers the frames of a run. -/
structure FramePlace where
  frame : Nat
  member : Nat
  chainGroup : UInt32
  chainPosition : Nat
  predecessor : Option DispatchResult
deriving DecidableEq, Repr

/-- The place of the member that the loop is about to dispatch. -/
def FrameLoop.place (l : FrameLoop) (frame : Nat) : FramePlace :=
  { frame := frame, member := l.index, chainGroup := l.chainGroup, chainPosition := l.chainPosition,
    predecessor := l.results.getLast?.map (·.result) }

/-- The dispatch that put a request into the slot it is in: the server before it, the call, the place in a frame,
    and the time of the latest tick. -/
structure Admission (σ : Type) where
  server : MockServer σ
  call : DispatchCall
  place : Option FramePlace
  clock : UInt32

def Admission.result {σ : Type} (a : Admission σ) : DispatchResult := (a.server.call a.call).result

/-- The server with the origin of what is in its slots. The origin of a free slot means nothing. -/
structure Tracked (σ : Type) where
  server : MockServer σ
  origin : EndpointIx → SlotIx → Option (Admission σ) := fun _ _ => none
  frames : Nat := 0
  clock : UInt32 := 0

/-- A moment of a run at which a request is dispatched, on its own or as a member of a frame, or a tick begins. -/
inductive Visit (σ : Type) where
  | call (t : Tracked σ) (c : DispatchCall) (place : Option FramePlace)
  | tick (t : Tracked σ) (scope : Scope) (byteBusId : ByteBusId) (ctx : TickCtx)

def Visit.state {σ : Type} : Visit σ → Tracked σ
  | .call t .. | .tick t .. => t

namespace Tracked
variable {σ : Type}

def new (world : σ) : Tracked σ := { server := .new world }

/-- A request is in slot `i` of endpoint `e`. -/
def InUse (t : Tracked σ) (e : EndpointIx) (i : SlotIx) : Prop := (t.server.slot e i).inUse = true

/-- The request in slot `i` of endpoint `e` came from the given place. -/
def From (t : Tracked σ) (e : EndpointIx) (i : SlotIx) (p : FramePlace) : Prop :=
  t.InUse e i ∧ ∃ a, t.origin e i = some a ∧ a.place = some p

instance (t : Tracked σ) (e : EndpointIx) (i : SlotIx) : Decidable (t.InUse e i) := inferInstanceAs (Decidable (_ = _))

/-- The place `From` speaks of, if there is one. -/
def place (t : Tracked σ) (e : EndpointIx) (i : SlotIx) : Option FramePlace :=
  if t.InUse e i then (t.origin e i).bind (·.place) else none

theorem from_iff_place {t : Tracked σ} {e : EndpointIx} {i : SlotIx} {p : FramePlace} :
    t.From e i p ↔ t.place e i = some p := by
  unfold From place
  split
  · rename_i hu
    simp [hu, Option.bind_eq_some_iff]
  · rename_i hu
    simp [hu]

instance (t : Tracked σ) (e : EndpointIx) (i : SlotIx) (P : FramePlace → Prop) [DecidablePred P] :
    Decidable (∃ q, t.From e i q ∧ P q) :=
  decidable_of_iff (∃ q ∈ t.place e i, P q) (by simp only [from_iff_place, Option.mem_def])

/-- The origins after the dispatch `c`: a slot that was free and is in use now has been filled by it. -/
def noteOrigin (t : Tracked σ) (c : DispatchCall) (place : Option FramePlace) :
    EndpointIx → SlotIx → Option (Admission σ) := fun e i =>
  if !(t.server.slot e i).inUse && ((t.server.call c).server.slot e i).inUse then
    some { server := t.server, call := c, place := place, clock := t.clock }
  else t.origin e i

def call (t : Tracked σ) (c : DispatchCall) : Tracked σ :=
  { t with server := (t.server.call c).server, origin := t.noteOrigin c none }

/-- `MockServer.frameMember` with the origin noted. -/
def frameMember (kind : FrameKind) (env : FrameEnvelope) (s : Tracked σ × FrameLoop) (member : Octets) :
    Tracked σ × FrameLoop :=
  let (t, l) := s
  let (srv, l') := MockServer.frameMember kind env (t.server, l) member
  match MockServer.memberVerdict env l member with
  | (.dispatch menv, lv) =>
    ({ t with server := srv, origin := t.noteOrigin (kind.memberCall menv member) (some (lv.place t.frames)) }, l')
  | _ => ({ t with server := srv }, l')

/-- The state in which the loop over the members starts, and the members. -/
def frameStart (t : Tracked σ) (env : FrameEnvelope) (frame : Octets) (outCap : Nat) : Tracked σ × List Octets :=
  match schedSplitFrameMembers frame with
  | none | some [] => (t, [])
  | some offsets =>
    match t.server.frameSeqGateAdmits env.streamId env.sequenceNum with
    | (false, srv) => ({ t with server := srv }, [])
    | (true, srv) => ({ t with server := srv }, MockServer.frameMembers frame offsets outCap)

/-- `MockServer.step` with the origins noted. -/
def step (t : Tracked σ) : MockOp σ → Tracked σ
  | .call c => t.call c
  | .dispatchFrame kind env frame outCap =>
    let (t, members) := t.frameStart env frame outCap
    let (t, _) := members.foldl (frameMember kind env) (t, {})
    { t with frames := t.frames + 1 }
  | .tick scope byteBusId ctx => { t with server := t.server.step (.tick scope byteBusId ctx), clock := ctx.now }
  | op => { t with server := t.server.step op }

def run (t : Tracked σ) (ops : List (MockOp σ)) : Tracked σ := ops.foldl step t

/-- The visit of one turn of the frame loop; a member that is refused is not dispatched. -/
def turnVisits (kind : FrameKind) (env : FrameEnvelope) (s : Tracked σ × FrameLoop) (member : Octets) : List (Visit σ) :=
  match MockServer.memberVerdict env s.2 member with
  | (.dispatch menv, l) => [.call s.1 (kind.memberCall menv member) (some (l.place s.1.frames))]
  | _ => []

def frameVisits (kind : FrameKind) (env : FrameEnvelope) : Tracked σ × FrameLoop → List Octets → List (Visit σ)
  | _, [] => []
  | s, m :: ms => turnVisits kind env s m ++ frameVisits kind env (frameMember kind env s m) ms

def stepVisits (t : Tracked σ) : MockOp σ → List (Visit σ)
  | .call c => [.call t c none]
  | .dispatchFrame kind env frame outCap =>
    let (t, members) := t.frameStart env frame outCap
    frameVisits kind env (t, {}) members
  | .tick scope byteBusId ctx => [.tick t scope byteBusId ctx]
  | _ => []

/-- Every dispatch and every tick of a run, with the state it finds. -/
def visits : Tracked σ → List (MockOp σ) → List (Visit σ)
  | _, [] => []
  | t, op :: ops => t.stepVisits op ++ visits (t.step op) ops

variable (t : Tracked σ)

/-! ### The tracked server is the server -/

theorem frameMember_server (kind : FrameKind) (env : FrameEnvelope) (l : FrameLoop) (member : Octets) :
    ((frameMember kind env (t, l) member).1.server, (frameMember kind env (t, l) member).2) =
      MockServer.frameMember kind env (t.server, l) member := by
  unfold frameMember
  dsimp only
  split <;> rfl

theorem foldl_frameMember_server (kind : FrameKind) (env : FrameEnvelope) (ms : List Octets) :
    ∀ (t : Tracked σ) (l : FrameLoop),
      (((ms.foldl (frameMember kind env) (t, l)).1.server, (ms.foldl (frameMember kind env) (t, l)).2) =
        ms.foldl (MockServer.frameMember kind env) (t.server, l)) := by
  induction ms with
  | nil => exact fun _ _ => rfl
  | cons m ms ih =>
    intro t l
    rw [List.foldl_cons, List.foldl_cons, ← frameMember_server]
    exact ih _ _

theorem step_server (op : MockOp σ) : (t.step op).server = t.server.step op := by
  cases op with
  | dispatchFrame kind env frame outCap =>
    simp only [step, frameStart, MockServer.step, MockServer.dispatchFrameWith]
    rcases schedSplitFrameMembers frame with _ | _ | ⟨offset, offsets⟩
    · rfl
    · rfl
    · dsimp only
      rcases t.server.frameSeqGateAdmits env.streamId env.sequenceNum with ⟨_ | _, srv⟩
      · rfl
      · have h := foldl_frameMember_server kind env (MockServer.frameMembers frame (offset :: offsets) outCap)
          { t with server := srv } {}
        exact congrArg Prod.fst h
  | _ => rfl

theorem run_server (ops : List (MockOp σ)) : (t.run ops).server = t.server.run ops := by
  induction ops generalizing t with
  | nil => rfl
  | cons op ops ih =>
    simp only [run, MockServer.run, List.foldl_cons] at ih ⊢
    rw [← step_server]
    exact ih (t.step op)

theorem visits_append (ops ops' : List (MockOp σ)) :
    t.visits (ops ++ ops') = t.visits ops ++ (t.run ops).visits ops' := by
  induction ops generalizing t with
  | nil => rfl
  | cons op ops ih =>
    simp only [List.cons_append, visits, run, List.foldl_cons, List.append_assoc] at ih ⊢
    rw [ih]

end Tracked

/-! ### The frame loop -/

/-- What the head of a turn does to the variables of the loop: the member joins the chain, or starts one. -/
structure FrameLoop.Enters (l lv : FrameLoop) : Prop where
  index : lv.index = l.index
  results : lv.results = l.results
  chain : lv.chainGroup = l.chainGroup ∧ lv.chainPosition = l.chainPosition + 1 ∨
    lv.chainGroup = UInt32.ofNat l.index + 1 ∧ lv.chainPosition = 0

theorem FrameLoop.enter_enters (l : FrameLoop) (chained : Bool) : Enters l (l.enter chained) := by
  cases chained with
  | false => exact ⟨rfl, rfl, Or.inr ⟨rfl, rfl⟩⟩
  | true => exact ⟨rfl, rfl, Or.inl ⟨rfl, rfl⟩⟩

/-- A malformed member leaves the variables alone; any other one enters, and goes to the stream of the frame. -/
theorem memberVerdict_enters {env : FrameEnvelope} {l lv : FrameLoop} {member : Octets}
    {verdict : MockServer.MemberVerdict} (h : MockServer.memberVerdict env l member = (verdict, lv)) :
    verdict = .malformed ∧ lv = l ∨
      l.Enters lv ∧ ∀ menv, verdict = .dispatch menv → menv.streamId = env.streamId := by
  unfold MockServer.memberVerdict at h
  split at h
  · cases h
    exact Or.inl ⟨rfl, rfl⟩
  right
  dsimp only at h
  have hadv : ∀ chained outcome l', (l.enter (isChainedMember member).isSome).advance chained = (outcome, l') →
      l.Enters l' := by
    intro chained outcome l' hadv
    have henters := l.enter_enters (isChainedMember member).isSome
    cases chained with
    | none =>
      cases hadv
      exact henters
    | some x =>
      cases hadv
      exact ⟨henters.index, henters.results, henters.chain⟩
  split at h <;> cases h
  · exact ⟨hadv _ _ _ ‹_›, by simp⟩
  · exact ⟨hadv _ _ _ ‹_›, by simp⟩
  · refine ⟨hadv _ _ _ ‹_›, ?_⟩
    rintro menv ⟨⟩
    rfl

theorem FrameKind.memberCall_env (kind : FrameKind) (env : Envelope) (member : Octets) :
    (kind.memberCall env member).env = env := by
  cases kind <;> rfl

theorem MockServer.frameMembers_length (frame : Octets) (offsets : List Nat) (outCap : Nat) :
    (frameMembers frame offsets outCap).length ≤ mockMaxFrameMembers := by
  unfold frameMembers
  calc _ ≤ _ := List.length_filterMap_le _ _
    _ ≤ _ := (List.takeWhile_prefix _).length_le
    _ ≤ mockMaxFrameMembers := by
      simp only [List.length_map, List.length_range, processCount]
      omega

/-! ### Invariants of a run -/

namespace Tracked
variable {σ : Type}

theorem new_free (world : σ) (e : EndpointIx) (i : SlotIx) : ¬(new world).InUse e i := by
  simp [InUse, new, MockServer.new, MockServer.slot, Pending.zero]

/-- What a dispatch does to a slot that is in use afterwards, with its origin. -/
theorem noteOrigin_cases (t : Tracked σ) (c : DispatchCall) (place : Option FramePlace) {e : EndpointIx} {i : SlotIx}
    (hu : ((t.server.call c).server.slot e i).inUse = true) :
    (t.InUse e i ∧ (t.server.call c).server.slot e i = t.server.slot e i ∧ t.noteOrigin c place e i = t.origin e i) ∨
    (¬t.InUse e i ∧
      t.server.Filled c (t.server.call c).result e i ((t.server.call c).server.slot e i) ∧
      t.noteOrigin c place e i = some { server := t.server, call := c, place := place, clock := t.clock }) := by
  rcases t.server.call_slot c e i hu with ⟨hold, heq⟩ | ⟨hfree, hfilled⟩
  · exact Or.inl ⟨hold, heq, by simp [noteOrigin, hold]⟩
  · exact Or.inr ⟨by simp [InUse, hfree], hfilled, by simp [noteOrigin, hfree, hu]⟩

theorem From.unique {t : Tracked σ} {e : EndpointIx} {i : SlotIx} {p q : FramePlace} (hp : t.From e i p)
    (hq : t.From e i q) : p = q := by
  obtain ⟨-, a, ha, hap⟩ := hp
  obtain ⟨-, b, hb, hbq⟩ := hq
  obtain rfl := Option.some.inj (ha.symm.trans hb)
  exact Option.some.inj (hap.symm.trans hbq)

/-- The state after a member has been dispatched by `c` and tagged. -/
def callMember (t : Tracked σ) (c : DispatchCall) (lv : FrameLoop) : Tracked σ :=
  { t with
    server := (t.server.call c).server.tagMember c.env.streamId c.env.byteBusId lv (t.server.call c).result
    origin := t.noteOrigin c (some (lv.place t.frames)) }

/-- `I` holds between any two events of a run whose dispatches all satisfy `P`: every kind of event keeps it. The
    loop variables are the initial ones outside of a frame. -/
structure Invariant (I : Tracked σ → FrameLoop → Prop) (P : Visit σ → Prop) : Prop where
  keep : ∀ {t : Tracked σ} {l : FrameLoop} (srv : MockServer σ) (clock : UInt32), I t l → t.server.Keeps srv →
    I { t with server := srv, clock := clock } l
  call : ∀ {t : Tracked σ} (c : DispatchCall), I t {} → P (.call t c none) → I (t.call c) {}
  turn : ∀ {t : Tracked σ} {l lv : FrameLoop} (c : DispatchCall) (out : FrameMemberResult) (prevErrored : Bool),
    I t l → l.index < mockMaxFrameMembers → l.Enters lv → (t.server.delivered c).isSome →
    P (.call t c (some (lv.place t.frames))) → I (t.callMember c lv) (lv.finish out prevErrored)
  skip : ∀ {t : Tracked σ} {l lv : FrameLoop} (out : FrameMemberResult) (prevErrored : Bool),
    I t l → l.index < mockMaxFrameMembers → l.Enters lv ∨ lv = l → I t (lv.finish out prevErrored)
  close : ∀ {t : Tracked σ} {l : FrameLoop}, I t l → I { t with frames := t.frames + 1 } {}

namespace Invariant
variable {I : Tracked σ → FrameLoop → Prop} {P : Visit σ → Prop} {t : Tracked σ}

theorem frameMember (h : Invariant I P) {kind : FrameKind} {env : FrameEnvelope} {l : FrameLoop} {member : Octets}
    (hI : I t l) (hl : l.index < mockMaxFrameMembers) (hP : ∀ v ∈ turnVisits kind env (t, l) member, P v) :
    I (frameMember kind env (t, l) member).1 (frameMember kind env (t, l) member).2 := by
  rcases hv : MockServer.memberVerdict env l member with ⟨verdict, lv⟩
  have henters := memberVerdict_enters hv
  unfold Tracked.frameMember MockServer.frameMember
  simp only [hv]
  cases verdict with
  | malformed => exact h.skip _ _ hI hl (henters.symm.imp And.left And.right)
  | refused out => exact h.skip _ _ hI hl (henters.symm.imp And.left And.right)
  | dispatch menv =>
    rcases henters with ⟨hmal, -⟩ | ⟨henters, hstream⟩
    · cases hmal
    have hturn := h.turn (kind.memberCall menv member)
      { result := (t.server.call (kind.memberCall menv member)).result, byteBusId := menv.byteBusId,
        response := (t.server.call (kind.memberCall menv member)).response }
      (kind.isError (t.server.call (kind.memberCall menv member)).result) hI hl henters (by cases kind <;> rfl)
      (hP _ (by simp [turnVisits, hv]))
    simp only [callMember, FrameKind.memberCall_env, hstream menv rfl] at hturn
    exact hturn

theorem frame (h : Invariant I P) {kind : FrameKind} {env : FrameEnvelope} (ms : List Octets) :
    ∀ {t : Tracked σ} {l : FrameLoop}, I t l → l.index + ms.length ≤ mockMaxFrameMembers →
      (∀ v ∈ frameVisits kind env (t, l) ms, P v) →
      I (ms.foldl (Tracked.frameMember kind env) (t, l)).1 (ms.foldl (Tracked.frameMember kind env) (t, l)).2 ∧
      ∀ v ∈ frameVisits kind env (t, l) ms, ∃ l', I v.state l' := by
  induction ms with
  | nil => exact fun hI _ _ => ⟨hI, by simp [frameVisits]⟩
  | cons m ms ih =>
    intro t l hI hl hP
    simp only [frameVisits, List.mem_append] at hP ⊢
    rw [List.length_cons] at hl
    have hnext := h.frameMember hI (by omega) fun v hv => hP v (Or.inl hv)
    have hindex : (Tracked.frameMember kind env (t, l) m).2.index = l.index + 1 := by
      rw [congrArg Prod.snd (frameMember_server t kind env l m)]
      exact (MockServer.frameMember_results kind env (t.server, l) m).2
    obtain ⟨hlast, hvisits⟩ := ih hnext (by omega) fun v hv => hP v (Or.inr hv)
    refine ⟨hlast, ?_⟩
    rintro v (hv | hv)
    · unfold turnVisits at hv
      split at hv
      · obtain rfl := List.mem_singleton.mp hv
        exact ⟨l, hI⟩
      · cases hv
    · exact hvisits v hv

theorem frameStart (h : Invariant I P) (hI : I t {}) (env : FrameEnvelope) (frame : Octets) (outCap : Nat) :
    I (t.frameStart env frame outCap).1 {} ∧ (t.frameStart env frame outCap).2.length ≤ mockMaxFrameMembers := by
  have hgate := MockServer.Keeps.frameSeqGateAdmits t.server env.streamId env.sequenceNum
  unfold Tracked.frameStart
  split
  · exact ⟨hI, Nat.zero_le _⟩
  · exact ⟨hI, Nat.zero_le _⟩
  split
  · rename_i hadmits
    rw [hadmits] at hgate
    exact ⟨h.keep _ t.clock hI hgate, Nat.zero_le _⟩
  · rename_i hadmits
    rw [hadmits] at hgate
    exact ⟨h.keep _ t.clock hI hgate, MockServer.frameMembers_length _ _ _⟩

theorem step (h : Invariant I P) (hI : I t {}) (op : MockOp σ) (hP : ∀ v ∈ t.stepVisits op, P v) :
    I (t.step op) {} ∧ ∀ v ∈ t.stepVisits op, ∃ l, I v.state l := by
  have hkeep : op.dispatches = false → ∀ clock, I { t with server := t.server.step op, clock := clock } {} :=
    fun hop clock => h.keep _ clock hI (t.server.step_keeps hop)
  cases op with
  | call c =>
    refine ⟨h.call c hI (hP _ (List.mem_singleton_self _)), ?_⟩
    intro v hv
    obtain rfl := List.mem_singleton.mp hv
    exact ⟨{}, hI⟩
  | dispatchFrame kind env frame outCap =>
    obtain ⟨hstart, hlen⟩ := h.frameStart hI env frame outCap
    obtain ⟨hlast, hvisits⟩ := h.frame (t.frameStart env frame outCap).2 hstart (by simpa using hlen) hP
    exact ⟨h.close hlast, hvisits⟩
  | tick scope byteBusId ctx =>
    refine ⟨hkeep rfl ctx.now, ?_⟩
    intro v hv
    obtain rfl := List.mem_singleton.mp hv
    exact ⟨{}, hI⟩
  | _ => exact ⟨hkeep rfl t.clock, by simp [stepVisits]⟩

/-- The rule: `I` holds at every visit of a run whose dispatches satisfy `P`, and at its end. -/
theorem run (h : Invariant I P) (ops : List (MockOp σ)) : ∀ {t : Tracked σ}, I t {} → (∀ v ∈ t.visits ops, P v) →
    I (t.run ops) {} ∧ ∀ v ∈ t.visits ops, ∃ l, I v.state l := by
  induction ops with
  | nil => exact fun hI _ => ⟨hI, by simp [visits]⟩
  | cons op ops ih =>
    intro t hI hP
    simp only [visits, List.mem_append] at hP ⊢
    obtain ⟨hstep, hhere⟩ := h.step hI op fun v hv => hP v (Or.inl hv)
    obtain ⟨hlast, hthere⟩ := ih hstep fun v hv => hP v (Or.inr hv)
    exact ⟨hlast, fun v hv => hv.elim (hhere v) (hthere v)⟩

end Invariant
end Tracked
end Rcp
