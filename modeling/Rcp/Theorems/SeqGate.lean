import Rcp.Theorems.Cleared
import Rcp.Theorems.Log
import Rcp.Theorems.StreamNotes

/-! The sequence gate over whole streams: what it lets through, and what a frame it turns away can still do. -/

namespace Rcp

/-! ### The safe state -/

namespace Endpoint

theorem watchdogPurge_eq_cleared (ep : Endpoint) :
    ep.watchdogPurge.2 = ep.cleared fun j => !e2eWatchdogPurgeShouldKeep (ep.pending j).requestType := by
  rw [watchdogPurge, purgeNonSafety, releaseWhere_eq_cleared]

/-- A second purge finds nothing left to release. -/
theorem watchdogPurge_idem (ep : Endpoint) : ep.watchdogPurge.2.watchdogPurge.2 = ep.watchdogPurge.2 := by
  rw [watchdogPurge_eq_cleared ep.watchdogPurge.2, watchdogPurge_eq_cleared ep, cleared_cleared]
  refine cleared_congr fun j _ => ?_
  cases hD : !e2eWatchdogPurgeShouldKeep (ep.pending j).requestType with
  | true => rfl
  | false => rw [cleared_pending, hD, Bool.and_false, if_neg Bool.false_ne_true, hD, Bool.or_false]

end Endpoint

namespace MockServer
variable {σ : Type} {srv srv' srv'' : MockServer σ} {streamId : UInt64} {sequenceNum : UInt8}

/-- Some endpoints have released their non-safety requests, and nothing else has happened to any endpoint. -/
structure SafeStatePurge (srv srv' : MockServer σ) : Prop where
  world : srv'.world = srv.world
  endpoints : ∀ e, srv'.endpoints e = srv.endpoints e ∨
    srv'.endpoints e = { srv.endpoints e with queue := (srv.endpoints e).queue.watchdogPurge.2 }

namespace SafeStatePurge

theorem refl (srv : MockServer σ) : SafeStatePurge srv srv := ⟨rfl, fun _ => Or.inl rfl⟩

theorem of_eq (hw : srv'.world = srv.world) (he : srv'.endpoints = srv.endpoints) : SafeStatePurge srv srv' :=
  ⟨hw, fun _ => Or.inl (by rw [he])⟩

theorem trans (h : SafeStatePurge srv srv') (h' : SafeStatePurge srv' srv'') : SafeStatePurge srv srv'' := by
  refine ⟨h'.world.trans h.world, fun e => ?_⟩
  rcases h'.endpoints e with he' | he' <;> rcases h.endpoints e with he | he <;> rw [he', he]
  · exact Or.inl rfl
  · exact Or.inr rfl
  · exact Or.inr rfl
  · right
    rw [Endpoint.watchdogPurge_idem]

theorem watchdogPurge (srv : MockServer σ) (found : Option EndpointIx) :
    SafeStatePurge srv (srv.watchdogPurge found).2 := by
  cases found with
  | none => exact refl srv
  | some e =>
    rw [watchdogPurge_some]
    refine ⟨rfl, fun e' => ?_⟩
    by_cases hee : e' = e
    · subst hee
      exact Or.inr (by simp [setQueue, setEndpoint])
    · exact Or.inl (setQueue_other _ hee)

theorem broadcastSafeState (srv : MockServer σ) (requestStreamIndex : UInt8) :
    SafeStatePurge srv (srv.broadcastSafeState requestStreamIndex).2 :=
  broadcastSafeState_induction refl trans watchdogPurge srv requestStreamIndex

theorem enter (srv : MockServer σ) (enterSafeState : Bool) (requestStreamIndex : UInt8) :
    SafeStatePurge srv (if enterSafeState then (srv.broadcastSafeState requestStreamIndex).2 else srv) := by
  split
  · exact .broadcastSafeState srv _
  · exact .refl srv

end SafeStatePurge

/-! ### One frame -/

/-- What the gate makes of a frame on a stream with a row. -/
def gateResult (srv : MockServer σ) (streamId : UInt64) (sequenceNum : UInt8) : Option (SeqResult × SeqTracker) :=
  (srv.requestStreamCfg.resolveRow streamId).map fun row =>
    let cfg := srv.requestStreamCfg.rows row
    e2eSeqEvaluate (srv.seqTracker row) cfg.rxEnforceSeq cfg.rxSeqSafestateEnable sequenceNum

/-- The frame puts its stream into the safe state. -/
def gateEntersSafeState (srv : MockServer σ) (streamId : UInt64) (sequenceNum : UInt8) : Bool :=
  (srv.gateResult streamId sequenceNum).any (·.1.enterSafeState)

theorem frameSeqGateAdmits_accept (srv : MockServer σ) (streamId : UInt64) (sequenceNum : UInt8) :
    (srv.frameSeqGateAdmits streamId sequenceNum).1 = (srv.gateResult streamId sequenceNum).all (·.1.accept) := by
  unfold frameSeqGateAdmits gateResult
  cases srv.requestStreamCfg.resolveRow streamId <;> rfl

theorem frameSeqGateAdmits_purge (srv : MockServer σ) (streamId : UInt64) (sequenceNum : UInt8) :
    SafeStatePurge srv (srv.frameSeqGateAdmits streamId sequenceNum).2 := by
  unfold frameSeqGateAdmits
  cases srv.requestStreamCfg.resolveRow streamId with
  | none => exact .refl srv
  | some row =>
    refine SafeStatePurge.trans ?_ (.enter _ _ _)
    exact .of_eq rfl rfl

/-- Only the safe state touches an endpoint. -/
theorem frameSeqGateAdmits_endpoints (h : srv.gateEntersSafeState streamId sequenceNum = false) :
    (srv.frameSeqGateAdmits streamId sequenceNum).2.endpoints = srv.endpoints := by
  unfold gateEntersSafeState gateResult at h
  unfold frameSeqGateAdmits
  cases hrow : srv.requestStreamCfg.resolveRow streamId with
  | none => rfl
  | some row =>
    rw [hrow] at h
    simp only [Option.map_some, Option.any_some] at h
    dsimp only
    rw [h]
    rfl

theorem frameSeqGateAdmits_seqTracker {row : StreamIx} (hrow : srv.requestStreamCfg.resolveRow streamId = some row)
    (sequenceNum : UInt8) :
    (srv.frameSeqGateAdmits streamId sequenceNum).2.seqTracker =
      Function.update srv.seqTracker row (e2eSeqEvaluate (srv.seqTracker row) (srv.requestStreamCfg.rows row).rxEnforceSeq
        (srv.requestStreamCfg.rows row).rxSeqSafestateEnable sequenceNum).2 := by
  have h := congrArg StreamSide.seqTracker (frameSeqGateAdmits_streamSide srv streamId sequenceNum)
  rw [note_of_row (t := srv.streamSide) hrow] at h
  exact h

end MockServer

/-- A rejected number does not move the tracker. -/
theorem e2eSeqEvaluate_rejected {t : SeqTracker} {rxEnforceSeq rxSeqSafestateEnable : Bool} {seq : UInt8}
    (h : (e2eSeqEvaluate t rxEnforceSeq rxSeqSafestateEnable seq).1.accept = false) :
    (e2eSeqEvaluate t rxEnforceSeq rxSeqSafestateEnable seq).2 = t := by
  unfold e2eSeqEvaluate at h ⊢
  split at h
  · cases h
  · rename_i hprev
    dsimp only at h
    rw [if_neg hprev]
    dsimp only
    rw [h]
    rfl

namespace MockServer
variable {σ : Type} {srv : MockServer σ}

theorem dispatchFrameWith_rejected {kind : FrameKind} {env : FrameEnvelope} {frame : Octets} {outCap : Nat}
    {offsets : List Nat} (hsplit : schedSplitFrameMembers frame = some offsets) (hne : offsets ≠ [])
    (hrej : (srv.frameSeqGateAdmits env.streamId env.sequenceNum).1 = false) :
    dispatchFrameWith kind srv env frame outCap =
      (List.replicate (processCount offsets outCap) { result := .seqError },
        (srv.frameSeqGateAdmits env.streamId env.sequenceNum).2) := by
  unfold dispatchFrameWith
  rw [hsplit]
  cases offsets with
  | nil => exact absurd rfl hne
  | cons offset offsets =>
    dsimp only
    generalize srv.frameSeqGateAdmits env.streamId env.sequenceNum = gate at hrej ⊢
    obtain ⟨accepted, srv'⟩ := gate
    dsimp only at hrej
    subst hrej
    rfl

end MockServer

/-! ### The accepted numbers of a run -/

/-- `b` is between 1 and 127 ahead of `a`, counting round the 256 numbers. -/
def Ahead (a b : UInt8) : Prop := 1 ≤ b - a ∧ b - a ≤ 127

instance (a b : UInt8) : Decidable (Ahead a b) := inferInstanceAs (Decidable (_ ∧ _))

/-- The number the tracker holds, if it has seen one. -/
def SeqTracker.last (t : SeqTracker) : List UInt8 := if t.hasPrev then [t.prevSeq] else []

theorem e2eSeqEvaluate_accepted {t : SeqTracker} {rxSeqSafestateEnable : Bool} {seq : UInt8}
    (h : (e2eSeqEvaluate t true rxSeqSafestateEnable seq).1.accept = true) :
    (e2eSeqEvaluate t true rxSeqSafestateEnable seq).2.last = [seq] ∧ ∀ prev ∈ t.last, Ahead prev seq := by
  obtain ⟨hasPrev, prevSeq⟩ := t
  cases hasPrev with
  | false => exact ⟨rfl, fun prev hprev => by cases hprev⟩
  | true =>
    have haccept : (decide (seq - prevSeq ≥ 1) && decide (seq - prevSeq ≤ 127)) = true := h
    refine ⟨?_, fun prev hprev => ?_⟩
    · simp [e2eSeqEvaluate, haccept, SeqTracker.last]
    · obtain rfl := List.mem_singleton.mp hprev
      simpa [Ahead] using haccept

theorem Ahead.ne {a b : UInt8} (h : Ahead a b) : b ≠ a := by
  rintro rfl
  exact absurd h.1 (by simp)

/-- Two steps of at most 127 do not lead round. -/
theorem Ahead.not_back {a b : UInt8} (h : Ahead a b) : ¬Ahead b a := by
  rintro ⟨h1, h2⟩
  obtain ⟨h3, h4⟩ := h
  revert h1 h2 h3 h4
  simp only [UInt8.le_iff_toNat_le, UInt8.toNat_sub]
  have ha := a.toNat_lt
  have hb := b.toNat_lt
  simp
  omega

/-- A number comes back only after two others. -/
theorem two_le_of_isChain_ahead {xs ys zs : List UInt8} {n : UInt8} (h : (xs ++ n :: (ys ++ n :: zs)).IsChain Ahead) :
    2 ≤ ys.length := by
  have hback := List.IsChain.right_of_append h
  cases ys with
  | nil => exact absurd rfl (List.isChain_cons_cons.mp hback).1.ne
  | cons y ys =>
    cases ys with
    | nil =>
      obtain ⟨hny, hback⟩ := List.isChain_cons_cons.mp hback
      exact absurd (List.isChain_cons_cons.mp hback).1 hny.not_back
    | cons => simp

namespace Event
variable {σ : Type}

/-- The number of an accepted frame of the stream. -/
def accepted (streamId : UInt64) : Event σ → Option UInt8
  | .gate srv streamId' sequenceNum =>
    if streamId' = streamId ∧ (srv.frameSeqGateAdmits streamId sequenceNum).1 = true then some sequenceNum else none
  | _ => none

end Event

theorem RequestStreamTable.resolveRow_spec {table : RequestStreamTable} {streamId : UInt64} {row : StreamIx}
    (h : table.resolveRow streamId = some row) : row.val < table.count.val ∧ (table.rows row).rxStreamId = streamId := by
  have hmatch := (Fin.find?_eq_some_iff.mp h).1
  simpa using hmatch

namespace MockServer
variable {σ : Type} {srv srv' : MockServer σ} {streamId : UInt64} {row : StreamIx} {cfg : RequestStreamCfg}

/-- The stream is configured, in the given row and with the given settings. -/
structure GatedStream (srv : MockServer σ) (streamId : UInt64) (row : StreamIx) (cfg : RequestStreamCfg) : Prop where
  resolves : srv.requestStreamCfg.resolveRow streamId = some row
  settings : srv.requestStreamCfg.rows row = cfg

theorem step_seqTracker (srv : MockServer σ) {op : MockOp σ} (hop : op.dispatches = false) :
    (srv.step op).seqTracker = srv.seqTracker := by
  obtain h | ⟨requestStreamIndex, elapsed, rfl⟩ | ⟨entries, rfl⟩ | ⟨tracker, rfl⟩ := step_streamSide srv hop
  · exact congrArg StreamSide.seqTracker h
  · have h := congrArg StreamSide.seqTracker (checkWatchdog_streamSide srv requestStreamIndex elapsed)
    refine h.trans ?_
    split
    · rfl
    · exact Function.update_eq_self _ srv.seqTracker
  · rfl
  · rfl

/-- Only a frame of the stream itself reaches its tracker. -/
theorem after_seqTracker {e : Event σ} (h : e.before.GatedStream streamId row cfg)
    (hne : ∀ sequenceNum, e ≠ .gate e.before streamId sequenceNum) :
    e.after.seqTracker row = e.before.seqTracker row := by
  cases e with
  | call srv c =>
    have hside := congrArg StreamSide.seqTracker (call_streamSide srv c)
    rw [StreamSide.notes_seqTracker (callNotes_noFrame srv c)] at hside
    exact congrFun hside row
  | gate srv streamId' sequenceNum =>
    have hid : streamId' ≠ streamId := fun hid => hne sequenceNum (by rw [hid]; rfl)
    dsimp only [Event.after, Event.before] at h ⊢
    cases hrow : srv.requestStreamCfg.resolveRow streamId' with
    | none =>
      unfold frameSeqGateAdmits
      rw [hrow]
    | some row' =>
      -- A row has one stream id.
      have hrr : row ≠ row' := by
        rintro rfl
        have h1 := (RequestStreamTable.resolveRow_spec h.resolves).2
        have h2 := (RequestStreamTable.resolveRow_spec hrow).2
        exact hid (h2.symm.trans h1)
      rw [frameSeqGateAdmits_seqTracker hrow, Function.update_of_ne hrr]
  | other srv op hop => exact congrFun (step_seqTracker srv hop) row

theorem gate_seqTracker (h : srv.GatedStream streamId row cfg) (sequenceNum : UInt8) :
    (srv.frameSeqGateAdmits streamId sequenceNum).1 =
        (e2eSeqEvaluate (srv.seqTracker row) cfg.rxEnforceSeq cfg.rxSeqSafestateEnable sequenceNum).1.accept ∧
      (srv.frameSeqGateAdmits streamId sequenceNum).2.seqTracker row =
        (e2eSeqEvaluate (srv.seqTracker row) cfg.rxEnforceSeq cfg.rxSeqSafestateEnable sequenceNum).2 := by
  obtain ⟨hrow, rfl⟩ := h
  rw [frameSeqGateAdmits_accept, gateResult, hrow, frameSeqGateAdmits_seqTracker hrow, Function.update_self]
  exact ⟨rfl, rfl⟩

/-- The numbers the gate accepts on a stream, after the one its tracker starts with. -/
def acceptedNumbers (srv : MockServer σ) (row : StreamIx) (streamId : UInt64) (es : List (Event σ)) : List UInt8 :=
  (srv.seqTracker row).last ++ es.filterMap (Event.accepted streamId)

theorem acceptedNumbers_isChain {es : List (Event σ)} (h : Logs srv es srv') (henf : cfg.rxEnforceSeq = true)
    (hes : ∀ e ∈ es, e.before.GatedStream streamId row cfg) :
    (acceptedNumbers srv row streamId es).IsChain Ahead := by
  unfold acceptedNumbers
  have hlast : ∀ t : SeqTracker, t.last.IsChain Ahead := by
    intro t
    unfold SeqTracker.last
    split <;> simp
  induction h with
  | @nil s t hst =>
    rw [List.filterMap_nil, List.append_nil]
    exact hlast _
  | @cons s t e es hse hrest ih =>
    have he := hes e (List.mem_cons_self ..)
    have hih := ih fun e' he' => hes e' (List.mem_cons_of_mem e he')
    have hsame : e.before.seqTracker = s.seqTracker := congrArg StreamSide.seqTracker hse.streams
    by_cases hgate : ∃ sequenceNum, e = .gate e.before streamId sequenceNum
    · obtain ⟨sequenceNum, hgate⟩ := hgate
      obtain ⟨haccept, htracker⟩ := gate_seqTracker he sequenceNum
      have hafter : e.after.seqTracker row =
          (e2eSeqEvaluate (s.seqTracker row) true cfg.rxSeqSafestateEnable sequenceNum).2 := by
        rw [hgate]
        exact htracker.trans (by rw [hsame, henf])
      rw [hsame, henf] at haccept
      rw [hafter] at hih
      cases hv : (e2eSeqEvaluate (s.seqTracker row) true cfg.rxSeqSafestateEnable sequenceNum).1.accept with
      | true =>
        have hacc : e.accepted streamId = some sequenceNum := by
          rw [hgate]
          simp [Event.accepted, haccept, hv]
        obtain ⟨hnew, hahead⟩ := e2eSeqEvaluate_accepted hv
        rw [hnew] at hih
        rw [List.filterMap_cons_some hacc]
        refine List.IsChain.append (hlast _) hih fun prev hprev n hn => ?_
        obtain rfl : sequenceNum = n := by simpa using hn
        exact hahead prev (List.mem_of_getLast? hprev)
      | false =>
        have hrej : e.accepted streamId = none := by
          rw [hgate]
          simp [Event.accepted, haccept, hv]
        rw [e2eSeqEvaluate_rejected hv] at hih
        rw [List.filterMap_cons_none hrej]
        exact hih
    · push Not at hgate
      have hnone : e.accepted streamId = none := by
        cases e with
        | gate srv streamId' sequenceNum =>
          have hid : streamId' ≠ streamId := fun hid => hgate sequenceNum (by rw [hid]; rfl)
          exact if_neg fun h => hid h.1
        | _ => rfl
      rw [after_seqTracker he hgate, hsame] at hih
      rw [List.filterMap_cons_none hnone]
      exact hih

/-- What a frame that was turned away comes to: its reports, and no more than the safe state where its stream asks
    for it. -/
structure FrameRejected (srv : MockServer σ) (cfg : RequestStreamCfg) (members outCap : Nat)
    (r : List FrameMemberResult × MockServer σ) : Prop where
  results : r.1 = List.replicate (min (min members mockMaxFrameMembers) outCap) { result := .seqError }
  tracker : r.2.seqTracker = srv.seqTracker
  purged : SafeStatePurge srv r.2
  untouched : cfg.rxSeqSafestateEnable = false → r.2.endpoints = srv.endpoints

theorem e2eSeqEvaluate_noSafeState (t : SeqTracker) (rxEnforceSeq : Bool) (seq : UInt8) :
    (e2eSeqEvaluate t rxEnforceSeq false seq).1.enterSafeState = false := by
  unfold e2eSeqEvaluate
  split
  · rfl
  · exact Bool.and_false _

theorem frameRejected {kind : FrameKind} {env : FrameEnvelope} {frame : Octets} {outCap : Nat} {offsets : List Nat}
    (h : srv.GatedStream env.streamId row cfg) (hsplit : schedSplitFrameMembers frame = some offsets)
    (hne : offsets ≠ []) (hrej : (srv.frameSeqGateAdmits env.streamId env.sequenceNum).1 = false) :
    srv.FrameRejected cfg offsets.length outCap (dispatchFrameWith kind srv env frame outCap) := by
  rw [dispatchFrameWith_rejected hsplit hne hrej]
  refine ⟨rfl, ?_, frameSeqGateAdmits_purge srv env.streamId env.sequenceNum, fun hsafe => ?_⟩
  · rw [(gate_seqTracker h env.sequenceNum).1] at hrej
    rw [frameSeqGateAdmits_seqTracker h.resolves, h.settings, e2eSeqEvaluate_rejected hrej]
    exact Function.update_eq_self row srv.seqTracker
  · refine frameSeqGateAdmits_endpoints ?_
    rw [gateEntersSafeState, gateResult, h.resolves, Option.map_some, Option.any_some, h.settings]
    dsimp only
    rw [hsafe]
    exact e2eSeqEvaluate_noSafeState _ _ _

/-- Over every run in which the stream keeps its row and its settings: each accepted number is ahead of the one
    before it, and one that comes back has two others in between; a frame that is turned away does nothing but
    report the members it has room for, and purge non-safety requests where the stream is set to. -/
theorem sequence_gate (srv : MockServer σ) (ops : List (MockOp σ)) (streamId : UInt64) (row : StreamIx)
    (cfg : RequestStreamCfg) (henf : cfg.rxEnforceSeq = true)
    (hrun : ∀ e ∈ srv.log ops, e.before.GatedStream streamId row cfg) :
    (acceptedNumbers srv row streamId (srv.log ops)).IsChain Ahead ∧
    (∀ xs n ys zs, acceptedNumbers srv row streamId (srv.log ops) = xs ++ n :: (ys ++ n :: zs) → 2 ≤ ys.length) ∧
    ∀ (srv' : MockServer σ) (kind : FrameKind) (env : FrameEnvelope) (frame : Octets) (outCap : Nat)
      (offsets : List Nat), srv'.GatedStream streamId row cfg → env.streamId = streamId →
      schedSplitFrameMembers frame = some offsets → offsets ≠ [] →
      (srv'.frameSeqGateAdmits env.streamId env.sequenceNum).1 = false →
      srv'.FrameRejected cfg offsets.length outCap (dispatchFrameWith kind srv' env frame outCap) := by
  have hchain := acceptedNumbers_isChain (log_logs ops srv) henf hrun
  refine ⟨hchain, fun xs n ys zs heq => ?_, ?_⟩
  · rw [heq] at hchain
    exact two_le_of_isChain_ahead hchain
  · rintro srv' kind env frame outCap offsets h rfl hsplit hne hrej
    exact frameRejected h hsplit hne hrej

/-- A server with one request stream that enforces the order of its frames. -/
def gatedServer : MockServer Unit := (new ()).run [.setRequestStreamCfg [{ rxStreamId := 7, rxEnforceSeq := true }]]

/-- A frame of `count` empty ACF_ABB messages on that stream. -/
def gatedFrame (sequenceNum : UInt8) (count outCap : Nat) : MockOp Unit :=
  .dispatchFrame .plain
    { avtpSubtype := avtpSubtypeNtscf, timeSyncSupported := true, streamId := 7, sequenceNum := sequenceNum }
    (List.replicate count [0x1C, 0x02, 0x00, 0x01, 0x00, 0x05, 0x00, 0x00]).flatten outCap

instance (srv : MockServer σ) (streamId : UInt64) (row : StreamIx) (cfg : RequestStreamCfg) :
    Decidable (srv.GatedStream streamId row cfg) :=
  decidable_of_iff (srv.requestStreamCfg.resolveRow streamId = some row ∧ srv.requestStreamCfg.rows row = cfg)
    ⟨fun h => ⟨h.1, h.2⟩, fun h => ⟨h.1, h.2⟩⟩

/-- Numbers 5, 6, 5 and 120: the third is turned away. -/
theorem sequence_gate_replay :
    let ops := [gatedFrame 5 1 1, gatedFrame 6 2 2, gatedFrame 5 1 1, gatedFrame 120 1 1]
    acceptedNumbers gatedServer 0 7 (gatedServer.log ops) = [5, 6, 120] ∧
      (acceptedNumbers gatedServer 0 7 (gatedServer.log ops)).IsChain Ahead :=
  ⟨by decide +kernel,
    (sequence_gate gatedServer [gatedFrame 5 1 1, gatedFrame 6 2 2, gatedFrame 5 1 1, gatedFrame 120 1 1] 7 0
      { rxStreamId := 7, rxEnforceSeq := true } rfl (by decide +kernel)).1⟩

/-- A frame of 33 members is turned away with 32 reports, though there is room for 33. -/
theorem rejected_frame_truncated :
    let srv := gatedServer.run [gatedFrame 5 1 1]
    let env : FrameEnvelope :=
      { avtpSubtype := avtpSubtypeNtscf, timeSyncSupported := true, streamId := 7, sequenceNum := 5 }
    let frame := (List.replicate 33 [0x1C, 0x02, 0x00, 0x01, 0x00, 0x05, 0x00, 0x00]).flatten
    srv.GatedStream 7 0 { rxStreamId := 7, rxEnforceSeq := true } ∧
      (schedSplitFrameMembers frame).map (·.length) = some 33 ∧ (srv.frameSeqGateAdmits 7 5).1 = false ∧
      (dispatchFrameWith .plain srv env frame 33).1 = List.replicate 32 { result := .seqError } := by
  decide +kernel

end MockServer
end Rcp
