import Rcp.Theorems.Kept

/-! What most calls leave alone: the state the server keeps for its request streams, and its sequencers. -/

namespace Rcp

/-- The request-stream table and the arrays the server keeps beside it, with the installed fault tracker. -/
structure StreamSide where
  cfg : RequestStreamTable
  seqTracker : StreamIx → SeqTracker
  status : StreamIx → StreamStatus
  reasm : StreamIx → Reassembler
  firstHeader : StreamIx → Octets
  faults : Option StreamFaultTracker

/-- The calls that read no frame, tick no endpoint and write none of these tables. -/
def MockOp.quiet {σ : Type} : MockOp σ → Bool
  | .call .. | .dispatchFrame .. | .tick .. | .checkWatchdog .. | .setRequestStreamCfg .. | .setSequencerCount ..
  | .setSequencerOwner .. | .setStreamFaultTracker .. => false
  | _ => true

namespace MockServer
variable {σ : Type} {srv srv' srv'' : MockServer σ} {e : EndpointIx}

def streamSide (srv : MockServer σ) : StreamSide where
  cfg := srv.requestStreamCfg
  seqTracker := srv.seqTracker
  status := srv.streamStatus
  reasm := srv.fragReasm
  firstHeader := srv.fragFirstHeader
  faults := srv.streamFaultTracker

/-- The two servers differ at most in their endpoints and in what no stream and no sequencer depends on. -/
structure SameSides (srv srv' : MockServer σ) : Prop where
  streams : srv'.streamSide = srv.streamSide
  sequencers : srv'.sequencers = srv.sequencers

namespace SameSides

theorem refl (srv : MockServer σ) : SameSides srv srv := ⟨rfl, rfl⟩

theorem trans (h : SameSides srv srv') (h' : SameSides srv' srv'') : SameSides srv srv'' :=
  ⟨h'.streams.trans h.streams, h'.sequencers.trans h.sequencers⟩

theorem setQueue (srv : MockServer σ) (e : EndpointIx) (queue : Endpoint) : SameSides srv (srv.setQueue e queue) :=
  ⟨rfl, rfl⟩

theorem watchdogPurge (srv : MockServer σ) (found : Option EndpointIx) : SameSides srv (srv.watchdogPurge found).2 := by
  cases found with
  | none => exact refl srv
  | some e =>
    rw [watchdogPurge_some]
    exact setQueue srv e _

theorem broadcastSafeState (srv : MockServer σ) (requestStreamIndex : UInt8) :
    SameSides srv (srv.broadcastSafeState requestStreamIndex).2 :=
  broadcastSafeState_induction refl trans watchdogPurge srv requestStreamIndex

theorem runHandler (srv : MockServer σ) (e : EndpointIx) (request : Octets) :
    SameSides srv (srv.runHandler e request).2 := by
  unfold MockServer.runHandler
  split <;> exact ⟨rfl, rfl⟩

theorem onSlot (srv : MockServer σ) (found : Option EndpointIx) (f : MockEndpoint σ → MockEndpoint σ) :
    SameSides srv (srv.onSlot found f).2 := by
  cases found <;> exact ⟨rfl, rfl⟩

theorem addSlot (srv : MockServer σ) (slot : MockEndpoint σ) : SameSides srv (srv.orElse (srv.addSlot slot)) := by
  unfold MockServer.addSlot
  split
  · exact refl srv
  · split <;> exact ⟨rfl, rfl⟩

theorem addEndpoint (srv : MockServer σ) (byteBusId : ByteBusId) (epEnable : Bool) (handler : Option (Handler σ)) :
    SameSides srv (srv.orElse (srv.addEndpoint byteBusId epEnable handler)) := by
  unfold MockServer.addEndpoint
  split
  · exact refl srv
  · exact addSlot srv _

theorem addEndpointMultiResponse (srv : MockServer σ) (byteBusId : ByteBusId) (epEnable : Bool)
    (handler : MultiHandler σ) : SameSides srv (srv.orElse (srv.addEndpointMultiResponse byteBusId epEnable handler)) := by
  have hadd := addEndpoint srv byteBusId epEnable none
  unfold MockServer.addEndpointMultiResponse
  cases h : srv.addEndpoint byteBusId epEnable none with
  | error err => exact refl srv
  | ok added =>
    rw [h] at hadd
    dsimp only
    split
    · exact refl srv
    · exact hadd.trans ⟨rfl, rfl⟩

theorem notifyGptpLockState (srv : MockServer σ) (locked : Bool) (sourceEp : UInt8) :
    SameSides srv (srv.notifyGptpLockState locked sourceEp).2 := by
  unfold MockServer.notifyGptpLockState
  dsimp only
  split <;> exact ⟨rfl, rfl⟩

theorem drainEndpoint (srv : MockServer σ) (found : Option EndpointIx) : SameSides srv (srv.drainEndpoint found).2 := by
  unfold MockServer.drainEndpoint
  split
  · exact refl srv
  split
  · exact setQueue srv _ _
  · exact (setQueue srv _ _).trans (runHandler _ _ _)

theorem dispatchMultiResponse (srv : MockServer σ) (env : Envelope) (request : Octets) (outCap : Nat) :
    SameSides srv (srv.dispatchMultiResponse env request outCap).2.2 := by
  unfold MockServer.dispatchMultiResponse
  split
  · exact refl srv
  · exact refl srv
  split
  · exact refl srv
  split
  · exact refl srv
  · exact ⟨rfl, rfl⟩

theorem tagMember (srv : MockServer σ) (streamId : UInt64) (byteBusId : ByteBusId) (l : FrameLoop)
    (result : DispatchResult) : SameSides srv (srv.tagMember streamId byteBusId l result) := by
  unfold MockServer.tagMember
  split
  · split <;> exact ⟨rfl, rfl⟩
  · exact refl srv

end SameSides

theorem step_quiet (srv : MockServer σ) {op : MockOp σ} (hop : op.quiet = true) : SameSides srv (srv.step op) := by
  cases op with
  | call | dispatchFrame | tick | checkWatchdog | setRequestStreamCfg | setSequencerCount | setSequencerOwner
  | setStreamFaultTracker => cases hop
  | dispatchMultiResponse env request outCap => exact .dispatchMultiResponse srv env request outCap
  | drainEndpoint scope byteBusId => exact .drainEndpoint srv (srv.lookup scope byteBusId)
  | notifyTrigger => exact ⟨rfl, rfl⟩
  | notifyGptpLockState locked sourceEp => exact .notifyGptpLockState srv locked sourceEp
  | watchdogPurge scope byteBusId => exact .watchdogPurge srv (srv.lookup scope byteBusId)
  | broadcastSafeState requestStreamIndex => exact .broadcastSafeState srv requestStreamIndex
  | addEndpoint byteBusId epEnable handler => exact .addEndpoint srv byteBusId epEnable handler
  | addEndpointOnStream streamId byteBusId epEnable handler =>
    simp only [step, addEndpointOnStream]
    split
    · exact .refl srv
    · exact .addSlot srv _
  | addEndpointMultiResponse byteBusId epEnable handler => exact .addEndpointMultiResponse srv byteBusId epEnable handler
  | removeEndpoint scope byteBusId =>
    simp only [step, removeEndpoint]
    split <;> exact ⟨rfl, rfl⟩
  | setEndpointEnable | setEndpointReqCrcEnable | setEndpointRxEnforceE2e | stashDeferredResponse =>
    exact .onSlot srv _ _
  | takeDeferredResponse scope byteBusId =>
    simp only [step, takeDeferredResponse]
    split <;> exact ⟨rfl, rfl⟩
  | transition target snap writer allOtherEpsIdle =>
    simp only [step, transition]
    split <;> exact ⟨rfl, rfl⟩
  | setEpIdMap entries =>
    simp only [step, setEpIdMap]
    split <;> exact ⟨rfl, rfl⟩
  | pwrmodeResume | setTscfUnsupportedTimeSyncPolicy => exact ⟨rfl, rfl⟩

/-- A tick reads the sequencers and may move one; it leaves every stream alone. -/
theorem tickScoped_streamSide (srv : MockServer σ) (scope : Scope) (byteBusId : ByteBusId) (ctx : TickCtx) :
    (srv.tickScoped scope byteBusId ctx).2.streamSide = srv.streamSide := by
  rw [tickScoped_eq]
  cases srv.lookup scope byteBusId with
  | none => rfl
  | some e =>
    dsimp only
    unfold tickSlot
    dsimp only
    split
    · rfl
    dsimp only
    split
    · rfl
    · exact (SameSides.runHandler _ _ _).streams

end MockServer
end Rcp
