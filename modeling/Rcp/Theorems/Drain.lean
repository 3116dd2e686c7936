import Rcp.Theorems.Deferred
import Rcp.Theorems.Kept
import Rcp.Theorems.Select

/-! Ticks at one instant. A caller that ticks an endpoint until nothing is due has its one-shot requests executed once
    each, in the order of scheduler.h, and leaves every other request where it was. -/

namespace Rcp

/-- A request that its next completion takes out, and that moves neither a sequencer nor another request. -/
def Pending.oneShot (slot : Pending) : Bool :=
  match slot.kind with
  | .standard | .chained | .timed => true
  | .triggered => slot.triggered.repeatCount == 0
  | .compound | .compoundWait | .cancellation => false

theorem Pending.completed_oneShot {slot : Pending} (h : slot.oneShot = true) (now : UInt32) :
    slot.completed now = .zero := by
  unfold oneShot at h
  unfold completed repeatCount?
  cases hk : slot.kind <;> simp only [hk] at h ⊢
  case triggered =>
    have hzero : slot.triggered.repeatCount = 0 := by simpa using h
    have hinf : (0 : UInt16) ≠ repeatInfinite := by decide
    rw [hzero, if_neg hinf, if_pos rfl]
  all_goals cases h

namespace Endpoint
variable {ep : Endpoint} {ctx : TickCtx} {i j : SlotIx}

/-! ### A second look at the same instant -/

theorem GatesOpen.arm {slot : Pending} {epEnable : Bool} (h : GatesOpen slot epEnable ctx) :
    GatesOpen (slot.arm ctx) epEnable ctx := ⟨h.enabled, h.mayExecute, h.presentation⟩

/-- Arming a slot does not change whether it is due at the instant it is armed. -/
theorem isDue_again (slot : Pending) (epEnable : Bool) :
    (isDue (isDue slot epEnable ctx).2 epEnable ctx).1 = (isDue slot epEnable ctx).1 := by
  rcases isDue_slot_cases slot epEnable ctx with h | ⟨hidle, hopen, hstart, h⟩
  · rw [h]
  · rw [h, isDue_of_open (GatesOpen.arm hopen), isDue_of_open hopen, hidle, hstart]
    rfl

theorem selectDue_due (ep : Endpoint) (ctx : TickCtx) (i : SlotIx) : (ep.selectDue ctx).2.due ctx i = ep.due ctx i := by
  rw [selectDue_endpoint]
  unfold due
  rw [withPending_pending, withPending_epEnable, (Pending.swept_sameRequest _ _ _).inUse]
  cases hu : (ep.pending i).inUse with
  | false => rfl
  | true => rw [Pending.swept, if_pos hu, isDue_again]

/-! ### Executing a one-shot request -/

/-- The completion of a one-shot request empties its slot and changes nothing else. -/
theorem complete_oneShot (hu : (ep.pending i).inUse = true) (hone : (ep.pending i).oneShot = true) (ctx : TickCtx) :
    (ep.complete i ctx).2.1 = ep.releaseSlot i ∧ (ep.complete i ctx).2.2 = ctx.sequencers := by
  have hzero := Pending.completed_oneShot hone ctx.now
  refine ⟨?_, ?_⟩
  · rw [complete_endpoint ctx hu, hzero]
    rfl
  · unfold complete
    rw [dif_pos i.isLt]
    dsimp only
    rw [if_neg (by simp [hu])]
    unfold Pending.oneShot at hone
    cases hk : (ep.pending i).kind <;> simp only [hk] at hone ⊢
    all_goals cases hone

theorem releaseSlot_due (ep : Endpoint) (ctx : TickCtx) (i j : SlotIx) :
    (ep.releaseSlot i).due ctx j = true ↔ ep.due ctx j = true ∧ j ≠ i := by
  unfold due
  rw [releaseSlot_pending, releaseSlot_epEnable]
  by_cases hji : j = i
  · subst hji
    simp
  · rw [Function.update_of_ne hji]
    exact ⟨fun h => ⟨h, hji⟩, And.left⟩

theorem releaseSlot_distinct (hdist : ep.DistinctSequences) (i : SlotIx) : (ep.releaseSlot i).DistinctSequences := by
  intro j k hj hk hseq
  rw [releaseSlot_pending] at hj hk hseq
  by_cases hji : j = i
  · subst hji
    simp at hj
  by_cases hki : k = i
  · subst hki
    simp at hk
  rw [Function.update_of_ne hji] at hj hseq
  rw [Function.update_of_ne hki] at hk hseq
  exact hdist j k hj hk hseq

theorem selectDue_distinct (hdist : ep.DistinctSequences) (ctx : TickCtx) : (ep.selectDue ctx).2.DistinctSequences := by
  intro j k hj hk hseq
  have hsj := selectDue_sameRequest ep ctx j
  have hsk := selectDue_sameRequest ep ctx k
  rw [hsj] at hj hseq
  rw [hsk] at hk hseq
  exact hdist j k hj hk hseq

end Endpoint

namespace MockServer
variable {σ : Type} {srv : MockServer σ} {e : EndpointIx} {byteBusId : ByteBusId} {ctx : TickCtx}

/-! ### Ticks until nothing is due -/

/-- The ticks of one endpoint at one instant, until one executes nothing. -/
def tickAll (srv : MockServer σ) (e : EndpointIx) (byteBusId : ByteBusId) (ctx : TickCtx) (turns : Nat) :
    List (SlotIx × Option Octets) × MockServer σ :=
  Lib.drain (fun srv => srv.tickSlot e byteBusId ctx) turns srv

/-- `run_handler` on the memory of the handlers alone. -/
def handle (handler : Option (Handler σ)) (request : Octets) (world : σ) : Option Octets × σ :=
  match handler with
  | none => (none, world)
  | some handler => handler request world

/-- What can be seen of a slot from outside: its place in the order, and its request. -/
def slotData (srv : MockServer σ) (e : EndpointIx) (i : SlotIx) : SchedEntry × Octets :=
  ((srv.slot e i).entry, (srv.slot e i).frame)

/-- A tick of a store whose due requests are all one-shot executes the first of them and takes it out. -/
theorem tickSlot_oneShot {i : SlotIx} {response : Option Octets}
    (hone : ∀ i, (srv.endpoints e).queue.due (srv.tickCtx ctx) i = true → (srv.slot e i).oneShot = true)
    (h : (srv.tickSlot e byteBusId ctx).1 = some (i, response)) :
    ((srv.endpoints e).queue.selectDue (srv.tickCtx ctx)).1 = some i ∧
    srv.tickSlot e byteBusId ctx =
      (some (i, (handle (srv.endpoints e).handler (srv.slot e i).frame srv.world).1),
        { srv.setQueue e (((srv.endpoints e).queue.selectDue (srv.tickCtx ctx)).2.releaseSlot i) with
          world := (handle (srv.endpoints e).handler (srv.slot e i).frame srv.world).2 }) := by
  obtain ⟨hsel, -, -⟩ := tickSlot_executed h
  have hdue := (Endpoint.selectDue_minimal hsel).1
  have hu := Endpoint.due_inUse hdue
  have hsame := Endpoint.selectDue_sameRequest (srv.endpoints e).queue (srv.tickCtx ctx) i
  have hshot := hone i hdue
  refine ⟨hsel, ?_⟩
  unfold tickSlot
  rw [← tickCtx]
  rcases hq : (srv.endpoints e).queue.selectDue (srv.tickCtx ctx) with ⟨_ | index, queue⟩
  · rw [hq] at hsel
    cases hsel
  rw [hq] at hsel hsame
  obtain rfl := Option.some.inj hsel
  dsimp only at hsame
  have hu' : (queue.pending index).inUse = true := by rw [hsame, hu]
  have hone' : (queue.pending index).oneShot = true := by
    rw [hsame]
    exact hshot
  have hframe : (queue.pending index).frame = (srv.slot e index).frame := by
    rw [hsame]
    rfl
  have hkind : (queue.pending index).kind ≠ .cancellation := by
    intro hc
    rw [Pending.oneShot, hc] at hone'
    cases hone'
  obtain ⟨hcomplete, hseq⟩ := Endpoint.complete_oneShot hu' hone' (srv.tickCtx ctx)
  simp only [hq, if_neg hkind, hframe]
  have hself : ((srv.setQueue e queue).endpoints e).queue = queue := by rw [setQueue_self]
  have hhandler : ((srv.setQueue e queue).endpoints e).handler = (srv.endpoints e).handler := by
    simp [setQueue, setEndpoint]
  unfold runHandler handle
  rw [hhandler]
  cases (srv.endpoints e).handler with
  | none =>
    dsimp only
    rw [hself, hcomplete, hseq, setQueue_setQueue]
    rfl
  | some handler =>
    dsimp only
    rw [hself, hcomplete, hseq]
    simp only [tickCtx, Option.getD_some]
    congr 1
    simp [setQueue, setEndpoint]

theorem tickSlot_nothing (h : (srv.tickSlot e byteBusId ctx).1 = none) :
    ((srv.endpoints e).queue.selectDue (srv.tickCtx ctx)).1 = none ∧
    (srv.tickSlot e byteBusId ctx).2 = srv.setQueue e ((srv.endpoints e).queue.selectDue (srv.tickCtx ctx)).2 := by
  unfold tickSlot at *
  rw [← tickCtx] at *
  rcases hq : (srv.endpoints e).queue.selectDue (srv.tickCtx ctx) with ⟨_ | index, queue⟩
  · exact ⟨rfl, by simp only [hq]⟩
  · simp only [hq] at h
    cases h

/-- What holds between the ticks of one instant. -/
structure Draining (handler : Option (Handler σ)) (e : EndpointIx) (ctx : TickCtx) (srv : MockServer σ) : Prop where
  distinct : (srv.endpoints e).queue.DistinctSequences
  oneShot : ∀ i, (srv.endpoints e).queue.due (srv.tickCtx ctx) i = true → (srv.slot e i).oneShot = true
  handler : (srv.endpoints e).handler = handler

/-- Ticks take the due requests out, best first. -/
theorem tickSlot_extracts (handler : Option (Handler σ)) (e : EndpointIx) (byteBusId : ByteBusId) (ctx : TickCtx) :
    Lib.Extracts (fun srv => tickSlot srv e byteBusId ctx) (Draining handler e ctx)
      (fun srv i => (srv.endpoints e).queue.due (srv.tickCtx ctx) i) (fun srv => srv.slotData e)
      (fun data => data.1.key) MockServer.world (fun data => handle handler data.2) where
  idle := by
    intro srv hI h
    obtain ⟨hsel, hserver⟩ := tickSlot_nothing h
    have hdue := Endpoint.selectDue_none.mp hsel
    refine ⟨fun i => ?_, hdue, ?_⟩
    · rw [hserver, setQueue_self]
      exact (Endpoint.selectDue_due _ _ i).trans (hdue i)
    · rw [hserver]
      rfl
  taken := by
    intro srv i response hI h
    obtain ⟨hsel, htick⟩ := tickSlot_oneShot hI.oneShot h
    obtain ⟨hdue, hfirst⟩ := (Endpoint.selectDue_eq_some hI.distinct).mp hsel
    rw [htick] at h ⊢
    -- The server after the tick: its store is the swept one without slot `i`.
    have hqueue : ∀ world : σ, (({ srv.setQueue e (((srv.endpoints e).queue.selectDue (srv.tickCtx ctx)).2.releaseSlot i)
        with world := world } : MockServer σ).endpoints e).queue =
          ((srv.endpoints e).queue.selectDue (srv.tickCtx ctx)).2.releaseSlot i := by
      intro world
      simp [setQueue, setEndpoint]
    have hcand : ∀ j, (((srv.endpoints e).queue.selectDue (srv.tickCtx ctx)).2.releaseSlot i).due (srv.tickCtx ctx) j = true ↔
        (srv.endpoints e).queue.due (srv.tickCtx ctx) j = true ∧ j ≠ i := by
      intro j
      rw [Endpoint.releaseSlot_due, Endpoint.selectDue_due]
    have hslot : ∀ j, j ≠ i → Pending.SameRequest (srv.slot e j)
        ((((srv.endpoints e).queue.selectDue (srv.tickCtx ctx)).2.releaseSlot i).pending j) := by
      intro j hj
      rw [Endpoint.releaseSlot_pending, Function.update_of_ne hj]
      exact Endpoint.selectDue_sameRequest _ _ j
    refine ⟨⟨?_, ?_, ?_⟩, hdue, fun j hj hji => ?_, fun j => ?_, fun j hj hji => ?_, ?_⟩
    · rw [hqueue]
      exact Endpoint.releaseSlot_distinct (Endpoint.selectDue_distinct hI.distinct _) i
    · intro j hj
      rw [hqueue] at hj
      obtain ⟨hj, hji⟩ := (hcand j).mp hj
      rw [slot, hqueue, hslot j hji]
      exact hI.oneShot j hj
    · simp [setQueue, setEndpoint, hI.handler]
    · exact schedCompare_neg.mp (hfirst j hj hji)
    · rw [hqueue]
      exact hcand j
    · unfold slotData
      rw [slot, hqueue, hslot j hji]
      rfl
    · rw [← hI.handler, ← (Prod.mk.inj (Option.some.inj h)).2]
      rfl

/-- Ticks at one instant execute the due one-shot requests of an endpoint, each of them once, in the order of
    scheduler.h: the handler sees their octets in that order, on the memory the one before has left, and then
    nothing is due. As many ticks are enough as the store has slots. -/
theorem ticks_in_order (srv : MockServer σ) (e : EndpointIx) (byteBusId : ByteBusId) (ctx : TickCtx)
    (hdist : (srv.endpoints e).queue.DistinctSequences)
    (hone : ∀ i, (srv.endpoints e).queue.due (srv.tickCtx ctx) i = true → (srv.slot e i).oneShot = true) :
    ∃ order : List SlotIx,
      (∀ i, i ∈ order ↔ (srv.endpoints e).queue.due (srv.tickCtx ctx) i = true) ∧
      order.Pairwise (fun i j => schedCompare (srv.slot e i).entry (srv.slot e j).entry < 0) ∧
      ((srv.tickAll e byteBusId ctx serverMaxPending).1, (srv.tickAll e byteBusId ctx serverMaxPending).2.world) =
        Lib.actAll (handle (srv.endpoints e).handler) (fun i => (srv.slot e i).frame) order srv.world ∧
      ∀ i, ((srv.tickAll e byteBusId ctx serverMaxPending).2.endpoints e).queue.due
        ((srv.tickAll e byteBusId ctx serverMaxPending).2.tickCtx ctx) i = false := by
  have hdraining : Draining (srv.endpoints e).handler e ctx srv := ⟨hdist, hone, rfl⟩
  have hcard : Fintype.card SlotIx ≤ serverMaxPending := le_of_eq (Fintype.card_fin serverMaxPending)
  obtain ⟨order, hmem, hsorted, hout, hdone⟩ :=
    (tickSlot_extracts (srv.endpoints e).handler e byteBusId ctx).drain hdraining hcard
  rw [Lib.actAll_comp (handle (srv.endpoints e).handler) Prod.snd] at hout
  unfold tickAll
  exact ⟨order, hmem, hsorted.imp fun h => schedCompare_neg.mpr h, hout, hdone⟩

/-- Two stored timed requests, the later one in the first slot. -/
def twoTimedStore : Endpoint where
  epEnable := true
  pending := fun i =>
    if i.val = 0 then { inUse := true, kind := .timed, sequence := 0, frame := [1], presentationTime := 9 }
    else if i.val = 1 then { inUse := true, kind := .timed, sequence := 1, frame := [2], presentationTime := 7 }
    else .zero

theorem twoTimedStore_distinct : twoTimedStore.DistinctSequences := by
  have hpair : ∀ i, (twoTimedStore.pending i).inUse = true →
      i = 0 ∧ (twoTimedStore.pending i).sequence = 0 ∨ i = 1 ∧ (twoTimedStore.pending i).sequence = 1 := by
    intro i hi
    by_cases h0 : i.val = 0
    · obtain rfl : i = 0 := Fin.ext h0
      exact .inl ⟨rfl, rfl⟩
    by_cases h1 : i.val = 1
    · obtain rfl : i = 1 := Fin.ext h1
      exact .inr ⟨rfl, rfl⟩
    · unfold twoTimedStore at hi
      dsimp only at hi
      rw [if_neg h0, if_neg h1] at hi
      cases hi
  intro i j hi hj hseq
  rcases hpair i hi with ⟨rfl, hi⟩ | ⟨rfl, hi⟩ <;> rcases hpair j hj with ⟨rfl, hj⟩ | ⟨rfl, hj⟩
  · rfl
  · simp [hi, hj] at hseq
  · simp [hi, hj] at hseq
  · rfl

theorem twoTimedStore_oneShot (i : SlotIx) : (twoTimedStore.pending i).oneShot = true := by
  unfold twoTimedStore
  dsimp only
  split
  · rfl
  · split <;> rfl

/-- A server of which endpoint 0 holds the two requests and writes down what it executes. -/
def twoTimedServer : MockServer Octets :=
  { MockServer.new [] with
    endpoints := fun e =>
      if e.val = 0 then
        { inUse := true, queue := twoTimedStore, handler := some fun request log => (none, log ++ request) }
      else {}
    endpointCount := 1 }

/-- The second slot holds the earlier request, so it is executed first. -/
theorem ticks_in_order_two :
    ∃ order : List SlotIx,
      (∀ i, i ∈ order ↔ twoTimedStore.due (twoTimedServer.tickCtx { gptpNow := 10, gptpLocked := true }) i = true) ∧
      order.Pairwise
        (fun i j => schedCompare (twoTimedServer.slot 0 i).entry (twoTimedServer.slot 0 j).entry < 0) := by
  obtain ⟨order, hmem, hsorted, -, -⟩ :=
    ticks_in_order twoTimedServer 0 0 { gptpNow := 10, gptpLocked := true } twoTimedStore_distinct
      fun i _ => twoTimedStore_oneShot i
  exact ⟨order, hmem, hsorted⟩

end MockServer
end Rcp
