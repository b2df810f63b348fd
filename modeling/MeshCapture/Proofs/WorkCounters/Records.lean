import MeshCapture.Proofs.Batch.Captures
import MeshCapture.Proofs.StageWork
import MeshCapture.Proofs.WorkCounters.Calls

/-! # Counted requests and records

Each requested event counts as a request. It may be a hit, or it may lead to a
capture, which makes one record at most if a replay passes no draw twice. -/

namespace MeshCapture

/-! ## Replays that pass a draw once -/

def Visit.drawn? (visit : Visit) : Option EventId :=
  visit.draw?.map DrawVisit.event

def Act.captured? : Act → Option EventId
  | .captureDraw visit => some visit.event
  | _ => none

/-- A replay passes none but draws of its range, and none of them twice. -/
structure Frame.PassesOnce (frame : Frame) : Prop where
  reached : ∀ first last extent,
    ∀ event ∈ (frame.replay first last extent).visits.filterMap Visit.drawn?,
      extent.reaches first last event = true
  once : ∀ first last extent,
    ((frame.replay first last extent).visits.filterMap Visit.drawn?).Nodup

theorem captured_replayActs (frame : Frame) (wanted : List EventId)
    (first last : EventId) (extent : ReplayExtent) :
    (frame.replayActs wanted first last extent).filterMap Act.captured? =
      ((frame.replay first last extent).visits.filterMap
        Visit.drawn?).filter wanted.contains := by
  rw [Frame.replayActs, List.filterMap_cons_none rfl]
  induction (frame.replay first last extent).visits with
  | nil => rfl
  | cons visit rest induction =>
      rw [List.flatMap_cons, List.filterMap_append, induction]
      cases visit with
      | draw visit =>
          have drawn : (Visit.draw visit).drawn? = some visit.event := rfl
          rw [List.filterMap_cons_some drawn, List.filter_cons, Visit.acts]
          split <;> rfl
      | dispatch event => rfl
      | synonym primary other =>
          have undrawn : (Visit.synonym primary other).drawn? = none := rfl
          rw [List.filterMap_cons_none undrawn, Visit.acts]
          split <;> rfl

/-- To capture some events, no draw is captured but theirs, and none twice: the
replay up to the first of them stops in front of it. -/
theorem captured_captureActs {frame : Frame} (passes : frame.PassesOnce)
    {wanted : List EventId} (ascending : wanted.Pairwise (· < ·)) :
    ((frame.captureActs wanted).filterMap Act.captured?).Nodup ∧
      (frame.captureActs wanted).filterMap Act.captured? ⊆ wanted := by
  rw [Frame.captureActs]
  split
  · next first last starts ends =>
      have upTo : (frame.replayActs wanted 0 first .beforeLast).filterMap
          Act.captured? = [] := by
        rw [captured_replayActs, List.filter_eq_nil_iff]
        intro event passed asked
        have reached := passes.reached 0 first .beforeLast event passed
        have least := bounds_of_ascending ascending starts ends event
          (List.contains_iff_mem.mp asked)
        simp only [ReplayExtent.reaches, Bool.and_eq_true,
          decide_eq_true_eq, Bool.not_eq_true', beq_self_eq_true,
          Bool.true_and, beq_eq_false_iff_ne] at reached
        exact reached.2 (UInt32.le_antisymm reached.1.2 least.1)
      rw [List.filterMap_append, upTo, List.nil_append]
      split
      · exact ⟨List.nodup_nil, List.nil_subset _⟩
      · rw [captured_replayActs]
        refine ⟨(passes.once first last .full).filter _, ?_⟩
        intro event inside
        exact List.contains_iff_mem.mp (List.mem_filter.mp inside).2
  · exact ⟨List.nodup_nil, List.nil_subset _⟩

theorem length_captured_le {frame : Frame} (passes : frame.PassesOnce)
    (pending : List EventId) :
    ((frame.captureActs (Ascending.ofList pending)).filterMap
      Act.captured?).length ≤ pending.length := by
  obtain ⟨distinct, inside⟩ := captured_captureActs passes
    (Ascending.pairwise_ofList pending)
  exact distinct.length_le_of_subset fun event captured =>
    (Ascending.mem_ofList pending event).mp (inside captured)

namespace Engine

variable {σ : Type}

/-! ## Numbers of a run -/

def Operation.requestCount : Operation → Nat
  | .captureAll _ events => events.length
  | .addAlias .. | .clear => 0

def requestCount : (operations : List Operation) → Nat
  | [] => 0
  | operation :: rest => operation.requestCount + requestCount rest

def droppedBy (engine : Engine σ) : Operation → Nat
  | .clear => engine.store.size
  | .captureAll .. | .addAlias .. => 0

def dropCount [Device σ] (engine : Engine σ) :
    (operations : List Operation) → Nat
  | [] => 0
  | operation :: rest =>
      engine.droppedBy operation + (engine.apply operation).dropCount rest

/-! ## The tally -/

/-- The counters tell how many events were requested, how many of them hit, and
how many records were made, of which so many were dropped. Beside the hits and
the records there are requests to spare. -/
structure Tally (requested dropped spare : Nat) (engine : Engine σ) : Prop where
  requests : engine.counters.captureRequests = .ofNat requested
  records : engine.counters.recordsCreated =
    .ofNat (engine.store.size + dropped)
  hits : ∃ hits, engine.counters.cacheHits = .ofNat hits ∧
    engine.store.size + dropped + hits + spare ≤ requested

variable {requested dropped spare : Nat} {engine : Engine σ}

namespace Tally

theorem weaken (tally : engine.Tally requested dropped spare) {less : Nat}
    (few : less ≤ spare) : engine.Tally requested dropped less := by
  obtain ⟨requests, records, hits, counted, bounded⟩ := tally
  exact ⟨requests, records, hits, counted, by omega⟩

theorem request (tally : engine.Tally requested dropped spare)
    (frame : Frame) (event : EventId) :
    (engine.request frame event).2.Tally (requested + 1) dropped
      (spare + (engine.request frame event).1.toList.length) := by
  obtain ⟨requests, records, hits, counted, bounded⟩ := tally
  have asked : engine.counters.captureRequests + 1 =
      .ofNat (requested + 1) := by
    rw [requests, UInt64.ofNat_add]
    rfl
  rw [Engine.request]
  simp only
  split
  · refine ⟨asked, records, hits + 1, ?_, ?_⟩
    · change engine.counters.cacheHits + 1 = _
      rw [counted, UInt64.ofNat_add]
      rfl
    · change engine.store.size + _ + _ + _ ≤ _
      simp only [Option.toList_none, List.length_nil]
      omega
  · refine ⟨asked, records, hits, counted, ?_⟩
    change engine.store.size + _ + _ + _ ≤ _
    split
    · simp only [Option.toList_some, List.length_singleton]
      omega
    · simp only [Option.toList_none, List.length_nil]
      omega

theorem requestAll (tally : engine.Tally requested dropped spare)
    (frame : Frame) (events : List EventId) :
    (engine.requestAll frame events).2.Tally (requested + events.length)
      dropped (spare + (engine.requestAll frame events).1.length) := by
  induction events generalizing engine requested spare with
  | nil => exact tally
  | cons event rest induction =>
      have later := induction (tally.request frame event)
      simp only [Engine.requestAll, List.length_append, List.length_cons]
      rwa [Nat.add_assoc, Nat.add_comm 1, Nat.add_assoc] at later

theorem same (tally : engine.Tally requested dropped spare)
    {next : Engine σ}
    (counters : engine.counters.SameRequests next.counters)
    (size : next.store.size = engine.store.size) :
    next.Tally requested dropped spare := by
  obtain ⟨requests, records, hits, counted, bounded⟩ := tally
  exact ⟨counters.requests.trans requests,
    size ▸ counters.records.trans records, hits,
    counters.hits.trans counted, size ▸ bounded⟩

theorem addAlias (tally : engine.Tally requested dropped spare)
    (primary synonym : EventId) :
    (engine.addAlias primary synonym).Tally requested dropped spare := by
  refine tally.same ⟨rfl, rfl, rfl⟩ ?_
  rw [Engine.addAlias, RecordStore.addAlias]
  simp only
  split <;> rfl

variable [Device σ]

theorem captureDraw (tally : engine.Tally requested dropped (spare + 1))
    (visit : DrawVisit) :
    (engine.captureDraw visit).Tally requested dropped spare := by
  rw [Engine.captureDraw]
  split
  · exact tally.weaken (Nat.le_succ spare)
  · next missing =>
      obtain ⟨requests, records, hits, counted, bounded⟩ := tally
      obtain ⟨served, -, -, same⟩ :=
        Work.exists_served_captureDraw engine.settings visit engine.workspace
      let record := ((Work.captureDraw engine.settings visit).run
        engine.workspace).1
      have stored : (engine.store.insert visit.event record).size =
          engine.store.size + 1 := by
        simp [RecordStore.insert, missing, RecordStore.size]
      refine ⟨same.requests.trans requests, ?_, hits,
        same.hits.trans counted, ?_⟩
      · change ((Work.captureDraw engine.settings visit).run
          engine.workspace).2.counters.recordsCreated + 1 =
            .ofNat ((engine.store.insert visit.event record).size + dropped)
        have before : engine.workspace.counters.recordsCreated = _ := records
        rw [same.records, before, stored, Nat.add_right_comm]
        exact (UInt64.ofNat_add _ 1).symm
      · change (engine.store.insert visit.event record).size + _ + _ + _ ≤ _
        omega

theorem act {act : Act}
    (tally : engine.Tally requested dropped
      (spare + act.captured?.toList.length))
    (replayed : act.isReplayed = true) :
    (engine.act act).Tally requested dropped spare := by
  cases act with
  | request frame event => cases replayed
  | noteReplay first last extent => exact { tally with }
  | addAlias primary synonym => exact tally.addAlias primary synonym
  | captureDraw visit => exact tally.captureDraw visit
  | clear => cases replayed

theorem acts {acts : List Act}
    (tally : engine.Tally requested dropped
      (spare + (acts.filterMap Act.captured?).length))
    (replayed : ∀ act ∈ acts, act.isReplayed = true) :
    (acts.foldl Engine.act engine).Tally requested dropped spare := by
  induction acts generalizing engine with
  | nil => exact tally
  | cons act rest induction =>
      have parts : (act :: rest).filterMap Act.captured? =
          act.captured?.toList ++ rest.filterMap Act.captured? := by
        cases captured : act.captured? with
        | none => rw [List.filterMap_cons_none captured]; rfl
        | some event => rw [List.filterMap_cons_some captured]; rfl
      rw [parts, List.length_append, Nat.add_comm act.captured?.toList.length,
        ← Nat.add_assoc] at tally
      refine induction (tally.act (replayed act List.mem_cons_self)) ?_
      exact fun other inside => replayed other (List.mem_cons_of_mem act inside)

theorem captureAll (tally : engine.Tally requested dropped 0) {frame : Frame}
    (passes : frame.PassesOnce) (events : List EventId) :
    (engine.captureAll frame events).2.Tally (requested + events.length)
      dropped 0 := by
  rw [captureAll_eq_foldl_act, operationActs, List.foldl_append,
    ← requestAll_eq_foldl_act, wanted]
  have asked := tally.requestAll frame events
  refine acts (asked.weaken ?_) ?_
  · rw [Nat.zero_add, Nat.zero_add]
    exact length_captured_le passes _
  · intro act inside
    obtain ⟨first, last, extent, among⟩ :=
      exists_replayActs_of_mem_captureActs inside
    exact isReplayed_of_mem_replayActs among

theorem clear (tally : engine.Tally requested dropped 0) :
    engine.clear.Tally requested (dropped + engine.store.size) 0 := by
  have same : engine.counters.SameRequests engine.clear.counters :=
    (Work.Keeps.releaseBuffers Workspace.ForStages.releaseBuffer
      engine.store.buffers engine.workspace (.refl _)).counters
  have empty : engine.clear.store.size = 0 := rfl
  obtain ⟨requests, records, hits, counted, bounded⟩ := tally
  refine ⟨same.requests.trans requests, ?_, hits, same.hits.trans counted, ?_⟩
  · rw [same.records, records, empty, Nat.zero_add, Nat.add_comm]
  · omega

end Tally

/-! ## Runs -/

variable [Device σ]

theorem Tally.run {operations : List Operation}
    (tally : engine.Tally requested dropped 0)
    (passes : ∀ frame events, .captureAll frame events ∈ operations →
      frame.PassesOnce) :
    (engine.run operations).Tally (requested + requestCount operations)
      (dropped + engine.dropCount operations) 0 := by
  induction operations generalizing engine requested dropped with
  | nil => exact tally
  | cons operation rest induction =>
      have once : (engine.apply operation).Tally
          (requested + operation.requestCount)
          (dropped + engine.droppedBy operation) 0 := by
        cases operation with
        | captureAll frame events =>
            exact tally.captureAll (passes frame events (by simp)) events
        | addAlias primary synonym => exact tally.addAlias primary synonym
        | clear => exact tally.clear
      have later := induction once
        fun frame events inside => passes frame events (by simp [inside])
      rw [dropCount, requestCount, ← Nat.add_assoc, ← Nat.add_assoc]
      exact later

end Engine

/-! ## Scripted frames -/

namespace Scripted

theorem Action.drawn_visits (action : Action) :
    (action.visits.filterMap Visit.drawn?).Sublist [action.event] := by
  have undrawn {pairs : List (EventId × EventId)}
      {told : EventId × EventId → Visit}
      (synonyms : ∀ pair, (told pair).drawn? = none) :
      (pairs.map told).filterMap Visit.drawn? = [] := by
    rw [List.filterMap_map, List.filterMap_eq_nil_iff]
    exact fun pair _ => synonyms pair
  rw [Action.visits, List.filterMap_append, List.filterMap_append, undrawn,
    undrawn]
  · cases action.dispatch <;> cases action.drawn <;>
      simp [Visit.drawn?, Visit.draw?]
  · exact fun pair => rfl
  · exact fun pair => rfl

theorem Action.drawn_course (actions : List Action) :
    ((Action.course actions).visits.filterMap Visit.drawn?).Sublist
      (actions.map Action.event) := by
  induction actions with
  | nil => exact List.Sublist.slnil
  | cons action rest induction =>
      rw [Action.course]
      split
      · exact List.nil_sublist _
      · rw [List.filterMap_append]
        exact action.drawn_visits.append induction

theorem passesOnce_frameOf {actions : List Action}
    (distinct : (actions.map Action.event).Nodup) :
    (frameOf actions).PassesOnce where
  reached := by
    intro first last extent event passed
    have inside := (Action.drawn_course _).subset passed
    obtain ⟨action, among, rfl⟩ := List.mem_map.mp inside
    exact (List.mem_filter.mp among).2
  once := by
    intro first last extent
    refine (Action.drawn_course _).nodup ?_
    exact (List.filter_sublist.map Action.event).nodup distinct

end Scripted

/-! ## The counters of a run -/

namespace Engine

variable {σ : Type} [Device σ]

structure CountersFit (engine : Engine σ) (operations : List Operation) :
    Prop where
  requests : requestCount operations < UInt64.size
  draws : handedDraws (engine.run operations).calls < UInt64.size
  lists : takenLists (engine.run operations).calls < UInt64.size
  replaced : idleWaits (engine.run operations).calls < UInt64.size

/-- Behind every run the counters tell of its work, wherever calls and replays
failed: the draws in all lists that were handed to the device, and the lists
that it took; each wait is one for a list or one before the scratch set is
replaced. The records that were made are those that are there and those that
were dropped, and together with the hits they are no more than the requests. -/
theorem work_counted (device : σ) (settings : Settings)
    (operations : List Operation)
    (passes : ∀ frame events, .captureAll frame events ∈ operations →
      frame.PassesOnce)
    (fit : (new device settings).CountersFit operations) :
    let engine := (new device settings).run operations
    let counters := engine.counters
    counters.streamOutDraws.toNat = handedDraws engine.calls ∧
      counters.submissions.toNat = takenLists engine.calls ∧
      waits engine.calls =
        counters.submissions.toNat + counters.scratchReallocations.toNat ∧
      counters.recordsCreated.toNat =
        engine.store.size + (new device settings).dropCount operations ∧
      counters.captureRequests.toNat = requestCount operations ∧
      counters.recordsCreated.toNat + counters.cacheHits.toNat ≤
        counters.captureRequests.toNat := by
  intro engine counters
  have tells : counters.TellsCalls engine.calls :=
    tellsCalls_run device settings operations
  have fresh : (new device settings).Tally 0 0 0 :=
    ⟨rfl, rfl, 0, rfl, Nat.le_refl 0⟩
  obtain ⟨requests, records, hits, counted, bounded⟩ := fresh.run passes
  rw [Nat.zero_add] at requests records bounded
  have exact {counter : UInt64} {number : Nat} (told : counter = .ofNat number)
      (fits : number < UInt64.size) : counter.toNat = number := by
    rw [told, UInt64.toNat_ofNat_of_lt' fits]
  have requested := exact requests fit.requests
  have most := fit.requests
  have created := exact records (by omega)
  have hit := exact counted (by omega)
  refine ⟨exact tells.draws fit.draws, exact tells.lists fit.lists, ?_,
    created, requested, ?_⟩
  · rw [exact tells.lists fit.lists, exact tells.replaced fit.replaced]
    exact tells.waited
  · simp only [counters, engine]
    omega

/-- Two draws, of which one is asked for twice and the other one under another
name, and one of them once more when all is cleared. -/
def severalRequests : List Operation :=
  let frame := Scripted.frameOf
    [Scripted.triangle 1 true, Scripted.triangle 2 false]
  [.captureAll frame [1, 2, 1], .addAlias 2 3, .captureAll frame [3], .clear,
    .captureAll frame [1]]

theorem work_counted_several :
    let start := new Scripted.interruptedDevice Scripted.smallScratch
    let engine := start.run severalRequests
    start.CountersFit severalRequests ∧
      engine.counters.recordsCreated.toNat =
        engine.store.size + start.dropCount severalRequests ∧
      (engine.store.size, start.dropCount severalRequests) = (1, 2) ∧
      engine.counters.cacheHits.toNat = 1 ∧
      engine.counters.captureRequests.toNat = 5 := by
  have fit : (new Scripted.interruptedDevice
      Scripted.smallScratch).CountersFit severalRequests :=
    ⟨by decide +kernel, by decide +kernel, by decide +kernel,
      by decide +kernel⟩
  have passes : ∀ frame events,
      .captureAll frame events ∈ severalRequests → frame.PassesOnce := by
    intro frame events inside
    have same : frame = Scripted.frameOf
        [Scripted.triangle 1 true, Scripted.triangle 2 false] := by
      simp [severalRequests] at inside
      tauto
    rw [same]
    exact Scripted.passesOnce_frameOf (by decide)
  have counted := work_counted Scripted.interruptedDevice
    Scripted.smallScratch severalRequests passes fit
  exact ⟨fit, counted.2.2.2.1, by decide +kernel, by decide +kernel,
    counted.2.2.2.2.1⟩

end Engine

end MeshCapture
