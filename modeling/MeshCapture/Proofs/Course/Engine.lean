import MeshCapture.Proofs.Course.Primitives

/-! # Courses of an engine

Whatever an engine is asked to do, it goes a course, and between two operations
it holds just the resources of its records beside the scratch set. -/

namespace MeshCapture

variable {σ : Type} {held : Multiset Resource}

/-! ## Records -/

@[simp] theorem StageRecord.resources_failed (failure : CaptureFailure) :
    (StageRecord.failed failure).resources = 0 := rfl

@[simp] theorem GraphicsPipeline.resources_skippedPostStage
    (pipeline : GraphicsPipeline) : pipeline.skippedPostStage.resources = 0 :=
  rfl

theorem DrawVisit.resources_of_not_captured {visit : DrawVisit}
    {record : EventRecord} (refused : visit.captured = .error record) :
    record.resources = 0 := by
  unfold DrawVisit.captured at refused
  simp only at refused
  split at refused
  · split at refused
    · split at refused
      · split at refused
        · cases refused
          rfl
        · split at refused
          · cases refused
            rfl
          · cases refused
      · cases refused
        rfl
    · cases refused
      rfl
  · cases refused
    rfl

section Capture

variable [Device σ]

theorem Work.Takes.captureStages {pass : Pass} {pipeline : GraphicsPipeline}
    {shader : Shader} :
    Work.Takes (Holds held)
      (Work.captureStages pass pipeline shader : Work σ EventRecord)
      fun record => Holds (record.resources + held) := by
  apply Work.Takes.bind Attempt.Takes.captureVertices
  intro vertex
  cases vertex with
  | error failure =>
      refine Work.Takes.pure fun _ now => ?_
      simpa [EventRecord.resources_eq] using now
  | ok vertex =>
      simp only
      cases pipeline.postStage? with
      | none =>
          refine Work.Takes.pure fun _ now => ?_
          simpa [EventRecord.resources_eq] using now
      | some last =>
          apply Work.Takes.bind Attempt.Takes.capturePrimitives
          intro post
          cases post with
          | ok post =>
              refine Work.Takes.pure fun _ now => ?_
              rw [EventRecord.resources_eq, add_comm vertex.resources, add_assoc]
              exact now
          | error failure =>
              refine Work.Takes.pure fun _ now => ?_
              simpa [EventRecord.resources_eq] using now

theorem Work.Takes.captureWithSignature {settings : Settings}
    {visit : DrawVisit} {pipeline : GraphicsPipeline} {shader : Shader} :
    Work.Takes (Holds held)
      (Work.captureWithSignature settings visit pipeline shader :
        Work σ EventRecord)
      fun record => Holds (record.resources + held) := by
  rw [Work.captureWithSignature]
  simp only
  cases visit.state.derivedRootSignature with
  | none => exact Work.Takes.captureStages
  | some description =>
      refine Work.Takes.bind (Attempt.Takes.createBeside (fun _ => rfl)
        (fun _ => rfl) fun _ => rfl) ?_
      intro created
      cases created with
      | error cause =>
          refine Work.Takes.pure fun _ now => ?_
          simpa [EventRecord.resources_eq] using now
      | ok signature =>
          apply Work.Takes.bind Work.Takes.captureStages
          intro record
          rw [Multiset.add_cons]
          apply Work.Takes.bind (Work.Takes.releaseBeside fun _ => rfl)
          exact fun _ => Work.Takes.pure fun _ now => now

theorem Work.Takes.captureDraw {settings : Settings} {visit : DrawVisit} :
    Work.Takes (Holds held)
      (Work.captureDraw settings visit : Work σ EventRecord)
      fun record => Holds (record.resources + held) := by
  apply Work.Takes.bind (Work.Takes.quietBeside fun _ => rfl)
  intro _
  have switchOff {work : Work σ EventRecord}
      (takes : Work.Takes (Holds held) work
        fun record => Holds (record.resources + held)) :
      Work.Takes (Holds held)
        (do
          let record ← work
          Work.setMemoryTolerance false
          return record)
        fun record => Holds (record.resources + held) :=
    Work.Takes.bind takes fun _ =>
      Work.Takes.bind (Work.Takes.quietBeside fun _ => rfl) fun _ =>
        Work.Takes.pure fun _ now => now
  cases refused : visit.captured with
  | error record =>
      refine switchOff (Work.Takes.pure fun _ now => ?_)
      rw [DrawVisit.resources_of_not_captured refused, zero_add]
      exact now
  | ok found => exact switchOff Work.Takes.captureWithSignature

omit [Device σ] in
theorem Work.Takes.noteReplay {first last : EventId} {extent : ReplayExtent} :
    Work.Takes (Holds held) (Work.noteReplay first last extent : Work σ Unit)
      fun _ => Holds held := by
  apply Work.Takes.modify
  intro workspace now drawn starts
  refine ⟨now, none, .single ?_, starts⟩
  change Step _ (Standing.mk (_ :: workspace.calls).reverse _ _ now none)
  rw [List.reverse_cons]
  exact .noted (.replay first last extent) rfl

theorem Work.Takes.releaseBuffers {buffers : List BufferHandle} :
    Work.Takes (Holds (buffers.map Resource.buffer + held))
      (buffers.forM Work.releaseBuffer : Work σ Unit)
      fun _ => Holds held := by
  induction buffers with
  | nil => exact Work.Takes.pure fun _ now => by simpa using now
  | cons buffer rest induction =>
      rw [List.map_cons, ← Multiset.cons_coe, Multiset.cons_add]
      exact Work.Takes.bind (Work.Takes.releaseBeside fun _ => rfl)
        fun _ => induction

end Capture

/-! ## Engines -/

namespace Engine

def standing (engine : Engine σ) (drawn : Option Nat) : Standing :=
  engine.workspace.standing engine.store.resources drawn

def Leads (engine next : Engine σ) : Prop :=
  ∀ drawn, ∃ drawnAfter,
    Course (engine.standing drawn) (next.standing drawnAfter)

namespace Leads

variable {engine middle next : Engine σ}

theorem refl (engine : Engine σ) : Leads engine engine :=
  fun drawn => ⟨drawn, .refl⟩

theorem trans (first : Leads engine middle) (second : Leads middle next) :
    Leads engine next := by
  intro drawn
  rcases first drawn with ⟨drawnBetween, course⟩
  rcases second drawnBetween with ⟨drawnAfter, rest⟩
  exact ⟨drawnAfter, course.trans rest⟩

theorem count (engine : Engine σ) {update : Counters → Counters}
    (counted : update ∈ [Counters.countCaptureRequest,
      Counters.countCacheHit, Counters.countRecord]) :
    Leads engine (engine.count update) :=
  fun _ => ⟨none, .single (.tallied update counted)⟩

theorem addAlias (engine : Engine σ) (primary synonym : EventId) :
    Leads engine (engine.addAlias primary synonym) := by
  intro drawn
  refine ⟨drawn, ?_⟩
  have same : (engine.addAlias primary synonym).standing drawn =
      engine.standing drawn := by
    simp [Engine.addAlias, standing]
  rw [same]
  exact .refl

theorem perform {α : Type} {engine : Engine σ} {work : Work σ α}
    (stored : α → RecordStore)
    (takes : Work.Takes (Holds engine.store.resources) work
      fun answer => Holds (stored answer).resources) :
    Leads engine { (engine.perform work).2 with
      store := stored (engine.perform work).1 } := by
  intro drawn
  rcases takes engine.workspace _ drawn rfl with
    ⟨held, drawnAfter, course, ends⟩
  refine ⟨drawnAfter, ?_⟩
  cases ends
  exact course

theorem request (frame : Frame) (engine : Engine σ) (event : EventId) :
    Leads engine (engine.request frame event).2 := by
  have requested : Leads engine (engine.count Counters.countCaptureRequest) :=
    count engine (by simp)
  rw [Engine.request]
  simp only
  split
  · exact requested.trans (count _ (by simp))
  · exact requested

theorem requestAll (frame : Frame) (engine : Engine σ)
    (events : List EventId) :
    Leads engine (engine.requestAll frame events).2 := by
  induction events generalizing engine with
  | nil => exact refl engine
  | cons event rest induction =>
      exact (request frame engine event).trans (induction _)

variable [Device σ]

theorem captureDraw (engine : Engine σ) (visit : DrawVisit) :
    Leads engine (engine.captureDraw visit) := by
  rw [Engine.captureDraw]
  split
  · exact refl engine
  · next present =>
      have absent : engine.store.contains visit.event = false := by
        simpa using present
      have takes : Work.Takes (Holds engine.store.resources)
          (Work.captureDraw engine.settings visit : Work σ EventRecord)
          fun record => Holds (engine.store.insert visit.event record).resources := by
        simp only [RecordStore.resources_insert _ _ _ absent]
        exact Work.Takes.captureDraw
      exact (perform _ takes).trans (count _ (by simp))

theorem follow (wanted : List EventId) (engine : Engine σ) (visit : Visit) :
    Leads engine (engine.follow wanted visit) := by
  cases visit with
  | draw visit =>
      simp only [Engine.follow]
      split
      · exact captureDraw engine visit
      · exact refl engine
  | dispatch event => exact refl engine
  | synonym primary synonym =>
      simp only [Engine.follow]
      split
      · exact addAlias engine primary synonym
      · exact refl engine

theorem followAll (wanted : List EventId) (engine : Engine σ)
    (visits : List Visit) :
    Leads engine (visits.foldl (Engine.follow wanted) engine) := by
  induction visits generalizing engine with
  | nil => exact refl engine
  | cons visit rest induction =>
      exact (follow wanted engine visit).trans (induction _)

theorem replay {frame : Frame} {wanted : List EventId}
    {first last : EventId} {extent : ReplayExtent} {failure : Option String}
    (replayed : engine.replay frame wanted first last extent =
      (failure, next)) :
    Leads engine next := by
  have whole : Leads engine
      (engine.replay frame wanted first last extent).2 :=
    (perform (fun _ => engine.store) Work.Takes.noteReplay).trans
      (followAll wanted _ _)
  rwa [replayed] at whole

theorem captureAll (frame : Frame) (engine : Engine σ)
    (events : List EventId) :
    Leads engine (engine.captureAll frame events).2 := by
  have requested := requestAll frame engine events
  rw [Engine.captureAll]
  simp only
  split
  · split
    · next stopped => exact requested.trans (replay stopped)
    · next reached =>
        have upTo := requested.trans (replay reached)
        split
        · next stopped => exact upTo.trans (replay stopped)
        · next done => exact upTo.trans (replay done)
  · exact requested

theorem clear (engine : Engine σ) : Leads engine engine.clear := by
  have takes : Work.Takes (Holds engine.store.resources)
      (engine.store.buffers.forM Work.releaseBuffer : Work σ Unit)
      fun _ => Holds 0 := by
    rw [← add_zero engine.store.resources]
    exact Work.Takes.releaseBuffers
  exact perform (fun _ => {}) takes

theorem apply (engine : Engine σ) (operation : Operation) :
    Leads engine (engine.apply operation) := by
  cases operation with
  | captureAll frame events => exact captureAll frame engine events
  | addAlias primary synonym => exact addAlias engine primary synonym
  | clear => exact clear engine

theorem run (engine : Engine σ) (operations : List Operation) :
    Leads engine (engine.run operations) := by
  induction operations generalizing engine with
  | nil => exact refl engine
  | cons operation rest induction =>
      exact (apply engine operation).trans (induction _)

end Leads

/-- A law of the steps that holds of a new engine holds behind every run. -/
theorem run_preserves [Device σ] (law : Standing → Prop)
    (step : ∀ now next, Step now next → law now → law next) (device : σ)
    (settings : Settings) (operations : List Operation)
    (starts : law ((new device settings).standing none)) :
    ∃ drawn, law (((new device settings).run operations).standing drawn) := by
  rcases Leads.run (new device settings) operations none with ⟨drawn, course⟩
  exact ⟨drawn, course.preserves step starts⟩

end Engine

end MeshCapture
