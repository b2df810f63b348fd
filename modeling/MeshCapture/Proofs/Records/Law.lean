import MeshCapture.Proofs.EngineLaw
import MeshCapture.Proofs.Records.Capture

/-! # What records say

A record is what one capture made of one draw. Which of its fields are set, its
statuses tell, and they also tell how far the capture went. A view of the record
passes that on to the viewer. -/

namespace MeshCapture

/-! ## Failures -/

theorem CaptureFailure.message_ne_empty (failure : CaptureFailure) :
    failure.message ≠ "" := by
  have opens {front rest : String} (any : front ≠ "") : front ++ rest ≠ "" :=
    fun none => any (String.append_eq_empty_iff.mp none).1
  cases failure with
  | vertexStageFailed | rootSignature | pipelineCreation | submission
  | statistics => exact opens (by decide)
  | vertexOutOfMemory | postStageOutOfMemory => exact opens (opens (by decide))
  | _ => decide +kernel

def StageRecord.TellsFailure (record : StageRecord) : Prop :=
  record.status ≠ "" → record = { status := record.status }

theorem StageRecord.tellsFailure_failed (failure : CaptureFailure) :
    (failed failure).TellsFailure :=
  fun _ => rfl

theorem StageRecord.tellsFailure_of_status_eq {record : StageRecord}
    (succeeded : record.status = "") : record.TellsFailure :=
  fun failed => absurd succeeded failed

/-! ## Stages -/

namespace StreamOut.VertexLayout

theorem moveToFront_ne_nil {α : Type} {values : List α} (any : values ≠ [])
    (index : Nat) : moveToFront values index ≠ [] := by
  unfold moveToFront
  split
  · exact List.cons_ne_nil _ _
  · exact any

theorem ofOutputs_none (outputs : List ShaderOutput) :
    (ofOutputs outputs none).isEmpty = outputs.isEmpty := by
  cases outputs with
  | nil => rfl
  | cons output rest =>
      have entries : (captured (output :: rest) none).map entryOf ≠ [] :=
        List.cons_ne_nil _ _
      have placed (listed : List Entry) (any : listed ≠ []) :
          (place 0 listed).isEmpty = false := by
        cases listed with
        | nil => exact absurd rfl any
        | cons first others => rfl
      rw [ofOutputs]
      simp only [List.isEmpty_iff, if_neg entries, isEmpty]
      apply placed
      cases lastPosition (captured (output :: rest) none) with
      | none => exact entries
      | some index => exact moveToFront_ne_nil entries index

theorem stride_pos {outputs : List ShaderOutput} {stream : Option UInt32}
    (any : (ofOutputs outputs stream).isEmpty = false) :
    0 < (ofOutputs outputs stream).stride := by
  unfold ofOutputs at any ⊢
  simp only at any ⊢
  split
  · next none =>
      rw [if_pos none] at any
      cases any
  · simp only
    split
    · decide
    · next some => exact UInt32.pos_iff_ne_zero.mpr some

end StreamOut.VertexLayout

structure StageRecord.Holds (record : StageRecord) : Prop where
  vertices : record.vertexBuffer.isSome
  stride : 0 < record.vertexStride

variable {σ : Type} [Device σ] {pass : Pass} {pipeline : GraphicsPipeline}
  {shader : Shader} {record : StageRecord} {start finish : Workspace σ}

theorem Attempt.Succeeds.holds_streamVertices
    {layout : StreamOut.VertexLayout} {derived : PipelineHandle}
    (succeeds : (Work.streamVertices pass pipeline layout derived).Succeeds
      start record finish) (apart : 0 < layout.stride) :
    record.status = "" ∧ record.Holds := by
  rcases succeeds_bind.mp succeeds with ⟨drawn, _, _, rest⟩
  rcases succeeds_bind.mp rest with ⟨_, _, _, rest⟩
  rcases succeeds_bind.mp rest with ⟨sizes, _, _, rest⟩
  rcases succeeds_bind.mp rest with ⟨_, _, _, rest⟩
  rcases succeeds_bind.mp rest with ⟨data, _, _, rest⟩
  rcases succeeds_bind.mp rest with ⟨buffer, _, _, rest⟩
  rcases (succeeds_onFailure.mp rest).attachIndices with
    ⟨-, rfl, -⟩ | ⟨_, _, _, indices, -, -, rfl⟩
  · exact ⟨rfl, rfl, apart⟩
  · exact ⟨rfl, rfl, apart⟩

theorem Attempt.Succeeds.holds_captureVertices
    (succeeds : (Work.captureVertices pass pipeline shader).Succeeds start
      record finish) :
    if shader.outputs = [] then
      record = { topology := pass.state.topology }
    else
      record.status = "" ∧ record.Holds := by
  have outputs := StreamOut.VertexLayout.ofOutputs_none shader.outputs
  rcases succeeds.captureVertices with
    ⟨empty, same, -⟩ | ⟨present, _, _, _, -, streams, -⟩
  · rw [empty] at outputs
    rwa [if_pos (List.isEmpty_iff.mp outputs.symm)]
  · rw [present] at outputs
    rw [if_neg (by simpa using outputs.symm)]
    exact streams.holds_streamVertices
      (StreamOut.VertexLayout.stride_pos present)

theorem Attempt.Succeeds.holds_streamPrimitives
    {layout : StreamOut.VertexLayout} {derived : PipelineHandle}
    (succeeds : (Work.streamPrimitives pass shader layout derived).Succeeds
      start record finish) (apart : 0 < layout.stride) :
    record.status = "" ∧ record.Holds ∧ record.indexBuffer = none := by
  rcases succeeds_bind.mp succeeds with ⟨scratch, _, _, rest⟩
  rcases succeeds_bind.mp rest with ⟨output, _, _, rest⟩
  rcases succeeds_bind.mp rest with ⟨_, _, _, rest⟩
  rcases succeeds_bind.mp rest with ⟨sizes, _, _, rest⟩
  rcases succeeds_bind.mp rest with ⟨_, _, _, rest⟩
  rcases succeeds_bind.mp rest with ⟨data, _, _, rest⟩
  rcases succeeds_bind.mp rest with ⟨buffer, _, _, rest⟩
  rcases succeeds_pure.mp rest with ⟨rfl, -⟩
  exact ⟨rfl, ⟨rfl, apart⟩, rfl⟩

theorem Attempt.Succeeds.holds_capturePrimitives
    (succeeds : (Work.capturePrimitives pass pipeline shader).Succeeds start
      record finish) :
    record.status = "" ∧ record.Holds ∧ record.indexBuffer = none := by
  rw [Work.capturePrimitives] at succeeds
  simp only at succeeds
  split at succeeds
  · exact (succeeds_throw.mp succeeds).elim
  · next present =>
      rcases succeeds_bind.mp succeeds with ⟨derived, bound, _, rest⟩
      rcases succeeds_afterwards.mp rest with ⟨_, streams, -⟩
      exact streams.holds_streamPrimitives
        (StreamOut.VertexLayout.stride_pos (by simpa using present))

/-! ## Records -/

/-- The vertex stage was the last thing tried: what was called behind it ended
the capture, or it was not even begun for want of a root signature. -/
def Engine.StopsAtVertices (engine : Engine σ) (visit : DrawVisit)
    (pipeline : GraphicsPipeline) (shader : Shader) (finish : Workspace σ) :
    Prop :=
  (∃ description cause,
    visit.state.derivedRootSignature = some description ∧
      engine.workspace.Adds
        [.setMemoryTolerance true,
          .createRootSignature description (.error cause),
          .setMemoryTolerance false] finish) ∨
    ∃ pass start failure reached,
      StagesBegin engine visit pass start ∧
        (Work.captureVertices pass pipeline shader).run.run start =
          (.error failure, reached) ∧
        pass.Ends reached finish

/-- What the record of a draw tells of the capture that an engine made. -/
structure EventRecord.Lawful (record : EventRecord) (engine : Engine σ)
    (visit : DrawVisit) (finish : Workspace σ) : Prop where
  failures : ∀ stage, (record.stage stage).TellsFailure
  vertex : record.vertex.status = "" →
    ∃ pipeline shader, visit.Meets pipeline shader ∧
      if shader.outputs = [] then
        record.vertex = { topology := visit.state.topology }
      else
        record.vertex.Holds
  post : record.post.status = "" →
    record.post.Holds ∧ record.post.indexBuffer = none ∧
      record.vertex.status = ""
  vertexFailed : ∀ pipeline shader, visit.Meets pipeline shader →
    record.vertex.status ≠ "" →
      (record.post.status =
        if pipeline.geometryShader.isSome ∨ pipeline.domainShader.isSome then
          CaptureFailure.vertexStageFailed.message
        else
          CaptureFailure.noPostStage.message) ∧
      engine.StopsAtVertices visit pipeline shader finish
  refused : (∀ pipeline shader, ¬ visit.Meets pipeline shader) →
    record.vertex.status ≠ "" ∧ record.post.status = record.vertex.status ∧
      engine.workspace.Adds
        [.setMemoryTolerance true, .setMemoryTolerance false] finish

omit [Device σ] in
theorem GraphicsPipeline.status_skippedPostStage (pipeline : GraphicsPipeline) :
    pipeline.skippedPostStage.status =
      if pipeline.geometryShader.isSome ∨ pipeline.domainShader.isSome then
        CaptureFailure.vertexStageFailed.message
      else
        CaptureFailure.noPostStage.message := by
  rw [skippedPostStage, postStage?]
  cases pipeline.geometryShader <;> cases pipeline.domainShader <;> rfl

theorem DrawVisit.Meets.unique {visit : DrawVisit}
    {pipeline other : GraphicsPipeline} {shader last : Shader}
    (meets : visit.Meets pipeline shader) (again : visit.Meets other last) :
    pipeline = other ∧ shader = last := by
  have same := (captured_eq_ok_iff.mpr meets).symm.trans
    (captured_eq_ok_iff.mpr again)
  cases same
  exact ⟨rfl, rfl⟩

variable {engine : Engine σ} {visit : DrawVisit} {event : EventRecord}

theorem EventRecord.lawful_of_stops (meets : visit.Meets pipeline shader)
    (failure : CaptureFailure)
    (stops : engine.StopsAtVertices visit pipeline shader finish) :
    EventRecord.Lawful
      { inputTopology := visit.state.topology
        vertex := .failed failure
        post := pipeline.skippedPostStage } engine visit finish where
  failures
    | .vertex => StageRecord.tellsFailure_failed failure
    | .post => StageRecord.tellsFailure_failed _
  vertex succeeded := absurd succeeded failure.message_ne_empty
  post succeeded := absurd succeeded (CaptureFailure.message_ne_empty _)
  vertexFailed other last again _ := by
    rcases meets.unique again with ⟨rfl, rfl⟩
    exact ⟨pipeline.status_skippedPostStage, stops⟩
  refused unmet := absurd meets (unmet _ _)

theorem DrawCapture.lawful (capture : DrawCapture engine visit event finish) :
    event.Lawful engine visit finish := by
  cases capture with
  | refused failure topology finish unmet adds =>
      have failed := failure.message_ne_empty
      exact
        { failures
            | .vertex => StageRecord.tellsFailure_failed failure
            | .post => StageRecord.tellsFailure_failed failure
          vertex succeeded := absurd succeeded failed
          post succeeded := absurd succeeded failed
          vertexFailed pipeline shader meets := absurd meets (unmet _ _)
          refused _ := ⟨failed, rfl, adds⟩ }
  | unsigned pipeline shader description cause finish meets needed adds =>
      exact EventRecord.lawful_of_stops meets _
        (.inl ⟨description, cause, needed, adds⟩)
  | vertexFailed pass pipeline shader failure start reached finish meets
      begins fails ends =>
      exact EventRecord.lawful_of_stops meets _
        (.inr ⟨pass, start, failure, reached, begins, fails, ends⟩)
  | vertexCaptured pass pipeline shader vertex post start between finish meets
      begins vertices posts =>
      have held := vertices.holds_captureVertices
      rw [begins.topology_eq] at held
      have succeeded : vertex.status = "" := by
        split at held
        · rw [held]
        · exact held.1
      -- Whether there is no post stage, or it failed, its record says so.
      have told : (∃ failure, post = .failed failure) ∨ post.status = "" ∧
          post.Holds ∧ post.indexBuffer = none :=
        posts.imp id fun ⟨_, _, _, primitives⟩ =>
          primitives.holds_capturePrimitives
      exact
        { failures
            | .vertex => StageRecord.tellsFailure_of_status_eq succeeded
            | .post => by
                rcases told with ⟨failure, rfl⟩ | ⟨captured, -⟩
                · exact StageRecord.tellsFailure_failed failure
                · exact StageRecord.tellsFailure_of_status_eq captured
          vertex _ := by
            refine ⟨pipeline, shader, meets, ?_⟩
            split at held
            · next none => rwa [if_pos none]
            · next any =>
                rw [if_neg any]
                exact held.2
          post captured := by
            rcases told with ⟨failure, rfl⟩ | ⟨-, holds, unindexed⟩
            · exact absurd captured failure.message_ne_empty
            · exact ⟨holds, unindexed, succeeded⟩
          vertexFailed _ _ _ failed := absurd succeeded failed
          refused unmet := absurd meets (unmet _ _) }

/-! ## Where records come from -/

/-- The record of an event was made by a capture of one of the draws. The
capture took place in the course of the calls. -/
structure Engine.Made (draws : DrawVisit → Prop) (settings : Settings)
    (calls : List Call) (event : EventId) (record : EventRecord)
    (engine : Engine σ) (visit : DrawVisit) (finish : Workspace σ) :
    Prop where
  drawn : draws visit
  settings : engine.settings = settings
  stands : engine.store.resolve visit.event = event
  captured : (Work.captureDraw engine.settings visit).run engine.workspace =
    (record, finish)
  early : finish.history <+: calls

def Engine.HasMade (draws : DrawVisit → Prop) (settings : Settings)
    (engine : Engine σ) : Prop :=
  engine.settings = settings ∧
    ∀ entry ∈ engine.store.records, ∃ there visit finish,
      Made (σ := σ) draws settings engine.calls entry.1 entry.2 there visit
        finish

theorem Work.history_prefix_captureDraw (settings : Settings)
    (visit : DrawVisit) (before : Workspace σ) :
    before.history <+: ((captureDraw settings visit).run before).2.history := by
  rcases Work.Takes.captureDraw before 0 none rfl with ⟨held, drawn, course, -⟩
  exact course.history_prefix

namespace Engine

variable {draws : DrawVisit → Prop} {settings : Settings}

theorem HasMade.later {next : Engine σ} (made : engine.HasMade draws settings)
    (same : next.settings = engine.settings)
    (records : next.store.records = engine.store.records)
    (early : engine.calls <+: next.calls) : next.HasMade draws settings := by
  refine ⟨same.trans made.1, fun entry inside => ?_⟩
  rcases made.2 entry (records ▸ inside) with ⟨there, visit, finish, origin⟩
  exact ⟨there, visit, finish,
    { origin with early := origin.early.trans early }⟩

theorem HasMade.captureDraw (made : engine.HasMade draws settings)
    (drawn : draws visit) : (engine.captureDraw visit).HasMade draws settings := by
  rw [Engine.captureDraw]
  split
  · exact made
  · next absent =>
      rcases ran : (Work.captureDraw engine.settings visit).run
        engine.workspace with ⟨record, finish⟩
      have early : engine.calls <+: finish.history := by
        have grown := Work.history_prefix_captureDraw engine.settings visit
          engine.workspace
        rwa [ran] at grown
      have performed : engine.perform (Work.captureDraw engine.settings visit) =
          (record, { engine with workspace := finish }) := by
        rw [perform, ran]
      rw [performed]
      refine ⟨made.1, fun entry inside => ?_⟩
      have stored :
          entry ∈ (engine.store.insert visit.event record).records := inside
      rw [RecordStore.insert, if_neg absent] at stored
      rcases List.mem_append.mp stored with old | new
      · rcases made.2 entry old with ⟨there, other, finished, origin⟩
        exact ⟨there, other, finished,
          { origin with early := origin.early.trans early }⟩
      · rw [List.mem_singleton.mp new]
        exact ⟨engine, visit, finish, drawn, made.1, rfl, ran,
          List.prefix_rfl⟩

theorem keeps_hasMade :
    Keeps draws (HasMade draws settings : Engine σ → Prop) where
  request engine frame event made := by
    rcases exists_counters_request frame engine event with ⟨counters, same⟩
    rw [same]
    exact made.later rfl rfl List.prefix_rfl
  noteReplay engine first last extent made :=
    made.later rfl rfl ⟨_, List.reverse_cons.symm⟩
  addAlias engine primary synonym made := by
    refine made.later rfl ?_ List.prefix_rfl
    rw [Engine.addAlias, RecordStore.addAlias]
    simp only
    split <;> rfl
  captureDraw engine visit drawn made := made.captureDraw drawn
  clear engine made :=
    ⟨made.1, fun _ inside => absurd inside List.not_mem_nil⟩

end Engine

end MeshCapture
