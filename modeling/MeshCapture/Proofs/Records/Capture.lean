import MeshCapture.Proofs.Contents.Stages

/-! # How the capture of a draw goes

A draw is refused, or its vertex stage fails, or it is captured and the post
stage fails, is not there or is captured as well. `DrawCapture` tells the calls
behind the vertex stage where that was the last thing to be tried. -/

namespace MeshCapture

/-! ## Preconditions -/

structure DrawVisit.Meets (visit : DrawVisit) (pipeline : GraphicsPipeline)
    (shader : Shader) : Prop where
  bound : ∃ id, visit.state.pipeline = some ⟨id, .graphics pipeline⟩
  vertexShader : pipeline.vertexShader = some shader
  elements : visit.draw.elementCount ≠ 0
  instances : visit.draw.instanceCount ≠ 0

theorem DrawVisit.captured_eq_ok_iff {visit : DrawVisit}
    {pipeline : GraphicsPipeline} {shader : Shader} :
    visit.captured = .ok (pipeline, shader) ↔ visit.Meets pipeline shader := by
  constructor
  · intro found
    unfold captured at found
    split at found
    · next bound present =>
        split at found
        · next graphics description =>
            split at found
            · next first vertex =>
                simp only at found
                split at found
                · cases found
                · next elements =>
                    split at found
                    · cases found
                    · next instances =>
                        cases found
                        rcases bound with ⟨id, _⟩
                        cases description
                        exact ⟨⟨id, present⟩, vertex, elements, instances⟩
            · cases found
        · cases found
    · cases found
  · intro ⟨⟨id, bound⟩, vertex, elements, instances⟩
    simp only [captured, bound, vertex, if_neg elements, if_neg instances]
    rfl

theorem DrawVisit.eq_failed_of_captured {visit : DrawVisit}
    {record : EventRecord} (refused : visit.captured = .error record) :
    ∃ failure topology, record =
      { EventRecord.failed failure with inputTopology := topology } := by
  unfold captured at refused
  split at refused
  · split at refused
    · split at refused
      · simp only at refused
        split at refused
        · cases refused
          exact ⟨_, _, rfl⟩
        · split at refused
          · cases refused
            exact ⟨_, _, rfl⟩
          · cases refused
      · cases refused
        exact ⟨_, _, rfl⟩
    · cases refused
      exact ⟨_, _, rfl⟩
  · cases refused
    exact ⟨_, _, rfl⟩

/-! ## The ways it can go -/

variable {σ : Type} [Device σ]

/-- Nothing is called from one workspace to another but what ends a capture:
a root signature made for it is released, and memory tolerance goes off. -/
def Pass.Ends (pass : Pass) (reached finish : Workspace σ) : Prop :=
  reached.Adds (pass.rootSignature.toList.map Call.releaseRootSignature ++
    [.setMemoryTolerance false]) finish

inductive DrawCapture (engine : Engine σ) (visit : DrawVisit) :
    EventRecord → Workspace σ → Prop where
  | refused (failure : CaptureFailure) (topology : Topology)
      (finish : Workspace σ)
      (unmet : ∀ pipeline shader, ¬ visit.Meets pipeline shader)
      (adds : engine.workspace.Adds
        [.setMemoryTolerance true, .setMemoryTolerance false] finish) :
      DrawCapture engine visit
        { EventRecord.failed failure with inputTopology := topology } finish
  | unsigned (pipeline : GraphicsPipeline) (shader : Shader)
      (description : RootSignature) (cause : DeviceFailure)
      (finish : Workspace σ) (meets : visit.Meets pipeline shader)
      (needed : visit.state.derivedRootSignature = some description)
      (adds : engine.workspace.Adds
        [.setMemoryTolerance true,
          .createRootSignature description (.error cause),
          .setMemoryTolerance false] finish) :
      DrawCapture engine visit
        { inputTopology := visit.state.topology
          vertex := .failed (.rootSignature cause)
          post := pipeline.skippedPostStage } finish
  | vertexFailed (pass : Pass) (pipeline : GraphicsPipeline) (shader : Shader)
      (failure : CaptureFailure) (start reached finish : Workspace σ)
      (meets : visit.Meets pipeline shader)
      (begins : StagesBegin engine visit pass start)
      (fails : (Work.captureVertices pass pipeline shader).run.run start =
        (.error failure, reached))
      (ends : pass.Ends reached finish) :
      DrawCapture engine visit
        { inputTopology := visit.state.topology
          vertex := .failed failure
          post := pipeline.skippedPostStage } finish
  | vertexCaptured (pass : Pass) (pipeline : GraphicsPipeline)
      (shader : Shader) (vertex post : StageRecord)
      (start between finish : Workspace σ)
      (meets : visit.Meets pipeline shader)
      (begins : StagesBegin engine visit pass start)
      (vertices : (Work.captureVertices pass pipeline shader).Succeeds start
        vertex between)
      (posts : (∃ failure, post = .failed failure) ∨
        ∃ last reached, pipeline.postStage? = some last ∧
          (Work.capturePrimitives pass pipeline last).Succeeds between post
            reached) :
      DrawCapture engine visit
        { inputTopology := visit.state.topology, vertex, post } finish

/-! ### There is no other -/

variable {engine : Engine σ} {visit : DrawVisit} {pass : Pass}
  {pipeline : GraphicsPipeline} {shader : Shader} {record : EventRecord}
  {start reached finish : Workspace σ}

theorem StagesBegin.topology_eq (begins : StagesBegin engine visit pass start) :
    pass.state.topology = visit.state.topology := by
  cases begins <;> rfl

theorem DrawCapture.of_captureStages (meets : visit.Meets pipeline shader)
    (begins : StagesBegin engine visit pass start)
    (ran : (Work.captureStages pass pipeline shader).run start =
      (record, reached))
    (ends : pass.Ends reached finish) :
    DrawCapture engine visit record finish := by
  rcases vertices : (Work.captureVertices pass pipeline shader).run.run start
    with ⟨outcome, between⟩
  have whole : (Work.captureStages pass pipeline shader).run start = _ :=
    Work.run_bind vertices
  rw [whole, begins.topology_eq] at ran
  cases outcome with
  | error failure =>
      cases ran
      exact .vertexFailed pass pipeline shader failure start reached finish
        meets begins vertices ends
  | ok vertex =>
      cases present : pipeline.postStage? with
      | none =>
          simp only [present] at ran
          cases ran
          exact .vertexCaptured pass pipeline shader vertex _ start reached
            finish meets begins vertices (.inl ⟨_, rfl⟩)
      | some last =>
          rcases primitives : (Work.capturePrimitives pass pipeline
            last).run.run between with ⟨answer, there⟩
          simp only [present] at ran
          have both : _ = (record, reached) :=
            (Work.run_bind primitives).symm.trans ran
          cases answer with
          | ok post =>
              cases both
              exact .vertexCaptured pass pipeline shader vertex post start
                between finish meets begins vertices
                (.inr ⟨last, reached, present, primitives⟩)
          | error failure =>
              cases both
              exact .vertexCaptured pass pipeline shader vertex _ start between
                finish meets begins vertices (.inl ⟨failure, rfl⟩)

theorem DrawCapture.of_captureWithSignature
    (meets : visit.Meets pipeline shader)
    (tolerant : (Work.setMemoryTolerance true).run engine.workspace =
      ((), start))
    (ran : (Work.captureWithSignature engine.settings visit pipeline
      shader).run start = (record, reached))
    (ends : reached.Adds [.setMemoryTolerance false] finish) :
    DrawCapture engine visit record finish := by
  rw [Work.captureWithSignature] at ran
  cases needed : visit.state.derivedRootSignature with
  | none =>
      simp only [needed] at ran
      exact .of_captureStages meets (.bound start tolerant needed) ran ends
  | some description =>
      simp only [needed] at ran
      rcases made : (Work.createRootSignature description).run.run start with
        ⟨outcome, ready⟩
      have whole : _ = (record, reached) := (Work.run_bind made).symm.trans ran
      cases outcome with
      | error cause =>
          cases whole
          have calls := ((Work.adds_call tolerant).trans
            (Work.adds_call made)).trans ends
          exact .unsigned pipeline shader description cause finish meets needed
            calls
      | ok signature =>
          rcases stages : (Work.captureStages
            (visit.pass engine.settings (some signature)) pipeline
            shader).run ready with ⟨answer, there⟩
          have last : _ = (record, reached) :=
            (Work.run_bind stages).symm.trans whole
          cases last
          have released : there.Adds [.releaseRootSignature signature]
              ((Work.releaseRootSignature signature).run there).2 :=
            ⟨List.reverse_cons, rfl⟩
          exact .of_captureStages meets
            (.derived start ready description signature tolerant needed made)
            stages (released.trans ends)

theorem DrawCapture.of_captureDraw
    (ran : (Work.captureDraw engine.settings visit).run engine.workspace =
      (record, finish)) : DrawCapture engine visit record finish := by
  rcases tolerant : (Work.setMemoryTolerance true).run engine.workspace with
    ⟨⟨⟩, start⟩
  have whole : (Work.captureDraw engine.settings visit).run
      engine.workspace = _ := Work.run_bind tolerant
  rw [whole] at ran
  cases captured : visit.captured with
  | error refused =>
      simp only [captured] at ran
      cases ran
      rcases DrawVisit.eq_failed_of_captured captured with
        ⟨failure, topology, rfl⟩
      refine .refused failure topology _ ?_
        ((Work.adds_call tolerant).trans ⟨List.reverse_cons, rfl⟩)
      intro pipeline shader meets
      rw [DrawVisit.captured_eq_ok_iff.mpr meets] at captured
      cases captured
  | ok found =>
      rcases found with ⟨pipeline, shader⟩
      simp only [captured] at ran
      rcases stages : (Work.captureWithSignature engine.settings visit pipeline
        shader).run start with ⟨answer, there⟩
      have last : _ = (record, finish) :=
        (Work.run_bind stages).symm.trans ran
      cases last
      exact .of_captureWithSignature (DrawVisit.captured_eq_ok_iff.mp captured)
        tolerant stages ⟨List.reverse_cons, rfl⟩

end MeshCapture
