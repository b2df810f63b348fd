import MeshCapture.Proofs.Conduct.Ensures

/-! # Laws that stages keep

What is done for the stages of a draw is made of single device calls, growths of
the scratch set, and submissions. So a law that these keep is kept by all of it,
whatever the device answers and wherever a stage is given up. -/

namespace MeshCapture

variable {σ ε α β : Type}

/-- A call that is made for a stage by itself. The other ones belong to a growth
or a submission, or to no stage. -/
def Call.isSingle : Call → Bool
  | createBuffer .. | releaseBuffer _ | createRootSignature ..
  | releaseRootSignature _ | createPipeline .. | releasePipeline _
  | readBuffer .. | writeBuffer .. => true
  | _ => false

variable {law : Workspace σ → Prop}

namespace Work

abbrev Keeps (law : Workspace σ → Prop) (work : Work σ α) : Prop :=
  Ensures law work fun _ => law

namespace Keeps

theorem pure (value : α) : Keeps law (Pure.pure value : Work σ α) :=
  Ensures.pure fun _ holds => holds

theorem scratch? : Keeps law (Work.scratch? : Work σ (Option Scratch)) :=
  Ensures.scratch? fun _ holds => holds

variable [Device σ]
  (release : ∀ buffer, Keeps law (Work.releaseBuffer buffer : Work σ Unit))

include release

theorem releaseBuffers (buffers : List BufferHandle) :
    Keeps law (buffers.forM Work.releaseBuffer : Work σ Unit) := by
  induction buffers with
  | nil => exact pure ()
  | cons buffer rest induction =>
      exact Ensures.bind (release buffer) fun _ => induction

theorem releaseScratch
    (releaseHeap : ∀ heap,
      Keeps law (Work.releaseQueryHeap heap : Work σ Unit))
    (forget : Keeps law (Work.setScratch none : Work σ Unit)) :
    Keeps law (Work.releaseScratch : Work σ Unit) := by
  refine Ensures.bind scratch? fun scratch => ?_
  cases scratch with
  | none => exact pure ()
  | some scratch =>
      refine Ensures.bind (release _) fun _ => ?_
      refine Ensures.bind (release _) fun _ => ?_
      refine Ensures.bind (release _) fun _ => ?_
      exact Ensures.bind (releaseHeap _) fun _ => forget

end Keeps

end Work

namespace Attempt

abbrev Keeps (law : Workspace σ → Prop) (attempt : Attempt ε σ α) : Prop :=
  Ensures law attempt (fun _ => law) law

namespace Keeps

theorem pure (value : α) :
    Keeps law (Pure.pure value : Attempt ε σ α) :=
  Ensures.pure fun _ holds => holds

theorem throw (cause : ε) :
    Keeps law (MonadExcept.throw cause : Attempt ε σ α) :=
  Ensures.throw fun _ holds => holds

theorem outcome {attempt : Attempt ε σ α} (keeps : Keeps law attempt) :
    Work.Keeps law attempt.run :=
  Work.Ensures.weaken keeps (fun _ holds => holds) fun answer _ holds => by
    cases answer <;> exact holds

theorem of_outcome {work : Work σ (Except ε α)} (keeps : Work.Keeps law work) :
    Keeps law (ExceptT.mk work : Attempt ε σ α) :=
  Work.Ensures.weaken keeps (fun _ holds => holds) fun answer _ holds => by
    cases answer <;> exact holds

end Keeps

end Attempt

structure StageLaw [Device σ] (law : Workspace σ → Prop) : Prop where
  call : ∀ {α : Type} (operation : StateM σ α) (note : α → Call),
    (∀ answer, (note answer).isSingle = true) →
      Work.Keeps law (Work.call operation note)
  grow : ∀ settings current required,
    Attempt.Keeps law (Work.growScratch settings current required)
  submit : ∀ recording, Attempt.Keeps law (Work.submit recording)

namespace StageLaw

open Attempt

variable [Device σ] {settings : Settings} {pass : Pass}
  (keeps : StageLaw law)

include keeps

/-! ## Moving bytes -/

theorem attemptCall {operation : StateM σ (Except ε α)}
    {note : Except ε α → Call}
    (single : ∀ answer, (note answer).isSingle = true) :
    Attempt.Keeps law
      (ExceptT.mk (Work.call operation note) : Attempt ε σ α) :=
  Keeps.of_outcome (keeps.call operation note single)

theorem releaseBuffer (buffer : BufferHandle) :
    Work.Keeps law (Work.releaseBuffer buffer : Work σ Unit) :=
  keeps.call _ _ fun _ => rfl

theorem scratchFor (required : UInt64) :
    Attempt.Keeps law (Work.scratchFor settings required :
      Attempt UInt64 σ Scratch) := by
  refine Ensures.bind (Ensures.lift Work.Keeps.scratch?) fun scratch => ?_
  cases scratch with
  | none => exact keeps.grow _ _ _
  | some scratch =>
      simp only
      split
      · exact Keeps.pure _
      · exact keeps.grow _ _ _

theorem store (label : String) (data : ByteArray) :
    Attempt.Keeps law (Work.store label data :
      Attempt DeviceFailure σ BufferHandle) := by
  refine Ensures.bind (keeps.attemptCall fun _ => rfl) fun buffer => ?_
  refine Ensures.onFailure ?_ (keeps.releaseBuffer buffer)
  exact Ensures.bind (keeps.attemptCall fun _ => rfl) fun _ => Keeps.pure _

theorem fetchStaged (failure : CaptureFailure) (scratch : Scratch)
    (offset length : UInt64) :
    Attempt.Keeps law (Work.fetchStaged failure scratch offset length :
      Attempt CaptureFailure σ ByteArray) := by
  apply Keeps.of_outcome
  refine Work.Ensures.bind (keeps.call _ _ fun _ => rfl) fun answer => ?_
  cases answer <;> exact Work.Keeps.pure _

theorem filledSizes (failure : CaptureFailure) (scratch : Scratch)
    (number : UInt32) :
    Attempt.Keeps law (Work.filledSizes failure scratch number :
      Attempt CaptureFailure σ (List UInt64)) :=
  Ensures.bind (keeps.fetchStaged _ _ _ _) fun _ => Keeps.pure _

omit [Device σ] keeps in
theorem requireOutput (failure : CaptureFailure) (reported : UInt64) :
    Attempt.Keeps law (Work.requireOutput failure reported :
      Attempt CaptureFailure σ Unit) := by
  rw [Work.requireOutput]
  split
  · exact Keeps.throw _
  · exact Keeps.pure _

theorem withPipeline (derived : GraphicsPipeline)
    {stage : PipelineHandle → Attempt CaptureFailure σ StageRecord}
    (behind : ∀ pipeline, Attempt.Keeps law (stage pipeline)) :
    Attempt.Keeps law (do
      let pipeline ← (Work.createPipeline derived).adapt .pipelineCreation
      Attempt.afterwards (Work.releasePipeline pipeline) (stage pipeline)) := by
  have release (pipeline : PipelineHandle) :
      Work.Keeps law (Work.releasePipeline pipeline : Work σ Unit) :=
    keeps.call _ _ fun _ => rfl
  refine Ensures.bind (keeps.attemptCall fun _ => rfl).adapt fun pipeline => ?_
  exact Ensures.afterwards (behind pipeline) (fun _ => release pipeline)
    (release pipeline)

/-! ## The vertex stage -/

theorem fetchIndices :
    Work.Keeps law
      (Work.fetchIndices pass : Work σ (ByteArray × IndexWidth)) := by
  rw [Work.fetchIndices]
  cases pass.state.indexBuffer with
  | none => exact Work.Keeps.pure _
  | some range =>
      simp only
      split
      · exact Work.Keeps.pure _
      · refine Work.Ensures.bind (keeps.call _ _ fun _ => rfl) fun answer => ?_
        cases answer <;> exact Work.Keeps.pure _

theorem recordVertices (stripCut : StripCut) (stride : UInt32)
    (derived : PipelineHandle) :
    Attempt.Keeps law (Work.recordVertices pass stripCut stride derived :
      Attempt CaptureFailure σ Work.VertexDraw) := by
  rw [Work.recordVertices]
  split
  · refine Ensures.bind (Ensures.lift keeps.fetchIndices) fun found => ?_
    obtain ⟨fetched, width⟩ := found
    refine Ensures.bind (keeps.scratchFor _).adapt fun scratch => ?_
    exact Ensures.bind (keeps.attemptCall fun _ => rfl).adapt
      fun _ => Keeps.pure _
  · exact Ensures.bind (keeps.scratchFor _).adapt fun _ => Keeps.pure _

theorem attachIndices (event : EventId) (record : StageRecord)
    (indices : Option (ByteArray × IndexWidth)) :
    Attempt.Keeps law (Work.attachIndices event record indices :
      Attempt CaptureFailure σ StageRecord) := by
  unfold Work.attachIndices
  cases indices with
  | none => exact Keeps.pure _
  | some indices =>
      exact Ensures.bind (keeps.store _ _).adapt fun _ => Keeps.pure _

theorem streamVertices (pipeline : GraphicsPipeline)
    (layout : StreamOut.VertexLayout) (derived : PipelineHandle) :
    Attempt.Keeps law (Work.streamVertices pass pipeline layout derived :
      Attempt CaptureFailure σ StageRecord) := by
  refine Ensures.bind (keeps.recordVertices _ _ _) fun drawn => ?_
  refine Ensures.bind (keeps.submit _).adapt fun _ => ?_
  refine Ensures.bind (keeps.filledSizes _ _ _) fun sizes => ?_
  refine Ensures.bind (requireOutput _ _) fun _ => ?_
  refine Ensures.bind (keeps.fetchStaged _ _ _ _) fun data => ?_
  refine Ensures.bind (keeps.store _ _).adapt fun vertexBuffer => ?_
  exact Ensures.onFailure (keeps.attachIndices _ _ _) (keeps.releaseBuffer _)

theorem captureVertices (pipeline : GraphicsPipeline) (shader : Shader) :
    Attempt.Keeps law (Work.captureVertices pass pipeline shader :
      Attempt CaptureFailure σ StageRecord) := by
  rw [Work.captureVertices]
  simp only
  split
  · exact Keeps.pure _
  · exact keeps.withPipeline _ fun _ => keeps.streamVertices _ _ _

/-! ## The post stage -/

theorem measure (derived : PipelineHandle) (scratch : Scratch) :
    Attempt.Keeps law (Work.measure pass derived scratch :
      Attempt CaptureFailure σ (StreamOut.Statistics × Scratch)) := by
  refine Ensures.bind (keeps.submit _).adapt fun _ => ?_
  refine Ensures.bind (keeps.attemptCall fun _ => rfl).adapt fun bytes => ?_
  cases StreamOut.Statistics.decode bytes with
  | some statistics => exact Keeps.pure _
  | none => exact Keeps.throw _

theorem drawUntilFitting (derived : PipelineHandle) (stride : UInt32)
    (unsettled : UInt64) (scratch : Scratch) (attempts : Nat) :
    Attempt.Keeps law (Work.drawUntilFitting pass derived stride unsettled
      scratch attempts : Attempt CaptureFailure σ Work.PostOutput) := by
  induction attempts generalizing unsettled scratch with
  | zero => exact Keeps.throw _
  | succ attempts induction =>
      refine Ensures.bind (keeps.measure _ _) fun (statistics, measured) => ?_
      simp only
      split
      · exact Keeps.pure _
      · exact Ensures.bind (keeps.scratchFor _).adapt fun grown => induction _ _

theorem submitRuns (derived : PipelineHandle) (dataOffset : UInt64)
    (recording : Recording) (runs : List (List UInt32)) :
    Attempt.Keeps law (Work.submitRuns pass derived dataOffset recording runs :
      Attempt CaptureFailure σ Scratch) := by
  induction runs generalizing recording with
  | nil => exact Keeps.pure _
  | cons run rest induction =>
      exact Ensures.bind (keeps.submit _).adapt fun _ => induction _

theorem drawPrimitives (derived : PipelineHandle) (stride : UInt32)
    (scratch : Scratch) :
    Attempt.Keeps law (Work.drawPrimitives pass derived stride scratch :
      Attempt CaptureFailure σ Work.PostOutput) := by
  rw [Work.drawPrimitives]
  split
  · refine Ensures.bind (keeps.measure _ _) fun measured => ?_
    refine Ensures.bind (keeps.scratchFor _).adapt fun grown => ?_
    exact Ensures.bind (keeps.submitRuns _ _ _ _) fun _ => Keeps.pure _
  · exact keeps.drawUntilFitting _ _ _ _ _

theorem streamPrimitives (shader : Shader) (layout : StreamOut.VertexLayout)
    (derived : PipelineHandle) :
    Attempt.Keeps law (Work.streamPrimitives pass shader layout derived :
      Attempt CaptureFailure σ StageRecord) := by
  refine Ensures.bind (keeps.scratchFor _).adapt fun scratch => ?_
  refine Ensures.bind (keeps.drawPrimitives _ _ _) fun output => ?_
  refine Ensures.bind (keeps.submit _).adapt fun _ => ?_
  refine Ensures.bind (keeps.filledSizes _ _ _) fun sizes => ?_
  refine Ensures.bind (requireOutput _ _) fun _ => ?_
  refine Ensures.bind (keeps.fetchStaged _ _ _ _) fun data => ?_
  exact Ensures.bind (keeps.store _ _).adapt fun _ => Keeps.pure _

theorem capturePrimitives (pipeline : GraphicsPipeline) (shader : Shader) :
    Attempt.Keeps law (Work.capturePrimitives pass pipeline shader :
      Attempt CaptureFailure σ StageRecord) := by
  rw [Work.capturePrimitives]
  simp only
  split
  · exact Keeps.throw _
  · exact keeps.withPipeline _ fun _ => keeps.streamPrimitives _ _ _

/-! ## The whole draw -/

theorem captureStages (pipeline : GraphicsPipeline) (shader : Shader) :
    Work.Keeps law (Work.captureStages pass pipeline shader :
      Work σ EventRecord) := by
  refine Work.Ensures.bind (keeps.captureVertices _ _).outcome
    fun vertex => ?_
  cases vertex with
  | error failure => exact Work.Keeps.pure _
  | ok vertex =>
      simp only
      cases pipeline.postStage? with
      | none => exact Work.Keeps.pure _
      | some last =>
          refine Work.Ensures.bind (keeps.capturePrimitives _ _).outcome
            fun post => ?_
          cases post <;> exact Work.Keeps.pure _

theorem captureWithSignature (visit : DrawVisit) (pipeline : GraphicsPipeline)
    (shader : Shader) :
    Work.Keeps law (Work.captureWithSignature settings visit pipeline shader :
      Work σ EventRecord) := by
  rw [Work.captureWithSignature]
  simp only
  cases visit.state.derivedRootSignature with
  | none => exact keeps.captureStages _ _
  | some description =>
      refine Work.Ensures.bind (keeps.call _ _ fun _ => rfl) fun created => ?_
      cases created with
      | error cause => exact Work.Keeps.pure _
      | ok signature =>
          refine Work.Ensures.bind (keeps.captureStages _ _) fun _ => ?_
          exact Work.Ensures.bind (keeps.call _ _ fun _ => rfl) fun _ =>
            Work.Keeps.pure _

theorem captureDraw
    (switch : ∀ tolerant, Work.Keeps law
      (Work.setMemoryTolerance tolerant : Work σ Unit)) (visit : DrawVisit) :
    Work.Keeps law (Work.captureDraw settings visit : Work σ EventRecord) := by
  have switchOff {work : Work σ EventRecord} (holds : Work.Keeps law work) :
      Work.Keeps law (do
        let record ← work
        Work.setMemoryTolerance false
        return record) :=
    Work.Ensures.bind holds fun _ =>
      Work.Ensures.bind (switch false) fun _ => Work.Keeps.pure _
  refine Work.Ensures.bind (switch true) fun _ => ?_
  cases visit.captured with
  | error record => exact switchOff (Work.Keeps.pure _)
  | ok found => exact switchOff (keeps.captureWithSignature _ _ _)

end StageLaw

end MeshCapture
