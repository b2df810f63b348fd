import MeshCapture.Proofs.Contents.Stored
import MeshCapture.Proofs.EngineLaw
import MeshCapture.Proofs.Sizing.PrimitiveAccesses

/-! # Bounds of all accesses

Whatever an engine does, it has no scratch set but the one that was made last,
and so the stages of every draw begin where their bounds hold. They hold then to
the end, whether or not the stage is captured. -/

namespace MeshCapture

open StageTask

variable {σ : Type} [Device σ]

def StageTask.vertices (pass : Pass) (shader : Shader) : StageTask where
  pass := pass
  stage := .vertex
  stride := (StreamOut.VertexLayout.ofOutputs shader.outputs none).stride

def StageTask.primitives (pass : Pass) (shader : Shader) : StageTask where
  pass := pass
  stage := .post
  stride := (StreamOut.VertexLayout.ofOutputs shader.outputs (some 0)).stride

/-- The capture of one stage of a draw, whatever comes of it. The post stage is
come to only where the vertices were captured. -/
inductive StageAttempt (engine : Engine σ) (visit : DrawVisit) :
    StageTask → Workspace σ → Except CaptureFailure StageRecord →
      Workspace σ → Prop where
  | vertex (pass : Pass) (pipeline : GraphicsPipeline) (shader : Shader)
      (start finish : Workspace σ)
      (outcome : Except CaptureFailure StageRecord)
      (captured : visit.captured = .ok (pipeline, shader))
      (begins : StagesBegin engine visit pass start)
      (ends : (Work.captureVertices pass pipeline shader).Ends start outcome
        finish) :
      StageAttempt engine visit (.vertices pass shader) start outcome finish
  | post (pass : Pass) (pipeline : GraphicsPipeline) (shader last : Shader)
      (first start finish : Workspace σ) (vertex : StageRecord)
      (outcome : Except CaptureFailure StageRecord)
      (captured : visit.captured = .ok (pipeline, shader))
      (begins : StagesBegin engine visit pass first)
      (vertices : (Work.captureVertices pass pipeline shader).Succeeds first
        vertex start)
      (present : pipeline.postStage? = some last)
      (ends : (Work.capturePrimitives pass pipeline last).Ends start outcome
        finish) :
      StageAttempt engine visit (.primitives pass last) start outcome finish

namespace Attempt.Guarantees

variable {pass : Pass} {shader : Shader} {start : Workspace σ}

theorem vertexStage (sound : pass.settings.Sound)
    (roomy : 8 ≤ pass.settings.counterBytes.toNat)
    (pipeline : GraphicsPipeline) :
    Guarantees ((vertices pass shader).Kept start)
      (Work.captureVertices pass pipeline shader :
        Attempt CaptureFailure σ StageRecord)
      (fun _ => (vertices pass shader).Kept start)
      ((vertices pass shader).Stops start) :=
  captureVertices sound roomy rfl pipeline rfl

theorem postStage (sound : pass.settings.Sound)
    (roomy : 8 ≤ pass.settings.counterBytes.toNat)
    (pipeline : GraphicsPipeline) :
    Guarantees ((primitives pass shader).Kept start)
      (Work.capturePrimitives pass pipeline shader :
        Attempt CaptureFailure σ StageRecord)
      (fun _ => (primitives pass shader).Kept start)
      ((primitives pass shader).Stops start) :=
  capturePrimitives sound roomy rfl pipeline rfl

omit [Device σ] in
theorem settles (task : StageTask) {α : Type}
    {attempt : Attempt CaptureFailure σ α}
    (guarantees : ∀ start, Guarantees (task.Kept start) attempt
      (fun _ => task.Kept start) (task.Stops start)) :
    Work.Ensures (Workspace.Settled task.pass.settings) attempt.run
      fun _ => Workspace.Settled task.pass.settings := by
  intro start settled
  rcases ran : attempt.run.run start with ⟨outcome, finish⟩
  have reached := (guarantees start).finished (.refl settled) ran
  cases outcome with
  | ok value => exact reached.settled
  | error cause => exact reached.kept.settled

end Attempt.Guarantees

/-! ## Settled workspaces -/

namespace Work.Ensures

variable {settings : Settings} {visit : DrawVisit} {pipeline : GraphicsPipeline}
  {shader : Shader}

omit [Device σ] in
theorem settled_call {α : Type} {operation : StateM σ α} {note : α → Call}
    (others : ∀ answer, (note answer).makesReadback = false) :
    Work.Ensures (Workspace.Settled settings) (Work.call operation note)
      fun _ => Workspace.Settled settings :=
  fun _ settled => settled.adds (Work.adds_call rfl) (others _)

theorem settled_captureStages (pass : Pass) (sound : pass.settings.Sound)
    (roomy : 8 ≤ pass.settings.counterBytes.toNat) :
    Work.Ensures (Workspace.Settled pass.settings)
      (Work.captureStages pass pipeline shader : Work σ EventRecord)
      fun _ => Workspace.Settled pass.settings := by
  have captures := Attempt.Guarantees.settles (.vertices pass shader)
    fun start : Workspace σ => .vertexStage sound roomy pipeline
  refine bind captures fun vertex => ?_
  cases vertex with
  | error failure => exact Work.Ensures.pure fun _ settled => settled
  | ok vertex =>
      simp only
      cases pipeline.postStage? with
      | none => exact Work.Ensures.pure fun _ settled => settled
      | some last =>
          have captures := Attempt.Guarantees.settles (.primitives pass last)
            fun start : Workspace σ => .postStage sound roomy pipeline
          refine bind captures fun post => ?_
          cases post <;> exact Work.Ensures.pure fun _ settled => settled

theorem settled_captureWithSignature (sound : settings.Sound)
    (roomy : 8 ≤ settings.counterBytes.toNat) :
    Work.Ensures (Workspace.Settled settings)
      (Work.captureWithSignature settings visit pipeline shader :
        Work σ EventRecord)
      fun _ => Workspace.Settled settings := by
  have stages (rootSignature : Option RootSignatureHandle) :
      Work.Ensures (Workspace.Settled settings)
        (Work.captureStages (visit.pass settings rootSignature) pipeline
          shader : Work σ EventRecord)
        fun _ => Workspace.Settled settings :=
    settled_captureStages (visit.pass settings rootSignature) sound roomy
  rw [Work.captureWithSignature]
  cases visit.state.derivedRootSignature with
  | none => exact stages none
  | some description =>
      refine bind (settled_call fun answer => ?_) fun created => ?_
      · cases answer <;> rfl
      · cases created with
        | error cause => exact Work.Ensures.pure fun _ settled => settled
        | ok signature =>
            refine bind (stages (some signature)) fun record => ?_
            refine bind (settled_call fun _ => rfl) fun _ => ?_
            exact Work.Ensures.pure fun _ settled => settled

theorem settled_captureDraw (sound : settings.Sound)
    (roomy : 8 ≤ settings.counterBytes.toNat) :
    Work.Ensures (Workspace.Settled settings)
      (Work.captureDraw settings visit : Work σ EventRecord)
      fun _ => Workspace.Settled settings := by
  refine bind (settled_call fun _ => rfl) fun _ => ?_
  have switchOff {work : Work σ EventRecord}
      (ensures : Work.Ensures (Workspace.Settled settings) work
        fun _ => Workspace.Settled settings) :
      Work.Ensures (Workspace.Settled settings)
        (do
          let record ← work
          Work.setMemoryTolerance false
          return record)
        fun _ => Workspace.Settled settings :=
    bind ensures fun record => bind (settled_call fun _ => rfl) fun _ =>
      Work.Ensures.pure fun _ settled => settled
  cases visit.captured with
  | error record =>
      exact switchOff (Work.Ensures.pure fun _ settled => settled)
  | ok found => exact switchOff (settled_captureWithSignature sound roomy)

theorem settled_releaseBuffers {buffers : List BufferHandle} :
    Work.Ensures (Workspace.Settled settings)
      (buffers.forM Work.releaseBuffer : Work σ Unit)
      fun _ => Workspace.Settled settings := by
  induction buffers with
  | nil => exact Work.Ensures.pure fun _ settled => settled
  | cons buffer rest induction =>
      exact bind (settled_call fun _ => rfl) fun _ => induction

end Work.Ensures

/-! ## Engines -/

namespace Engine

variable {settings : Settings}

def Settled (settings : Settings) (engine : Engine σ) : Prop :=
  engine.settings = settings ∧ engine.workspace.Settled settings

theorem keeps_settled (sound : settings.Sound)
    (roomy : 8 ≤ settings.counterBytes.toNat) :
    Keeps (fun _ => True) (Settled settings : Engine σ → Prop) where
  request engine frame event settled := by
    obtain ⟨counters, same⟩ := exists_counters_request frame engine event
    rw [same]
    exact settled
  noteReplay engine first last extent settled :=
    ⟨settled.1, settled.2.adds ⟨List.reverse_cons, rfl⟩ rfl⟩
  addAlias engine primary synonym settled := settled
  captureDraw engine visit _ settled := by
    rw [Engine.captureDraw]
    split
    · exact settled
    · obtain ⟨rfl, settled⟩ := settled
      exact ⟨rfl, Work.Ensures.settled_captureDraw sound roomy _ settled⟩
  clear engine settled :=
    ⟨settled.1, Work.Ensures.settled_releaseBuffers _ settled.2⟩

theorem settled_run (sound : settings.Sound)
    (roomy : 8 ≤ settings.counterBytes.toNat) (device : σ)
    (operations : List Operation) :
    ((new device settings).run operations).Settled settings :=
  (keeps_settled sound roomy).run (fun _ _ => trivial) ⟨rfl, nofun⟩

end Engine

theorem StagesBegin.settled {engine : Engine σ} {visit : DrawVisit}
    {pass : Pass} {start : Workspace σ} {settings : Settings}
    (begins : StagesBegin engine visit pass start)
    (settled : engine.Settled settings) :
    pass.settings = settings ∧ start.Settled settings := by
  obtain ⟨rfl, settled⟩ := settled
  cases begins with
  | bound start tolerant allowed =>
      exact ⟨rfl, settled.adds (Work.adds_call tolerant) rfl⟩
  | derived before start description signature tolerant needed made =>
      have switched := settled.adds (Work.adds_call tolerant) rfl
      exact ⟨rfl, switched.adds made.adds rfl⟩

/-! ## All accesses -/

omit [Device σ] in
theorem StageTask.bounded {task : StageTask} {start finish : Workspace σ}
    {outcome : Except CaptureFailure StageRecord}
    (reached : Attempt.finished (fun _ => task.Kept start) (task.Stops start)
      outcome finish) :
    ∃ made, finish.history = start.history ++ made ∧
      Throughout (fun earlier => task.Fits (start.history ++ earlier)) made ∧
      (Throughout (Served task.pass.settings) finish.history →
        ∀ cause, outcome = .error cause → cause.isUnread = false) := by
  cases outcome with
  | ok record =>
      obtain ⟨made, history, fits⟩ := reached.fits
      exact ⟨made, history, fits, fun _ _ => nofun⟩
  | error failure =>
      obtain ⟨made, history, fits⟩ := reached.kept.fits
      refine ⟨made, history, fits, fun served cause same => ?_⟩
      cases same
      exact Bool.eq_false_iff.mpr fun unread =>
        reached.unserved unread served

/-- Whatever the device says of a draw, no stage of it does anything outside of
the scratch set, and what it draws has room. On a device that serves reads
inside of the staging buffer, nothing fails to be read back. -/
theorem Engine.stage_accesses_inside (device : σ) {settings : Settings}
    (sound : settings.Sound) (roomy : 8 ≤ settings.counterBytes.toNat)
    (operations : List Operation) (visit : DrawVisit) {task : StageTask}
    {start finish : Workspace σ} {outcome : Except CaptureFailure StageRecord}
    (attempted : StageAttempt ((new device settings).run operations) visit task
      start outcome finish) :
    task.pass.settings = settings ∧
      ∃ made, finish.history = start.history ++ made ∧
        Throughout (fun earlier => task.Fits (start.history ++ earlier))
          made ∧
        (Throughout (Served settings) finish.history →
          ∀ cause, outcome = .error cause → cause.isUnread = false) := by
  have settled := settled_run sound roomy device operations
  cases attempted with
  | vertex pass pipeline shader _ _ _ captured begins ends =>
      obtain ⟨rfl, settled⟩ := begins.settled settled
      exact ⟨rfl, bounded <|
        (Attempt.Guarantees.vertexStage sound roomy pipeline).finished
          (.refl settled) ends⟩
  | post pass pipeline shader last first _ _ vertex _ captured begins vertices
      present ends =>
      obtain ⟨rfl, settled⟩ := begins.settled settled
      have kept : (StageTask.vertices pass shader).Kept first start :=
        (Attempt.Guarantees.vertexStage sound roomy pipeline).finished
          (.refl settled) vertices
      exact ⟨rfl, bounded <|
        (Attempt.Guarantees.postStage sound roomy pipeline).finished
          (.refl kept.settled) ends⟩

open Scripted in
/-- Both instances are measured, drawn, copied out and read. -/
theorem Engine.stage_accesses_inside_instances :
    let task := StageTask.primitives depthPass depthShader
    let start := depthVertices.2
    let finish := depthPrimitives.2
    tinyScratch.Sound ∧ 8 ≤ tinyScratch.counterBytes.toNat ∧
      StageAttempt (new depthDevice tinyScratch) depthTriangles task start
        depthPrimitives.1 finish ∧
      ∃ made, finish.history = start.history ++ made ∧
        made.countP Call.isRead = 3 ∧
        Throughout (fun earlier => task.Fits (start.history ++ earlier))
          made := by
  intro task start finish
  have sound : tinyScratch.Sound := by decide
  have roomy : 8 ≤ tinyScratch.counterBytes.toNat := by decide
  have attempted : StageAttempt (new depthDevice tinyScratch) depthTriangles
      task start depthPrimitives.1 finish :=
    .post depthPass depthPipeline depthShader depthShader depthStart start
      finish _ _ rfl (.bound depthStart rfl rfl)
      (Attempt.succeeds_of_isOk _ _ (by decide +kernel)) rfl rfl
  obtain ⟨-, made, history, fits, -⟩ :=
    stage_accesses_inside depthDevice sound roomy [] depthTriangles attempted
  refine ⟨sound, roomy, attempted, made, history, ?_, fits⟩
  have reads : finish.history.countP Call.isRead =
      start.history.countP Call.isRead + 3 := by
    decide +kernel
  rw [history, List.countP_append] at reads
  exact Nat.add_left_cancel reads

end MeshCapture
