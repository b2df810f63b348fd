import MeshCapture.Proofs.Conservation
import MeshCapture.Proofs.Contents.Success

/-! # Captures of single stages

A draw that a replay passes meets the engine as a run leaves it whose last replay
stops there. Its stages are captured from that point on, the vertex stage first
and the post stage from where the vertex stage ended. -/

namespace MeshCapture

variable {σ ε α : Type}

/-! ## Where stages are captured -/

def DrawVisit.pass (visit : DrawVisit) (settings : Settings)
    (rootSignature : Option RootSignatureHandle) : Pass where
  settings := settings
  event := visit.event
  draw := visit.draw
  state := visit.state
  rootSignature := rootSignature

/-- Where the capture of a draw begins with its stages: memory tolerance is on,
and there is a root signature for a state whose own does not do. -/
inductive StagesBegin [Device σ] (engine : Engine σ) (visit : DrawVisit) :
    Pass → Workspace σ → Prop where
  | bound (start : Workspace σ)
      (tolerant : (Work.setMemoryTolerance true).run engine.workspace =
        ((), start))
      (allowed : visit.state.derivedRootSignature = none) :
      StagesBegin engine visit (visit.pass engine.settings none) start
  | derived (before start : Workspace σ) (description : RootSignature)
      (signature : RootSignatureHandle)
      (tolerant : (Work.setMemoryTolerance true).run engine.workspace =
        ((), before))
      (needed : visit.state.derivedRootSignature = some description)
      (made : (Work.createRootSignature description).Succeeds before signature
        start) :
      StagesBegin engine visit (visit.pass engine.settings (some signature))
        start

/-- A capture of one stage of a draw that succeeded, with the workspaces where
it began and ended. -/
inductive StageCapture [Device σ] (engine : Engine σ) (visit : DrawVisit) :
    Stage → Workspace σ → StageRecord → Workspace σ → Prop where
  | vertex (pass : Pass) (pipeline : GraphicsPipeline) (shader : Shader)
      (start finish : Workspace σ) (record : StageRecord)
      (captured : visit.captured = .ok (pipeline, shader))
      (begins : StagesBegin engine visit pass start)
      (succeeds : (Work.captureVertices pass pipeline shader).Succeeds start
        record finish) :
      StageCapture engine visit .vertex start record finish
  | post (pass : Pass) (pipeline : GraphicsPipeline) (shader last : Shader)
      (first start finish : Workspace σ) (vertex record : StageRecord)
      (captured : visit.captured = .ok (pipeline, shader))
      (begins : StagesBegin engine visit pass first)
      (vertices : (Work.captureVertices pass pipeline shader).Succeeds first
        vertex start)
      (present : pipeline.postStage? = some last)
      (succeeds : (Work.capturePrimitives pass pipeline last).Succeeds start
        record finish) :
      StageCapture engine visit .post start record finish

/-! ## What is live on the way -/

def Workspace.Owns (workspace : Workspace σ) (held : Multiset Resource) :
    Prop :=
  live workspace.history = held + workspace.scratchResources

theorem Step.history_prefix {now next : Standing} (step : Step now next) :
    now.history <+: next.history := by
  cases step <;> simp [Standing.note]

theorem Course.history_prefix {first last : Standing}
    (course : Course first last) : first.history <+: last.history :=
  @Course.preserves (fun standing => first.history <+: standing.history)
    (fun _ _ step before => before.trans step.history_prefix) _ _ course
    List.prefix_rfl

variable {held : Multiset Resource} {before after : Workspace σ}

theorem Work.Takes.owns {starts : Standing → Prop} {work : Work σ α}
    {ends : α → Standing → Prop} {answer : α}
    (takes : Work.Takes starts work ends) (owns : before.Owns held)
    (holds : starts (before.standing held none))
    (ran : work.run before = (answer, after)) :
    ∃ heldAfter drawn, ends answer (after.standing heldAfter drawn) ∧
      after.Owns heldAfter ∧ before.history <+: after.history := by
  rcases takes before held none holds with
    ⟨heldAfter, drawn, course, reached⟩
  rw [ran] at course reached
  exact ⟨heldAfter, drawn, reached,
    course.preserves (fun _ _ step => step.balanced) owns,
    course.history_prefix⟩

theorem Attempt.Takes.owns {starts failure : Standing → Prop}
    {attempt : Attempt ε σ α} {success : α → Standing → Prop} {value : α}
    (takes : Attempt.Takes starts attempt success failure)
    (owns : before.Owns held) (holds : starts (before.standing held none))
    (succeeds : attempt.Succeeds before value after) :
    ∃ heldAfter drawn, success value (after.standing heldAfter drawn) ∧
      after.Owns heldAfter ∧ before.history <+: after.history := by
  have whole : Work.Takes starts attempt.run
      (Attempt.outcome success failure) := takes
  exact whole.owns owns holds succeeds

theorem Attempt.Takes.history_prefix {starts failure : Standing → Prop}
    {attempt : Attempt ε σ α} {success : α → Standing → Prop} {value : α}
    (takes : Attempt.Takes starts attempt success failure)
    (held : Multiset Resource) (holds : starts (before.standing held none))
    (succeeds : attempt.Succeeds before value after) :
    before.history <+: after.history := by
  have ran : (attempt.run.run before).2 = after := congrArg Prod.snd succeeds
  rcases takes before held none holds with ⟨heldAfter, drawn, course, -⟩
  exact ran ▸ course.history_prefix

theorem Attempt.Takes.ownsScratch {starts failure : Standing → Prop}
    {attempt : Attempt ε σ α} {value : α} {made : α → Scratch}
    (takes : Attempt.Takes starts attempt
      (fun value => At (some (made value)) held) failure)
    (owns : before.Owns held) (holds : starts (before.standing held none))
    (succeeds : attempt.Succeeds before value after) :
    after.scratch = some (made value) ∧ after.Owns held ∧
      before.history <+: after.history := by
  rcases takes.owns owns holds succeeds with
    ⟨heldAfter, _, ⟨scratch, same⟩, ownsAfter, inside⟩
  cases same
  exact ⟨scratch, ownsAfter, inside⟩

variable [Device σ] {engine : Engine σ} {visit : DrawVisit} {pass : Pass}

theorem StagesBegin.exists_owns (device : σ) (settings : Settings)
    (operations : List Engine.Operation)
    (begins : StagesBegin ((Engine.new device settings).run operations) visit
      pass before) :
    ∃ held, before.Owns held := by
  have balanced := Engine.live_run device settings operations
  have tolerance (held : Multiset Resource) : Work.Takes (Holds held)
      (Work.setMemoryTolerance true : Work σ Unit) fun _ => Holds held :=
    Work.Takes.quietBeside fun _ => rfl
  cases begins with
  | bound _ tolerant allowed =>
      rcases (tolerance _).owns balanced rfl tolerant with ⟨held, _, -, owns, -⟩
      exact ⟨held, owns⟩
  | derived there _ description signature tolerant needed made =>
      rcases (tolerance _).owns balanced rfl tolerant with ⟨held, _, -, owns, -⟩
      have creation : Attempt.Takes (Holds held)
          (Work.createRootSignature description : Attempt DeviceFailure σ _)
          (fun signature => Holds (.rootSignature signature ::ₘ held))
          (Holds held) :=
        Attempt.Takes.createBeside (fun _ => rfl) (fun _ => rfl) fun _ => rfl
      rcases creation.owns owns rfl made with ⟨heldAfter, _, -, created, -⟩
      exact ⟨heldAfter, created⟩

end MeshCapture
