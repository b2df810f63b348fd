import MeshCapture.Proofs.Contents.Success
import MeshCapture.Capture.DrawRecord

/-! # Work that does not look back

A capture sees the device and the scratch set. Which calls were made before it
and what was counted, it never asks, so that workspaces which agree in all else
still agree behind it. -/

namespace MeshCapture

variable {σ ε ζ α β : Type}

def Call.isReplay : Call → Bool
  | replay .. => true
  | _ => false

def Workspace.deviceCalls (workspace : Workspace σ) : List Call :=
  workspace.history.filter fun call => !call.isReplay

/-- Two workspaces differ at most in their counters and in the replays that were
asked for. -/
structure Workspace.Agrees (left right : Workspace σ) : Prop where
  device : left.device = right.device
  scratch : left.scratch = right.scratch
  calls : left.deviceCalls = right.deviceCalls

namespace Workspace.Agrees

variable {left middle right : Workspace σ}

theorem refl (workspace : Workspace σ) : workspace.Agrees workspace :=
  ⟨rfl, rfl, rfl⟩

theorem symm (agrees : left.Agrees right) : right.Agrees left :=
  ⟨agrees.device.symm, agrees.scratch.symm, agrees.calls.symm⟩

theorem trans (first : left.Agrees middle) (second : middle.Agrees right) :
    left.Agrees right :=
  ⟨first.device.trans second.device, first.scratch.trans second.scratch,
    first.calls.trans second.calls⟩

end Workspace.Agrees

theorem Workspace.deviceCalls_cons (workspace : Workspace σ) (call : Call)
    (device : σ) :
    ({ workspace with device, calls := call :: workspace.calls } :
        Workspace σ).deviceCalls =
      workspace.deviceCalls ++ if call.isReplay then [] else [call] := by
  have whole : ({ workspace with
      device, calls := call :: workspace.calls } : Workspace σ).history =
        workspace.history ++ [call] := List.reverse_cons
  rw [deviceCalls, whole, List.filter_append, deviceCalls]
  cases replays : call.isReplay <;> simp [replays]

/-! ## Rules -/

namespace Work

/-- Workspaces that agree lead the work to the same answer and still agree. -/
def Blind (work : Work σ α) : Prop :=
  ∀ left right, left.Agrees right →
    (work.run left).1 = (work.run right).1 ∧
      (work.run left).2.Agrees (work.run right).2

namespace Blind

theorem pure (value : α) : Blind (Pure.pure value : Work σ α) :=
  fun _ _ agrees => ⟨rfl, agrees⟩

theorem bind {work : Work σ α} {next : α → Work σ β} (first : Blind work)
    (second : ∀ value, Blind (next value)) : Blind (work >>= next) := by
  intro left right agrees
  rcases first left right agrees with ⟨same, between⟩
  have step (workspace : Workspace σ) : (work >>= next).run workspace =
      (next (work.run workspace).1).run (work.run workspace).2 :=
    run_bind rfl
  rw [step, step, same]
  exact second _ _ _ between

theorem call (operation : StateM σ α) (note : α → Call) :
    Blind (Work.call operation note) := by
  intro left right agrees
  rcases answered : operation.run left.device with ⟨answer, device⟩
  have leftRan : (Work.call operation note).run left = _ := run_call answered
  rw [agrees.device] at answered
  have rightRan : (Work.call operation note).run right = _ := run_call answered
  rw [leftRan, rightRan]
  refine ⟨rfl, rfl, agrees.scratch, ?_⟩
  rw [Workspace.deviceCalls_cons, Workspace.deviceCalls_cons, agrees.calls]

theorem count (update : Counters → Counters) :
    Blind (Work.count update : Work σ Unit) :=
  fun _ _ agrees => ⟨rfl, agrees.device, agrees.scratch, agrees.calls⟩

theorem setScratch (scratch : Option Scratch) :
    Blind (Work.setScratch scratch : Work σ Unit) :=
  fun _ _ agrees => ⟨rfl, agrees.device, rfl, agrees.calls⟩

theorem scratch? : Blind (Work.scratch? : Work σ (Option Scratch)) :=
  fun _ _ agrees => ⟨agrees.scratch, agrees⟩

end Blind

end Work

namespace Attempt

def Blind (attempt : Attempt ε σ α) : Prop :=
  Work.Blind attempt.run

namespace Blind

variable {attempt : Attempt ε σ α}

theorem pure (value : α) : Blind (Pure.pure value : Attempt ε σ α) :=
  Work.Blind.pure _

theorem throw (cause : ε) :
    Blind (MonadExcept.throw cause : Attempt ε σ α) :=
  Work.Blind.pure _

theorem bind {next : α → Attempt ε σ β} (first : Blind attempt)
    (second : ∀ value, Blind (next value)) : Blind (attempt >>= next) := by
  change Work.Blind (attempt.run >>= ExceptT.bindCont next)
  apply Work.Blind.bind first
  intro answer
  cases answer with
  | ok value => exact second value
  | error cause => exact Work.Blind.pure _

theorem adapt {explain : ε → ζ} (blind : Blind attempt) :
    Blind (attempt.adapt explain) := by
  change Work.Blind (attempt.run >>= fun answer =>
    Pure.pure (answer.mapError explain))
  exact Work.Blind.bind blind fun _ => Work.Blind.pure _

theorem lift {work : Work σ α} (blind : Work.Blind work) :
    Blind (ExceptT.lift work : Attempt ε σ α) :=
  Work.Blind.bind blind fun _ => Work.Blind.pure _

theorem onFailure {undo : Work σ Unit} (blind : Blind attempt)
    (undoes : Work.Blind undo) : Blind (attempt.onFailure undo) := by
  apply Work.Blind.bind blind
  intro answer
  cases answer with
  | ok value => exact Work.Blind.pure _
  | error cause => exact Work.Blind.bind undoes fun _ => Work.Blind.pure _

theorem afterwards {cleanup : Work σ Unit} (blind : Blind attempt)
    (cleans : Work.Blind cleanup) : Blind (attempt.afterwards cleanup) :=
  Work.Blind.bind blind fun _ =>
    Work.Blind.bind cleans fun _ => Work.Blind.pure _

theorem call (operation : StateM σ (Except ε α)) (note : Except ε α → Call) :
    Blind (ExceptT.mk (Work.call operation note)) :=
  Work.Blind.call operation note

end Blind

end Attempt

/-! ## The scratch set -/

variable [Device σ] {settings : Settings} {pass : Pass}

theorem Work.Blind.releaseScratch :
    Work.Blind (Work.releaseScratch : Work σ Unit) := by
  apply bind scratch?
  intro scratch
  cases scratch with
  | none => exact pure ()
  | some scratch =>
      exact bind (call _ _) fun _ => bind (call _ _) fun _ =>
        bind (call _ _) fun _ => bind (call _ _) fun _ => setScratch none

theorem Work.Blind.retireScratch :
    Work.Blind (Work.retireScratch : Work σ Unit) :=
  bind (call _ _) fun _ => bind releaseScratch fun _ => count _

theorem Attempt.Blind.makeScratch (capacity : UInt64) :
    Attempt.Blind (Work.makeScratch settings capacity :
      Attempt DeviceFailure σ Scratch) := by
  have release (buffer : BufferHandle) :
      Work.Blind (Work.releaseBuffer buffer : Work σ Unit) :=
    Work.Blind.call _ _
  apply bind (call _ _)
  refine fun output => onFailure ?_ (release output)
  apply bind (call _ _)
  refine fun staging => onFailure ?_ (release staging)
  apply bind (call _ _)
  refine fun indexUpload => onFailure ?_ (release indexUpload)
  exact bind (call _ _) fun heap => pure _

theorem Attempt.Blind.growScratch (current required : UInt64) :
    Attempt.Blind (Work.growScratch settings current required :
      Attempt UInt64 σ Scratch) := by
  apply Work.Blind.bind Work.Blind.retireScratch
  intro _
  split
  · exact Work.Blind.bind (Work.Blind.count _) fun _ => Work.Blind.pure _
  · apply Work.Blind.bind (makeScratch _)
    intro made
    cases made with
    | ok scratch =>
        exact Work.Blind.bind (Work.Blind.setScratch _) fun _ =>
          Work.Blind.pure _
    | error cause =>
        exact Work.Blind.bind (Work.Blind.count _) fun _ => Work.Blind.pure _

theorem Attempt.Blind.scratchFor (required : UInt64) :
    Attempt.Blind (Work.scratchFor settings required :
      Attempt UInt64 σ Scratch) := by
  apply bind (lift Work.Blind.scratch?)
  intro scratch
  cases scratch with
  | none => exact growScratch _ _
  | some scratch =>
      simp only
      split
      · exact pure _
      · exact growScratch _ _

/-! ## Moving bytes -/

theorem Attempt.Blind.submit (recording : Recording) :
    Attempt.Blind (Work.submit recording : Attempt DeviceFailure σ Unit) := by
  have recorded : Work.Blind (do
      Work.setScratch (some recording.scratch)
      Work.count (·.countDraws (UInt64.ofNat recording.list.drawCount)) :
        Work σ Unit) :=
    Work.Blind.bind (Work.Blind.setScratch _) fun _ => Work.Blind.count _
  have synced : Work.Blind (do
      Work.count Counters.countSubmission
      Work.sync : Work σ Unit) :=
    Work.Blind.bind (Work.Blind.count _) fun _ => Work.Blind.call _ _
  exact bind (lift recorded) fun _ => bind (call _ _) fun _ => lift synced

theorem Attempt.Blind.store (label : String) (data : ByteArray) :
    Attempt.Blind (Work.store label data :
      Attempt DeviceFailure σ BufferHandle) := by
  apply bind (call _ _)
  refine fun buffer => onFailure ?_ (Work.Blind.call _ _)
  exact bind (call _ _) fun _ => pure _

theorem Attempt.Blind.fetchStaged (failure : CaptureFailure)
    (scratch : Scratch) (offset length : UInt64) :
    Attempt.Blind (Work.fetchStaged failure scratch offset length :
      Attempt CaptureFailure σ ByteArray) := by
  apply Work.Blind.bind (call _ _)
  intro answer
  cases answer <;> exact Work.Blind.pure _

theorem Attempt.Blind.filledSizes (failure : CaptureFailure)
    (scratch : Scratch) (number : UInt32) :
    Attempt.Blind (Work.filledSizes failure scratch number :
      Attempt CaptureFailure σ (List UInt64)) :=
  bind (fetchStaged _ _ _ _) fun _ => pure _

omit [Device σ] in
theorem Attempt.Blind.requireOutput (failure : CaptureFailure)
    (reported : UInt64) :
    Attempt.Blind (Work.requireOutput failure reported :
      Attempt CaptureFailure σ Unit) := by
  rw [Work.requireOutput]
  split
  · exact throw _
  · exact pure _

/-! ## The vertex stage -/

theorem Work.Blind.fetchIndices :
    Work.Blind (Work.fetchIndices pass : Work σ (ByteArray × IndexWidth)) := by
  rw [Work.fetchIndices]
  cases pass.state.indexBuffer with
  | none => exact pure _
  | some range =>
      simp only
      split
      · exact pure _
      · apply bind (call _ _)
        intro answer
        cases answer <;> exact pure _

theorem Attempt.Blind.recordVertices (stripCut : StripCut) (stride : UInt32)
    (derived : PipelineHandle) :
    Attempt.Blind (Work.recordVertices pass stripCut stride derived :
      Attempt CaptureFailure σ Work.VertexDraw) := by
  rw [Work.recordVertices]
  split
  · refine bind (lift Work.Blind.fetchIndices) fun (fetched, width) => ?_
    apply bind (scratchFor _).adapt
    intro scratch
    exact bind (call _ _).adapt fun _ => pure _
  · exact bind (scratchFor _).adapt fun _ => pure _

theorem Attempt.Blind.attachIndices (event : EventId) (record : StageRecord)
    (indices : Option (ByteArray × IndexWidth)) :
    Attempt.Blind (Work.attachIndices event record indices :
      Attempt CaptureFailure σ StageRecord) := by
  unfold Work.attachIndices
  cases indices with
  | none => exact pure _
  | some indices => exact bind (store _ _).adapt fun _ => pure _

theorem Attempt.Blind.streamVertices (pipeline : GraphicsPipeline)
    (layout : StreamOut.VertexLayout) (derived : PipelineHandle) :
    Attempt.Blind (Work.streamVertices pass pipeline layout derived :
      Attempt CaptureFailure σ StageRecord) := by
  apply bind (recordVertices _ _ _)
  intro drawn
  apply bind (submit _).adapt
  intro _
  apply bind (filledSizes _ _ _)
  intro sizes
  apply bind (requireOutput _ _)
  intro _
  apply bind (fetchStaged _ _ _ _)
  intro data
  apply bind (store _ _).adapt
  intro vertexBuffer
  exact onFailure (attachIndices _ _ _) (Work.Blind.call _ _)

theorem Attempt.Blind.captureVertices (pipeline : GraphicsPipeline)
    (shader : Shader) :
    Attempt.Blind (Work.captureVertices pass pipeline shader :
      Attempt CaptureFailure σ StageRecord) := by
  rw [Work.captureVertices]
  simp only
  split
  · exact pure _
  · apply bind (call _ _).adapt
    intro derived
    exact afterwards (streamVertices _ _ _) (Work.Blind.call _ _)

/-! ## The post stage -/

theorem Attempt.Blind.measure (derived : PipelineHandle) (scratch : Scratch) :
    Attempt.Blind (Work.measure pass derived scratch :
      Attempt CaptureFailure σ (StreamOut.Statistics × Scratch)) := by
  apply bind (submit _).adapt
  intro _
  apply bind (call _ _).adapt
  intro bytes
  cases StreamOut.Statistics.decode bytes with
  | some statistics => exact pure _
  | none => exact throw _

theorem Attempt.Blind.drawUntilFitting (derived : PipelineHandle)
    (stride : UInt32) (unsettled : UInt64) (scratch : Scratch)
    (attempts : Nat) :
    Attempt.Blind (Work.drawUntilFitting pass derived stride unsettled scratch
      attempts : Attempt CaptureFailure σ Work.PostOutput) := by
  induction attempts generalizing unsettled scratch with
  | zero => exact throw _
  | succ attempts induction =>
      refine bind (measure _ _) fun (statistics, measured) => ?_
      simp only
      split
      · exact pure _
      · exact bind (scratchFor _).adapt fun grown => induction _ _

theorem Attempt.Blind.submitRuns (derived : PipelineHandle)
    (dataOffset : UInt64) (recording : Recording)
    (runs : List (List UInt32)) :
    Attempt.Blind (Work.submitRuns pass derived dataOffset recording runs :
      Attempt CaptureFailure σ Scratch) := by
  induction runs generalizing recording with
  | nil => exact pure _
  | cons run rest induction =>
      exact bind (submit _).adapt fun _ => induction _

theorem Attempt.Blind.drawPrimitives (derived : PipelineHandle)
    (stride : UInt32) (scratch : Scratch) :
    Attempt.Blind (Work.drawPrimitives pass derived stride scratch :
      Attempt CaptureFailure σ Work.PostOutput) := by
  rw [Work.drawPrimitives]
  split
  · refine bind (measure _ _) fun (statistics, measured) => ?_
    apply bind (scratchFor _).adapt
    intro grown
    exact bind (submitRuns _ _ _ _) fun _ => pure _
  · exact drawUntilFitting _ _ _ _ _

theorem Attempt.Blind.streamPrimitives (shader : Shader)
    (layout : StreamOut.VertexLayout) (derived : PipelineHandle) :
    Attempt.Blind (Work.streamPrimitives pass shader layout derived :
      Attempt CaptureFailure σ StageRecord) := by
  apply bind (scratchFor _).adapt
  intro scratch
  apply bind (drawPrimitives _ _ _)
  intro output
  apply bind (submit _).adapt
  intro _
  apply bind (filledSizes _ _ _)
  intro sizes
  apply bind (requireOutput _ _)
  intro _
  apply bind (fetchStaged _ _ _ _)
  intro data
  exact bind (store _ _).adapt fun _ => pure _

theorem Attempt.Blind.capturePrimitives (pipeline : GraphicsPipeline)
    (shader : Shader) :
    Attempt.Blind (Work.capturePrimitives pass pipeline shader :
      Attempt CaptureFailure σ StageRecord) := by
  rw [Work.capturePrimitives]
  simp only
  split
  · exact throw _
  · apply bind (call _ _).adapt
    intro derived
    exact afterwards (streamPrimitives _ _ _) (Work.Blind.call _ _)

/-! ## The whole draw -/

theorem Work.Blind.captureStages (pipeline : GraphicsPipeline)
    (shader : Shader) :
    Work.Blind (Work.captureStages pass pipeline shader :
      Work σ EventRecord) := by
  apply bind (Attempt.Blind.captureVertices _ _)
  intro vertex
  cases vertex with
  | error failure => exact pure _
  | ok vertex =>
      simp only
      cases pipeline.postStage? with
      | none => exact pure _
      | some last =>
          apply bind (Attempt.Blind.capturePrimitives _ _)
          intro post
          cases post <;> exact pure _

theorem Work.Blind.captureDraw (settings : Settings) (visit : DrawVisit) :
    Work.Blind (Work.captureDraw settings visit : Work σ EventRecord) := by
  apply bind (call _ _)
  intro _
  have switchOff {work : Work σ EventRecord} (blind : Work.Blind work) :
      Work.Blind (do
        let record ← work
        Work.setMemoryTolerance false
        return record) :=
    bind blind fun _ => bind (call _ _) fun _ => pure _
  cases visit.captured with
  | error record => exact switchOff (pure record)
  | ok found =>
      apply switchOff
      rw [Work.captureWithSignature]
      simp only
      cases visit.state.derivedRootSignature with
      | none => exact captureStages _ _
      | some description =>
          apply bind (call _ _)
          intro created
          cases created with
          | error cause => exact pure _
          | ok signature =>
              exact bind (captureStages _ _) fun _ =>
                bind (call _ _) fun _ => pure _

end MeshCapture
