import MeshCapture.Proofs.StageLaw

/-! # Work for stages

The stages of a draw are captured while the device tolerates that memory runs
out. What is done for them meanwhile has nothing replayed, leaves the tolerance
alone, and counts neither requests nor records. -/

namespace MeshCapture

variable {σ ε α : Type}

/-! ## What is done for a stage -/

def Call.isForStage : Call → Bool
  | setMemoryTolerance _ | replay .. => false
  | _ => true

theorem Call.isForStage_of_single {call : Call}
    (single : call.isSingle = true) : call.isForStage = true := by
  cases call <;> first | rfl | cases single

def Workspace.AddsOnly (allowed : Call → Bool) (start now : Workspace σ) :
    Prop :=
  ∃ made, now.history = start.history ++ made ∧
    ∀ call ∈ made, allowed call = true

namespace Workspace.AddsOnly

variable {allowed : Call → Bool} {start now : Workspace σ}

theorem refl (workspace : Workspace σ) : workspace.AddsOnly allowed workspace :=
  ⟨[], by simp, by simp⟩

theorem noted (adds : start.AddsOnly allowed now) {call : Call}
    (allows : allowed call = true) (device : σ) :
    start.AddsOnly allowed { now with device, calls := call :: now.calls } := by
  obtain ⟨made, history, inside⟩ := adds
  refine ⟨made ++ [call], ?_, List.forall_mem_append.mpr ⟨inside, ?_⟩⟩
  · rw [← List.append_assoc, ← history]
    exact List.reverse_cons
  · exact List.forall_mem_singleton.mpr allows

theorem call {operation : StateM σ α} {note : α → Call}
    (allows : ∀ answer, allowed (note answer) = true) :
    Work.Keeps (start.AddsOnly allowed) (Work.call operation note) :=
  Work.Ensures.call fun answer device _ adds =>
    adds.noted (allows answer) device

end Workspace.AddsOnly

structure Counters.SameRequests (before after : Counters) : Prop where
  requests : after.captureRequests = before.captureRequests
  hits : after.cacheHits = before.cacheHits
  records : after.recordsCreated = before.recordsCreated

theorem Counters.SameRequests.trans {before between after : Counters}
    (first : before.SameRequests between)
    (second : between.SameRequests after) : before.SameRequests after where
  requests := second.requests.trans first.requests
  hits := second.hits.trans first.hits
  records := second.records.trans first.records

structure Workspace.ForStages (start now : Workspace σ) : Prop where
  calls : ∃ made, now.history = start.history ++ made ∧
    ∀ call ∈ made, call.isForStage = true
  counters : start.counters.SameRequests now.counters

theorem Workspace.ForStages.refl (workspace : Workspace σ) :
    workspace.ForStages workspace where
  calls := AddsOnly.refl workspace
  counters := ⟨rfl, rfl, rfl⟩

namespace Workspace.ForStages

variable {start : Workspace σ}

/-! ## The steps of stages -/

theorem call {operation : StateM σ α} {note : α → Call}
    (serves : ∀ answer, (note answer).isForStage = true) :
    Work.Keeps start.ForStages (Work.call operation note) :=
  Work.Ensures.call fun answer device _ before =>
    ⟨AddsOnly.noted before.calls (serves answer) device, before.counters⟩

theorem attemptCall {operation : StateM σ (Except ε α)}
    {note : Except ε α → Call}
    (serves : ∀ answer, (note answer).isForStage = true) :
    Attempt.Keeps start.ForStages
      (ExceptT.mk (Work.call operation note) : Attempt ε σ α) :=
  Attempt.Keeps.of_outcome (call serves)

theorem setScratch (scratch : Option Scratch) :
    Work.Keeps start.ForStages (Work.setScratch scratch : Work σ Unit) :=
  fun _ serves => ⟨serves.calls, serves.counters⟩

theorem count {update : Counters → Counters}
    (same : ∀ counters : Counters, counters.SameRequests (update counters)) :
    Work.Keeps start.ForStages (Work.count update : Work σ Unit) :=
  fun now serves => ⟨serves.calls, serves.counters.trans (same now.counters)⟩

variable [Device σ] {settings : Settings}

theorem releaseBuffer (buffer : BufferHandle) :
    Work.Keeps start.ForStages (Work.releaseBuffer buffer : Work σ Unit) :=
  call fun _ => rfl

theorem retireScratch :
    Work.Keeps start.ForStages (Work.retireScratch : Work σ Unit) := by
  have releases :
      Work.Keeps start.ForStages (Work.releaseScratch : Work σ Unit) :=
    Work.Keeps.releaseScratch releaseBuffer (fun _ => call fun _ => rfl)
      (setScratch none)
  refine Work.Ensures.bind (call fun _ => rfl) fun _ => ?_
  exact Work.Ensures.bind releases fun _ => count fun _ => ⟨rfl, rfl, rfl⟩

theorem makeScratch (capacity : UInt64) :
    Attempt.Keeps start.ForStages (Work.makeScratch settings capacity :
      Attempt DeviceFailure σ Scratch) := by
  refine Attempt.Ensures.bind (attemptCall fun _ => rfl) fun output => ?_
  refine Attempt.Ensures.onFailure ?_ (releaseBuffer output)
  refine Attempt.Ensures.bind (attemptCall fun _ => rfl) fun staging => ?_
  refine Attempt.Ensures.onFailure ?_ (releaseBuffer staging)
  refine Attempt.Ensures.bind (attemptCall fun _ => rfl) fun indexUpload => ?_
  refine Attempt.Ensures.onFailure ?_ (releaseBuffer indexUpload)
  exact Attempt.Ensures.bind (attemptCall fun _ => rfl) fun heap =>
    Attempt.Keeps.pure _

theorem growScratch (current required : UInt64) :
    Attempt.Keeps start.ForStages
      (Work.growScratch settings current required :
        Attempt UInt64 σ Scratch) := by
  have refused {capacity : UInt64} : Work.Keeps start.ForStages (do
      Work.count Counters.countAllocationFailure
      return .error capacity : Work σ (Except UInt64 Scratch)) :=
    Work.Ensures.bind (count fun _ => ⟨rfl, rfl, rfl⟩) fun _ =>
      Work.Keeps.pure _
  apply Attempt.Keeps.of_outcome
  refine Work.Ensures.bind retireScratch fun _ => ?_
  split
  · exact refused
  · refine Work.Ensures.bind (makeScratch _).outcome fun made => ?_
    cases made with
    | ok scratch =>
        exact Work.Ensures.bind (setScratch _) fun _ => Work.Keeps.pure _
    | error cause => exact refused

theorem submit (recording : Recording) :
    Attempt.Keeps start.ForStages
      (Work.submit recording : Attempt DeviceFailure σ Unit) := by
  have recorded : Work.Keeps start.ForStages (do
      Work.setScratch (some recording.scratch)
      Work.count (·.countDraws (UInt64.ofNat recording.list.drawCount)) :
        Work σ Unit) :=
    Work.Ensures.bind (setScratch _) fun _ => count fun _ => ⟨rfl, rfl, rfl⟩
  have awaited : Work.Keeps start.ForStages (do
      Work.count Counters.countSubmission
      Work.sync : Work σ Unit) :=
    Work.Ensures.bind (count fun _ => ⟨rfl, rfl, rfl⟩) fun _ =>
      call fun _ => rfl
  refine Attempt.Ensures.bind (Attempt.Ensures.lift recorded) fun _ => ?_
  exact Attempt.Ensures.bind (attemptCall fun _ => rfl) fun _ =>
    Attempt.Ensures.lift awaited

theorem stageLaw (start : Workspace σ) : StageLaw start.ForStages where
  call _ _ single :=
    call fun answer => Call.isForStage_of_single (single answer)
  grow _ _ _ := growScratch _ _
  submit := submit

end Workspace.ForStages

/-! ## The whole draw -/

section

variable [Device σ]

theorem Work.exists_served_tolerant {work : Work σ EventRecord}
    (serves : ∀ start : Workspace σ, Keeps start.ForStages work)
    (workspace : Workspace σ) :
    let tolerant : Work σ EventRecord := do
      setMemoryTolerance true
      let record ← work
      setMemoryTolerance false
      return record
    ∃ served, (∀ call ∈ served, call.isForStage = true) ∧
      (tolerant.run workspace).2.history =
        workspace.history ++ .setMemoryTolerance true :: served ++
          [.setMemoryTolerance false] ∧
      workspace.counters.SameRequests (tolerant.run workspace).2.counters := by
  intro tolerant
  let opened := ((setMemoryTolerance true).run workspace).2
  have opening :
      opened.history = workspace.history ++ [.setMemoryTolerance true] :=
    List.reverse_cons
  obtain ⟨⟨served, staged, serving⟩, same⟩ :=
    serves opened opened (.refl opened)
  refine ⟨served, serving, ?_, same⟩
  have closing : (tolerant.run workspace).2.history =
      (work.run opened).2.history ++ [.setMemoryTolerance false] :=
    List.reverse_cons
  simp [closing, staged, opening]

/-- All that is done to capture a draw serves its stages. -/
theorem Work.exists_served_captureDraw (settings : Settings)
    (visit : DrawVisit) (workspace : Workspace σ) :
    ∃ served, (∀ call ∈ served, call.isForStage = true) ∧
      ((Work.captureDraw settings visit).run workspace).2.history =
        workspace.history ++ .setMemoryTolerance true :: served ++
          [.setMemoryTolerance false] ∧
      workspace.counters.SameRequests
        ((Work.captureDraw settings visit).run workspace).2.counters := by
  rw [Work.captureDraw]
  cases visit.captured with
  | error record =>
      exact exists_served_tolerant (fun _ => Keeps.pure record) workspace
  | ok found =>
      have captures (start : Workspace σ) : Keeps start.ForStages
          (captureWithSignature settings visit found.1 found.2) :=
        (Workspace.ForStages.stageLaw start).captureWithSignature visit found.1
          found.2
      exact exists_served_tolerant captures workspace

end

end MeshCapture
