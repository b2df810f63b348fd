import MeshCapture.Proofs.EngineLaw
import MeshCapture.Proofs.StageLaw
import MeshCapture.Scripted.Session

/-! # Counted allocation failures

A replacement of the scratch set fails when the calls behind it do not come to
another set, be it that the capacity is refused or that a part cannot be had.
Each failed replacement counts once. A buffer for captured output that cannot be
had does not count at all. -/

namespace MeshCapture

/-! ## Failures among calls -/

structure Replacements where
  /-- A list was executed and not waited for. -/
  flying : Bool := false
  /-- The last replacement has not come to a set. -/
  unfinished : Bool := false
  /-- The replacements in front of the last one that came to none. -/
  givenUp : Nat := 0

namespace Replacements

/-- A replacement begins where the device is waited for with nothing in flight.
It comes to a set with the last of the parts, the query heap. -/
def after (replacements : Replacements) : Call → Replacements
  | .execute _ (.ok ()) => { replacements with flying := true }
  | .sync =>
      if replacements.flying then
        { replacements with flying := false }
      else
        { replacements with
          unfinished := true
          givenUp := replacements.givenUp + replacements.unfinished.toNat }
  | .createQueryHeap _ (.ok _) => { replacements with unfinished := false }
  | _ => replacements

def ofCalls (calls : List Call) : Replacements :=
  calls.foldl after {}

def failed (replacements : Replacements) : Nat :=
  replacements.givenUp + replacements.unfinished.toNat

@[simp] theorem ofCalls_concat (calls : List Call) (call : Call) :
    ofCalls (calls ++ [call]) = (ofCalls calls).after call := by
  simp [ofCalls]

theorem after_of_single {call : Call} (single : call.isSingle = true)
    (replacements : Replacements) : replacements.after call = replacements := by
  cases call <;> first | rfl | cases single

end Replacements

def failedReplacements (calls : List Call) : Nat :=
  (Replacements.ofCalls calls).failed

def BufferDescription.isPart (description : BufferDescription) : Bool :=
  ["postvs stream-out", "postvs staging", "postvs compact indices"].contains
    description.label

def Call.isFailedResult : Call → Bool
  | createBuffer description (.error _) => !description.isPart
  | _ => false

def failedResults (calls : List Call) : Nat :=
  calls.countP Call.isFailedResult

/-! ## The law -/

structure Replacements.Told (flying : Bool) (replacements : Replacements)
    (failures : UInt64) : Prop where
  flying_eq : replacements.flying = flying
  counted : failures = .ofNat replacements.failed

structure Replacements.Open (replacements : Replacements)
    (failures : UInt64) : Prop where
  landed : replacements.flying = false
  unfinished : replacements.unfinished = true
  counted : failures = .ofNat replacements.givenUp

namespace Replacements

variable {replacements : Replacements} {failures : UInt64}

theorem Told.begin (told : replacements.Told false failures) :
    (replacements.after .sync).Open failures := by
  rcases told with ⟨landed, counted⟩
  rw [after, landed]
  exact ⟨rfl, rfl, counted⟩

theorem Told.fly (told : replacements.Told false failures)
    (list : CommandList) :
    (replacements.after (.execute list (.ok ()))).Told true failures :=
  ⟨rfl, told.counted⟩

theorem Told.land (told : replacements.Told true failures) :
    (replacements.after .sync).Told false failures := by
  rw [after, told.flying_eq]
  exact ⟨rfl, told.counted⟩

theorem Open.finish (opened : replacements.Open failures) (slots : UInt32)
    (heap : QueryHeapHandle) :
    (replacements.after (.createQueryHeap slots (.ok heap))).Told false
      failures :=
  ⟨opened.landed, opened.counted⟩

theorem Open.giveUp (opened : replacements.Open failures) :
    replacements.Told false (failures + 1) := by
  refine ⟨opened.landed, ?_⟩
  rw [failed, opened.unfinished, opened.counted]
  exact (UInt64.ofNat_add _ 1).symm

end Replacements

variable {σ ε α : Type}

def Workspace.Tells (check : Replacements → UInt64 → Prop)
    (workspace : Workspace σ) : Prop :=
  check (.ofCalls workspace.history) workspace.counters.allocationFailures

namespace Workspace.Tells

variable {check next failing : Replacements → UInt64 → Prop}

theorem noted {workspace : Workspace σ} (tells : workspace.Tells check)
    (call : Call) (device : σ)
    (leads : ∀ replacements failures, check replacements failures →
      next (replacements.after call) failures) :
    Tells next { workspace with device, calls := call :: workspace.calls } := by
  have history : ({ workspace with device, calls := call :: workspace.calls } :
      Workspace σ).history = workspace.history ++ [call] := List.reverse_cons
  rw [Tells, history, Replacements.ofCalls_concat]
  exact leads _ _ tells

theorem call {operation : StateM σ α} {note : α → Call}
    (leads : ∀ answer replacements failures, check replacements failures →
      next (replacements.after (note answer)) failures) :
    Work.Ensures (Tells check) (Work.call operation note)
      fun _ => Tells next :=
  Work.Ensures.call fun answer device _ tells =>
    tells.noted (note answer) device (leads answer)

theorem attemptCall {operation : StateM σ (Except ε α)}
    {note : Except ε α → Call}
    (succeeds : ∀ value replacements failures, check replacements failures →
      next (replacements.after (note (.ok value))) failures)
    (fails : ∀ cause replacements failures, check replacements failures →
      failing (replacements.after (note (.error cause))) failures) :
    Attempt.Ensures (Tells check)
      (ExceptT.mk (Work.call operation note) : Attempt ε σ α)
      (fun _ => Tells next) (Tells failing) := by
  apply Work.Ensures.call
  intro answer device workspace tells
  cases answer with
  | ok value => exact tells.noted _ device (succeeds value)
  | error cause => exact tells.noted _ device (fails cause)

theorem single {operation : StateM σ α} {note : α → Call}
    (single : ∀ answer, (note answer).isSingle = true) :
    Work.Keeps (Tells check) (Work.call operation note) := by
  refine call fun answer replacements failures holds => ?_
  rwa [replacements.after_of_single (single answer)]

theorem count {update : Counters → Counters}
    (same : ∀ counters : Counters,
      (update counters).allocationFailures = counters.allocationFailures) :
    Work.Keeps (Tells check) (Work.count update : Work σ Unit) := by
  intro workspace tells
  change check _ (update workspace.counters).allocationFailures
  rw [same]
  exact tells

variable [Device σ] {settings : Settings}

/-! ### Replacing the set -/

theorem retireScratch :
    Work.Ensures (Tells (Replacements.Told false))
      (Work.retireScratch : Work σ Unit)
      fun _ => Tells Replacements.Open := by
  have releases : Work.Keeps (Tells Replacements.Open)
      (Work.releaseScratch : Work σ Unit) :=
    Work.Keeps.releaseScratch (fun _ => single fun _ => rfl)
      (fun _ => call fun _ _ _ opened => opened) fun _ opened => opened
  refine Work.Ensures.bind (call fun _ _ _ told => told.begin) fun _ => ?_
  exact Work.Ensures.bind releases fun _ => count fun _ => rfl

theorem makeScratch (capacity : UInt64) :
    Attempt.Ensures (Tells Replacements.Open)
      (Work.makeScratch settings capacity : Attempt DeviceFailure σ Scratch)
      (fun _ => Tells (Replacements.Told false)) (Tells Replacements.Open) := by
  have makesBuffer (description : BufferDescription) :
      Attempt.Keeps (Tells Replacements.Open)
        (Work.createBuffer description :
          Attempt DeviceFailure σ BufferHandle) :=
    Attempt.Keeps.of_outcome (single fun _ => rfl)
  have release (buffer : BufferHandle) :
      Work.Keeps (Tells Replacements.Open)
        (Work.releaseBuffer buffer : Work σ Unit) := single fun _ => rfl
  have makesHeap : Attempt.Ensures (Tells Replacements.Open)
      (Work.createQueryHeap settings.querySlots :
        Attempt DeviceFailure σ QueryHeapHandle)
      (fun _ => Tells (Replacements.Told false)) (Tells Replacements.Open) :=
    attemptCall (fun heap _ _ opened => opened.finish _ heap)
      fun _ _ _ opened => opened
  refine Attempt.Ensures.bind (makesBuffer _) fun output => ?_
  refine Attempt.Ensures.onFailure ?_ (release output)
  refine Attempt.Ensures.bind (makesBuffer _) fun staging => ?_
  refine Attempt.Ensures.onFailure ?_ (release staging)
  refine Attempt.Ensures.bind (makesBuffer _) fun indexUpload => ?_
  refine Attempt.Ensures.onFailure ?_ (release indexUpload)
  exact Attempt.Ensures.bind makesHeap fun heap =>
    Attempt.Ensures.pure fun _ told => told

theorem growScratch (current required : UInt64) :
    Attempt.Keeps (Tells (Replacements.Told false))
      (Work.growScratch settings current required :
        Attempt UInt64 σ Scratch) := by
  have refused {capacity : UInt64} : Work.Ensures (Tells Replacements.Open)
      (do
        Work.count Counters.countAllocationFailure
        return .error capacity : Work σ (Except UInt64 Scratch))
      fun _ => Tells (Replacements.Told false) :=
    fun _ opened => opened.giveUp
  apply Attempt.Keeps.of_outcome
  refine Work.Ensures.bind retireScratch fun _ => ?_
  split
  · exact refused
  · refine Work.Ensures.bind (makeScratch _) fun made => ?_
    cases made with
    | ok scratch => exact fun _ told => told
    | error cause => exact refused

/-! ### Acts -/

theorem submit (recording : Recording) :
    Attempt.Keeps (Tells (Replacements.Told false))
      (Work.submit recording : Attempt DeviceFailure σ Unit) := by
  have recorded : Work.Keeps (Tells (Replacements.Told false)) (do
      Work.setScratch (some recording.scratch)
      Work.count (·.countDraws (UInt64.ofNat recording.list.drawCount)) :
        Work σ Unit) := fun _ told => told
  have awaited : Work.Ensures (Tells (Replacements.Told true))
      (do
        Work.count Counters.countSubmission
        Work.sync : Work σ Unit)
      fun _ => Tells (Replacements.Told false) :=
    Work.Ensures.bind (count fun _ => rfl) fun _ =>
      call fun _ _ _ told => told.land
  refine Attempt.Ensures.bind (Attempt.Ensures.lift recorded) fun _ => ?_
  refine Attempt.Ensures.bind (attemptCall ?_ ?_) fun _ =>
    Attempt.Ensures.lift awaited
  · exact fun _ _ _ told => told.fly recording.list
  · exact fun _ _ _ told => told

theorem stageLaw :
    StageLaw (Tells (Replacements.Told false) : Workspace σ → Prop) where
  call _ _ single := Tells.single single
  grow _ _ _ := growScratch _ _
  submit := submit

end Workspace.Tells

/-! ## Runs -/

namespace Engine

variable [Device σ]

def TellsFailures (engine : Engine σ) : Prop :=
  engine.workspace.Tells (Replacements.Told false)

theorem keeps_tellsFailures :
    Keeps (fun _ => True) (TellsFailures : Engine σ → Prop) where
  request engine frame event tells := by
    rw [request]
    simp only
    split <;> exact tells
  noteReplay engine first last extent tells :=
    Workspace.Tells.noted tells _ engine.workspace.device
      fun _ _ told => told
  addAlias engine primary synonym tells := tells
  captureDraw engine visit _ tells := by
    have switch (tolerant : Bool) :
        Work.Keeps (Workspace.Tells (Replacements.Told false))
          (Work.setMemoryTolerance tolerant : Work σ Unit) :=
      Workspace.Tells.call fun _ _ _ told => told
    rw [captureDraw]
    split
    · exact tells
    · exact Workspace.Tells.stageLaw.captureDraw switch visit _ tells
  clear engine tells :=
    Work.Keeps.releaseBuffers Workspace.Tells.stageLaw.releaseBuffer _ _ tells

/-- Behind every run the counter tells how many replacements of the scratch set
failed. Buffers for captured output that could not be had are left out, so the
counter tells of all failed allocations just where there are none of them, up to
the word range. -/
theorem allocation_failures_iff (device : σ) (settings : Settings)
    (operations : List Operation) :
    let engine := (new device settings).run operations
    engine.counters.allocationFailures =
        .ofNat (failedReplacements engine.calls) ∧
      (engine.counters.allocationFailures =
          .ofNat (failedReplacements engine.calls +
            failedResults engine.calls) ↔
        UInt64.size ∣ failedResults engine.calls) := by
  intro engine
  have tells : engine.TellsFailures :=
    keeps_tellsFailures.run (fun _ _ => trivial) ⟨rfl, rfl⟩
  have counted : engine.counters.allocationFailures =
      .ofNat (failedReplacements engine.calls) := tells.counted
  refine ⟨counted, ?_⟩
  rw [counted, ← UInt64.toNat_inj, UInt64.toNat_ofNat', UInt64.toNat_ofNat',
    UInt64.size]
  omega

end Engine

def Scripted.fullDevice : Scripted.Device where
  readbacks := [{ counters := [48] }]
  faults := [
    { kind := .createBuffer, label := some "postvs vertex output",
      effect := .fail ⟨.outOfMemory, "no memory"⟩ }]

/-- The buffer for the captured vertices cannot be had, and no failure is
counted. -/
theorem Engine.failed_result_uncounted :
    let frame := Scripted.frameOf [Scripted.triangle 1 false]
    let engine := (new Scripted.fullDevice Scripted.smallScratch).run
      [.captureAll frame [1]]
    failedReplacements engine.calls = 0 ∧ failedResults engine.calls = 1 ∧
      engine.counters.allocationFailures = 0 := by
  decide +kernel

end MeshCapture
