import MeshCapture.Proofs.Work.Guarantees
import MeshCapture.Proofs.Contents.Success
import MeshCapture.Proofs.Course.Scratch

/-! # Requests for room

What a request for a scratch set comes to, whatever the device answers: the set
that is there is kept, or it is retired and then either another one is made,
the capacity is refused, or some part cannot be had and the parts made before
it are given back. `Attempt.Ends.scratchFor` lists these ways, with all the
calls that are made on each. -/

namespace MeshCapture

variable {σ α : Type}

/-! ## The calls of a set -/

def Scratch.creations (settings : Settings) (scratch : Scratch) : List Call :=
  let size := outputBytes settings scratch.capacity
  [.createBuffer
      { label := "postvs stream-out", size, heap := .deviceLocal,
        unorderedAccess := true }
      (.ok scratch.output),
    .createBuffer { label := "postvs staging", size, heap := .readback }
      (.ok scratch.staging),
    .createBuffer
      { label := "postvs compact indices",
        size := indexBytes scratch.capacity, heap := .upload }
      (.ok scratch.indexUpload),
    .createQueryHeap settings.querySlots (.ok scratch.statisticsHeap)]

def Call.failing (cause : DeviceFailure) : Call → Call
  | createBuffer description _ => .createBuffer description (.error cause)
  | createQueryHeap slots _ => .createQueryHeap slots (.error cause)
  | call => call

/-- The first parts of a set are made, the next one cannot be had, and those
made are released, the last of them first. -/
def Abandoned (settings : Settings) (capacity : UInt64)
    (calls : List Call) : Prop :=
  ∃ (scratch : Scratch) (number : Nat) (part : Call) (cause : DeviceFailure),
    scratch.capacity = capacity ∧
      (scratch.creations settings)[number]? = some part ∧
      calls = (scratch.creations settings).take number ++
        part.failing cause :: (scratch.releases.take number).reverse

theorem Abandoned.live_eq_zero {settings : Settings} {capacity : UInt64}
    {calls : List Call} (abandoned : Abandoned settings capacity calls) :
    live calls = 0 := by
  obtain ⟨scratch, number, part, cause, -, chosen, rfl⟩ := abandoned
  match number with
  | 0 | 1 | 2 | 3 =>
      cases chosen
      simp [live, liveAfter, Scratch.creations, Scratch.releases,
        Call.failing, Call.made?, Call.freed?]
  | _ + 4 => cases chosen

def Call.isFailedCreation : Call → Bool
  | createBuffer _ (.error _) | createQueryHeap _ (.error _) => true
  | _ => false

theorem Abandoned.exists_failed {settings : Settings} {capacity : UInt64}
    {calls : List Call} (abandoned : Abandoned settings capacity calls) :
    ∃ call ∈ calls, call.isFailedCreation = true := by
  obtain ⟨scratch, number, part, cause, -, chosen, rfl⟩ := abandoned
  refine ⟨part.failing cause, by simp, ?_⟩
  match number with
  | 0 | 1 | 2 | 3 =>
      cases chosen
      rfl
  | _ + 4 => cases chosen

/-- The call makes or releases memory or waits for the device, and gives it
nothing to do. -/
def Call.isUpkeep : Call → Bool
  | createBuffer .. | createQueryHeap .. | releaseBuffer _
  | releaseQueryHeap _ | sync => true
  | _ => false

theorem Abandoned.upkeep {settings : Settings} {capacity : UInt64}
    {calls : List Call} (abandoned : Abandoned settings capacity calls) :
    ∀ call ∈ calls, call.isUpkeep = true := by
  obtain ⟨scratch, number, part, cause, -, chosen, rfl⟩ := abandoned
  match number with
  | 0 | 1 | 2 | 3 =>
      cases chosen
      simp [Scratch.creations, Scratch.releases, Call.failing, Call.isUpkeep]
  | _ + 4 => cases chosen

theorem Scratch.creations_upkeep (settings : Settings) (scratch : Scratch) :
    ∀ call ∈ scratch.creations settings, call.isUpkeep = true := by
  simp [creations, Call.isUpkeep]

namespace Workspace

def capacity (workspace : Workspace σ) : UInt64 :=
  workspace.scratch.elim 0 (·.capacity)

def Lacks (workspace : Workspace σ) (required : UInt64) : Prop :=
  ∀ scratch, workspace.scratch = some scratch → scratch.capacity < required

def retirement (workspace : Workspace σ) : List Call :=
  .sync :: workspace.scratch.elim [] Scratch.releases

end Workspace

theorem Workspace.retirement_upkeep (workspace : Workspace σ) :
    ∀ call ∈ workspace.retirement, call.isUpkeep = true := by
  rw [retirement]
  cases workspace.scratch <;> simp [Scratch.releases, Call.isUpkeep]

inductive Answered (settings : Settings) (required : UInt64)
    (before : Workspace σ) : Except UInt64 Scratch → Workspace σ → Prop where
  | kept {scratch : Scratch} (present : before.scratch = some scratch)
      (enough : required ≤ scratch.capacity) :
      Answered settings required before (.ok scratch) before
  | replaced {scratch : Scratch} {after : Workspace σ}
      (lacking : before.Lacks required)
      (capacity : scratch.capacity =
        settings.grownCapacity before.capacity required)
      (accepted : scratch.capacity < settings.maxScratchBytes)
      (unused : scratch.outputUse = .common)
      (history : after.history = before.history ++ before.retirement ++
        scratch.creations settings)
      (present : after.scratch = some scratch) :
      Answered settings required before (.ok scratch) after
  | refused {after : Workspace σ} (lacking : before.Lacks required)
      (large : settings.maxScratchBytes ≤
        settings.grownCapacity before.capacity required)
      (history : after.history = before.history ++ before.retirement)
      (absent : after.scratch = none) :
      Answered settings required before
        (.error (settings.grownCapacity before.capacity required)) after
  | abandoned {after : Workspace σ} {made : List Call}
      (lacking : before.Lacks required)
      (accepted : settings.grownCapacity before.capacity required <
        settings.maxScratchBytes)
      (abandons : Abandoned settings
        (settings.grownCapacity before.capacity required) made)
      (history : after.history = before.history ++ before.retirement ++ made)
      (absent : after.scratch = none) :
      Answered settings required before
        (.error (settings.grownCapacity before.capacity required)) after

theorem Answered.upkeep {settings : Settings} {required : UInt64}
    {before after : Workspace σ} {outcome : Except UInt64 Scratch}
    (answered : Answered settings required before outcome after) :
    ∃ growth, after.history = before.history ++ growth ∧
      ∀ call ∈ growth, call.isUpkeep = true := by
  cases answered with
  | kept => exact ⟨[], (List.append_nil _).symm, List.forall_mem_nil _⟩
  | @replaced scratch _ _ _ _ _ history _ =>
      rw [List.append_assoc] at history
      exact ⟨_, history, List.forall_mem_append.mpr
        ⟨before.retirement_upkeep, scratch.creations_upkeep settings⟩⟩
  | refused _ _ history _ => exact ⟨_, history, before.retirement_upkeep⟩
  | abandoned _ _ abandons history _ =>
      rw [List.append_assoc] at history
      exact ⟨_, history, List.forall_mem_append.mpr
        ⟨before.retirement_upkeep, abandons.upkeep⟩⟩

/-! ## Making a set -/

/-- Some calls were made that abandon a set when the releases owed are made
too. -/
def Workspace.Leaves (start : Workspace σ) (settings : Settings)
    (capacity : UInt64) (owed : List Call) (now : Workspace σ) : Prop :=
  ∃ calls, start.Adds calls now ∧ Abandoned settings capacity (calls ++ owed)

variable [Device σ] {start before after : Workspace σ} {settings : Settings}
  {capacity : UInt64}

theorem Workspace.Leaves.release {owed : List Call} {buffer : BufferHandle}
    {now : Workspace σ}
    (leaves : start.Leaves settings capacity (.releaseBuffer buffer :: owed)
      now) :
    start.Leaves settings capacity owed
      ((Work.releaseBuffer buffer).run now).2 := by
  obtain ⟨calls, adds, abandoned⟩ := leaves
  refine ⟨calls ++ [.releaseBuffer buffer],
    adds.trans (Work.adds_releaseBuffer now buffer), ?_⟩
  rwa [List.append_assoc]

theorem Attempt.Guarantees.keepBuffer {description : BufferDescription}
    {rest : BufferHandle → Attempt DeviceFailure σ α} {calls owed : List Call}
    {success : α → Workspace σ → Prop}
    (abandons : ∀ cause, Abandoned settings capacity
      ((calls ++ [.createBuffer description (.error cause)]) ++ owed))
    (next : ∀ buffer, Attempt.Guarantees
      (start.Adds (calls ++ [.createBuffer description (.ok buffer)]))
      (rest buffer) success
      fun _ => start.Leaves settings capacity
        (.releaseBuffer buffer :: owed)) :
    Attempt.Guarantees (start.Adds calls)
      (do
        let buffer ← Work.createBuffer description
        Attempt.onFailure (Work.releaseBuffer buffer) (rest buffer))
      success fun _ => start.Leaves settings capacity owed := by
  have creates : Attempt.Guarantees (start.Adds calls)
      (Work.createBuffer description : Attempt DeviceFailure σ BufferHandle)
      (fun buffer => start.Adds
        (calls ++ [.createBuffer description (.ok buffer)]))
      fun _ => start.Leaves settings capacity owed := by
    refine call fun now answer finish so_far adds => ?_
    cases answer with
    | ok buffer => exact so_far.trans adds
    | error cause => exact ⟨_, so_far.trans adds, abandons cause⟩
  refine bind creates fun buffer => onFailure (next buffer) ?_
  exact fun _ _ leaves => leaves.release

theorem Attempt.Guarantees.makeScratch :
    Attempt.Guarantees (start.Adds [])
      (Work.makeScratch settings capacity : Attempt DeviceFailure σ Scratch)
      (fun scratch now => scratch.capacity = capacity ∧
        scratch.outputUse = .common ∧
        start.Adds (scratch.creations settings) now)
      fun _ => start.Leaves settings capacity [] := by
  let none : Scratch := { (default : Scratch) with capacity }
  refine keepBuffer (fun cause => ⟨none, 0, _, cause, rfl, rfl, rfl⟩) ?_
  intro output
  let one := { none with output }
  refine keepBuffer (fun cause => ⟨one, 1, _, cause, rfl, rfl, rfl⟩) ?_
  intro staging
  let two := { one with staging }
  refine keepBuffer (fun cause => ⟨two, 2, _, cause, rfl, rfl, rfl⟩) ?_
  intro indexUpload
  let three := { two with indexUpload }
  refine bind ?_ fun statisticsHeap => pure fun now made => ⟨rfl, rfl, made⟩
  refine call fun now answer finish so_far adds => ?_
  cases answer with
  | ok statisticsHeap => exact so_far.trans adds
  | error cause =>
      exact ⟨_, so_far.trans adds, three, 3, _, cause, rfl, rfl, rfl⟩

/-! ## Requests -/

theorem Work.history_retireScratch (before : Workspace σ) :
    (retireScratch.run before).2.history =
        before.history ++ before.retirement ∧
      (retireScratch.run before).2.scratch = none := by
  rcases before with ⟨device, calls, scratch, counters⟩
  cases scratch with
  | none => exact ⟨List.reverse_cons, rfl⟩
  | some scratch =>
      refine ⟨?_, rfl⟩
      change (_ :: _ :: _ :: _ :: .sync :: calls).reverse = _
      simp [Workspace.history, Workspace.retirement, Scratch.releases]

theorem Attempt.Ends.growScratch {required : UInt64}
    {outcome : Except UInt64 Scratch} (lacking : before.Lacks required)
    (ends : (Work.growScratch settings before.capacity required).Ends before
      outcome after) :
    Answered settings required before outcome after := by
  rcases retired : (Work.retireScratch : Work σ Unit).run before with
    ⟨_, there⟩
  have gone := Work.history_retireScratch before
  rw [retired] at gone
  have whole : (Work.growScratch settings before.capacity required).run.run
      before = _ := Work.run_bind retired
  rw [Ends, whole] at ends
  split at ends
  · next large =>
      cases ends
      exact .refused lacking large gone.1 gone.2
  · next small =>
      have accepted := UInt64.not_le.mp small
      rcases made : (Work.makeScratch settings
        (settings.grownCapacity before.capacity required)).run.run there with
        ⟨answer, reached⟩
      have makes := Guarantees.makeScratch.finished
        ⟨(List.append_nil _).symm, rfl⟩ made
      have rest := (Work.run_bind made).symm.trans ends
      cases answer with
      | ok scratch =>
          cases rest
          rcases makes with ⟨capacity, unused, adds⟩
          refine .replaced lacking capacity (capacity ▸ accepted) unused ?_ rfl
          exact gone.1 ▸ adds.history
      | error cause =>
          cases rest
          rcases makes with ⟨calls, adds, abandons⟩
          rw [List.append_nil] at abandons
          refine .abandoned lacking accepted abandons ?_
            (adds.scratch.trans gone.2)
          exact gone.1 ▸ adds.history

theorem Attempt.Ends.scratchFor {required : UInt64}
    {outcome : Except UInt64 Scratch}
    (ends : (Work.scratchFor settings required).Ends before outcome after) :
    Answered settings required before outcome after := by
  rcases ends_bind.mp ends with ⟨cause, asks, -⟩ | ⟨present, there, asks, rest⟩
  · rcases ends_lift.mp asks with ⟨_, _, impossible⟩
    cases impossible
  · rcases ends_lift.mp asks with ⟨_, asked, same⟩
    cases same
    have known : before.scratch = present ∧ before = there :=
      ⟨congrArg Prod.fst asked, congrArg Prod.snd asked⟩
    rcases known with ⟨known, rfl⟩
    cases present with
    | none =>
        have capacity : before.capacity = 0 := by
          rw [Workspace.capacity, known]
          rfl
        refine growScratch ?_ (capacity ▸ rest)
        exact fun scratch present => nomatch known.symm.trans present
    | some scratch =>
        have capacity : before.capacity = scratch.capacity := by
          rw [Workspace.capacity, known]
          rfl
        simp only at rest
        split at rest
        · next enough =>
            rcases ends_pure.mp rest with ⟨rfl, rfl⟩
            exact .kept known enough
        · next short =>
            refine growScratch ?_ (capacity ▸ rest)
            intro other present
            cases known.symm.trans present
            exact UInt64.not_le.mp short

end MeshCapture
