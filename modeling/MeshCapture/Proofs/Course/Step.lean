import MeshCapture.Proofs.Resource
import Mathlib.Logic.Relation

/-! # Steps of a run

What an engine does over any device, one step after the other. A law about runs
is proved for each `Step` and then holds along every `Course`. That the engine
takes no other steps is shown in the modules behind this one. -/

namespace MeshCapture

structure Standing where
  history : List Call
  scratch : Option Scratch
  counters : Counters
  /-- Resources to be released that are no part of the scratch set. -/
  held : Multiset Resource
  /-- While the instances of a draw get counters of their own, the number of
  instances drawn with one. -/
  drawn : Option Nat

def Workspace.standing {σ : Type} (workspace : Workspace σ)
    (held : Multiset Resource) (drawn : Option Nat) : Standing where
  history := workspace.calls.reverse
  scratch := workspace.scratch
  counters := workspace.counters
  held := held
  drawn := drawn

/-! ## Recordings

Five kinds of recordings are handed to the device. -/

def instancesFrom (first count : Nat) : List UInt32 :=
  (List.range' (first + 1) count).map UInt32.ofNat

/-- A recording made over `scratch`, with the number of instances that have a
counter of their own before it is executed and afterwards. -/
inductive Recorded (scratch : Scratch) :
    Option Nat → Recording → Option Nat → Prop where
  | vertices (before : Option Nat) (pass : Pass) (derived : PipelineHandle)
      (indices : Option IndexBufferRange) (draw : Command)
      (isDraw : draw.isDraw = true) :
      Recorded scratch before
        (Work.pointPass pass derived scratch indices draw).copyOut none
  | measuring (before : Option Nat) (pass : Pass)
      (derived : PipelineHandle) :
      Recorded scratch before (Work.measuringPass pass derived scratch) none
  | firstInstances (before : Option Nat) (pass : Pass)
      (derived : PipelineHandle) (dataOffset : UInt64) (count : Nat)
      (positive : 0 < count) (bounded : count < 2 ^ 32) :
      Recorded scratch before
        (Work.drawRun pass derived dataOffset
          (Recording.zeroOutput { scratch }) (instancesFrom 0 count))
        (some count)
  | moreInstances (pass : Pass) (derived : PipelineHandle)
      (dataOffset : UInt64) (done count : Nat)
      (positive : 0 < count) (bounded : done + count < 2 ^ 32) :
      Recorded scratch (some done)
        (Work.drawRun pass derived dataOffset { scratch }
          (instancesFrom done count))
        (some (done + count))
  | closing (before : Option Nat) :
      Recorded scratch before (Recording.copyOut { scratch }) none

theorem Recording.scratch_drawRun (pass : Pass) (derived : PipelineHandle)
    (dataOffset : UInt64) (recording : Recording) (run : List UInt32) :
    ∃ use, (Work.drawRun pass derived dataOffset recording run).scratch =
      { recording.scratch with outputUse := use } := by
  have folded (bound : Recording) :
      ∃ use, (run.foldl (Work.drawFirst pass dataOffset) bound).scratch =
        { bound.scratch with outputUse := use } := by
    induction run generalizing bound with
    | nil => exact ⟨bound.scratch.outputUse, rfl⟩
    | cons instances rest induction =>
        rcases induction (Work.drawFirst pass dataOffset bound instances) with
          ⟨use, same⟩
        exact ⟨use, by simpa [Work.drawFirst] using same⟩
  simpa [Work.drawRun] using folded (recording.bindDerived pass derived)

theorem Recorded.scratch_eq {scratch : Scratch} {before after : Option Nat}
    {recording : Recording}
    (recorded : Recorded scratch before recording after) :
    ∃ use, recording.scratch = { scratch with outputUse := use } := by
  cases recorded with
  | vertices _ pass derived indices draw isDraw =>
      refine ⟨.unorderedAccess, ?_⟩
      cases indices <;> simp [Work.pointPass]
  | measuring _ pass derived =>
      exact ⟨.streamOut, by simp [Work.measuringPass]⟩
  | firstInstances _ pass derived dataOffset count positive bounded =>
      simpa using Recording.scratch_drawRun pass derived dataOffset
        (Recording.zeroOutput { scratch }) (instancesFrom 0 count)
  | moreInstances pass derived dataOffset done count positive bounded =>
      exact Recording.scratch_drawRun pass derived dataOffset { scratch }
        (instancesFrom done count)
  | closing => exact ⟨.unorderedAccess, by simp⟩

/-! ## Steps -/

/-- A call that gives the engine nothing, takes nothing from it, and has the
device do no work. -/
def Call.isQuiet : Call → Bool
  | execute .. | sync => false
  | call => call.made?.isNone && call.freed?.isNone

/-- A buffer that a call created for stream output. Only these may be cleared
by the device. -/
def Call.madeOutput? : Call → Option BufferHandle
  | createBuffer description (.ok buffer) =>
      if description.unorderedAccess then some buffer else none
  | _ => none

namespace Call

def isExecute : Call → Bool
  | execute .. => true
  | _ => false

theorem executed?_of_idle {call : Call} (idle : call.isExecute = false) :
    call.executed? = none := by
  cases call <;> first | rfl | cases idle

theorem isExecute_of_quiet {call : Call} (quiet : call.isQuiet = true) :
    call.isExecute = false := by
  cases call <;> first | rfl | cases quiet

theorem isExecute_of_made {call : Call} {resource : Resource}
    (made : call.made? = some resource) : call.isExecute = false := by
  cases call <;> first | rfl | cases made

theorem isExecute_of_freed {call : Call} {resource : Resource}
    (freed : call.freed? = some resource) : call.isExecute = false := by
  cases call <;> first | rfl | cases freed

theorem made?_of_madeOutput {call : Call} {buffer : BufferHandle}
    (made : call.madeOutput? = some buffer) :
    call.made? = some (.buffer buffer) := by
  unfold madeOutput? at made
  split at made
  · next description handle =>
      split at made
      · cases made
        rfl
      · cases made
  · cases made

theorem made?_of_freed {call : Call} {resource : Resource}
    (freed : call.freed? = some resource) : call.made? = none := by
  cases call <;> first | rfl | cases freed

theorem made?_of_quiet {call : Call} (quiet : call.isQuiet = true) :
    call.made? = none := by
  cases call <;> simp_all [isQuiet]

theorem freed?_of_quiet {call : Call} (quiet : call.isQuiet = true) :
    call.freed? = none := by
  cases call <;> simp_all [isQuiet]

theorem madeOutput?_of_none {call : Call} (none : call.made? = none) :
    call.madeOutput? = .none := by
  cases made : call.madeOutput? with
  | none => rfl
  | some buffer => simp [made?_of_madeOutput made] at none

end Call

def MadeLast (scratch : Scratch) (history : List Call) : Prop :=
  ∃ earlier output staging indexUpload slots,
    history = earlier ++ [.createBuffer output (.ok scratch.output)] ++
      [.createBuffer staging (.ok scratch.staging)] ++
      [.createBuffer indexUpload (.ok scratch.indexUpload)] ++
      [.createQueryHeap slots (.ok scratch.statisticsHeap)] ∧
    output.unorderedAccess = true ∧ staging.unorderedAccess = false ∧
    indexUpload.unorderedAccess = false

namespace Standing

def note (standing : Standing) (call : Call) : Standing :=
  { standing with history := standing.history ++ [call], drawn := none }

end Standing

inductive Step (now : Standing) : Standing → Prop where
  | noted (call : Call) (quiet : call.isQuiet = true) :
      Step now (now.note call)
  /-- Something was created; a buffer for stream output only while there is no
  scratch set. -/
  | made (call : Call) (resource : Resource)
      (made : call.made? = some resource)
      (empty : call.madeOutput?.isSome = true → now.scratch = none) :
      Step now { now.note call with held := resource ::ₘ now.held }
  | freed (call : Call) (resource : Resource)
      (freed : call.freed? = some resource) (mem : resource ∈ now.held) :
      Step now { now.note call with held := now.held.erase resource }
  /-- The device was drained before the scratch set is replaced. -/
  | drained :
      Step now { now.note .sync with
        counters := now.counters.countReallocation }
  /-- The parts of the scratch set are on their own. -/
  | dismantled (scratch : Scratch) (present : now.scratch = some scratch) :
      Step now { now with
        scratch := none, held := scratch.resources + now.held, drawn := none }
  /-- Newly made parts became the scratch set. -/
  | assembled (scratch : Scratch) (others : Multiset Resource)
      (empty : now.scratch = none) (unused : scratch.outputUse = .common)
      (parts : now.held = scratch.resources + others)
      (last : MadeLast scratch now.history) :
      Step now { now with
        scratch := some scratch, held := others, drawn := none }
  /-- A larger scratch set was refused or could not be had. -/
  | denied :
      Step now { now with
        counters := now.counters.countAllocationFailure, drawn := none }
  | submitted (scratch : Scratch) (recording : Recording)
      (after : Option Nat) (present : now.scratch = some scratch)
      (recorded : Recorded scratch now.drawn recording after) :
      Step now
        { history := now.history ++ [.execute recording.list (.ok ()), .sync]
          scratch := some recording.scratch
          counters := (now.counters.countDraws
            (UInt64.ofNat recording.list.drawCount)).countSubmission
          held := now.held
          drawn := after }
  | rejected (scratch : Scratch) (recording : Recording)
      (after : Option Nat) (cause : DeviceFailure)
      (present : now.scratch = some scratch)
      (recorded : Recorded scratch now.drawn recording after) :
      Step now
        { history := now.history ++ [.execute recording.list (.error cause)]
          scratch := some recording.scratch
          counters := now.counters.countDraws
            (UInt64.ofNat recording.list.drawCount)
          held := now.held
          drawn := none }
  | tallied (count : Counters → Counters)
      (counted : count ∈ [Counters.countCaptureRequest,
        Counters.countCacheHit, Counters.countRecord]) :
      Step now { now with counters := count now.counters, drawn := none }

def Course : Standing → Standing → Prop :=
  Relation.ReflTransGen Step

theorem Course.preserves {invariant : Standing → Prop}
    (step : ∀ now next, Step now next → invariant now → invariant next)
    {first last : Standing} (course : Course first last)
    (holds : invariant first) : invariant last := by
  induction course with
  | refl => exact holds
  | tail _ taken induction => exact step _ _ taken induction

end MeshCapture
