import MeshCapture.Proofs.BufferUses
import MeshCapture.Proofs.Conduct.Deed

/-! # Command lists

A list that is handed to the device names only what is in hand, uses the output
buffer as it was prepared for, and makes every draw with the captured state, the
derived pipeline over it and the output buffer as its target. This is seen from
the steps by which the list was recorded. -/

namespace MeshCapture

/-! ## Bindings -/

structure Bindings where
  state : Option BoundState := none
  pipeline : Option PipelineHandle := none
  signature : Option RootSignatureHandle := none
  /-- The captured root arguments are bound under the signature. -/
  arguments : Bool := false
  indices : Option IndexBufferRange := none
  target : Option OutputTarget := none
deriving DecidableEq

def Command.bind (bound : Bindings) : Command → Bindings
  | applyState state => { state := some state }
  | setPipeline pipeline => { bound with pipeline := some pipeline }
  | setRootSignature signature =>
      { bound with signature := some signature, arguments := false }
  | applyRootParameters => { bound with arguments := true }
  | setIndexBuffer range => { bound with indices := some range }
  | setOutputTarget target => { bound with target := some target }
  | _ => bound

def bindings (commands : List Command) : Bindings :=
  commands.foldl Command.bind {}

@[simp] theorem bindings_concat (commands : List Command) (command : Command) :
    bindings (commands ++ [command]) = command.bind (bindings commands) := by
  simp [bindings]

/-! ## What a list is recorded with -/

/-- What the draws of a list are made with. -/
structure Gear where
  state : BoundState
  pipeline : PipelineHandle
  signature : Option RootSignatureHandle
  /-- The indices of the referenced vertices, where they are drawn. -/
  indices : Option IndexBufferRange
  output : BufferHandle

structure Bindings.Carries (bound : Bindings) (gear : Gear) : Prop where
  state : bound.state = some gear.state
  pipeline : bound.pipeline = some gear.pipeline
  signature : bound.signature = gear.signature
  arguments : bound.arguments = gear.signature.isSome
  indices : bound.indices = gear.indices

def Bindings.Targets (bound : Bindings) (output : BufferHandle) : Prop :=
  ∃ target, bound.target = some target ∧ target.buffer = output

/-- The command uses the output buffer for what it is prepared for, and a barrier
prepares it for something else. No other buffer is cleared, copied from or
prepared. -/
def Command.InUse (output : BufferHandle) (use : BufferUse) : Command → Prop
  | draw .. | drawIndexed .. => use = .streamOut
  | copyBuffer _ source => source = output ∧ use = .copySource
  | clear buffer => buffer = output ∧ use = .unorderedAccess
  | barrier buffer before after =>
      buffer = output ∧ before = use ∧ after ≠ before
  | _ => True

def Command.isFree : Command → Bool
  | draw .. | drawIndexed .. | copyBuffer .. | clear _ | barrier .. => false
  | _ => true

theorem Command.isDraw_of_free {command : Command}
    (free : command.isFree = true) : command.isDraw = false := by
  cases command <;> first | rfl | cases free

theorem Command.resources_of_draw {command : Command}
    (isDraw : command.isDraw = true) : command.resources = [] := by
  cases command <;> first | rfl | cases isDraw

/-- How a command stands behind the ones in front of it, when the output buffer
is found in the use `start`. -/
structure Command.Staged (gear : Gear) (start : BufferUse)
    (front : List Command) (command : Command) : Prop where
  use : command.InUse gear.output (useBehind gear.output start front)
  draw : command.isDraw = true →
    (bindings front).Carries gear ∧ (bindings front).Targets gear.output

def Gear.Has (gear : Gear) (scratch : Scratch) (resource : Resource) : Prop :=
  resource ∈ scratch.resources ∨ resource = .pipeline gear.pipeline ∨
    resource ∈ gear.signature.toList.map Resource.rootSignature

/-! ## Recordings -/

namespace Recording

def bound (recording : Recording) : Bindings :=
  bindings recording.list.toList

@[simp] theorem bound_push (recording : Recording) (command : Command) :
    (recording.push command).bound = command.bind recording.bound := by
  simp [bound, push]

@[simp] theorem bound_transition (recording : Recording) (use : BufferUse) :
    (recording.transition use).bound = recording.bound := by
  unfold transition
  simp only
  split
  · rfl
  · simp [bound, Command.bind]

@[simp] theorem bound_bindOutput (recording : Recording) (settings : Settings)
    (counterOffset dataOffset : UInt64) :
    (recording.bindOutput settings counterOffset dataOffset).bound =
      { recording.bound with
        target := some
          (recording.scratch.target settings counterOffset dataOffset) } := by
  simp [bindOutput, Command.bind, Scratch.target, Scratch.room]

@[simp] theorem bound_repeatDraw (recording : Recording) (draw : Draw)
    (instances : UInt32) :
    (recording.repeatDraw draw instances).bound = recording.bound := by
  rw [repeatDraw]
  split <;> simp [Command.bind]

@[simp] theorem bound_bindDerived (recording : Recording) (pass : Pass)
    (pipeline : PipelineHandle) :
    (recording.bindDerived pass pipeline).bound =
      { state := some pass.state
        pipeline := some pipeline
        signature := pass.rootSignature
        arguments := pass.rootSignature.isSome } := by
  rw [bindDerived]
  cases pass.rootSignature <;> simp [Command.bind]

structure Proper (gear : Gear) (scratch : Scratch) (recording : Recording) :
    Prop where
  output : gear.output = scratch.output
  /-- The scratch set knows what the barriers prepared the output buffer for. -/
  tracked : recording.scratch = { scratch with
    outputUse := useBehind gear.output scratch.outputUse recording.list.toList }
  staged : Throughout (Command.Staged gear scratch.outputUse)
    recording.list.toList
  named : ∀ command ∈ recording.list.toList, ∀ resource ∈ command.resources,
    gear.Has scratch resource

namespace Proper

variable {gear : Gear} {scratch : Scratch} {recording : Recording}

theorem fresh (output : gear.output = scratch.output) :
    Proper gear scratch { scratch } where
  output := output
  tracked := rfl
  staged := .nil
  named := fun _ inside => absurd inside List.not_mem_nil

theorem use_eq (proper : Proper gear scratch recording) :
    useBehind gear.output scratch.outputUse recording.list.toList =
      recording.scratch.outputUse := by
  rw [proper.tracked]

theorem output_eq (proper : Proper gear scratch recording) :
    recording.scratch.output = gear.output := by
  rw [proper.tracked, proper.output]

theorem resources_eq (proper : Proper gear scratch recording) :
    recording.scratch.resources = scratch.resources := by
  rw [proper.tracked]
  rfl

theorem push (proper : Proper gear scratch recording) {command : Command}
    (other : command.isBarrier = false)
    (staged : command.Staged gear scratch.outputUse recording.list.toList)
    (named : ∀ resource ∈ command.resources, gear.Has scratch resource) :
    Proper gear scratch (recording.push command) where
  output := proper.output
  tracked := by
    have last := Command.isBarrierOn_of_not_barrier other gear.output
    simp only [Recording.push, CommandList.toList_push, useBehind_concat,
      Command.useAfter_of_other last]
    exact proper.tracked
  staged := by
    rw [Recording.push, CommandList.toList_push]
    exact Throughout.concat_iff.mpr ⟨proper.staged, staged⟩
  named := by
    intro inner inside
    rw [Recording.push, CommandList.toList_push] at inside
    rcases List.mem_append.mp inside with earlier | last
    · exact proper.named inner earlier
    · exact List.mem_singleton.mp last ▸ named

theorem pushFree (proper : Proper gear scratch recording) (command : Command)
    (free : command.isFree = true)
    (named : ∀ resource ∈ command.resources, gear.Has scratch resource) :
    Proper gear scratch (recording.push command) := by
  have idle := Command.isDraw_of_free free
  refine proper.push ?_ ⟨?_, fun draws => absurd draws (by simp [idle])⟩ named
  · cases command <;> first | rfl | cases free
  · cases command <;> trivial

theorem pushUse (proper : Proper gear scratch recording) {command : Command}
    (other : command.isBarrier = false) (idle : command.isDraw = false)
    (use : command.InUse recording.scratch.output recording.scratch.outputUse)
    (named : ∀ resource ∈ command.resources, gear.Has scratch resource) :
    Proper gear scratch (recording.push command) := by
  refine proper.push other ⟨?_, ?_⟩ named
  · rw [proper.use_eq, ← proper.output_eq]
    exact use
  · exact fun draws => absurd draws (by simp [idle])

theorem pushDraw (proper : Proper gear scratch recording) {command : Command}
    (isDraw : command.isDraw = true)
    (ready : recording.scratch.outputUse = .streamOut)
    (carries : recording.bound.Carries gear)
    (targets : recording.bound.Targets gear.output) :
    Proper gear scratch (recording.push command) := by
  refine proper.push ?_ ⟨?_, fun _ => ⟨carries, targets⟩⟩ ?_
  · cases command <;> first | rfl | cases isDraw
  · rw [proper.use_eq, ready]
    cases command <;> first | rfl | cases isDraw
  · rw [Command.resources_of_draw isDraw]
    exact fun _ inside => absurd inside List.not_mem_nil

theorem hasPart (proper : Proper gear scratch recording) {resource : Resource}
    (part : resource ∈ recording.scratch.resources) :
    gear.Has scratch resource :=
  .inl (proper.resources_eq ▸ part)

theorem transition (proper : Proper gear scratch recording) (use : BufferUse) :
    Proper gear scratch (recording.transition use) := by
  unfold Recording.transition
  simp only
  split
  · exact proper
  · next other =>
      refine ⟨proper.output, ?_, ?_, ?_⟩
      · rw [CommandList.toList_push, useBehind_concat, proper.output_eq]
        rw [proper.tracked]
        simp [Command.useAfter, proper.output]
      · rw [CommandList.toList_push]
        refine Throughout.concat_iff.mpr ⟨proper.staged, ?_, ?_⟩
        · exact ⟨proper.output_eq, proper.use_eq.symm, Ne.symm other⟩
        · rintro ⟨⟩
      · intro command inside
        rw [CommandList.toList_push] at inside
        rcases List.mem_append.mp inside with earlier | last
        · exact proper.named command earlier
        · rw [List.mem_singleton.mp last]
          simp only [Command.resources, List.forall_mem_singleton]
          exact proper.hasPart (by simp [Scratch.resources])

theorem bindDerived (proper : Proper gear scratch recording) (pass : Pass)
    (signed : gear.signature = pass.rootSignature) :
    Proper gear scratch (recording.bindDerived pass gear.pipeline) := by
  rw [Recording.bindDerived]
  have bound : Proper gear scratch
      ((recording.push (.applyState pass.state)).push
        (.setPipeline gear.pipeline)) := by
    refine (proper.pushFree _ rfl (by simp [Command.resources])).pushFree _ rfl ?_
    simp [Command.resources, Gear.Has]
  cases made : pass.rootSignature with
  | none => exact bound
  | some signature =>
      refine (bound.pushFree _ rfl ?_).pushFree _ rfl (by simp [Command.resources])
      simp [Command.resources, Gear.Has, signed, made]

theorem bindOutput (proper : Proper gear scratch recording)
    (settings : Settings) (counterOffset dataOffset : UInt64) :
    Proper gear scratch
      (recording.bindOutput settings counterOffset dataOffset) := by
  have ready := proper.transition .streamOut
  refine ready.pushFree _ rfl ?_
  simp only [Command.resources, Scratch.target, List.forall_mem_singleton]
  exact ready.hasPart (by simp [Scratch.resources])

theorem zeroOutput (proper : Proper gear scratch recording) :
    Proper gear scratch recording.zeroOutput := by
  have ready := proper.transition .unorderedAccess
  refine ready.pushUse rfl rfl ⟨rfl, ?_⟩ ?_
  · simp
  · simp only [Command.resources, List.forall_mem_singleton]
    exact ready.hasPart (by simp [Scratch.resources])

theorem copyOut (proper : Proper gear scratch recording) :
    Proper gear scratch recording.copyOut := by
  have ready := proper.transition .copySource
  have output : gear.Has scratch
      (.buffer (recording.transition .copySource).scratch.output) :=
    ready.hasPart (by simp [Scratch.resources])
  have staging : gear.Has scratch
      (.buffer (recording.transition .copySource).scratch.staging) :=
    ready.hasPart (by simp [Scratch.resources])
  have copied : Proper gear scratch
      ((recording.transition .copySource).push
        (.copyBuffer (recording.transition .copySource).scratch.staging
          (recording.transition .copySource).scratch.output)) := by
    refine ready.pushUse rfl rfl ⟨rfl, by simp⟩ ?_
    simp only [Command.resources, List.forall_mem_cons]
    exact ⟨staging, output, fun _ inside => absurd inside List.not_mem_nil⟩
  refine (copied.pushFree _ rfl ?_).zeroOutput
  simp only [Command.resources, List.forall_mem_singleton]
  exact output

/-! ## Whole recordings -/

theorem repeatDraw (proper : Proper gear scratch recording) (draw : Draw)
    (instances : UInt32) (ready : recording.scratch.outputUse = .streamOut)
    (carries : recording.bound.Carries gear)
    (targets : recording.bound.Targets gear.output) :
    Proper gear scratch (recording.repeatDraw draw instances) := by
  rw [Recording.repeatDraw]
  split
  · exact proper.pushDraw rfl ready carries targets
  · exact proper.pushDraw rfl ready carries targets

end Proper

end Recording

def Pass.gear (pass : Pass) (derived : PipelineHandle)
    (indices : Option IndexBufferRange) (output : BufferHandle) : Gear where
  state := pass.state
  pipeline := derived
  signature := pass.rootSignature
  indices := indices
  output := output

namespace Recording.Proper

variable {pass : Pass} {derived : PipelineHandle} {scratch : Scratch}
  {indices : Option IndexBufferRange} {recording : Recording}

theorem carries_bindDerived (recording : Recording) (output : BufferHandle) :
    (recording.bindDerived pass derived).bound.Carries
      (pass.gear derived none output) := by
  rw [bound_bindDerived]
  exact ⟨rfl, rfl, rfl, rfl, rfl⟩

theorem pointPass {draw : Command} (isDraw : draw.isDraw = true)
    (uploaded : ∀ range ∈ indices, range.buffer = scratch.indexUpload) :
    (Work.pointPass pass derived scratch indices draw).Proper
      (pass.gear derived indices scratch.output) scratch := by
  have fresh : Recording.Proper (pass.gear derived indices scratch.output)
      scratch { scratch } := .fresh rfl
  have bound := fresh.bindDerived pass rfl
  unfold Work.pointPass
  cases indices with
  | none =>
      have streaming := bound.bindOutput pass.settings 0 pass.settings.counterBytes
      refine (streaming.pushFree _ rfl (by simp [Command.resources])).pushDraw
        isDraw ?_ ?_ ?_
      · simp
      · simpa [Command.bind] using ⟨rfl, rfl, rfl, rfl, rfl⟩
      · simp [Command.bind, Bindings.Targets, Pass.gear, Scratch.target]
  | some range =>
      have upload : range.buffer = scratch.indexUpload := uploaded range rfl
      have indexed := bound.pushFree (.setIndexBuffer range) rfl (by
        simp [Command.resources, Gear.Has, Scratch.resources, upload])
      have streaming := indexed.bindOutput pass.settings 0
        pass.settings.counterBytes
      refine (streaming.pushFree _ rfl (by simp [Command.resources])).pushDraw
        isDraw ?_ ?_ ?_
      · simp
      · simpa [Command.bind] using ⟨rfl, rfl, rfl, rfl, rfl⟩
      · simp [Command.bind, Bindings.Targets, Pass.gear, Scratch.target]

theorem measuringPass :
    (Work.measuringPass pass derived scratch).Proper
      (pass.gear derived none scratch.output) scratch := by
  have fresh : Recording.Proper (pass.gear derived none scratch.output) scratch
      { scratch } := .fresh rfl
  have heap : (pass.gear derived none scratch.output).Has scratch
      (.queryHeap scratch.statisticsHeap) := by
    simp [Gear.Has, Scratch.resources]
  have staging : (pass.gear derived none scratch.output).Has scratch
      (.buffer scratch.staging) := by
    simp [Gear.Has, Scratch.resources]
  have streaming := (fresh.zeroOutput.bindDerived pass rfl).bindOutput
    pass.settings 0 pass.settings.counterBytes
  have begun := streaming.pushFree
    (.beginQuery scratch.statisticsHeap Work.statisticsSlot) rfl (by
      simpa [Command.resources] using heap)
  have drawn := begun.repeatDraw pass.draw pass.draw.instanceCount (by simp)
    (by simpa [Command.bind] using ⟨rfl, rfl, rfl, rfl, rfl⟩)
    (by simp [Command.bind, Bindings.Targets, Pass.gear, Scratch.target])
  refine (drawn.pushFree _ rfl ?_).pushFree _ rfl ?_
  · simpa [Command.resources] using heap
  · simp only [Command.resources, List.forall_mem_cons]
    exact ⟨heap, staging, fun _ inside => absurd inside List.not_mem_nil⟩

theorem drawRun
    (proper : recording.Proper (pass.gear derived none scratch.output) scratch)
    (dataOffset : UInt64) (run : List UInt32) :
    (Work.drawRun pass derived dataOffset recording run).Proper
      (pass.gear derived none scratch.output) scratch := by
  -- The draws of a run have the target in common with none but the gear with all.
  have folded {bound : Recording}
      (proper : bound.Proper (pass.gear derived none scratch.output) scratch)
      (carries : bound.bound.Carries (pass.gear derived none scratch.output)) :
      (run.foldl (Work.drawFirst pass dataOffset) bound).Proper
        (pass.gear derived none scratch.output) scratch := by
    induction run generalizing bound with
    | nil => exact proper
    | cons instances rest induction =>
        have streaming := proper.bindOutput pass.settings
          ((instances - 1).toUInt64 * Work.counterSize) dataOffset
        have target : bound.scratch.output = scratch.output := proper.output_eq
        have still : (bound.bindOutput pass.settings
            ((instances - 1).toUInt64 * Work.counterSize)
            dataOffset).bound.Carries
              (pass.gear derived none scratch.output) := by
          rw [bound_bindOutput]
          exact ⟨carries.state, carries.pipeline, carries.signature,
            carries.arguments, carries.indices⟩
        refine induction (streaming.repeatDraw pass.draw instances (by simp)
          still ?_) ?_
        · simp [Bindings.Targets, Pass.gear, Scratch.target, target]
        · rw [Work.drawFirst, bound_repeatDraw]
          exact still
  exact folded (proper.bindDerived pass rfl) (carries_bindDerived recording _)

end Recording.Proper

/-- The indices that a stage of the draw is drawn through, which were written by
the last call, if it is the vertex stage of an indexed draw. -/
def Draw.Indexes (draw : Draw) (history : List Call) (stage : Stage)
    (indices : Option IndexBufferRange) : Prop :=
  if stage = .vertex ∧ draw.flags.indexed = true then
    ∃ range, indices = some range ∧ range.WrittenLast history
  else
    indices = none

theorem Drafted.proper {pass : Pass} {derived : PipelineHandle}
    {scratch : Scratch} {history : List Call} {stage : Stage}
    {recording : Recording}
    (drafted : Drafted pass derived scratch history stage recording) :
    ∃ indices, pass.draw.Indexes history stage indices ∧
      recording.Proper (pass.gear derived indices scratch.output) scratch := by
  have fresh : Recording.Proper (pass.gear derived none scratch.output) scratch
      { scratch } := .fresh rfl
  cases drafted with
  | plain draw isDraw plain =>
      refine ⟨none, ?_, (Recording.Proper.pointPass isDraw (by simp)).copyOut⟩
      simp [Draw.Indexes, plain]
  | selected range draw isDraw indexed uploaded written =>
      refine ⟨some range, ?_, (Recording.Proper.pointPass isDraw ?_).copyOut⟩
      · simpa [Draw.Indexes, indexed] using written
      · simpa using uploaded
  | measuring => exact ⟨none, by simp [Draw.Indexes], .measuringPass⟩
  | firstRun dataOffset run =>
      exact ⟨none, by simp [Draw.Indexes], fresh.zeroOutput.drawRun _ _⟩
  | nextRun dataOffset run =>
      exact ⟨none, by simp [Draw.Indexes], fresh.drawRun _ _⟩
  | closing => exact ⟨none, by simp [Draw.Indexes], fresh.copyOut⟩

end MeshCapture
