import MeshCapture.Proofs.Course.Engine
import MeshCapture.Scripted.Session

/-! # Uses of the output buffer

A barrier names the use that a buffer was in before. The engine takes that from
what it recorded, and a list that the device refused was recorded too. Barriers
therefore always tell the recorded use, and they tell the real one just as long
as no refused list has put the two apart. -/

namespace MeshCapture

/-! ## Recorded and real use -/

namespace Command

def useAfter (buffer : BufferHandle) (use : BufferUse) : Command → BufferUse
  | .barrier other _ after => if other = buffer then after else use
  | _ => use

def isBarrier : Command → Bool
  | .barrier .. => true
  | _ => false

def isBarrierOn (buffer : BufferHandle) : Command → Bool
  | .barrier other _ _ => other == buffer
  | _ => false

theorem useAfter_of_other {buffer : BufferHandle} {command : Command}
    (other : command.isBarrierOn buffer = false) (use : BufferUse) :
    command.useAfter buffer use = use := by
  cases command with
  | barrier changed before after =>
      have different : changed ≠ buffer := by simpa [isBarrierOn] using other
      simp [useAfter, different]
  | _ => rfl

theorem useAfter_of_barrier {buffer : BufferHandle} {command : Command}
    (barrier : command.isBarrierOn buffer = true) (left right : BufferUse) :
    command.useAfter buffer left = command.useAfter buffer right := by
  cases command with
  | barrier changed before after =>
      have same : changed = buffer := by simpa [isBarrierOn] using barrier
      simp [useAfter, same]
  | _ => cases barrier

theorem isBarrierOn_of_not_barrier {command : Command}
    (other : command.isBarrier = false) (buffer : BufferHandle) :
    command.isBarrierOn buffer = false := by
  cases command with
  | barrier changed before after => cases other
  | _ => rfl

end Command

def useBehind (buffer : BufferHandle) (use : BufferUse)
    (commands : List Command) : BufferUse :=
  commands.foldl (fun use command => command.useAfter buffer use) use

@[simp] theorem useBehind_concat (buffer : BufferHandle) (use : BufferUse)
    (commands : List Command) (command : Command) :
    useBehind buffer use (commands ++ [command]) =
      command.useAfter buffer (useBehind buffer use commands) := by
  simp [useBehind]

theorem useBehind_of_none {buffer : BufferHandle} {commands : List Command}
    (none : commands.any (Command.isBarrierOn buffer) = false)
    (use : BufferUse) : useBehind buffer use commands = use := by
  induction commands using List.reverseRecOn with
  | nil => rfl
  | append_singleton commands command induction =>
      rw [List.any_append, Bool.or_eq_false_iff] at none
      have last : command.isBarrierOn buffer = false := by simpa using none.2
      rw [useBehind_concat, Command.useAfter_of_other last]
      exact induction none.1

theorem useBehind_of_any {buffer : BufferHandle} {commands : List Command}
    (any : commands.any (Command.isBarrierOn buffer) = true)
    (left right : BufferUse) :
    useBehind buffer left commands = useBehind buffer right commands := by
  induction commands using List.reverseRecOn with
  | nil => cases any
  | append_singleton commands command induction =>
      rw [useBehind_concat, useBehind_concat]
      cases last : command.isBarrierOn buffer with
      | true => exact Command.useAfter_of_barrier last _ _
      | false =>
          have front : commands.any (Command.isBarrierOn buffer) = true := by
            simpa [last] using any
          rw [induction front]

def Call.useAfter (heard : Except DeviceFailure Unit → Bool)
    (buffer : BufferHandle) (use : BufferUse) (call : Call) : BufferUse :=
  if call.madeOutput? = some buffer then
    .common
  else
    match call with
    | .execute list outcome =>
        if heard outcome then useBehind buffer use list.toList else use
    | _ => use

/-- The use that an output buffer is really in: that of the last barrier the
device executed since the buffer was made. -/
def realUse (buffer : BufferHandle) (calls : List Call) : BufferUse :=
  calls.foldl (Call.useAfter Except.isOk buffer) .common

/-- The use that an output buffer was last prepared for. -/
def recordedUse (buffer : BufferHandle) (calls : List Call) : BufferUse :=
  calls.foldl (Call.useAfter (fun _ => true) buffer) .common

@[simp] theorem recordedUse_concat (buffer : BufferHandle)
    (calls : List Call) (call : Call) :
    recordedUse buffer (calls ++ [call]) =
      call.useAfter (fun _ => true) buffer (recordedUse buffer calls) := by
  simp [recordedUse]

@[simp] theorem realUse_concat (buffer : BufferHandle)
    (calls : List Call) (call : Call) :
    realUse buffer (calls ++ [call]) =
      call.useAfter Except.isOk buffer (realUse buffer calls) := by
  simp [realUse]

theorem Call.useAfter_of_idle {heard : Except DeviceFailure Unit → Bool}
    {buffer : BufferHandle} {use : BufferUse} {call : Call}
    (idle : call.isExecute = false) :
    call.useAfter heard buffer use =
      if call.madeOutput? = some buffer then .common else use := by
  unfold Call.useAfter
  split
  · rfl
  · cases call <;> first | rfl | cases idle

theorem Call.useAfter_of_execute {heard : Except DeviceFailure Unit → Bool}
    {buffer : BufferHandle} {use : BufferUse} {list : CommandList}
    {outcome : Except DeviceFailure Unit} (counts : heard outcome = true) :
    (Call.execute list outcome).useAfter heard buffer use =
      useBehind buffer use list.toList := by
  simp [Call.useAfter, Call.madeOutput?, counts]

/-! ## Barriers of a recording -/

/-- What a recording over `output`, found in the use `start`, keeps true: its
barriers are on that buffer, each names the use behind the one before, and the
scratch set knows the last one. -/
structure Recording.Chained (output : BufferHandle) (start : BufferUse)
    (recording : Recording) : Prop where
  same : recording.scratch.output = output
  use : useBehind output start recording.list.toList =
    recording.scratch.outputUse
  barriers : Throughout
    (fun front command => ∀ buffer before after,
      command = .barrier buffer before after →
        buffer = output ∧ before = useBehind output start front)
    recording.list.toList

namespace Recording.Chained

variable {output : BufferHandle} {start : BufferUse} {recording : Recording}

theorem fresh (scratch : Scratch) :
    Chained scratch.output scratch.outputUse { scratch } where
  same := rfl
  use := rfl
  barriers := .nil

theorem push (chained : Chained output start recording) {command : Command}
    (other : command.isBarrier = false) :
    Chained output start (recording.push command) where
  same := chained.same
  use := by
    have last := Command.isBarrierOn_of_not_barrier other output
    simp [Recording.push, Command.useAfter_of_other last, chained.use]
  barriers := by
    simp only [Recording.push, CommandList.toList_push]
    refine Throughout.concat_iff.mpr ⟨chained.barriers, ?_⟩
    intro buffer before after equal
    subst equal
    cases other

theorem transition (chained : Chained output start recording)
    (use : BufferUse) : Chained output start (recording.transition use) := by
  unfold Recording.transition
  simp only
  split
  · exact chained
  · refine ⟨chained.same, ?_, ?_⟩
    · simp [Command.useAfter, chained.same]
    · rw [CommandList.toList_push]
      refine Throughout.concat_iff.mpr ⟨chained.barriers, ?_⟩
      intro buffer before after equal
      cases equal
      exact ⟨chained.same, chained.use.symm⟩

theorem bindDerived (chained : Chained output start recording) (pass : Pass)
    (pipeline : PipelineHandle) :
    Chained output start (recording.bindDerived pass pipeline) := by
  rw [Recording.bindDerived]
  have bound : Chained output start
      ((recording.push (.applyState pass.state)).push (.setPipeline pipeline)) :=
    (chained.push rfl).push rfl
  cases pass.rootSignature with
  | none => exact bound
  | some signature => exact (bound.push rfl).push rfl

theorem bindOutput (chained : Chained output start recording)
    (settings : Settings) (counterOffset dataOffset : UInt64) :
    Chained output start
      (recording.bindOutput settings counterOffset dataOffset) :=
  (chained.transition .streamOut).push rfl

theorem repeatDraw (chained : Chained output start recording) (draw : Draw)
    (instances : UInt32) :
    Chained output start (recording.repeatDraw draw instances) := by
  rw [Recording.repeatDraw]
  split
  · exact chained.push rfl
  · exact chained.push rfl

theorem zeroOutput (chained : Chained output start recording) :
    Chained output start recording.zeroOutput :=
  (chained.transition .unorderedAccess).push rfl

theorem copyOut (chained : Chained output start recording) :
    Chained output start recording.copyOut :=
  (((chained.transition .copySource).push rfl).push rfl).zeroOutput

theorem pointPass (scratch : Scratch) (pass : Pass)
    (derived : PipelineHandle) (indices : Option IndexBufferRange)
    {draw : Command} (isDraw : draw.isDraw = true) :
    Chained scratch.output scratch.outputUse
      (Work.pointPass pass derived scratch indices draw) := by
  have bound := (fresh scratch).bindDerived pass derived
  have other : draw.isBarrier = false := by
    cases draw <;> first | rfl | cases isDraw
  unfold Work.pointPass
  cases indices with
  | none =>
      exact ((bound.bindOutput _ _ _).push rfl).push other
  | some range =>
      exact (((bound.push rfl).bindOutput _ _ _).push rfl).push other

theorem drawRun (chained : Chained output start recording) (pass : Pass)
    (derived : PipelineHandle) (dataOffset : UInt64) (run : List UInt32) :
    Chained output start
      (Work.drawRun pass derived dataOffset recording run) := by
  have folded {bound : Recording} (chained : Chained output start bound) :
      Chained output start
        (run.foldl (Work.drawFirst pass dataOffset) bound) := by
    induction run generalizing bound with
    | nil => exact chained
    | cons instances rest induction =>
        exact induction ((chained.bindOutput _ _ _).repeatDraw _ _)
  exact folded (chained.bindDerived pass derived)

end Recording.Chained

theorem Recorded.chained {scratch : Scratch} {before after : Option Nat}
    {recording : Recording}
    (recorded : Recorded scratch before recording after) :
    recording.Chained scratch.output scratch.outputUse := by
  have fresh := Recording.Chained.fresh scratch
  cases recorded with
  | vertices _ pass derived indices draw isDraw =>
      exact (Recording.Chained.pointPass scratch pass derived indices
        isDraw).copyOut
  | measuring _ pass derived =>
      have streaming :=
        (fresh.zeroOutput.bindDerived pass derived).bindOutput pass.settings 0
          pass.settings.counterBytes
      exact (((streaming.push rfl).repeatDraw _ _).push rfl).push rfl
  | firstInstances _ pass derived dataOffset count positive bounded =>
      exact fresh.zeroOutput.drawRun pass derived dataOffset _
  | moreInstances pass derived dataOffset done count positive bounded =>
      exact fresh.drawRun pass derived dataOffset _
  | closing => exact fresh.copyOut

/-! ## Barriers of a run -/

def ToldBarrier (earlier : List Call) (_list : CommandList)
    (front : List Command) (command : Command) : Prop :=
  ∀ buffer before after, command = .barrier buffer before after →
    before = useBehind buffer (recordedUse buffer earlier) front

structure BarriersTold (history : List Call) (scratch : Option Scratch) :
    Prop where
  tracked : ∀ current, scratch = some current →
    recordedUse current.output history = current.outputUse
  told : EveryCommand ToldBarrier history

namespace BarriersTold

variable {history : List Call} {scratch : Option Scratch}

theorem idle (before : BarriersTold history scratch) {call : Call}
    (idle : call.isExecute = false)
    (empty : call.madeOutput?.isSome = true → scratch = none) :
    BarriersTold (history ++ [call]) scratch where
  tracked := by
    intro current present
    -- An output buffer is made only while there is no scratch set.
    have other : call.madeOutput? ≠ some current.output := by
      intro made
      simp [made, present] at empty
    rw [recordedUse_concat, Call.useAfter_of_idle idle, if_neg other]
    exact before.tracked current present
  told := before.told.concat_of_not_executed (Call.executed?_of_idle idle)

theorem execute {current : Scratch} {recording : Recording}
    (before : BarriersTold history (some current))
    (chained : recording.Chained current.output current.outputUse)
    (outcome : Except DeviceFailure Unit) :
    BarriersTold (history ++ [.execute recording.list outcome])
      (some recording.scratch) where
  tracked := by
    intro after same
    cases same
    rw [recordedUse_concat, Call.useAfter_of_execute rfl, chained.same,
      before.tracked current rfl]
    exact chained.use
  told := by
    cases outcome with
    | error cause => exact before.told.concat_of_not_executed rfl
    | ok value =>
        refine before.told.concat_executed (chained.barriers.imp ?_)
        intro front command inside buffer use after equal
        rcases inside buffer use after equal with ⟨same, known⟩
        subst same
        rw [before.tracked current rfl]
        exact known

end BarriersTold

theorem recordedUse_of_madeLast {scratch : Scratch} {history : List Call}
    (last : MadeLast scratch history) :
    recordedUse scratch.output history = .common := by
  rcases last with ⟨earlier, output, staging, indexUpload, slots, rfl,
    outputAccess, stagingAccess, indexAccess⟩
  rw [recordedUse_concat, recordedUse_concat, recordedUse_concat,
    recordedUse_concat, Call.useAfter_of_idle rfl, Call.useAfter_of_idle rfl,
    Call.useAfter_of_idle rfl, Call.useAfter_of_idle rfl]
  simp [Call.madeOutput?, outputAccess, stagingAccess, indexAccess]

theorem Step.barriersTold {now next : Standing} (step : Step now next)
    (told : BarriersTold now.history now.scratch) :
    BarriersTold next.history next.scratch := by
  cases step with
  | noted call quiet =>
      apply told.idle (Call.isExecute_of_quiet quiet)
      simp [Call.madeOutput?_of_none (Call.made?_of_quiet quiet)]
  | made call resource made empty =>
      exact told.idle (Call.isExecute_of_made made) empty
  | freed call resource freed mem =>
      apply told.idle (Call.isExecute_of_freed freed)
      simp [Call.madeOutput?_of_none (Call.made?_of_freed freed)]
  | drained => exact told.idle rfl nofun
  | dismantled scratch present => exact ⟨nofun, told.told⟩
  | assembled scratch others empty unused parts last =>
      refine ⟨?_, told.told⟩
      intro current same
      cases same
      rw [recordedUse_of_madeLast last, unused]
  | denied => exact told
  | submitted scratch recording after present recorded =>
      rw [present] at told
      have synced : BarriersTold
          (now.history ++ [.execute recording.list (.ok ())] ++ [.sync])
          (some recording.scratch) :=
        (told.execute recorded.chained (.ok ())).idle rfl nofun
      rwa [List.append_assoc] at synced
  | rejected scratch recording after cause present recorded =>
      rw [present] at told
      exact told.execute recorded.chained (.error cause)
  | tallied count counted => exact told

def TrueBarrier (earlier : List Call) (_list : CommandList)
    (front : List Command) : Command → Prop
  | .barrier buffer before _ =>
      before = useBehind buffer (realUse buffer earlier) front
  | _ => True

instance (earlier : List Call) (list : CommandList) (front : List Command)
    (command : Command) : Decidable (TrueBarrier earlier list front command) := by
  unfold TrueBarrier
  split <;> infer_instance

theorem recordedUse_eq_realUse {buffer : BufferHandle} {calls : List Call}
    (accepted : ∀ list cause, .execute list (.error cause) ∉ calls) :
    recordedUse buffer calls = realUse buffer calls := by
  induction calls using List.reverseRecOn with
  | nil => rfl
  | append_singleton calls call induction =>
      have same := induction fun list cause member =>
        accepted list cause (by simp [member])
      rw [recordedUse_concat, realUse_concat, same]
      cases call with
      | execute list outcome =>
          cases outcome with
          | error cause => exact absurd (by simp) (accepted list cause)
          | ok value =>
              rw [Call.useAfter_of_execute rfl, Call.useAfter_of_execute rfl]
      | _ => rw [Call.useAfter_of_idle rfl, Call.useAfter_of_idle rfl]

/-- Every barrier of a run names the recorded use of its buffer. That is the
real one when a barrier on the buffer precedes it in its list, or when recorded
and real use agree before the list, as they do until a list is refused. In no
other case is it. -/
theorem Engine.barrier_true_iff {σ : Type} [Device σ] (device : σ)
    (settings : Settings) (operations : List Operation) :
    EveryCommand
      (fun earlier list front command => ∀ buffer before after,
        command = .barrier buffer before after →
          before = useBehind buffer (recordedUse buffer earlier) front ∧
          (TrueBarrier earlier list front command ↔
            front.any (Command.isBarrierOn buffer) = true ∨
              recordedUse buffer earlier = realUse buffer earlier) ∧
          ((∀ list cause, .execute list (.error cause) ∉ earlier) →
            TrueBarrier earlier list front command))
      ((new device settings).run operations).calls := by
  rcases run_preserves
    (fun standing => BarriersTold standing.history standing.scratch)
    (fun _ _ step => step.barriersTold) device settings operations
    ⟨nofun, .nil⟩ with ⟨_, told⟩
  refine told.told.imp ?_
  intro earlier list front command named buffer before after barrier
  have recorded := named buffer before after barrier
  subst barrier
  have iff : TrueBarrier earlier list front (.barrier buffer before after) ↔
      front.any (Command.isBarrierOn buffer) = true ∨
        recordedUse buffer earlier = realUse buffer earlier := by
    rw [TrueBarrier, recorded]
    cases any : front.any (Command.isBarrierOn buffer) with
    | true => simp [useBehind_of_any any (realUse buffer earlier)
        (recordedUse buffer earlier)]
    | false => simp [useBehind_of_none any]
  refine ⟨recorded, iff, ?_⟩
  intro accepted
  exact iff.mpr (.inr (recordedUse_eq_realUse accepted))

/-- Behind a refused list a barrier names a use that the buffer is not in. -/
theorem Engine.refused_barrier_untrue :
    ¬ EveryCommand TrueBarrier Scripted.refused.calls := by
  decide +kernel

end MeshCapture
