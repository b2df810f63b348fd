import MeshCapture.Proofs.Work.Guarantees
import MeshCapture.Proofs.Sizing.Contract
import MeshCapture.Proofs.Sizing.OutputSteps

/-! # Accesses to the scratch set

A stage reads, writes and binds parts of the scratch set at places that are told
by numbers from a draw and from the device. `StageTask.Fits` says of one call of
a stage that it stays inside the parts as they were made, and that what a list
draws has room. -/

namespace MeshCapture

variable {σ : Type}

/-! ## The set in place -/

def Call.makesReadback : Call → Bool
  | createBuffer description (.ok _) => description.heap == .readback
  | _ => false

/-- The set is the one that was made last, and with a capacity that was not
refused. -/
structure Scratch.InPlace (settings : Settings) (history : List Call)
    (scratch : Scratch) : Prop where
  proportioned : scratch.Proportioned settings
  made : ∃ earlier later,
    history = earlier ++ scratch.creations settings ++ later ∧
      ∀ call ∈ later, call.makesReadback = false

theorem Scratch.InPlace.reused {settings : Settings} {history : List Call}
    {scratch : Scratch} (stands : scratch.InPlace settings history)
    (use : BufferUse) :
    InPlace settings history { scratch with outputUse := use } :=
  ⟨⟨stands.proportioned.positive, stands.proportioned.accepted⟩, stands.made⟩

theorem Scratch.InPlace.behind {settings : Settings} {history : List Call}
    {scratch : Scratch} (stands : scratch.InPlace settings history)
    {calls : List Call}
    (others : ∀ call ∈ calls, call.makesReadback = false) :
    scratch.InPlace settings (history ++ calls) := by
  obtain ⟨earlier, later, made, after⟩ := stands.made
  refine ⟨stands.proportioned, earlier, later ++ calls, ?_,
    List.forall_mem_append.mpr ⟨after, others⟩⟩
  rw [made, List.append_assoc]

def Scratch.outputSize (settings : Settings) (scratch : Scratch) : Nat :=
  (outputBytes settings scratch.capacity).toNat

theorem Scratch.room_behind (settings : Settings) (scratch : Scratch)
    (dataOffset : UInt64) :
    (scratch.room settings dataOffset).toNat =
      scratch.outputSize settings - dataOffset.toNat :=
  toNat_saturatingSub _ _

theorem Scratch.Proportioned.outputSize_eq {settings : Settings}
    {scratch : Scratch} (sound : settings.Sound)
    (proportioned : scratch.Proportioned settings) :
    scratch.outputSize settings =
      scratch.capacity.toNat + settings.counterBytes.toNat :=
  sound.toNat_outputBytes proportioned.accepted

structure Scratch.Offers (settings : Settings) (required : UInt64)
    (scratch : Scratch) : Prop where
  proportioned : scratch.Proportioned settings
  enough : required.toNat ≤ scratch.capacity.toNat

def Workspace.Settled (settings : Settings) (workspace : Workspace σ) : Prop :=
  ∀ scratch, workspace.scratch = some scratch →
    scratch.InPlace settings workspace.history

theorem Workspace.Settled.adds {settings : Settings}
    {before after : Workspace σ} (settled : before.Settled settings)
    {call : Call} (adds : before.Adds [call] after)
    (others : call.makesReadback = false) : after.Settled settings := by
  intro scratch present
  rw [adds.history]
  exact (settled scratch (adds.scratch.symm.trans present)).behind
    (List.forall_mem_singleton.mpr others)

/-! ## Lists -/

/-- What the command does to parts of the set stays inside of them. A copy is
as large as its source, and the two buffers it is made between are of one
size. -/
def Command.Inside (settings : Settings) (scratch : Scratch) : Command → Prop
  | setOutputTarget target =>
      target.buffer = scratch.output ∧
        target.counterOffset.toNat + 8 ≤ target.dataOffset.toNat ∧
        target.dataOffset.toNat + target.size.toNat ≤
          scratch.outputSize settings
  | setIndexBuffer range =>
      range.buffer = scratch.indexUpload ∧
        range.offset.toNat + range.size.toNat ≤
          (Scratch.indexBytes scratch.capacity).toNat
  | resolveQuery _ _ target offset =>
      target = scratch.staging ∧
        offset.toNat + StreamOut.Statistics.byteSize ≤
          scratch.outputSize settings
  | copyBuffer target source =>
      target = scratch.staging ∧ source = scratch.output
  | discard buffer | clear buffer => buffer = scratch.output
  | _ => True

def CommandList.Measures (list : CommandList) : Prop :=
  ∃ heap slot, .beginQuery heap slot ∈ list.toList

def LastRead (history : List Call) (bytes : ByteArray) : Prop :=
  ∃ earlier buffer offset length later,
    history = earlier ++ .readBuffer buffer offset length (.ok bytes) :: later ∧
      ∀ call ∈ later, call.isRead = false

/-- The statistics that were read last tell this need for room, with `stride`
bytes to a vertex. -/
def Needs (stride : UInt32) (history : List Call) (bytes : Nat) : Prop :=
  ∃ read statistics, LastRead history read ∧
    StreamOut.Statistics.decode read = some statistics ∧
    bytes = 3 * stride.toNat * statistics.primitivesNeeded.toNat

theorem Needs.behind {stride : UInt32} {history calls : List Call}
    {bytes : Nat} (needs : Needs stride history bytes)
    (others : ∀ call ∈ calls, call.isRead = false) :
    Needs stride (history ++ calls) bytes := by
  obtain ⟨read, statistics, ⟨earlier, buffer, offset, length, later, whole,
    after⟩, decoded, same⟩ := needs
  refine ⟨read, statistics, ⟨earlier, buffer, offset, length, later ++ calls,
    ?_, List.forall_mem_append.mpr ⟨after, others⟩⟩, decoded, same⟩
  rw [whole, List.append_assoc]
  rfl

/-! ## Calls of a stage -/

structure StageTask where
  pass : Pass
  stage : Stage
  stride : UInt32

namespace StageTask

/-- There is room for what a draw writes. The vertex stage draws every vertex
once, and in its own list of indices every index. The post stage measures, or it
has a need that is known. -/
def HasRoom (task : StageTask) (known : Nat → Prop) (list : CommandList)
    (command : Command) (bound : Bindings) : Prop :=
  ∃ target, bound.target = some target ∧
    match task.stage with
    | .vertex =>
        command.elementCount * command.instanceCount * task.stride.toNat ≤
            target.size.toNat ∧
          ∀ range, bound.indices = some range →
            4 * command.elementCount ≤ range.size.toNat
    | .post =>
        list.Measures ∨ ∃ need, known need ∧ need ≤ target.size.toNat

/-- The call stays inside the scratch set in place. Other than that, the vertex
stage reads the bound index buffer, and both stages fill upload buffers that
were just made for the bytes. -/
def Fits (task : StageTask) (earlier : List Call) : Call → Prop
  | .readBuffer buffer offset length _ =>
      (∃ scratch : Scratch, scratch.InPlace task.pass.settings earlier ∧
          buffer = scratch.staging ∧
          offset.toNat + length.toNat ≤
            scratch.outputSize task.pass.settings) ∨
        task.stage = .vertex ∧ ∃ range,
          task.pass.state.indexBuffer = some range ∧ buffer = range.buffer
  | .writeBuffer buffer offset data _ =>
      (∃ scratch : Scratch, scratch.InPlace task.pass.settings earlier ∧
          buffer = scratch.indexUpload ∧
          offset.toNat + data.size ≤
            (Scratch.indexBytes scratch.capacity).toNat) ∨
        ∃ front label,
          earlier = front ++ [.createBuffer
              { label, size := UInt64.ofNat data.size, heap := .upload }
              (.ok buffer)] ∧
            offset = 0
  | .execute list _ =>
      ∃ scratch : Scratch, scratch.InPlace task.pass.settings earlier ∧
        (∀ command ∈ list.toList,
          command.Inside task.pass.settings scratch) ∧
        ∀ command bound, .drawn command bound ∈ list.outputSteps →
          task.HasRoom (Needs task.stride earlier) list command bound
  | _ => True

end StageTask

/-- A read inside the staging buffer gives all bytes that were asked for. -/
def Served (settings : Settings) (earlier : List Call) : Call → Prop
  | .readBuffer buffer offset length outcome =>
      ∀ scratch : Scratch, scratch.InPlace settings earlier →
        buffer = scratch.staging →
        offset.toNat + length.toNat ≤ scratch.outputSize settings →
        ∃ bytes, outcome = .ok bytes ∧ bytes.size = length.toNat
  | _ => True

def CaptureFailure.isUnread : CaptureFailure → Bool
  | statistics _ | vertexReadback | postStageReadback => true
  | _ => false

/-! ## The state of a stage -/

namespace StageTask

variable {task : StageTask} {start now later : Workspace σ}
  {need : Option Nat} {scratch : Scratch}

structure Kept (task : StageTask) (start now : Workspace σ) : Prop where
  fits : ∃ made, now.history = start.history ++ made ∧
    Throughout (fun earlier => task.Fits (start.history ++ earlier)) made
  settled : now.Settled task.pass.settings

def Knows (task : StageTask) (need : Option Nat) (now : Workspace σ) : Prop :=
  ∀ bytes ∈ need, Needs task.stride now.history bytes

structure Holds (task : StageTask) (start : Workspace σ) (need : Option Nat)
    (scratch : Scratch) (now : Workspace σ) : Prop where
  kept : task.Kept start now
  knows : task.Knows need now
  present : ∃ use, now.scratch = some { scratch with outputUse := use }

structure Stops (task : StageTask) (start : Workspace σ)
    (cause : CaptureFailure) (now : Workspace σ) : Prop where
  kept : task.Kept start now
  unserved : cause.isUnread = true →
    ¬ Throughout (Served task.pass.settings) now.history

theorem Kept.refl (settled : start.Settled task.pass.settings) :
    task.Kept start start :=
  ⟨⟨[], (List.append_nil _).symm, .nil⟩, settled⟩

theorem Kept.stops (kept : task.Kept start now) {cause : CaptureFailure}
    (harmless : cause.isUnread = false) : task.Stops start cause now :=
  ⟨kept, fun unread => nomatch harmless.symm.trans unread⟩

theorem Holds.forget (holds : task.Holds start need scratch now) :
    task.Holds start none scratch now :=
  ⟨holds.kept, nofun, holds.present⟩

theorem Holds.inPlace (holds : task.Holds start need scratch now) :
    scratch.InPlace task.pass.settings now.history := by
  obtain ⟨use, present⟩ := holds.present
  exact (holds.kept.settled _ present).reused scratch.outputUse

theorem Holds.reused (holds : task.Holds start need scratch now)
    (use : BufferUse) :
    task.Holds start need { scratch with outputUse := use } now :=
  ⟨holds.kept, holds.knows, holds.present⟩

theorem Kept.behind (kept : task.Kept start now) {calls : List Call}
    (history : later.history = now.history ++ calls)
    (fits : Throughout (fun earlier => task.Fits (now.history ++ earlier))
      calls)
    (settled : later.Settled task.pass.settings) : task.Kept start later := by
  obtain ⟨made, reached, before⟩ := kept.fits
  refine ⟨⟨made ++ calls, ?_, ?_⟩, settled⟩
  · rw [history, reached, List.append_assoc]
  · refine before.append (fits.imp fun earlier call fit => ?_)
    rwa [reached, List.append_assoc] at fit

theorem Knows.behind (knows : task.Knows need now) {calls : List Call}
    (history : later.history = now.history ++ calls)
    (unread : ∀ call ∈ calls, call.isRead = false) :
    task.Knows need later := by
  intro bytes known
  rw [history]
  exact (knows bytes known).behind unread

theorem Kept.adds (kept : task.Kept start now) {call : Call}
    (adds : now.Adds [call] later) (fits : task.Fits now.history call)
    (others : call.makesReadback = false) : task.Kept start later := by
  refine kept.behind adds.history ?_ (kept.settled.adds adds others)
  refine Throughout.concat_iff.mpr ⟨.nil, ?_⟩
  rwa [List.append_nil]

theorem Stops.adds {cause : CaptureFailure} (stops : task.Stops start cause now)
    {call : Call} (adds : now.Adds [call] later)
    (fits : task.Fits now.history call) (others : call.makesReadback = false) :
    task.Stops start cause later := by
  refine ⟨stops.kept.adds adds fits others, fun unread served => ?_⟩
  rw [adds.history] at served
  exact stops.unserved unread served.of_append

end StageTask

end MeshCapture
