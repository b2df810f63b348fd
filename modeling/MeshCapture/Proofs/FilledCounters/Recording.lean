import MeshCapture.Proofs.FilledCounters.Basic

/-! # Counters of a recording

Each command that a recording gains moves its progress on: the bound counter,
the filled ones, and whether anything was streamed out or copied. Of a whole
recording the progress tells which of its draws may find a filled counter. -/

namespace MeshCapture

/-! ## Progress -/

def Command.isPlain : Command → Bool
  | .setOutputTarget _ | .clear _ | .copyBuffer .. => false
  | command => !command.isDraw

theorem Command.isDraw_of_plain {command : Command}
    (plain : command.isPlain = true) : command.isDraw = false := by
  cases command <;> first | rfl | cases plain

namespace Filling

theorem after_of_plain {command : Command} (plain : command.isPlain = true)
    (filling : Filling) : filling.after command = filling := by
  cases command <;> first | rfl | cases plain

theorem after_of_draw {command : Command} (isDraw : command.isDraw = true)
    (filling : Filling) :
    filling.after command =
      { filling with
        filled := (filling.bound.map OutputTarget.counter).toList ++
          filling.filled } := by
  cases command <;> first | rfl | cases isDraw

end Filling

namespace CommandList

theorem streamsInto_push (list : CommandList) (command : Command)
    (buffer : BufferHandle) :
    (list.push command).streamsInto buffer ↔
      list.streamsInto buffer ∨
        ∃ target, .setOutputTarget target = command ∧
          target.buffer = buffer := by
  simp [streamsInto, or_and_right, exists_or]

theorem streamsInto_push_of_other (list : CommandList) {command : Command}
    (other : ∀ target, .setOutputTarget target ≠ command)
    (buffer : BufferHandle) :
    (list.push command).streamsInto buffer ↔ list.streamsInto buffer := by
  rw [streamsInto_push]
  apply or_iff_left
  rintro ⟨target, equal, _⟩
  exact other target equal

theorem copiesOut_push (list : CommandList) (command : Command)
    (buffer : BufferHandle) :
    (list.push command).copiesOut buffer ↔
      list.copiesOut buffer ∨
        ∃ target, .copyBuffer target buffer = command := by
  simp [copiesOut, exists_or]

theorem copiesOut_push_of_other (list : CommandList) {command : Command}
    (other : ∀ target source, .copyBuffer target source ≠ command)
    (buffer : BufferHandle) :
    (list.push command).copiesOut buffer ↔ list.copiesOut buffer := by
  rw [copiesOut_push]
  apply or_iff_left
  rintro ⟨target, equal⟩
  exact other target buffer equal

end CommandList

structure Progress where
  counter? : Option Counter := none
  filled : Counter → Prop
  streamed : Prop := False
  copied : Prop := False

/-- A recording over `output` makes `progress` when it is executed with the
counters of `start` filled. Its draws count at a counter that is bound by then,
and that one is filled before just if `stale`. -/
structure Recording.Makes (stale : Prop) (output : BufferHandle)
    (start : List Counter) (recording : Recording) (progress : Progress) :
    Prop where
  same : recording.scratch.output = output
  counter : (fillingBehind start recording.list.toList).bound.map
    OutputTarget.counter = progress.counter?
  filled : ∀ counter,
    counter ∈ (fillingBehind start recording.list.toList).filled ↔
      progress.filled counter
  streamed : ∀ buffer,
    recording.list.streamsInto buffer ↔ progress.streamed ∧ buffer = output
  copied : ∀ buffer,
    recording.list.copiesOut buffer ↔ progress.copied ∧ buffer = output
  draws : Throughout
    (fun front command => command.isDraw = true →
      ∃ target, (fillingBehind start front).bound = some target ∧
        target.buffer = output ∧
        (target.counter ∈ (fillingBehind start front).filled ↔ stale))
    recording.list.toList

namespace Recording.Makes

variable {stale : Prop} {output : BufferHandle} {start : List Counter}
  {recording : Recording} {progress : Progress}

theorem fresh (stale : Prop) (start : List Counter) (scratch : Scratch) :
    Makes stale scratch.output start { scratch }
      { filled := fun counter => counter ∈ start } where
  same := rfl
  counter := rfl
  filled := fun _ => Iff.rfl
  streamed := by simp [CommandList.streamsInto, CommandList.toList]
  copied := by simp [CommandList.copiesOut, CommandList.toList]
  draws := .nil

theorem congr (makes : Makes stale output start recording progress)
    {next : Progress} (counter : progress.counter? = next.counter?)
    (filled : ∀ counter, progress.filled counter ↔ next.filled counter)
    (streamed : progress.streamed ↔ next.streamed)
    (copied : progress.copied ↔ next.copied) :
    Makes stale output start recording next where
  same := makes.same
  counter := makes.counter.trans counter
  filled := fun counter => (makes.filled counter).trans (filled counter)
  streamed := fun buffer =>
    (makes.streamed buffer).trans (and_congr_left' streamed)
  copied := fun buffer => (makes.copied buffer).trans (and_congr_left' copied)
  draws := makes.draws

theorem plain (makes : Makes stale output start recording progress)
    {command : Command} (plain : command.isPlain = true) :
    Makes stale output start (recording.push command) progress where
  same := makes.same
  counter := by
    simp [push, Filling.after_of_plain plain, makes.counter]
  filled := by
    simp [push, Filling.after_of_plain plain, makes.filled]
  streamed := by
    intro buffer
    rw [push, CommandList.streamsInto_push_of_other, makes.streamed]
    rintro target rfl
    cases plain
  copied := by
    intro buffer
    rw [push, CommandList.copiesOut_push_of_other, makes.copied]
    rintro target source rfl
    cases plain
  draws := by
    rw [push, CommandList.toList_push]
    refine Throughout.concat_iff.mpr ⟨makes.draws, ?_⟩
    simp [Command.isDraw_of_plain plain]

theorem bind (makes : Makes stale output start recording progress)
    {target : OutputTarget} {offset : UInt64}
    (counter : target.counter = (output, offset)) :
    Makes stale output start (recording.push (.setOutputTarget target))
      { progress with
        counter? := some (output, offset), streamed := True } where
  same := makes.same
  counter := by simp [push, Filling.after, counter]
  filled := by simp [push, Filling.after, makes.filled]
  streamed := by
    intro buffer
    have same : target.buffer = output := congrArg Prod.fst counter
    rw [push, CommandList.streamsInto_push, makes.streamed]
    constructor
    · rintro (⟨_, equal⟩ | ⟨other, equal, into⟩)
      · exact ⟨trivial, equal⟩
      · cases equal
        exact ⟨trivial, into.symm.trans same⟩
    · rintro ⟨_, rfl⟩
      exact .inr ⟨target, rfl, same⟩
  copied := by
    intro buffer
    rw [push, CommandList.copiesOut_push_of_other, makes.copied]
    exact nofun
  draws := by
    rw [push, CommandList.toList_push]
    exact Throughout.concat_iff.mpr ⟨makes.draws, nofun⟩

theorem draw (makes : Makes stale output start recording progress)
    {command : Command} (isDraw : command.isDraw = true) {offset : UInt64}
    (bound : progress.counter? = some (output, offset))
    (known : progress.filled (output, offset) ↔ stale) :
    Makes stale output start (recording.push command)
      { progress with
        filled := fun counter =>
          counter = (output, offset) ∨ progress.filled counter } where
  same := makes.same
  counter := by
    simp [push, Filling.after_of_draw isDraw, makes.counter]
  filled := by
    intro counter
    simp [push, Filling.after_of_draw isDraw, makes.counter, bound,
      makes.filled]
  streamed := by
    intro buffer
    rw [push, CommandList.streamsInto_push_of_other, makes.streamed]
    rintro target rfl
    cases isDraw
  copied := by
    intro buffer
    rw [push, CommandList.copiesOut_push_of_other, makes.copied]
    rintro target source rfl
    cases isDraw
  draws := by
    rw [push, CommandList.toList_push]
    refine Throughout.concat_iff.mpr ⟨makes.draws, ?_⟩
    intro _
    rcases Option.map_eq_some_iff.mp (makes.counter.trans bound) with
      ⟨target, present, equal⟩
    refine ⟨target, present, congrArg Prod.fst equal, ?_⟩
    rw [equal, makes.filled]
    exact known

theorem clear (makes : Makes stale output start recording progress)
    {buffer : BufferHandle} (whole : buffer = output) :
    Makes stale output start (recording.push (.clear buffer))
      { progress with
        filled := fun counter =>
          progress.filled counter ∧ counter.1 ≠ output } where
  same := makes.same
  counter := by simp [push, Filling.after, makes.counter]
  filled := by simp [push, Filling.after, makes.filled, whole]
  streamed := by
    intro buffer
    rw [push, CommandList.streamsInto_push_of_other, makes.streamed]
    exact nofun
  copied := by
    intro buffer
    rw [push, CommandList.copiesOut_push_of_other, makes.copied]
    exact nofun
  draws := by
    rw [push, CommandList.toList_push]
    exact Throughout.concat_iff.mpr ⟨makes.draws, nofun⟩

theorem copy (makes : Makes stale output start recording progress)
    {source : BufferHandle} (target : BufferHandle)
    (whole : source = output) :
    Makes stale output start (recording.push (.copyBuffer target source))
      { progress with copied := True } where
  same := makes.same
  counter := by simp [push, Filling.after, Command.isDraw, makes.counter]
  filled := by simp [push, Filling.after, Command.isDraw, makes.filled]
  streamed := by
    intro buffer
    rw [push, CommandList.streamsInto_push_of_other, makes.streamed]
    exact nofun
  copied := by
    intro buffer
    rw [push, CommandList.copiesOut_push, makes.copied]
    constructor
    · rintro (⟨_, equal⟩ | ⟨other, equal⟩)
      · exact ⟨trivial, equal⟩
      · cases equal
        exact ⟨trivial, whole⟩
    · rintro ⟨_, rfl⟩
      exact .inr ⟨target, whole ▸ rfl⟩
  draws := by
    rw [push, CommandList.toList_push]
    exact Throughout.concat_iff.mpr ⟨makes.draws, nofun⟩

theorem transition (makes : Makes stale output start recording progress)
    (use : BufferUse) :
    Makes stale output start (recording.transition use) progress := by
  unfold Recording.transition
  simp only
  split
  · exact makes
  · have barrier : Makes stale output start
        (recording.push (.barrier recording.scratch.output
          recording.scratch.outputUse use)) progress :=
      makes.plain rfl
    exact { barrier with same := makes.same }

theorem bindDerived (makes : Makes stale output start recording progress)
    (pass : Pass) (pipeline : PipelineHandle) :
    Makes stale output start (recording.bindDerived pass pipeline)
      progress := by
  have bound : Makes stale output start
      ((recording.push (.applyState pass.state)).push (.setPipeline pipeline))
      progress :=
    (makes.plain rfl).plain rfl
  rw [Recording.bindDerived]
  cases pass.rootSignature with
  | none => exact bound
  | some signature => exact (bound.plain rfl).plain rfl

theorem bindOutput (makes : Makes stale output start recording progress)
    (settings : Settings) (counterOffset dataOffset : UInt64) :
    Makes stale output start
      (recording.bindOutput settings counterOffset dataOffset)
      { progress with
        counter? := some (output, counterOffset), streamed := True } :=
  have ready := makes.transition .streamOut
  ready.bind (Prod.ext ready.same rfl)

theorem repeatDraw (makes : Makes stale output start recording progress)
    (draw : Draw) (instances : UInt32) {offset : UInt64}
    (bound : progress.counter? = some (output, offset))
    (known : progress.filled (output, offset) ↔ stale) :
    Makes stale output start (recording.repeatDraw draw instances)
      { progress with
        filled := fun counter =>
          counter = (output, offset) ∨ progress.filled counter } := by
  rw [Recording.repeatDraw]
  split
  · exact makes.draw rfl bound known
  · exact makes.draw rfl bound known

theorem zeroOutput (makes : Makes stale output start recording progress) :
    Makes stale output start recording.zeroOutput
      { progress with
        filled := fun counter =>
          progress.filled counter ∧ counter.1 ≠ output } :=
  have ready := makes.transition .unorderedAccess
  ready.clear ready.same

theorem copyOut (makes : Makes stale output start recording progress) :
    Makes stale output start recording.copyOut
      { progress with
        filled := fun counter =>
          progress.filled counter ∧ counter.1 ≠ output
        copied := True } :=
  have ready := makes.transition .copySource
  ((ready.copy _ ready.same).plain rfl).zeroOutput

theorem pointPass (scratch : Scratch) (pass : Pass)
    (derived : PipelineHandle) (indices : Option IndexBufferRange)
    {draw : Command} (isDraw : draw.isDraw = true) :
    Makes ((scratch.output, 0) ∈ start) scratch.output start
      (Work.pointPass pass derived scratch indices draw)
      { counter? := some (scratch.output, 0)
        filled := fun counter =>
          counter = (scratch.output, 0) ∨ counter ∈ start
        streamed := True } := by
  have bound := (fresh ((scratch.output, 0) ∈ start) start
    scratch).bindDerived pass derived
  unfold Work.pointPass
  cases indices with
  | none =>
      exact ((bound.bindOutput _ _ _).plain rfl).draw isDraw rfl Iff.rfl
  | some range =>
      exact (((bound.plain rfl).bindOutput _ _ _).plain rfl).draw isDraw rfl
        Iff.rfl

theorem measuringPass (scratch : Scratch) (pass : Pass)
    (derived : PipelineHandle) :
    Makes False scratch.output start
      (Work.measuringPass pass derived scratch)
      { counter? := some (scratch.output, 0)
        filled := fun counter =>
          counter = (scratch.output, 0) ∨
            counter ∈ start ∧ counter.1 ≠ scratch.output
        streamed := True } := by
  have zeroed := (fresh False start scratch).zeroOutput
  have streaming := (zeroed.bindDerived pass derived).bindOutput pass.settings
    0 pass.settings.counterBytes
  exact (((streaming.plain rfl).repeatDraw pass.draw _ rfl
    (by simp)).plain rfl).plain rfl

end Recording.Makes

/-! ## Runs of instances -/

def counterSlot (index : Nat) : UInt64 :=
  UInt64.ofNat (8 * index)

theorem counterSlot_inj {left right : Nat} (leftSmall : left < 2 ^ 32)
    (rightSmall : right < 2 ^ 32)
    (equal : counterSlot left = counterSlot right) : left = right := by
  have same := congrArg UInt64.toNat equal
  simp only [counterSlot, UInt64.toNat_ofNat'] at same
  omega

theorem counterOffset_eq_slot {index : Nat} (small : index + 1 < 2 ^ 32) :
    (UInt32.ofNat (index + 1) - 1).toUInt64 * Work.counterSize =
      counterSlot index := by
  apply UInt64.toNat_inj.mp
  have one : (1 : UInt32) ≤ UInt32.ofNat (index + 1) := by
    rw [UInt32.le_iff_toNat_le, UInt32.toNat_ofNat_of_lt' small]
    simp
  rw [UInt64.toNat_mul, UInt32.toNat_toUInt64, UInt32.toNat_sub_of_le _ _ one,
    UInt32.toNat_ofNat_of_lt' small]
  simp only [counterSlot, Work.counterSize, UInt64.toNat_ofNat',
    UInt32.toNat_one, UInt64.reduceToNat]
  omega

theorem instancesFrom_succ (first count : Nat) :
    instancesFrom first (count + 1) =
      UInt32.ofNat (first + 1) :: instancesFrom (first + 1) count := by
  simp [instancesFrom, List.range'_succ]

theorem Recording.Makes.drawInstances {output : BufferHandle}
    {start : List Counter} {recording : Recording} {progress : Progress}
    (pass : Pass) (dataOffset : UInt64) {done count : Nat}
    (bounded : done + count < 2 ^ 32)
    (makes : Makes False output start recording progress)
    (filled : ∀ offset, progress.filled (output, offset) →
      ∃ index < done, offset = counterSlot index) :
    ∃ counter?, Makes False output start
      ((instancesFrom done count).foldl (Work.drawFirst pass dataOffset)
        recording)
      { progress with
        counter?
        filled := fun counter => progress.filled counter ∨
          ∃ index, done ≤ index ∧ index < done + count ∧
            counter = (output, counterSlot index)
        streamed := progress.streamed ∨ 0 < count } := by
  induction count generalizing done recording progress with
  | zero =>
      refine ⟨progress.counter?, makes.congr rfl ?_ ?_ Iff.rfl⟩
      · intro counter
        refine (or_iff_left ?_).symm
        rintro ⟨index, least, less, _⟩
        omega
      · simp
  | succ count induction =>
      have bound :=
        makes.bindOutput pass.settings (counterSlot done) dataOffset
      -- Only slots of earlier instances are filled.
      have unused : progress.filled (output, counterSlot done) ↔ False := by
        refine iff_false_intro fun used => ?_
        rcases filled _ used with ⟨index, less, equal⟩
        have same := counterSlot_inj (by omega) (by omega) equal
        omega
      have drawn := bound.repeatDraw pass.draw (UInt32.ofNat (done + 1)) rfl
        unused
      have next (offset : UInt64)
          (used : (output, offset) = (output, counterSlot done) ∨
            progress.filled (output, offset)) :
          ∃ index < done + 1, offset = counterSlot index := by
        rcases used with equal | used
        · exact ⟨done, by omega, congrArg Prod.snd equal⟩
        · rcases filled offset used with ⟨index, less, equal⟩
          exact ⟨index, by omega, equal⟩
      rcases induction (by omega) drawn next with ⟨counter?, rest⟩
      refine ⟨counter?, ?_⟩
      rw [instancesFrom_succ, List.foldl_cons, Work.drawFirst,
        counterOffset_eq_slot (by omega)]
      refine rest.congr rfl ?_ ?_ Iff.rfl
      · intro counter
        constructor
        · rintro ((equal | used) | ⟨index, least, less, equal⟩)
          · exact .inr ⟨done, by omega, by omega, equal⟩
          · exact .inl used
          · exact .inr ⟨index, by omega, by omega, equal⟩
        · rintro (used | ⟨index, least, less, equal⟩)
          · exact .inl (.inr used)
          · by_cases first : index = done
            · exact .inl (.inl (first ▸ equal))
            · exact .inr ⟨index, by omega, by omega, equal⟩
      · simp

/-! ## Executed recordings -/

/-- The first `count` slots of the buffer are filled, and nothing else of it,
while that many instances have been drawn one by one. -/
def SlotsFilled (output : BufferHandle) (filled : Counter → Prop)
    (drawn : Option Nat) : Prop :=
  ∀ count ∈ drawn, 0 < count ∧ ∀ offset,
    filled (output, offset) ↔ ∃ index < count, offset = counterSlot index

theorem SlotsFilled.zero {output : BufferHandle} {filled : Counter → Prop}
    {count : Nat} (slots : SlotsFilled output filled (some count)) :
    filled (output, 0) := by
  rcases slots count rfl with ⟨positive, known⟩
  exact (known 0).mpr ⟨0, positive, rfl⟩

structure Progress.Complete (output : BufferHandle) (start : List Counter)
    (after : Option Nat) (progress : Progress) : Prop where
  others : ∀ counter : Counter, counter.1 ≠ output →
    (progress.filled counter ↔ counter ∈ start)
  first : progress.filled (output, 0) ↔ progress.streamed ∧ ¬ progress.copied
  lowest : ∀ offset,
    progress.filled (output, offset) → progress.filled (output, 0)
  moves : progress.streamed ∨ progress.copied
  slots : SlotsFilled output progress.filled after

structure Progress.Begun (output : BufferHandle) (start : List Counter)
    (done : Nat) (progress : Progress) : Prop where
  others : ∀ counter : Counter, counter.1 ≠ output →
    (progress.filled counter ↔ counter ∈ start)
  known : ∀ offset, progress.filled (output, offset) ↔
    ∃ index < done, offset = counterSlot index
  uncopied : ¬ progress.copied

namespace Recording

def Counts (output : BufferHandle) (start : List Counter)
    (after : Option Nat) (recording : Recording) : Prop :=
  ∃ stale progress, recording.Makes stale output start progress ∧
    progress.Complete output start after ∧
    (stale ↔ progress.copied ∧ (output, 0) ∈ start)

namespace Counts

variable {start : List Counter} {after : Option Nat}

theorem vertices (scratch : Scratch) (pass : Pass) (derived : PipelineHandle)
    (indices : Option IndexBufferRange) {draw : Command}
    (isDraw : draw.isDraw = true) :
    Counts scratch.output start none
      (Work.pointPass pass derived scratch indices draw).copyOut := by
  refine ⟨_, _, (Makes.pointPass scratch pass derived indices isDraw).copyOut,
    ⟨?others, by simp, by simp, .inr trivial, nofun⟩, by simp⟩
  intro counter other
  constructor
  · rintro ⟨rfl | member, _⟩
    · exact absurd rfl other
    · exact member
  · exact fun member => ⟨.inr member, other⟩

theorem measuring (scratch : Scratch) (pass : Pass)
    (derived : PipelineHandle) :
    Counts scratch.output start none
      (Work.measuringPass pass derived scratch) := by
  refine ⟨_, _, Makes.measuringPass scratch pass derived,
    ⟨?others, by simp, by simp, .inl trivial, nofun⟩, by simp⟩
  intro counter other
  constructor
  · rintro (rfl | ⟨member, _⟩)
    · exact absurd rfl other
    · exact member
  · exact fun member => .inr ⟨member, other⟩

theorem closing (scratch : Scratch) :
    Counts scratch.output start none (copyOut { scratch }) := by
  refine ⟨(scratch.output, 0) ∈ start, _, (Makes.fresh _ start scratch).copyOut,
    ⟨?others, by simp, by simp, .inr trivial, nofun⟩, by simp⟩
  exact fun counter other => and_iff_left other

theorem drawRun {output : BufferHandle} {recording : Recording}
    {progress : Progress} (makes : Makes False output start recording progress)
    (pass : Pass) (derived : PipelineHandle) (dataOffset : UInt64)
    {done count : Nat} (begun : progress.Begun output start done)
    (positive : 0 < count) (bounded : done + count < 2 ^ 32) :
    Counts output start (some (done + count))
      (Work.drawRun pass derived dataOffset recording
        (instancesFrom done count)) := by
  rcases (makes.bindDerived pass derived).drawInstances pass dataOffset bounded
    (fun offset => (begun.known offset).mp) with ⟨counter?, drawn⟩
  have slots : SlotsFilled output
      (fun counter => progress.filled counter ∨
        ∃ index, done ≤ index ∧ index < done + count ∧
          counter = (output, counterSlot index))
      (some (done + count)) := by
    intro total same
    cases same
    refine ⟨by omega, fun offset => ?_⟩
    constructor
    · rintro (used | ⟨index, _, less, equal⟩)
      · rcases (begun.known offset).mp used with ⟨index, less, equal⟩
        exact ⟨index, by omega, equal⟩
      · exact ⟨index, less, congrArg Prod.snd equal⟩
    · rintro ⟨index, less, rfl⟩
      by_cases early : index < done
      · exact .inl ((begun.known _).mpr ⟨index, early, rfl⟩)
      · exact .inr ⟨index, by omega, less, rfl⟩
  have streamed : progress.streamed ∨ 0 < count := .inr positive
  refine ⟨_, _, drawn, ⟨?others, ?first, fun _ _ => slots.zero, .inl streamed,
    slots⟩, ?stale⟩
  case others =>
    intro counter other
    rw [← begun.others counter other]
    refine or_iff_left ?_
    rintro ⟨index, _, _, rfl⟩
    exact other rfl
  case first =>
    exact iff_of_true slots.zero ⟨streamed, begun.uncopied⟩
  case stale =>
    exact iff_of_false not_false fun ⟨copied, _⟩ => begun.uncopied copied

end Counts

end Recording

/-- Only the draw of a recording that copies out may find a filled counter, and
it does if the first counter of the buffer was. -/
theorem Recorded.counts {scratch : Scratch} {before after : Option Nat}
    {recording : Recording} {start : List Counter}
    (recorded : Recorded scratch before recording after)
    (slots : SlotsFilled scratch.output (· ∈ start) before) :
    recording.Counts scratch.output start after := by
  have fresh := Recording.Makes.fresh False start scratch
  cases recorded with
  | vertices _ pass derived indices draw isDraw =>
      exact .vertices scratch pass derived indices isDraw
  | measuring _ pass derived => exact .measuring scratch pass derived
  | firstInstances _ pass derived dataOffset count positive bounded =>
      rw [← Nat.zero_add count] at bounded
      have run := Recording.Counts.drawRun fresh.zeroOutput pass derived
        dataOffset
        ⟨fun counter other => and_iff_left other, by simp, not_false⟩
        positive bounded
      rwa [Nat.zero_add] at run
  | moreInstances pass derived dataOffset done count positive bounded =>
      exact .drawRun fresh pass derived dataOffset
        ⟨fun _ _ => Iff.rfl, (slots done rfl).2, not_false⟩ positive bounded
  | closing => exact .closing scratch

end MeshCapture
