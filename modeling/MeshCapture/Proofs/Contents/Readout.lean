import MeshCapture.Proofs.Contents.Basic
import MeshCapture.Proofs.Contents.StageCapture

/-! # Reading out

A stage ends with a copy of the output buffer that is read piece by piece and
stored. What is read and stored is the copy as it was when it was made, because
the commands and calls behind it write elsewhere. -/

namespace MeshCapture

variable {σ ε α : Type}

theorem Throughout.of_prefix {check : List α → α → Prop}
    {front history : List α} (holds : Throughout check history)
    (inside : front <+: history) : Throughout check front := by
  rcases inside with ⟨more, rfl⟩
  exact holds.of_append

/-! ## One call -/

namespace Workspace.Adds

variable {before after : Workspace σ} {contents : Contents} {call : Call}

theorem history_prefix {made : List Call} (adds : before.Adds made after) :
    before.history <+: after.history :=
  ⟨made, adds.history.symm⟩

theorem explains (adds : before.Adds [call] after)
    (faithful : contents.Faithful after.history) :
    contents.Explains before.history call := by
  rw [adds.history] at faithful
  exact (Throughout.concat_iff.mp faithful).2

theorem contents_eq (adds : before.Adds [call] after)
    (faithful : contents.Faithful after.history) {buffer : BufferHandle}
    (idle : call.isExecute = false) (other : call.touched? ≠ some buffer) :
    contents after.history [] buffer = contents before.history [] buffer := by
  rw [adds.history]
  exact (adds.explains faithful).kept idle buffer other

theorem read_eq {buffer : BufferHandle} {offset length : UInt64}
    {bytes : ByteArray}
    (adds : before.Adds [.readBuffer buffer offset length (.ok bytes)] after)
    (faithful : contents.Faithful after.history) :
    bytes = (contents before.history [] buffer).extract offset.toNat
      (offset.toNat + length.toNat) :=
  (adds.explains faithful).read _ _ _ _ rfl

theorem owns {held : Multiset Resource} {resource : Resource}
    (adds : before.Adds [call] after) (made : call.made? = some resource)
    (owns : before.Owns held) : after.Owns (resource ::ₘ held) := by
  rw [Owns, adds.history, live_concat, liveAfter_of_made made, owns,
    scratchResources, scratchResources, adds.scratch, Multiset.cons_add]

theorem made {description : BufferDescription} {buffer : BufferHandle}
    (adds : before.Adds [.createBuffer description (.ok buffer)] after)
    (fresh : FreshHandles after.history) :
    .buffer buffer ∉ live before.history ∧
      live after.history = .buffer buffer ::ₘ live before.history := by
  rw [adds.history] at fresh ⊢
  refine ⟨(Throughout.concat_iff.mp fresh).2 _ rfl, ?_⟩
  rw [live_concat]
  rfl

end Workspace.Adds

/-! ## Storing -/

section Store

variable [Device σ] {before after : Workspace σ} {contents : Contents}
  {label : String} {data : ByteArray} {buffer : BufferHandle}

theorem Attempt.Succeeds.contents_store
    (succeeds : (Work.store label data).Succeeds before buffer after)
    (faithful : contents.Faithful after.history)
    (small : data.size < UInt64.size) :
    contents after.history [] buffer = data := by
  rcases succeeds.store with ⟨between, creates, writes⟩
  have early := faithful.of_prefix writes.history_prefix
  have made := (creates.explains early).created _ _ rfl
  rcases (writes.explains faithful).written _ _ _ rfl with ⟨size, held⟩
  rw [← creates.history] at made
  rw [← writes.history] at size held
  have whole : (contents after.history [] buffer).size = data.size := by
    rw [size, made]
    exact UInt64.toNat_ofNat_of_lt' small
  rwa [UInt64.toNat_zero, Nat.zero_add, ← whole,
    ByteArray.extract_zero_size] at held

theorem Attempt.Succeeds.contents_store_of_ne {other : BufferHandle}
    (succeeds : (Work.store label data).Succeeds before buffer after)
    (faithful : contents.Faithful after.history) (different : other ≠ buffer) :
    contents after.history [] other = contents before.history [] other := by
  rcases succeeds.store with ⟨between, creates, writes⟩
  have early := faithful.of_prefix writes.history_prefix
  have named : some buffer ≠ some other := fun same =>
    different (Option.some.inj same).symm
  rw [writes.contents_eq faithful rfl named,
    creates.contents_eq early rfl named]

theorem Attempt.Succeeds.live_store
    (succeeds : (Work.store label data).Succeeds before buffer after)
    (fresh : FreshHandles after.history) :
    .buffer buffer ∉ live before.history ∧
      live after.history = .buffer buffer ::ₘ live before.history := by
  rcases succeeds.store with ⟨between, creates, writes⟩
  have made := creates.made (fresh.of_prefix writes.history_prefix)
  rw [writes.history, live_concat, made.2]
  exact ⟨made.1, rfl⟩

end Store

/-! ## The copy -/

/-- The last copy executed behind the calls of `start`. -/
structure LastCopy (start history : List Call) where
  earlier : List Call
  list : CommandList
  later : List Call
  front : List Command
  target : BufferHandle
  source : BufferHandle
  back : List Command
  behind : start <+: earlier
  history_eq : history = earlier ++ .execute list (.ok ()) :: later
  list_eq : list.toList = front ++ .copyBuffer target source :: back
  last : ∀ command ∈ back, command.isCopy = false
  none_later : ∀ call ∈ later, call.isExecute = false

theorem last_split_unique {check : α → Bool} {front otherFront : List α}
    {last otherLast : α} {back otherBack : List α}
    (same : front ++ last :: back = otherFront ++ otherLast :: otherBack)
    (holds : check last = true) (otherHolds : check otherLast = true)
    (none : ∀ member ∈ back, check member = false)
    (otherNone : ∀ member ∈ otherBack, check member = false) :
    front = otherFront ∧ last = otherLast ∧ back = otherBack := by
  have unlike {member : α} (yes : check member = true) :
      ¬ check member = false := by
    simp [yes]
  rcases List.append_eq_append_iff.mp same with
    ⟨between, rfl, split⟩ | ⟨between, rfl, split⟩
  · cases between with
    | nil =>
        cases split
        exact ⟨(List.append_nil _).symm, rfl, rfl⟩
    | cons head rest =>
        cases split
        exact absurd (none _ (by simp)) (unlike otherHolds)
  · cases between with
    | nil =>
        cases split
        exact ⟨List.append_nil _, rfl, rfl⟩
    | cons head rest =>
        cases split
        exact absurd (otherNone _ (by simp)) (unlike holds)

instance {start history : List Call} :
    Subsingleton (LastCopy start history) where
  allEq left right := by
    rcases left with ⟨earlier, list, later, front, target, source, back, _,
      history_eq, list_eq, last, none_later⟩
    rcases right with ⟨otherEarlier, otherList, otherLater, otherFront,
      otherTarget, otherSource, otherBack, _, other_history_eq, other_list_eq,
      other_last, other_none_later⟩
    rcases last_split_unique (history_eq.symm.trans other_history_eq) rfl rfl
      none_later other_none_later with ⟨rfl, sameCall, rfl⟩
    cases sameCall
    rcases last_split_unique (list_eq.symm.trans other_list_eq) rfl rfl last
      other_last with ⟨rfl, sameCopy, rfl⟩
    cases sameCopy
    rfl

def LastCopy.image {start history : List Call} (copy : LastCopy start history)
    (contents : Contents) : ByteArray :=
  contents copy.earlier
    (copy.front ++ [.copyBuffer copy.target copy.source]) copy.target

def Scratch.barriers (scratch : Scratch) (use : BufferUse) : List Command :=
  if scratch.outputUse = use then
    []
  else
    [.barrier scratch.output scratch.outputUse use]

namespace Recording

theorem toList_push (recording : Recording) (command : Command) :
    (recording.push command).list.toList =
      recording.list.toList ++ [command] :=
  CommandList.toList_push _ _

theorem toList_transition (recording : Recording) (use : BufferUse) :
    (recording.transition use).list.toList =
      recording.list.toList ++ recording.scratch.barriers use := by
  unfold transition Scratch.barriers
  simp only
  split
  · rw [List.append_nil]
  · exact CommandList.toList_push _ _

theorem toList_copyOut (recording : Recording) :
    recording.copyOut.list.toList =
      recording.list.toList ++ recording.scratch.barriers .copySource ++
        .copyBuffer recording.scratch.staging recording.scratch.output ::
          [.discard recording.scratch.output,
            .barrier recording.scratch.output .copySource .unorderedAccess,
            .clear recording.scratch.output] := by
  rw [copyOut]
  simp only [zeroOutput, toList_push, toList_transition, scratch_push,
    scratch_transition, Scratch.barriers]
  simp

end Recording

variable {before after : Workspace σ} {recording : Recording}
  {contents : Contents}

theorem contents_copyOut
    (submitted : after.history = before.history ++
      [.execute recording.copyOut.list (.ok ()), .sync])
    (distinct : recording.scratch.output ≠ recording.scratch.staging)
    (faithful : contents.Faithful after.history) :
    let front := recording.list.toList ++
      recording.scratch.barriers .copySource
    let scratch := recording.scratch
    let image := contents before.history
      (front ++ [.copyBuffer scratch.staging scratch.output]) scratch.staging
    image = contents before.history front scratch.output ∧
      contents after.history [] scratch.staging = image := by
  intro front scratch image
  rw [submitted, List.append_cons] at faithful
  have parts := Throughout.concat_iff.mp faithful
  have execution := Throughout.concat_iff.mp parts.1
  rcases execution.2.executed _ rfl with ⟨executed, executes⟩
  have drained := parts.2.kept rfl scratch.staging nofun
  rw [← List.append_cons, ← submitted] at drained
  rw [drained, executed]
  rw [Recording.toList_copyOut, List.append_cons] at executes ⊢
  constructor
  · have upTo := Throughout.concat_iff.mp executes.of_append
    exact upTo.2.copied _ _ rfl
  · refine Contents.eq_of_throughout executes ?_ ?_
    · simp [Command.isDraw]
    · simpa [Command.written?] using distinct

/-! ## Counters -/

namespace LittleEndian

theorem word64At_extract {bytes : ByteArray} {length offset : Nat}
    (whole : (bytes.extract 0 length).size = length)
    (inside : offset + 8 ≤ length) :
    word64At (bytes.extract 0 length) offset = word64At bytes offset := by
  have enough : length ≤ bytes.size := by
    rw [ByteArray.size_extract] at whole
    omega
  have cut : (bytes.extract 0 length).extract offset (offset + 8) =
      bytes.extract offset (offset + 8) := by
    rw [ByteArray.extract_extract, Nat.zero_add, Nat.zero_add,
      Nat.min_eq_left inside]
  rw [word64At, word64At, digitsAt, digitsAt, whole, if_pos inside,
    if_pos (by omega), cut]

theorem exists_word64At {bytes : ByteArray} {offset : Nat}
    (inside : offset + 8 ≤ bytes.size) :
    ∃ word, word64At bytes offset = some word := by
  rw [word64At, digitsAt, if_pos inside]
  exact ⟨_, rfl⟩

def words (bytes : ByteArray) (number : Nat) : List UInt64 :=
  (List.range number).filterMap fun index => word64At bytes (8 * index)

theorem length_words {bytes : ByteArray} {number : Nat}
    (whole : bytes.size = 8 * number) :
    (words bytes number).length = number := by
  have all : words bytes number = (List.range number).map fun index =>
      (word64At bytes (8 * index)).getD 0 := by
    refine List.filterMap_eq_map_iff_forall_eq_some.mpr fun index inside => ?_
    have below := List.mem_range.mp inside
    rcases exists_word64At (show 8 * index + 8 ≤ bytes.size by omega) with
      ⟨word, found⟩
    rw [found, Option.getD_some]
  rw [all, List.length_map, List.length_range]

end LittleEndian

theorem toNat_countersWidth (number : UInt32) :
    (number.toUInt64 * 8).toNat = 8 * number.toNat := by
  have small := number.toNat_lt
  have eight : (8 : UInt64).toNat = 8 := rfl
  rw [UInt64.toNat_mul, UInt32.toNat_toUInt64, eight]
  omega

theorem Attempt.Succeeds.filledSizes [Device σ] {before after : Workspace σ}
    {failure : CaptureFailure} {scratch : Scratch} {number : UInt32}
    {sizes : List UInt64}
    (succeeds : (Work.filledSizes failure scratch number).Succeeds before sizes
      after) :
    ∃ bytes, before.Adds
        [.readBuffer scratch.staging 0 (number.toUInt64 * 8) (.ok bytes)]
          after ∧
      bytes.size = 8 * number.toNat ∧
      sizes = LittleEndian.words bytes number.toNat := by
  rcases succeeds_bind.mp succeeds with ⟨bytes, there, reads, rest⟩
  rcases succeeds_pure.mp rest with ⟨rfl, rfl⟩
  rcases reads.fetchStaged with ⟨adds, whole⟩
  exact ⟨bytes, adds, whole.trans (toNat_countersWidth number), rfl⟩

theorem exists_counters {image : ByteArray} {number : Nat}
    (whole : (image.extract 0 (8 * number)).size = 8 * number)
    (any : 0 < number) :
    ∃ front total, front.length ≤ number - 1 ∧
      LittleEndian.word64At image (8 * (number - 1)) = some total ∧
      ((List.range number).filterMap fun index =>
        LittleEndian.word64At (image.extract 0 (8 * number)) (8 * index)) =
          front ++ [total] := by
  have inside : 8 * (number - 1) + 8 ≤ 8 * number := by omega
  rcases LittleEndian.exists_word64At (whole.symm ▸ inside) with
    ⟨total, stands⟩
  let counter (index : Nat) : Option UInt64 :=
    LittleEndian.word64At (image.extract 0 (8 * number)) (8 * index)
  refine ⟨(List.range (number - 1)).filterMap counter, total, ?_, ?_, ?_⟩
  · have shorter := List.length_filterMap_le counter (List.range (number - 1))
    rwa [List.length_range] at shorter
  · rwa [LittleEndian.word64At_extract whole inside] at stands
  · have last : counter (number - 1) = some total := stands
    have split : List.range number =
        List.range (number - 1) ++ [number - 1] := by
      rw [← List.range_succ]
      congr
      omega
    change List.filterMap counter (List.range number) = _
    rw [split, List.filterMap_append, List.filterMap_cons_some last,
      List.filterMap_nil]

/-! ## Reading a copy out -/

namespace Recording

def untilCopy (recording : Recording) : List Command :=
  recording.list.toList ++ recording.scratch.barriers .copySource

/-- What the copy at the end of a recording leaves in the staging buffer, when
the recording is executed behind some calls. -/
def image (recording : Recording) (contents : Contents)
    (earlier : List Call) : ByteArray :=
  contents earlier
    (recording.untilCopy ++
      [.copyBuffer recording.scratch.staging recording.scratch.output])
    recording.scratch.staging

end Recording

section

variable {σ : Type} [Device σ]

/-- A recording was executed, and its copy was read and stored: `sizes` are the
counters at its start and `data` the bytes from `offset` on. -/
structure ReadOut (contents : Contents) (recording : Recording)
    (ready after : Workspace σ) (number : UInt32) (sizes : List UInt64)
    (offset length : UInt64) (data : ByteArray) (buffer : BufferHandle) :
    Prop where
  history : ∃ later, after.history =
    ready.history ++ .execute recording.copyOut.list (.ok ()) :: later ∧
      ∀ call ∈ later, call.isExecute = false
  scratch : after.scratch = some recording.copyOut.scratch
  copied : recording.image contents ready.history =
    contents ready.history recording.untilCopy recording.scratch.output
  counted : ((recording.image contents ready.history).extract 0
    (8 * number.toNat)).size = 8 * number.toNat
  sizes_eq : sizes = (List.range number.toNat).filterMap fun index =>
    LittleEndian.word64At ((recording.image contents ready.history).extract 0
      (8 * number.toNat)) (8 * index)
  data_eq : data = (recording.image contents ready.history).extract
    offset.toNat (offset.toNat + length.toNat)
  size_eq : data.size = length.toNat
  stored : contents after.history [] buffer = data
  owned : FreshHandles after.history →
    Resource.buffer buffer ∈ live after.history

section

variable {contents : Contents} {recording : Recording}
  {ready copied counted fetched after : Workspace σ}
  {failure : CaptureFailure} {number : UInt32} {sizes : List UInt64}
  {offset length : UInt64} {label : String} {data : ByteArray}
  {buffer : BufferHandle}

theorem exists_history_readOut
    (submits : (Work.submit recording).Succeeds ready () copied)
    (counts : (Work.filledSizes failure recording.scratch number).Succeeds
      copied sizes counted)
    (fetches : (Work.fetchStaged failure recording.scratch offset
      length).Succeeds counted data fetched)
    (stores : (Work.store label data).Succeeds fetched buffer after) :
    ∃ later, after.history =
      ready.history ++ .execute recording.list (.ok ()) :: later ∧
        ∀ call ∈ later, call.isExecute = false := by
  rcases counts.filledSizes with ⟨bytes, adds, -⟩
  have countsRead := adds.history
  have dataRead := fetches.fetchStaged.1.history
  rcases stores.store with ⟨between, creates, writes⟩
  have executed := submits.submit.1
  let staging := recording.scratch.staging
  refine ⟨[.sync, .readBuffer staging 0 (number.toUInt64 * 8) (.ok bytes),
    .readBuffer staging offset length (.ok data),
    .createBuffer
      { label, size := UInt64.ofNat data.size, heap := .upload }
      (.ok buffer),
    .writeBuffer buffer 0 data (.ok ())], ?_, by simp [Call.isExecute]⟩
  rw [writes.history, creates.history, dataRead, countsRead, executed]
  simp [staging]

theorem Attempt.Succeeds.readOut
    (submits : (Work.submit recording.copyOut).Succeeds ready () copied)
    (counts : (Work.filledSizes failure recording.copyOut.scratch
      number).Succeeds copied sizes counted)
    (fetches : (Work.fetchStaged failure recording.copyOut.scratch offset
      length).Succeeds counted data fetched)
    (stores : (Work.store label data).Succeeds fetched buffer after)
    (distinct : recording.scratch.output ≠ recording.scratch.staging)
    (faithful : contents.Faithful after.history) :
    ReadOut contents recording ready after number sizes offset length data
      buffer := by
  have history := exists_history_readOut submits counts fetches stores
  rcases counts.filledSizes with ⟨bytes, countsRead, countsWhole, rfl⟩
  rcases fetches.fetchStaged with ⟨dataRead, dataWhole⟩
  rcases stores.store with ⟨between, creates, writes⟩
  have beforeStore : contents.Faithful fetched.history :=
    faithful.of_prefix (creates.history_prefix.trans writes.history_prefix)
  have beforeData : contents.Faithful counted.history :=
    beforeStore.of_prefix dataRead.history_prefix
  have beforeCounts : contents.Faithful copied.history :=
    beforeData.of_prefix countsRead.history_prefix
  rcases submits.submit with ⟨executed, kept⟩
  rcases contents_copyOut executed distinct beforeCounts with
    ⟨copiedOut, staged⟩
  have untouched : contents counted.history [] recording.scratch.staging =
      contents copied.history [] recording.scratch.staging :=
    countsRead.contents_eq beforeData rfl nofun
  have first := countsRead.read_eq beforeData
  have second := dataRead.read_eq beforeStore
  simp only [Recording.scratch_copyOut] at first second
  rw [untouched, staged] at second
  rw [staged, UInt64.toNat_zero, Nat.zero_add, toNat_countersWidth] at first
  refine ⟨history, ?scratch, copiedOut, ?counted, ?sizes, second, dataWhole,
    ?stored, ?owned⟩
  case scratch =>
    rw [writes.scratch, creates.scratch, dataRead.scratch, countsRead.scratch,
      kept]
  case counted => rwa [first] at countsWhole
  case sizes => rw [first]; rfl
  case stored =>
    refine stores.contents_store faithful ?_
    rw [dataWhole]
    exact length.toNat_lt
  case owned =>
    intro fresh
    rw [(stores.live_store fresh).2]
    exact Multiset.mem_cons_self _ _

omit [Device σ] in
/-- The copy that was read out is the last one, also when calls follow that
execute nothing. -/
theorem ReadOut.exists_lastCopy {start finish : Workspace σ} {more : List Call}
    (readOut : ReadOut contents recording ready after number sizes offset
      length data buffer)
    (behind : start.history <+: ready.history)
    (adds : after.Adds more finish)
    (idle : ∀ call ∈ more, call.isExecute = false) :
    ∃ copy : LastCopy start.history finish.history,
      copy.earlier = ready.history ∧ copy.front = recording.untilCopy ∧
      copy.target = recording.scratch.staging ∧
      copy.source = recording.scratch.output := by
  rcases readOut.history with ⟨later, executed, quiet⟩
  let copy : LastCopy start.history finish.history :=
    { earlier := ready.history
      list := recording.copyOut.list
      later := later ++ more
      front := recording.untilCopy
      target := recording.scratch.staging
      source := recording.scratch.output
      back := [.discard recording.scratch.output,
        .barrier recording.scratch.output .copySource .unorderedAccess,
        .clear recording.scratch.output]
      behind := behind
      history_eq := by
        rw [adds.history, executed, List.append_assoc, List.cons_append]
      list_eq := recording.toList_copyOut
      last := by simp [Command.isCopy]
      none_later := by
        intro call inside
        rcases List.mem_append.mp inside with early | late
        · exact quiet call early
        · exact idle call late }
  exact ⟨copy, rfl, rfl, rfl, rfl⟩

end

end

end MeshCapture
