import MeshCapture.Proofs.Course.Step

/-! # Filled-size counters

A draw with a stream-output target appends behind the bytes that the counter of
the target tells. A capture therefore relies on counters that nobody has filled
since the output buffer was made or zeroed. They are found so by every draw but
one: the draw of a vertex capture behind a capture that was given up between
drawing and copying out. -/

namespace MeshCapture

/-! ## Counters behind commands and calls -/

abbrev Counter :=
  BufferHandle × UInt64

def OutputTarget.counter (target : OutputTarget) : Counter :=
  (target.buffer, target.counterOffset)

structure Filling where
  bound : Option OutputTarget := none
  filled : List Counter := []

def Filling.after (filling : Filling) : Command → Filling
  | .setOutputTarget target => { filling with bound := some target }
  | .clear buffer =>
      { filling with
        filled := filling.filled.filter fun counter => counter.1 ≠ buffer }
  | command =>
      if command.isDraw then
        { filling with
          filled := (filling.bound.map OutputTarget.counter).toList ++
            filling.filled }
      else
        filling

def fillingBehind (filled : List Counter) (commands : List Command) :
    Filling :=
  commands.foldl Filling.after { filled }

@[simp] theorem fillingBehind_concat (filled : List Counter)
    (commands : List Command) (command : Command) :
    fillingBehind filled (commands ++ [command]) =
      (fillingBehind filled commands).after command := by
  simp [fillingBehind]

def Call.filledAfter (filled : List Counter) (call : Call) : List Counter :=
  match call.madeOutput?, call.executed? with
  | some buffer, _ => filled.filter fun counter => counter.1 ≠ buffer
  | none, some list => (fillingBehind filled list.toList).filled
  | none, none => filled

/-- The counters filled by draws that were executed since their buffer was made
or zeroed. -/
def filledCounters (calls : List Call) : List Counter :=
  calls.foldl Call.filledAfter []

@[simp] theorem filledCounters_concat (calls : List Call) (call : Call) :
    filledCounters (calls ++ [call]) =
      call.filledAfter (filledCounters calls) := by
  simp [filledCounters]

/-! ## Output that was not copied out -/

namespace CommandList

def streamsInto (list : CommandList) (buffer : BufferHandle) : Prop :=
  ∃ target, .setOutputTarget target ∈ list.toList ∧ target.buffer = buffer

def copiesOut (list : CommandList) (buffer : BufferHandle) : Prop :=
  ∃ target, .copyBuffer target buffer ∈ list.toList

end CommandList

namespace Call

def leavesOutput (buffer : BufferHandle) (call : Call) : Prop :=
  ∃ list ∈ call.executed?, list.streamsInto buffer ∧ ¬ list.copiesOut buffer

def settlesOutput (buffer : BufferHandle) (call : Call) : Prop :=
  call.madeOutput? = some buffer ∨
    ∃ list ∈ call.executed?, list.copiesOut buffer

theorem leavesOutput_execute (list : CommandList) (buffer : BufferHandle) :
    (execute list (.ok ())).leavesOutput buffer ↔
      list.streamsInto buffer ∧ ¬ list.copiesOut buffer := by
  simp [leavesOutput, executed?]

theorem settlesOutput_execute (list : CommandList) (buffer : BufferHandle) :
    (execute list (.ok ())).settlesOutput buffer ↔ list.copiesOut buffer := by
  simp [settlesOutput, executed?, madeOutput?]

end Call

/-- Vertices were left in the buffer by a list, and no list has copied it out
since. -/
def PendingOutput (buffer : BufferHandle) (calls : List Call) : Prop :=
  ∃ earlier call later, calls = earlier ++ call :: later ∧
    call.leavesOutput buffer ∧ ∀ other ∈ later, ¬ other.settlesOutput buffer

namespace PendingOutput

variable {buffer : BufferHandle} {calls : List Call} {call : Call}

theorem not_nil : ¬ PendingOutput buffer [] := by
  intro ⟨earlier, call, later, split, _⟩
  simp at split

theorem concat_iff : PendingOutput buffer (calls ++ [call]) ↔
    call.leavesOutput buffer ∨
      PendingOutput buffer calls ∧ ¬ call.settlesOutput buffer := by
  constructor
  · intro ⟨earlier, leaving, later, split, leaves, unsettled⟩
    rcases List.eq_nil_or_concat later with empty | ⟨front, last, ends⟩
    · subst empty
      have parts := List.append_inj' split rfl
      have same : call = leaving := by simpa using parts.2
      exact .inl (same ▸ leaves)
    · have whole : calls ++ [call] = (earlier ++ leaving :: front) ++ [last] := by
        simpa [ends] using split
      have parts := List.append_inj' whole rfl
      have same : call = last := by simpa using parts.2
      refine .inr ⟨⟨earlier, leaving, front, parts.1, leaves, ?_⟩, ?_⟩
      · intro other member
        exact unsettled other (by simp [ends, member])
      · exact unsettled call (by simp [ends, same])
  · rintro (leaves | ⟨⟨earlier, leaving, later, split, leaves, unsettled⟩, not⟩)
    · refine ⟨calls, call, [], rfl, leaves, ?_⟩
      intro other member
      cases member
    · refine ⟨earlier, leaving, later ++ [call], by simp [split], leaves, ?_⟩
      intro other member
      rcases List.mem_append.mp member with inside | last
      · exact unsettled other inside
      · rw [List.mem_singleton.mp last]
        exact not

end PendingOutput

end MeshCapture
