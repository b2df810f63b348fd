import MeshCapture.Proofs.Course.Engine
import MeshCapture.Proofs.FilledCounters.Recording
import MeshCapture.Scripted.Session

/-! # Counters of a run

Between two lists a counter of an output buffer is filled just where output is
pending. The draws of a run find their counters accordingly. -/

namespace MeshCapture

/-- A draw is counted at a counter that nobody has filled. -/
def FreshDraw (earlier : List Call) (_list : CommandList)
    (front : List Command) (command : Command) : Prop :=
  command.isDraw = true →
    ∃ target ∈ (fillingBehind (filledCounters earlier) front).bound,
      target.counter ∉ (fillingBehind (filledCounters earlier) front).filled

instance (earlier : List Call) (list : CommandList) (front : List Command)
    (command : Command) : Decidable (FreshDraw earlier list front command) := by
  rw [FreshDraw]
  infer_instance

/-- A draw is counted at a filled counter just if its list copies the buffer
out while output is pending there. -/
def CountedDraw (earlier : List Call) (list : CommandList)
    (front : List Command) (command : Command) : Prop :=
  command.isDraw = true →
    ∃ target ∈ (fillingBehind (filledCounters earlier) front).bound,
      (target.counter ∈
          (fillingBehind (filledCounters earlier) front).filled ↔
        list.copiesOut target.buffer ∧ PendingOutput target.buffer earlier)

structure CountersKept (history : List Call) (scratch : Option Scratch)
    (drawn : Option Nat) : Prop where
  pending : ∀ buffer,
    (buffer, 0) ∈ filledCounters history ↔ PendingOutput buffer history
  lowest : ∀ buffer offset, (buffer, offset) ∈ filledCounters history →
    (buffer, 0) ∈ filledCounters history
  slots : ∀ current, scratch = some current →
    SlotsFilled current.output (· ∈ filledCounters history) drawn
  counted : EveryCommand CountedDraw history

namespace CountersKept

variable {history : List Call} {scratch : Option Scratch}
  {drawn : Option Nat}

theorem start : CountersKept [] none none where
  pending := by simp [filledCounters, PendingOutput.not_nil]
  lowest := nofun
  slots := nofun
  counted := .nil

theorem forget (kept : CountersKept history scratch drawn)
    (other : Option Scratch) : CountersKept history other none :=
  { kept with slots := fun _ _ => nofun }

theorem silent (kept : CountersKept history scratch drawn) {call : Call}
    (made : call.madeOutput? = none) (executed : call.executed? = none) :
    CountersKept (history ++ [call]) scratch drawn := by
  have same : filledCounters (history ++ [call]) = filledCounters history := by
    simp [Call.filledAfter, made, executed]
  refine ⟨?_, ?_, ?_, kept.counted.concat_of_not_executed executed⟩
  · intro buffer
    rw [same, kept.pending, PendingOutput.concat_iff]
    simp [Call.leavesOutput, Call.settlesOutput, made, executed]
  · exact same ▸ kept.lowest
  · exact same ▸ kept.slots

theorem made (kept : CountersKept history scratch drawn) {call : Call}
    {output : BufferHandle} (made : call.madeOutput? = some output)
    (executed : call.executed? = none) (other : Option Scratch) :
    CountersKept (history ++ [call]) other none := by
  have filled (counter : Counter) :
      counter ∈ filledCounters (history ++ [call]) ↔
        counter ∈ filledCounters history ∧ counter.1 ≠ output := by
    simp [Call.filledAfter, made]
  refine ⟨?_, ?_, fun _ _ => nofun,
    kept.counted.concat_of_not_executed executed⟩
  · intro buffer
    rw [filled, kept.pending, PendingOutput.concat_iff]
    simp [Call.leavesOutput, Call.settlesOutput, made, executed, eq_comm]
  · intro buffer offset member
    rw [filled] at member ⊢
    exact ⟨kept.lowest buffer offset member.1, member.2⟩

theorem execute {current : Scratch} {recording : Recording}
    {after : Option Nat} (kept : CountersKept history (some current) drawn)
    (recorded : Recorded current drawn recording after) :
    CountersKept (history ++ [.execute recording.list (.ok ())])
      (some recording.scratch) after := by
  rcases recorded.counts (kept.slots current rfl) with
    ⟨stale, progress, makes, complete, known⟩
  have filled (counter : Counter) :
      counter ∈ filledCounters
          (history ++ [.execute recording.list (.ok ())]) ↔
        progress.filled counter := by
    simp [Call.filledAfter, Call.madeOutput?, Call.executed?, makes.filled]
  refine ⟨?_, ?_, ?_, ?_⟩
  · intro buffer
    rw [filled, PendingOutput.concat_iff, Call.leavesOutput_execute,
      Call.settlesOutput_execute, makes.streamed, makes.copied]
    -- A list concerns the output buffer of its scratch set and no other.
    by_cases same : buffer = current.output
    · subst same
      have moves := complete.moves
      rw [complete.first]
      simp only [and_true]
      tauto
    · rw [complete.others _ same, kept.pending]
      simp [same]
  · intro buffer offset member
    rw [filled] at member ⊢
    by_cases same : buffer = current.output
    · subst same
      exact complete.lowest offset member
    · rw [complete.others _ same] at member ⊢
      exact kept.lowest buffer offset member
  · intro next same
    cases same
    rw [makes.same]
    simpa only [filled] using complete.slots
  · refine kept.counted.concat_executed (makes.draws.imp ?_)
    intro front command inside isDraw
    rcases inside isDraw with ⟨target, bound, same, filledBefore⟩
    refine ⟨target, bound, ?_⟩
    rw [filledBefore, known, makes.copied, same, ← kept.pending]
    simp

end CountersKept

theorem Step.countersKept {now next : Standing} (step : Step now next)
    (kept : CountersKept now.history now.scratch now.drawn) :
    CountersKept next.history next.scratch next.drawn := by
  cases step with
  | noted call quiet =>
      have idle := Call.executed?_of_idle (Call.isExecute_of_quiet quiet)
      have none := Call.madeOutput?_of_none (Call.made?_of_quiet quiet)
      exact (kept.silent none idle).forget _
  | made call resource made empty =>
      have idle := Call.executed?_of_idle (Call.isExecute_of_made made)
      cases output : call.madeOutput? with
      | none => exact (kept.silent output idle).forget _
      | some buffer => exact kept.made output idle _
  | freed call resource freed mem =>
      have idle := Call.executed?_of_idle (Call.isExecute_of_freed freed)
      have none := Call.madeOutput?_of_none (Call.made?_of_freed freed)
      exact (kept.silent none idle).forget _
  | drained => exact (kept.silent rfl rfl).forget _
  | dismantled scratch present => exact kept.forget none
  | assembled scratch others empty unused parts last =>
      exact kept.forget (some scratch)
  | denied => exact kept.forget _
  | submitted scratch recording after present recorded =>
      rw [present] at kept
      have synced : CountersKept
          (now.history ++ [.execute recording.list (.ok ())] ++ [.sync])
          (some recording.scratch) after :=
        (kept.execute recorded).silent rfl rfl
      rwa [List.append_assoc] at synced
  | rejected scratch recording after cause present recorded =>
      rw [present] at kept
      exact (kept.silent rfl rfl).forget _
  | tallied count counted => exact kept.forget _

/-- Every draw of a run has an output target bound. It starts from a zeroed
counter, unless its list copies the buffer out again although vertices of an
earlier list are still pending there. Only then does it start from a filled
one. -/
theorem Engine.draw_fresh_iff {σ : Type} [Device σ] (device : σ)
    (settings : Settings) (operations : List Operation) :
    EveryCommand
      (fun earlier list front command => command.isDraw = true →
        ∃ target ∈ (fillingBehind (filledCounters earlier) front).bound,
          (FreshDraw earlier list front command ↔
            ¬ (list.copiesOut target.buffer ∧
              PendingOutput target.buffer earlier)))
      ((new device settings).run operations).calls := by
  rcases run_preserves
    (fun standing =>
      CountersKept standing.history standing.scratch standing.drawn)
    (fun _ _ step => step.countersKept) device settings operations
    .start with ⟨_, kept⟩
  refine kept.counted.imp ?_
  intro earlier list front command counted isDraw
  rcases counted isDraw with ⟨target, bound, known⟩
  refine ⟨target, bound, ?_⟩
  rw [← known]
  constructor
  · intro fresh
    rcases fresh isDraw with ⟨other, alsoBound, unfilled⟩
    have same : target = other := Option.some_inj.mp (bound.symm.trans alsoBound)
    exact same ▸ unfilled
  · exact fun unfilled _ => ⟨target, bound, unfilled⟩

/-- When a capture is given up between its draw and its copy, the next one
appends to what is pending. -/
theorem Engine.interrupted_draw_not_fresh :
    ¬ EveryCommand FreshDraw Scripted.interrupted.calls := by
  decide +kernel

end MeshCapture
