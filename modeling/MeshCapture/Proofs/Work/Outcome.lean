import MeshCapture.Workspace

/-! # How attempts end

An attempt ends in one of its parts: at the first that fails, or at the last.
`Ends` says with which outcome and where, and the rules take the combinators
apart. -/

namespace MeshCapture

variable {σ ε ζ α β : Type}

namespace Work

theorem run_bind {work : Work σ α} {next : α → Work σ β}
    {workspace reached : Workspace σ} {value : α}
    (ran : work.run workspace = (value, reached)) :
    (work >>= next).run workspace = (next value).run reached := by
  rw [StateT.run_bind, ran]
  rfl

theorem run_call {operation : StateM σ α} {note : α → Call}
    {workspace : Workspace σ} {answer : α} {device : σ}
    (answered : operation.run workspace.device = (answer, device)) :
    (call operation note).run workspace =
      (answer,
        { workspace with
          device := device, calls := note answer :: workspace.calls }) := by
  have whole : (call operation note).run workspace =
      ((operation.run workspace.device).1,
        { workspace with
          device := (operation.run workspace.device).2
          calls := note (operation.run workspace.device).1 ::
            workspace.calls }) := rfl
  rw [whole, answered]

end Work

def Workspace.history (workspace : Workspace σ) : List Call :=
  workspace.calls.reverse

/-- One workspace is another one behind some calls that leave the scratch set
alone. -/
structure Workspace.Adds (before : Workspace σ) (made : List Call)
    (after : Workspace σ) : Prop where
  history : after.history = before.history ++ made
  scratch : after.scratch = before.scratch

theorem Workspace.Adds.trans {before between after : Workspace σ}
    {made more : List Call} (first : before.Adds made between)
    (second : between.Adds more after) :
    before.Adds (made ++ more) after where
  history := by rw [second.history, first.history, List.append_assoc]
  scratch := second.scratch.trans first.scratch

theorem Work.adds_call {operation : StateM σ α} {note : α → Call} {answer : α}
    {before after : Workspace σ}
    (ran : (call operation note).run before = (answer, after)) :
    before.Adds [note answer] after := by
  rcases answered : operation.run before.device with ⟨given, device⟩
  cases (run_call answered).symm.trans ran
  exact ⟨List.reverse_cons, rfl⟩

theorem Work.adds_releaseBuffer [Device σ] (before : Workspace σ)
    (buffer : BufferHandle) :
    before.Adds [.releaseBuffer buffer]
      ((releaseBuffer buffer).run before).2 :=
  ⟨List.reverse_cons, rfl⟩

namespace Attempt

variable {attempt : Attempt ε σ α}
  {before after : Workspace σ} {outcome : Except ε α}

def Ends (attempt : Attempt ε σ α) (before : Workspace σ)
    (outcome : Except ε α) (after : Workspace σ) : Prop :=
  attempt.run.run before = (outcome, after)

theorem exists_ends (attempt : Attempt ε σ α) (before : Workspace σ) :
    ∃ outcome after, attempt.Ends before outcome after :=
  ⟨_, _, rfl⟩

@[simp] theorem ends_pure {value : α} :
    (pure value : Attempt ε σ α).Ends before outcome after ↔
      .ok value = outcome ∧ before = after := by
  change ((.ok value : Except ε α), before) = (outcome, after) ↔ _
  simp

@[simp] theorem ends_throw {cause : ε} :
    (throw cause : Attempt ε σ α).Ends before outcome after ↔
      .error cause = outcome ∧ before = after := by
  change ((.error cause : Except ε α), before) = (outcome, after) ↔ _
  simp

theorem ends_bind {next : α → Attempt ε σ β} {outcome : Except ε β} :
    (attempt >>= next).Ends before outcome after ↔
      (∃ cause, attempt.Ends before (.error cause) after ∧
          outcome = .error cause) ∨
        ∃ value between, attempt.Ends before (.ok value) between ∧
          (next value).Ends between outcome after := by
  have split : (attempt >>= next).run.run before =
      (ExceptT.bindCont next (attempt.run.run before).1).run
        (attempt.run.run before).2 := rfl
  rw [Ends, split]
  rcases ran : attempt.run.run before with ⟨given | value, between⟩
  · constructor
    · intro ended
      cases ended
      exact .inl ⟨given, ran, rfl⟩
    · rintro (⟨cause, first, rfl⟩ | ⟨value, there, first, -⟩)
      · cases ran.symm.trans first
        rfl
      · cases ran.symm.trans first
  · constructor
    · intro ended
      exact .inr ⟨value, between, ran, ended⟩
    · rintro (⟨cause, first, -⟩ | ⟨value, there, first, second⟩)
      · cases ran.symm.trans first
      · cases ran.symm.trans first
        exact second

@[simp] theorem ends_lift {work : Work σ α} :
    Ends (ExceptT.lift work : Attempt ε σ α) before outcome after ↔
      ∃ value, work.run before = (value, after) ∧ .ok value = outcome := by
  have lifted : (ExceptT.lift work : Attempt ε σ α).run.run before =
      (.ok (work.run before).1, (work.run before).2) := rfl
  rw [Ends, lifted]
  rcases work.run before with ⟨answer, there⟩
  constructor
  · intro ended
    cases ended
    exact ⟨answer, rfl, rfl⟩
  · rintro ⟨value, ran, rfl⟩
    cases ran
    rfl

@[simp] theorem ends_adapt {explain : ε → ζ} {outcome : Except ζ α} :
    Ends (attempt.adapt explain) before outcome after ↔
      ∃ inner, attempt.Ends before inner after ∧
        inner.mapError explain = outcome := by
  have adapted : (attempt.adapt explain).run.run before =
      ((attempt.run.run before).1.mapError explain,
        (attempt.run.run before).2) := rfl
  rw [Ends, adapted]
  rcases ran : attempt.run.run before with ⟨inner, there⟩
  constructor
  · intro ended
    cases ended
    exact ⟨inner, ran, rfl⟩
  · rintro ⟨other, first, rfl⟩
    cases ran.symm.trans first
    rfl

theorem ends_onFailure {undo : Work σ Unit} :
    (attempt.onFailure undo).Ends before outcome after ↔
      (∃ value, attempt.Ends before (.ok value) after ∧ outcome = .ok value) ∨
        ∃ cause between, attempt.Ends before (.error cause) between ∧
          outcome = .error cause ∧ (undo.run between).2 = after := by
  rcases ran : attempt.run.run before with ⟨given | value, there⟩
  · have whole : (attempt.onFailure undo).run.run before =
        (.error given, (undo.run there).2) := Work.run_bind ran
    rw [Ends, whole]
    constructor
    · intro ended
      cases ended
      exact .inr ⟨given, there, ran, rfl, rfl⟩
    · rintro (⟨value, first, -⟩ | ⟨cause, between, first, rfl, rfl⟩)
      · cases ran.symm.trans first
      · cases ran.symm.trans first
        rfl
  · have whole : (attempt.onFailure undo).run.run before =
        (.ok value, there) := Work.run_bind ran
    rw [Ends, whole]
    constructor
    · intro ended
      cases ended
      exact .inl ⟨value, ran, rfl⟩
    · rintro (⟨value, first, rfl⟩ | ⟨cause, between, first, -⟩)
      · cases ran.symm.trans first
        rfl
      · cases ran.symm.trans first

theorem ends_afterwards {cleanup : Work σ Unit} :
    (attempt.afterwards cleanup).Ends before outcome after ↔
      ∃ between, attempt.Ends before outcome between ∧
        (cleanup.run between).2 = after := by
  simp only [Ends]
  rcases ran : attempt.run.run before with ⟨given, there⟩
  have whole : (attempt.afterwards cleanup).run.run before =
      (given, (cleanup.run there).2) := Work.run_bind ran
  rw [whole]
  constructor
  · intro ended
    cases ended
    exact ⟨there, rfl, rfl⟩
  · rintro ⟨between, first, ends⟩
    cases first
    rw [ends]

theorem Ends.adds {operation : StateM σ (Except ε α)}
    {note : Except ε α → Call}
    (ends : Ends (ExceptT.mk (Work.call operation note)) before outcome
      after) :
    before.Adds [note outcome] after :=
  Work.adds_call ends

end Attempt

end MeshCapture
