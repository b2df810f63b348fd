import MeshCapture.Capture.Vertices
import MeshCapture.Proofs.Work.Outcome

/-! # Attempts that succeed

An attempt that succeeds is a chain of parts that do. `Succeeds` is what is known
of each, and the rules take the combinators apart. -/

namespace MeshCapture

variable {σ ε ζ α β : Type}

namespace Attempt

def Succeeds (attempt : Attempt ε σ α) (before : Workspace σ) (value : α)
    (after : Workspace σ) : Prop :=
  attempt.run.run before = (.ok value, after)

variable {attempt : Attempt ε σ α} {before after : Workspace σ} {value : α}

theorem succeeds_of_isOk [Inhabited α] (attempt : Attempt ε σ α)
    (before : Workspace σ) (ok : (attempt.run.run before).1.isOk = true) :
    attempt.Succeeds before
      ((attempt.run.run before).1.toOption.getD default)
      (attempt.run.run before).2 := by
  unfold Succeeds
  generalize attempt.run.run before = outcome at ok ⊢
  rcases outcome with ⟨value | cause, after⟩
  · cases ok
  · rfl

theorem ends_ok :
    attempt.Ends before (.ok value) after ↔
      attempt.Succeeds before value after :=
  Iff.rfl

@[simp] theorem succeeds_pure {given : α} :
    (pure given : Attempt ε σ α).Succeeds before value after ↔
      given = value ∧ before = after := by
  rw [← ends_ok, ends_pure, Except.ok.injEq]

@[simp] theorem succeeds_throw {cause : ε} :
    (throw cause : Attempt ε σ α).Succeeds before value after ↔ False := by
  rw [← ends_ok, ends_throw]
  exact iff_of_false nofun nofun

theorem succeeds_bind {next : α → Attempt ε σ β} {last : β} :
    (attempt >>= next).Succeeds before last after ↔
      ∃ value between, attempt.Succeeds before value between ∧
        (next value).Succeeds between last after := by
  rw [← ends_ok, ends_bind]
  exact or_iff_right nofun

@[simp] theorem succeeds_lift {work : Work σ α} :
    Succeeds (ExceptT.lift work : Attempt ε σ α) before value after ↔
      work.run before = (value, after) := by
  rw [← ends_ok, ends_lift]
  simp

@[simp] theorem succeeds_adapt {explain : ε → ζ} :
    Succeeds (attempt.adapt explain) before value after ↔
      attempt.Succeeds before value after := by
  rw [← ends_ok, ends_adapt]
  constructor
  · rintro ⟨given | cause, first, same⟩
    · cases same
    · cases same
      exact first
  · intro succeeds
    exact ⟨.ok value, succeeds, rfl⟩

@[simp] theorem succeeds_onFailure {undo : Work σ Unit} :
    (attempt.onFailure undo).Succeeds before value after ↔
      attempt.Succeeds before value after := by
  rw [← ends_ok, ends_onFailure]
  constructor
  · rintro (⟨given, first, same⟩ | ⟨cause, between, -, impossible, -⟩)
    · cases same
      exact first
    · cases impossible
  · intro succeeds
    exact .inl ⟨value, succeeds, rfl⟩

theorem succeeds_afterwards {cleanup : Work σ Unit} :
    (attempt.afterwards cleanup).Succeeds before value after ↔
      ∃ between, attempt.Succeeds before value between ∧
        (cleanup.run between).2 = after :=
  ends_afterwards

theorem Succeeds.adds {operation : StateM σ (Except ε α)}
    {note : Except ε α → Call}
    (succeeds : Succeeds (ExceptT.mk (Work.call operation note)) before value
      after) :
    before.Adds [note (.ok value)] after :=
  Ends.adds succeeds

end Attempt

theorem Work.adds_releasePipeline [Device σ] (before : Workspace σ)
    (pipeline : PipelineHandle) :
    before.Adds [.releasePipeline pipeline]
      ((releasePipeline pipeline).run before).2 :=
  ⟨List.reverse_cons, rfl⟩

/-! ## Moving bytes -/

/-- A list that the device takes is waited for, and one that it refuses is
not. -/
theorem Attempt.Ends.submit [Device σ] {before after : Workspace σ}
    {recording : Recording} {outcome : Except DeviceFailure Unit}
    (ends : (Work.submit recording).Ends before outcome after) :
    after.scratch = some recording.scratch ∧
      after.history = before.history ++
        .execute recording.list outcome ::
          match outcome with
          | .ok () => [.sync]
          | .error _ => [] := by
  rcases ends_bind.mp ends with ⟨cause, counts, -⟩ | ⟨_, counted, counts, rest⟩
  · rcases ends_lift.mp counts with ⟨_, _, impossible⟩
    cases impossible
  · cases succeeds_lift.mp counts
    rcases ends_bind.mp rest with
      ⟨cause, refused, rfl⟩ | ⟨_, executed, taken, waits⟩
    · exact ⟨refused.adds.scratch, refused.adds.history⟩
    · rcases ends_lift.mp waits with ⟨_, synced, rfl⟩
      cases synced
      refine ⟨taken.adds.scratch, ?_⟩
      change (Call.sync :: executed.calls).reverse = _
      rw [List.reverse_cons]
      change executed.history ++ _ = _
      rw [taken.adds.history, List.append_assoc]
      rfl

namespace Attempt.Succeeds

variable [Device σ] {before after : Workspace σ}

theorem store {label : String} {data : ByteArray} {buffer : BufferHandle}
    (succeeds : (Work.store label data).Succeeds before buffer after) :
    ∃ between,
      before.Adds
        [.createBuffer
          { label, size := UInt64.ofNat data.size, heap := .upload }
          (.ok buffer)] between ∧
      between.Adds [.writeBuffer buffer 0 data (.ok ())] after := by
  rcases succeeds_bind.mp succeeds with ⟨made, there, created, rest⟩
  rcases succeeds_bind.mp (succeeds_onFailure.mp rest) with
    ⟨_, behind, written, last⟩
  rcases succeeds_pure.mp last with ⟨rfl, rfl⟩
  exact ⟨there, adds created, adds written⟩

theorem fetchStaged {failure : CaptureFailure} {scratch : Scratch}
    {offset length : UInt64} {bytes : ByteArray}
    (succeeds : (Work.fetchStaged failure scratch offset length).Succeeds
      before bytes after) :
    before.Adds [.readBuffer scratch.staging offset length (.ok bytes)]
        after ∧
      bytes.size = length.toNat := by
  rcases ran : (Work.readBuffer scratch.staging offset length).run.run before
    with ⟨outcome, there⟩
  have whole : (Work.fetchStaged failure scratch offset length).run.run
      before = _ := Work.run_bind ran
  rw [Succeeds, whole] at succeeds
  cases outcome with
  | error cause => cases succeeds
  | ok held =>
      have ends : ((if held.size = length.toNat then .ok held
          else .error failure : Except CaptureFailure ByteArray), there) =
          (.ok bytes, after) := succeeds
      split at ends
      · next enough =>
          cases ends
          exact ⟨adds ran, enough⟩
      · cases ends

omit [Device σ] in
theorem requireOutput {failure : CaptureFailure} {reported : UInt64}
    (succeeds : (Work.requireOutput failure reported).Succeeds before ()
      after) :
    before = after ∧ reported ≠ 0 := by
  rw [Work.requireOutput] at succeeds
  split at succeeds
  · exact (succeeds_throw.mp succeeds).elim
  · next some => exact ⟨(succeeds_pure.mp succeeds).2, some⟩

theorem submit {recording : Recording}
    (succeeds : (Work.submit recording).Succeeds before () after) :
    after.history = before.history ++
        [.execute recording.list (.ok ()), .sync] ∧
      after.scratch = some recording.scratch :=
  (Ends.submit succeeds).symm

end Attempt.Succeeds

end MeshCapture
