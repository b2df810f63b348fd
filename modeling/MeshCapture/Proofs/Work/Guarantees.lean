import MeshCapture.Proofs.Work.Outcome

/-! # What work guarantees

`Ensures before work after` says that `work` leads every workspace that meets
`before` to an answer and a workspace that meet `after`. `Guarantees` says the
same of an attempt, of a value when it succeeds and of the cause when it fails.
There is one rule for each combinator that work is written with. -/

namespace MeshCapture

variable {σ ε ζ α β : Type}

namespace Work

def Ensures (before : Workspace σ → Prop) (work : Work σ α)
    (after : α → Workspace σ → Prop) : Prop :=
  ∀ workspace, before workspace →
    after (work.run workspace).1 (work.run workspace).2

namespace Ensures

variable {before stronger : Workspace σ → Prop}
  {after weaker : α → Workspace σ → Prop} {work : Work σ α}

theorem pure {value : α}
    (ends : ∀ workspace, before workspace → after value workspace) :
    Ensures before (Pure.pure value : Work σ α) after :=
  ends

theorem bind {next : α → Work σ β} {last : β → Workspace σ → Prop}
    (first : Ensures before work after)
    (second : ∀ value, Ensures (after value) (next value) last) :
    Ensures before (work >>= next) last := by
  intro workspace starts
  have step : (work >>= next).run workspace =
      (next (work.run workspace).1).run (work.run workspace).2 :=
    run_bind rfl
  rw [step]
  exact second _ _ (first workspace starts)

theorem weaken (ensures : Ensures before work after)
    (starts : ∀ workspace, stronger workspace → before workspace)
    (ends : ∀ value workspace, after value workspace → weaker value workspace) :
    Ensures stronger work weaker :=
  fun workspace holds => ends _ _ (ensures workspace (starts workspace holds))

theorem call {operation : StateM σ α} {note : α → Call}
    (noted : ∀ answer device workspace, before workspace →
      after answer { workspace with
        device, calls := note answer :: workspace.calls }) :
    Ensures before (Work.call operation note) after :=
  fun workspace starts => noted _ _ workspace starts

theorem scratch? {ends : Option Scratch → Workspace σ → Prop}
    (known : ∀ workspace, before workspace →
      ends workspace.scratch workspace) :
    Ensures before (Work.scratch? : Work σ (Option Scratch)) ends :=
  known

end Ensures

end Work

namespace Attempt

@[simp] def finished (success : α → Workspace σ → Prop)
    (failure : ε → Workspace σ → Prop) : Except ε α → Workspace σ → Prop
  | .ok value => success value
  | .error cause => failure cause

def Guarantees (before : Workspace σ → Prop) (attempt : Attempt ε σ α)
    (success : α → Workspace σ → Prop) (failure : ε → Workspace σ → Prop) :
    Prop :=
  Work.Ensures before attempt.run (finished success failure)

namespace Guarantees

variable {before stronger : Workspace σ → Prop}
  {success : α → Workspace σ → Prop} {failure : ε → Workspace σ → Prop}
  {attempt : Attempt ε σ α}

theorem finished {start finish : Workspace σ} {outcome : Except ε α}
    (guarantees : Guarantees before attempt success failure)
    (starts : before start) (ends : attempt.Ends start outcome finish) :
    Attempt.finished success failure outcome finish := by
  have reached := guarantees start starts
  rwa [show attempt.run.run start = (outcome, finish) from ends] at reached

theorem of_ends
    (ends : ∀ start outcome finish, before start →
      attempt.Ends start outcome finish →
      Attempt.finished success failure outcome finish) :
    Guarantees before attempt success failure :=
  fun start starts => ends start _ _ starts rfl

theorem pure {value : α} (ends : ∀ workspace, before workspace →
    success value workspace) :
    Guarantees before (Pure.pure value : Attempt ε σ α) success failure :=
  Work.Ensures.pure ends

theorem throw {cause : ε} (ends : ∀ workspace, before workspace →
    failure cause workspace) :
    Guarantees before (MonadExcept.throw cause : Attempt ε σ α) success
      failure :=
  Work.Ensures.pure ends

theorem bind {next : α → Attempt ε σ β} {last : β → Workspace σ → Prop}
    (first : Guarantees before attempt success failure)
    (second : ∀ value, Guarantees (success value) (next value) last
      failure) :
    Guarantees before (attempt >>= next) last failure := by
  change Work.Ensures before (attempt.run >>= ExceptT.bindCont next) _
  refine Work.Ensures.bind first ?_
  intro answer
  cases answer with
  | ok value => exact second value
  | error cause => exact Work.Ensures.pure fun _ holds => holds

theorem weaken {last : α → Workspace σ → Prop}
    {fails : ε → Workspace σ → Prop}
    (guarantees : Guarantees before attempt success failure)
    (starts : ∀ workspace, stronger workspace → before workspace)
    (ends : ∀ value workspace, success value workspace →
      last value workspace)
    (stops : ∀ cause workspace, failure cause workspace →
      fails cause workspace) :
    Guarantees stronger attempt last fails := by
  refine Work.Ensures.weaken guarantees starts ?_
  intro answer workspace holds
  cases answer with
  | ok value => exact ends value workspace holds
  | error cause => exact stops cause workspace holds

theorem of_start (guarantees : Guarantees before attempt success failure)
    (starts : ∀ workspace, stronger workspace → before workspace) :
    Guarantees stronger attempt success failure :=
  guarantees.weaken starts (fun _ _ => id) fun _ _ => id

theorem of_fact {fact : Prop}
    (guarantees : fact → Guarantees before attempt success failure) :
    Guarantees (fun workspace => fact ∧ before workspace) attempt success
      failure :=
  fun start starts => guarantees starts.1 start starts.2

theorem of_exists {ι : Type} {before : ι → Workspace σ → Prop}
    (guarantees : ∀ index, Guarantees (before index) attempt success
      failure) :
    Guarantees (fun workspace => ∃ index, before index workspace) attempt
      success failure :=
  fun start ⟨index, starts⟩ => guarantees index start starts

theorem adapt {explain : ε → ζ} {fails : ζ → Workspace σ → Prop}
    (guarantees : Guarantees before attempt success
      fun cause => fails (explain cause)) :
    Guarantees before (attempt.adapt explain) success fails := by
  change Work.Ensures before (attempt.run >>= fun answer =>
    Pure.pure (answer.mapError explain)) _
  refine Work.Ensures.bind guarantees ?_
  intro answer
  cases answer <;> exact Work.Ensures.pure fun _ holds => holds

theorem lift {work : Work σ α} (ensures : Work.Ensures before work success) :
    Guarantees before (ExceptT.lift work : Attempt ε σ α) success failure :=
  Work.Ensures.bind ensures fun _ => Work.Ensures.pure fun _ holds => holds

theorem onFailure {undo : Work σ Unit} {fails : ε → Workspace σ → Prop}
    (guarantees : Guarantees before attempt success fails)
    (undoes : ∀ cause, Work.Ensures (fails cause) undo
      fun _ => failure cause) :
    Guarantees before (attempt.onFailure undo) success failure := by
  refine Work.Ensures.bind guarantees ?_
  intro answer
  cases answer with
  | ok value => exact Work.Ensures.pure fun _ holds => holds
  | error cause =>
      exact Work.Ensures.bind (undoes cause) fun _ =>
        Work.Ensures.pure fun _ holds => holds

theorem afterwards {cleanup : Work σ Unit} {last : α → Workspace σ → Prop}
    {fails : ε → Workspace σ → Prop}
    (guarantees : Guarantees before attempt success failure)
    (cleans : ∀ value, Work.Ensures (success value) cleanup
      fun _ => last value)
    (gives : ∀ cause, Work.Ensures (failure cause) cleanup
      fun _ => fails cause) :
    Guarantees before (attempt.afterwards cleanup) last fails := by
  refine Work.Ensures.bind guarantees ?_
  intro answer
  cases answer with
  | ok value =>
      exact Work.Ensures.bind (cleans value) fun _ =>
        Work.Ensures.pure fun _ holds => holds
  | error cause =>
      exact Work.Ensures.bind (gives cause) fun _ =>
        Work.Ensures.pure fun _ holds => holds

theorem call {operation : StateM σ (Except ε α)} {note : Except ε α → Call}
    (ends : ∀ start answer finish, before start →
      start.Adds [note answer] finish →
      Attempt.finished success failure answer finish) :
    Guarantees before (ExceptT.mk (Work.call operation note)) success
      failure :=
  of_ends fun start answer finish starts ended =>
    ends start answer finish starts ended.adds

end Guarantees

end Attempt

end MeshCapture
