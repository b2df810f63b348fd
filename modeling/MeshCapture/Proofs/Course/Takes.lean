import MeshCapture.Proofs.Course.Step
import MeshCapture.Proofs.Work.Guarantees

/-! # Work as a course

`Takes before work after` says that `work` goes a course from every standing
that meets `before`, and that it ends with an answer and in a standing that meet
`after`. Seen from where the course began, that is something work ensures of
workspaces, so that each combinator has its rule from there. -/

namespace MeshCapture

variable {σ ε ζ α β : Type}

/-- A course leads from `first` to the workspace and ends there as it is to. -/
def Standing.Leads (first : Standing) (ends : Standing → Prop)
    (workspace : Workspace σ) : Prop :=
  ∃ held drawn, Course first (workspace.standing held drawn) ∧
    ends (workspace.standing held drawn)

theorem Standing.Leads.weaken {first : Standing} {ends weaker : Standing → Prop}
    {workspace : Workspace σ} (leads : first.Leads ends workspace)
    (weakens : ∀ standing, ends standing → weaker standing) :
    first.Leads weaker workspace := by
  rcases leads with ⟨held, drawn, course, reached⟩
  exact ⟨held, drawn, course, weakens _ reached⟩

namespace Work

def Takes (before : Standing → Prop) (work : Work σ α)
    (after : α → Standing → Prop) : Prop :=
  ∀ workspace held drawn, before (workspace.standing held drawn) →
    ∃ heldAfter drawnAfter,
      Course (workspace.standing held drawn)
        ((work.run workspace).2.standing heldAfter drawnAfter) ∧
      after (work.run workspace).1
        ((work.run workspace).2.standing heldAfter drawnAfter)

namespace Takes

variable {before stronger : Standing → Prop}
  {after weaker : α → Standing → Prop} {work : Work σ α}

theorem iff_ensures : Takes before work after ↔
    ∀ first : Standing, Ensures (first.Leads before) work
      fun answer => first.Leads (after answer) := by
  constructor
  · rintro takes first workspace ⟨held, drawn, course, starts⟩
    rcases takes workspace held drawn starts with
      ⟨heldAfter, drawnAfter, rest, ends⟩
    exact ⟨heldAfter, drawnAfter, course.trans rest, ends⟩
  · intro ensures workspace held drawn starts
    exact ensures _ workspace ⟨held, drawn, .refl, starts⟩

theorem pure {value : α} (ends : ∀ standing, before standing →
    after value standing) :
    Takes before (Pure.pure value : Work σ α) after :=
  iff_ensures.mpr fun _ => .pure fun _ leads => leads.weaken ends

theorem bind {next : α → Work σ β} {last : β → Standing → Prop}
    (first : Takes before work after)
    (second : ∀ value, Takes (after value) (next value) last) :
    Takes before (work >>= next) last :=
  iff_ensures.mpr fun start =>
    .bind (iff_ensures.mp first start) fun value =>
      iff_ensures.mp (second value) start

theorem weaken (takes : Takes before work after)
    (starts : ∀ standing, stronger standing → before standing)
    (ends : ∀ value standing, after value standing → weaker value standing) :
    Takes stronger work weaker :=
  iff_ensures.mpr fun first =>
    (iff_ensures.mp takes first).weaken
      (fun _ leads => leads.weaken starts)
      fun value _ leads => leads.weaken (ends value)

theorem of_standing
    (each : ∀ standing, before standing → Takes (· = standing) work after) :
    Takes before work after :=
  fun workspace held drawn starts =>
    each _ starts workspace held drawn rfl

theorem call {operation : StateM σ α} {note : α → Call}
    (step : ∀ answer standing, before standing →
      ∃ held, Step standing { standing.note (note answer) with held } ∧
        after answer { standing.note (note answer) with held }) :
    Takes before (Work.call operation note) after := by
  intro workspace held drawn starts
  rcases step (operation.run workspace.device).1 _ starts with
    ⟨heldAfter, taken, ends⟩
  have same :
      ((Work.call operation note).run workspace).2.standing heldAfter none =
        { (workspace.standing held drawn).note
            (note (operation.run workspace.device).1) with
          held := heldAfter } := by
    change Standing.mk (_ :: workspace.calls).reverse _ _ _ _ = _
    rw [List.reverse_cons]
    rfl
  refine ⟨heldAfter, none, ?_, ?_⟩
  · exact same ▸ .single taken
  · exact same ▸ ends

theorem modify {change : Workspace σ → Workspace σ}
    {ends : PUnit → Standing → Prop}
    (step : ∀ workspace held drawn, before (workspace.standing held drawn) →
      ∃ heldAfter drawnAfter,
        Course (workspace.standing held drawn)
          ((change workspace).standing heldAfter drawnAfter) ∧
        ends ⟨⟩ ((change workspace).standing heldAfter drawnAfter)) :
    Takes before (modify change : Work σ PUnit) ends :=
  step

theorem scratch? {ends : Option Scratch → Standing → Prop}
    (known : ∀ standing, before standing → ends standing.scratch standing) :
    Takes before (Work.scratch? : Work σ (Option Scratch)) ends :=
  fun _ held drawn starts => ⟨held, drawn, .refl, known _ starts⟩

end Takes

end Work

namespace Attempt

@[simp] def outcome (success : α → Standing → Prop) (failure : Standing → Prop) :
    Except ε α → Standing → Prop
  | .ok value => success value
  | .error _ => failure

def Takes (before : Standing → Prop) (attempt : Attempt ε σ α)
    (success : α → Standing → Prop) (failure : Standing → Prop) : Prop :=
  Work.Takes before attempt.run (outcome success failure)

namespace Takes

variable {before stronger failure : Standing → Prop}
  {success : α → Standing → Prop} {attempt : Attempt ε σ α}

theorem iff_guarantees : Takes before attempt success failure ↔
    ∀ first : Standing, Guarantees (first.Leads before) attempt
      (fun value => first.Leads (success value))
      fun _ => first.Leads failure := by
  refine Work.Takes.iff_ensures.trans (forall_congr' fun first => ?_)
  apply iff_of_eq
  apply congrArg (Work.Ensures (first.Leads before) attempt.run)
  funext answer
  cases answer <;> rfl

theorem pure {value : α} (ends : ∀ standing, before standing →
    success value standing) :
    Takes before (Pure.pure value : Attempt ε σ α) success failure :=
  Work.Takes.pure ends

theorem throw {cause : ε} (ends : ∀ standing, before standing →
    failure standing) :
    Takes before (MonadExcept.throw cause : Attempt ε σ α) success failure :=
  Work.Takes.pure ends

theorem bind {next : α → Attempt ε σ β} {last : β → Standing → Prop}
    (first : Takes before attempt success failure)
    (second : ∀ value, Takes (success value) (next value) last failure) :
    Takes before (attempt >>= next) last failure :=
  iff_guarantees.mpr fun start =>
    .bind (iff_guarantees.mp first start) fun value =>
      iff_guarantees.mp (second value) start

theorem weaken {last : α → Standing → Prop} {fails : Standing → Prop}
    (takes : Takes before attempt success failure)
    (starts : ∀ standing, stronger standing → before standing)
    (ends : ∀ value standing, success value standing → last value standing)
    (stops : ∀ standing, failure standing → fails standing) :
    Takes stronger attempt last fails :=
  iff_guarantees.mpr fun first =>
    (iff_guarantees.mp takes first).weaken
      (fun _ leads => leads.weaken starts)
      (fun value _ leads => leads.weaken (ends value))
      fun _ _ leads => leads.weaken stops

theorem adapt {explain : ε → ζ}
    (takes : Takes before attempt success failure) :
    Takes before (attempt.adapt explain) success failure :=
  iff_guarantees.mpr fun first =>
    .adapt (iff_guarantees.mp takes first)

theorem lift {work : Work σ α} (takes : Work.Takes before work success) :
    Takes before (ExceptT.lift work : Attempt ε σ α) success failure :=
  iff_guarantees.mpr fun first =>
    .lift (Work.Takes.iff_ensures.mp takes first)

theorem onFailure {undo : Work σ Unit} {fails : Standing → Prop}
    (takes : Takes before attempt success fails)
    (undoes : Work.Takes fails undo fun _ => failure) :
    Takes before (attempt.onFailure undo) success failure :=
  iff_guarantees.mpr fun first =>
    .onFailure (iff_guarantees.mp takes first) fun _ =>
      Work.Takes.iff_ensures.mp undoes first

theorem afterwards {cleanup : Work σ Unit}
    {last : α → Standing → Prop} {fails : Standing → Prop}
    (takes : Takes before attempt success failure)
    (cleans : ∀ value, Work.Takes (success value) cleanup fun _ => last value)
    (gives : Work.Takes failure cleanup fun _ => fails) :
    Takes before (attempt.afterwards cleanup) last fails :=
  iff_guarantees.mpr fun first =>
    .afterwards (iff_guarantees.mp takes first)
      (fun value => Work.Takes.iff_ensures.mp (cleans value) first) fun _ =>
        Work.Takes.iff_ensures.mp gives first

end Takes

end Attempt

end MeshCapture
