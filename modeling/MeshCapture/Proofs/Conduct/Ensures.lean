import MeshCapture.Proofs.Conduct.Deed
import MeshCapture.Proofs.Work.Guarantees

/-! # Work as conduct

What workspaces meet is mostly that they were reached by deeds, with such and
such in hand. Why an attempt failed is nothing to that: `Ensures` has one and the
same behind every failure. -/

namespace MeshCapture.Attempt

variable {σ ε ζ α β : Type}

def Ensures (before : Workspace σ → Prop) (attempt : Attempt ε σ α)
    (success : α → Workspace σ → Prop) (failure : Workspace σ → Prop) : Prop :=
  Guarantees before attempt success fun _ => failure

namespace Ensures

variable {before stronger failure : Workspace σ → Prop}
  {success : α → Workspace σ → Prop} {attempt : Attempt ε σ α}

theorem pure {value : α}
    (ends : ∀ workspace, before workspace → success value workspace) :
    Ensures before (Pure.pure value : Attempt ε σ α) success failure :=
  Guarantees.pure ends

theorem throw {cause : ε}
    (ends : ∀ workspace, before workspace → failure workspace) :
    Ensures before (MonadExcept.throw cause : Attempt ε σ α) success failure :=
  Guarantees.throw ends

theorem bind {next : α → Attempt ε σ β} {last : β → Workspace σ → Prop}
    (first : Ensures before attempt success failure)
    (second : ∀ value, Ensures (success value) (next value) last failure) :
    Ensures before (attempt >>= next) last failure :=
  Guarantees.bind first second

theorem weaken {last : α → Workspace σ → Prop} {fails : Workspace σ → Prop}
    (ensures : Ensures before attempt success failure)
    (starts : ∀ workspace, stronger workspace → before workspace)
    (ends : ∀ value workspace, success value workspace → last value workspace)
    (stops : ∀ workspace, failure workspace → fails workspace) :
    Ensures stronger attempt last fails :=
  Guarantees.weaken ensures starts ends fun _ => stops

theorem adapt {explain : ε → ζ}
    (ensures : Ensures before attempt success failure) :
    Ensures before (attempt.adapt explain) success failure :=
  Guarantees.adapt ensures

theorem lift {work : Work σ α} (ensures : Work.Ensures before work success) :
    Ensures before (ExceptT.lift work : Attempt ε σ α) success failure :=
  Guarantees.lift ensures

theorem onFailure {undo : Work σ Unit} {fails : Workspace σ → Prop}
    (ensures : Ensures before attempt success fails)
    (undoes : Work.Ensures fails undo fun _ => failure) :
    Ensures before (attempt.onFailure undo) success failure :=
  Guarantees.onFailure ensures fun _ => undoes

theorem afterwards {cleanup : Work σ Unit} {last : α → Workspace σ → Prop}
    {fails : Workspace σ → Prop}
    (ensures : Ensures before attempt success failure)
    (cleans : ∀ value, Work.Ensures (success value) cleanup fun _ => last value)
    (gives : Work.Ensures failure cleanup fun _ => fails) :
    Ensures before (attempt.afterwards cleanup) last fails :=
  Guarantees.afterwards ensures cleans fun _ => gives

end Ensures

end MeshCapture.Attempt
