import MeshCapture.Capture.Transfer
import MeshCapture.Proofs.Sizing.GrowthPolicy
import MeshCapture.Proofs.Sizing.Request

/-! # Room in the scratch set

Who asks for a scratch set gets one with room for all that is required. Only
in the upper half of the word range can rounding fall short of it. -/

namespace MeshCapture

/-- The output takes less than half the word range, as all byte sequences in
memory do. -/
def Scratch.IsAddressable (settings : Settings) (scratch : Scratch) : Prop :=
  scratch.capacity.toNat + settings.counterBytes.toNat < UInt64.size / 2

instance (settings : Settings) (scratch : Scratch) :
    Decidable (scratch.IsAddressable settings) :=
  inferInstanceAs (Decidable (_ < _))

theorem Attempt.Succeeds.scratchFor {σ : Type} [Device σ]
    {before after : Workspace σ} {settings : Settings} {scratch : Scratch}
    {required : UInt64}
    (succeeds : (Work.scratchFor settings required).Succeeds before scratch
      after)
    (addressable : scratch.IsAddressable settings) :
    required.toNat ≤ scratch.capacity.toNat := by
  have small : scratch.capacity.toNat < UInt64.size / 2 :=
    Nat.lt_of_le_of_lt (Nat.le_add_right _ _) addressable
  cases Ends.scratchFor succeeds with
  | kept present enough => exact UInt64.le_iff_toNat_le.mp enough
  | replaced lacking capacity =>
      rw [capacity] at small ⊢
      exact (settings.le_grownCapacity before.capacity required).resolve_right
        (Nat.not_le.mpr small)

end MeshCapture
