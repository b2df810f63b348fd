import MeshCapture.Proofs.Growth

/-! # Capacities that hold what was asked for

Under sound settings the growth policy never falls short: a requirement too
close to the end of the word range to be rounded up is refused, and a capacity
that is not refused leaves room for the counters in front of it. -/

namespace MeshCapture

namespace Settings

/-- Where rounding up has to stop short of a requirement, the capacity is
refused; where it is not refused, no buffer size overflows. -/
structure Sound (settings : Settings) : Prop where
  refuses : settings.maxScratchBytes.toNat ≤
    (UInt64.size - 1) / settings.granule.toNat * settings.granule.toNat
  fits : settings.maxScratchBytes.toNat + settings.counterBytes.toNat ≤
    UInt64.size

instance (settings : Settings) : Decidable settings.Sound :=
  decidable_of_iff
    (settings.maxScratchBytes.toNat ≤
        (UInt64.size - 1) / settings.granule.toNat * settings.granule.toNat ∧
      settings.maxScratchBytes.toNat + settings.counterBytes.toNat ≤
        UInt64.size)
    ⟨fun holds => ⟨holds.1, holds.2⟩, fun sound => ⟨sound.1, sound.2⟩⟩

namespace Sound

variable {settings : Settings} {current required capacity : UInt64}

theorem required_le (sound : settings.Sound)
    (accepted : settings.grownCapacity current required <
      settings.maxScratchBytes) :
    required.toNat ≤ (settings.grownCapacity current required).toNat := by
  rcases settings.le_grownCapacity_or_eq current required with
    enough | rounded
  · exact enough
  · rw [UInt64.lt_iff_toNat_lt] at accepted
    rw [rounded] at accepted ⊢
    refine (le_roundUp_or_eq settings.granule_pos).resolve_right fun last => ?_
    have refuses := sound.refuses
    omega

theorem current_le (sound : settings.Sound)
    (accepted : settings.grownCapacity current required <
      settings.maxScratchBytes) :
    current.toNat ≤ (settings.grownCapacity current required).toNat ∧
      0 < (settings.grownCapacity current required).toNat := by
  have enough := sound.required_le accepted
  have positive := settings.growthStart_pos current
  have from_current := settings.le_growthStart current
  have grows := (settings.doubles_doubled current required).start_le
  rw [settings.grownCapacity_eq] at enough ⊢
  split
  · next short =>
      rw [if_pos short] at enough
      rw [UInt64.lt_iff_toNat_lt] at short
      omega
  · omega

theorem toNat_outputBytes (sound : settings.Sound)
    (accepted : capacity < settings.maxScratchBytes) :
    (Scratch.outputBytes settings capacity).toNat =
      capacity.toNat + settings.counterBytes.toNat := by
  have fits := sound.fits
  rw [UInt64.lt_iff_toNat_lt] at accepted
  rw [Scratch.outputBytes, UInt64.toNat_add]
  simp only [UInt64.size] at fits
  exact Nat.mod_eq_of_lt (by omega)

end Sound

end Settings

theorem Scratch.toNat_indexBytes (capacity : UInt64) :
    (indexBytes capacity).toNat = capacity.toNat / 16 :=
  UInt64.toNat_div _ _

end MeshCapture
