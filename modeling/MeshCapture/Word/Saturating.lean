/-! # Saturating words

Byte counts are 64-bit words. A sum or a product of counts that leaves the word
range stops at the largest word, so that an absurd request stays absurd instead
of wrapping round to a small one. `toNat_saturatingAdd`, `toNat_saturatingMul`
and `toNat_saturatingSub` give the operations their meaning on natural numbers. -/

namespace MeshCapture

def maxWord : UInt64 := 0xFFFFFFFFFFFFFFFF

def saturate (value : Nat) : UInt64 :=
  UInt64.ofNat (min value maxWord.toNat)

def saturatingAdd (left right : UInt64) : UInt64 :=
  saturate (left.toNat + right.toNat)

def saturatingMul (left right : UInt64) : UInt64 :=
  saturate (left.toNat * right.toNat)

def saturatingSub (left right : UInt64) : UInt64 :=
  if right ≤ left then left - right else 0

@[simp] theorem toNat_maxWord : maxWord.toNat = UInt64.size - 1 := rfl

theorem toNat_saturate (value : Nat) :
    (saturate value).toNat = min value (UInt64.size - 1) := by
  rw [saturate, toNat_maxWord]
  exact UInt64.toNat_ofNat_of_lt' (by simp only [UInt64.size]; omega)

theorem saturate_toNat (word : UInt64) : saturate word.toNat = word := by
  apply UInt64.toNat_inj.mp
  have := word.toNat_lt
  rw [toNat_saturate]
  simp only [UInt64.size]
  omega

theorem toNat_saturatingAdd (left right : UInt64) :
    (saturatingAdd left right).toNat =
      min (left.toNat + right.toNat) (UInt64.size - 1) :=
  toNat_saturate _

theorem toNat_saturatingMul (left right : UInt64) :
    (saturatingMul left right).toNat =
      min (left.toNat * right.toNat) (UInt64.size - 1) :=
  toNat_saturate _

theorem toNat_saturatingSub (left right : UInt64) :
    (saturatingSub left right).toNat = left.toNat - right.toNat := by
  unfold saturatingSub
  split
  · next ordered => exact UInt64.toNat_sub_of_le _ _ ordered
  · next disordered =>
      have : left.toNat < right.toNat :=
        UInt64.lt_iff_toNat_lt.mp (UInt64.not_le.mp disordered)
      simp
      omega

end MeshCapture
