import MeshCapture.Word.Alignment
import Mathlib.Order.Bounds.Basic

/-! # Rounding up to a granularity

The least multiple at or above a value is found where it is a word. Where it is
none, rounding stops at the last multiple that is one. `roundUp_exact` collects
what holds of every value. -/

namespace MeshCapture

/-- Rounding up leads to the next multiple or, where that is no word, to the
largest multiple that is one. -/
theorem toNat_roundUp {value alignment : UInt64}
    (positive : 0 < alignment.toNat) :
    (roundUp value alignment).toNat =
      if value.toNat + (alignment.toNat - 1) < UInt64.size then
        (value.toNat + (alignment.toNat - 1)) / alignment.toNat *
          alignment.toNat
      else
        (UInt64.size - 1) / alignment.toNat * alignment.toNat := by
  have multiple {word : UInt64} :
      (word / alignment * alignment).toNat =
        word.toNat / alignment.toNat * alignment.toNat := by
    rw [UInt64.toNat_mul, UInt64.toNat_div]
    exact Nat.mod_eq_of_lt
      (Nat.lt_of_le_of_lt (Nat.div_mul_le_self _ _) word.toNat_lt)
  have padding : (alignment - 1).toNat = alignment.toNat - 1 :=
    UInt64.toNat_sub_of_le _ _ (UInt64.le_iff_toNat_le.mpr positive)
  have fits_iff : value ≤ maxWord - (alignment - 1) ↔
      value.toNat + (alignment.toNat - 1) < UInt64.size := by
    have small := alignment.toNat_lt
    rw [UInt64.le_iff_toNat_le, UInt64.toNat_sub_of_le _ _
      (UInt64.le_iff_toNat_le.mpr
        (Nat.le_sub_one_of_lt (alignment - 1).toNat_lt)), padding,
      toNat_maxWord]
    simp only [UInt64.size]
    omega
  unfold roundUp
  simp only [fits_iff]
  split
  · next fits =>
      have sum : (value + (alignment - 1)).toNat =
          value.toNat + (alignment.toNat - 1) := by
        rw [UInt64.toNat_add, padding]
        exact Nat.mod_eq_of_lt fits
      rw [multiple, sum]
  · rw [multiple, toNat_maxWord]

theorem le_roundUp_or_eq {value alignment : UInt64}
    (positive : 0 < alignment.toNat) :
    value.toNat ≤ (roundUp value alignment).toNat ∨
      (roundUp value alignment).toNat =
        (UInt64.size - 1) / alignment.toNat * alignment.toNat := by
  rw [toNat_roundUp positive]
  split
  · have least := Nat.lt_div_mul_add positive
      (a := value.toNat + (alignment.toNat - 1))
    exact .inl (by omega)
  · exact .inr rfl

theorem half_le_lastMultiple {alignment : UInt64}
    (positive : 0 < alignment.toNat) :
    UInt64.size / 2 ≤
      (UInt64.size - 1) / alignment.toNat * alignment.toNat := by
  have least := Nat.lt_div_mul_add positive (a := UInt64.size - 1)
  have one_granule : alignment.toNat ≤
      (UInt64.size - 1) / alignment.toNat * alignment.toNat :=
    Nat.le_mul_of_pos_left _ (Nat.div_pos
      (Nat.le_sub_one_of_lt alignment.toNat_lt) positive)
  simp only [UInt64.size] at least one_granule ⊢
  omega

theorem le_roundUp {value alignment : UInt64}
    (positive : 0 < alignment.toNat) :
    value.toNat ≤ (roundUp value alignment).toNat ∨
      UInt64.size / 2 ≤ (roundUp value alignment).toNat := by
  refine (le_roundUp_or_eq positive).imp_right fun last => ?_
  rw [last]
  exact half_le_lastMultiple positive

theorem roundUp_le_lastMultiple {value alignment : UInt64}
    (positive : 0 < alignment.toNat) :
    (roundUp value alignment).toNat ≤
      (UInt64.size - 1) / alignment.toNat * alignment.toNat := by
  rw [toNat_roundUp positive]
  split
  · exact Nat.mul_le_mul_right _
      (Nat.div_le_div_right (Nat.le_sub_one_of_lt ‹_›))
  · exact Nat.le_refl _

theorem isLeast_multiple {granule : Nat} (positive : 0 < granule)
    (value : Nat) :
    IsLeast {multiple | granule ∣ multiple ∧ value ≤ multiple}
      ((value + (granule - 1)) / granule * granule) := by
  have whole := Nat.lt_div_mul_add positive (a := value + (granule - 1))
  constructor
  · exact ⟨Nat.dvd_mul_left _ _, by omega⟩
  · rintro _ ⟨⟨quotient, rfl⟩, above⟩
    rw [Nat.mul_comm granule]
    apply Nat.mul_le_mul_right
    apply Nat.le_of_lt_succ
    apply (Nat.div_lt_iff_lt_mul positive).mpr
    rw [Nat.succ_mul, Nat.mul_comm quotient]
    omega

/-- Rounding up gives the least multiple whenever that is a word, also where the
sum on the way to it is none. -/
theorem toNat_roundUp_of_isLeast {value alignment : UInt64} {least : Nat}
    (positive : 0 < alignment.toNat)
    (rounded : IsLeast
      {multiple | alignment.toNat ∣ multiple ∧ value.toNat ≤ multiple} least)
    (fits : least < UInt64.size) :
    (roundUp value alignment).toNat = least := by
  rw [toNat_roundUp positive]
  split
  · exact (isLeast_multiple positive value.toNat).unique rounded
  · next large =>
      rcases rounded.1 with ⟨multiple, above⟩
      have last := Nat.div_mul_le_self (UInt64.size - 1) alignment.toNat
      have reaches :
          least ≤ (UInt64.size - 1) / alignment.toNat * alignment.toNat := by
        rw [← Nat.div_mul_cancel multiple]
        exact Nat.mul_le_mul_right _
          (Nat.div_le_div_right (Nat.le_sub_one_of_lt fits))
      have between := Nat.eq_zero_of_dvd_of_lt
        (Nat.dvd_sub (Nat.dvd_mul_left _ _) multiple)
        (show (UInt64.size - 1) / alignment.toNat * alignment.toNat - least <
          alignment.toNat by omega)
      omega

/-! ## The last multiple -/

theorem dvd_roundUp {value alignment : UInt64}
    (positive : 0 < alignment.toNat) :
    alignment.toNat ∣ (roundUp value alignment).toNat := by
  rw [toNat_roundUp positive]
  split <;> exact Nat.dvd_mul_left _ _

theorem roundUp_of_dvd {value alignment : UInt64}
    (positive : 0 < alignment.toNat)
    (multiple : alignment.toNat ∣ value.toNat) :
    roundUp value alignment = value := by
  have itself : IsLeast
      {multiple | alignment.toNat ∣ multiple ∧ value.toNat ≤ multiple}
      value.toNat :=
    ⟨⟨multiple, Nat.le_refl _⟩, fun _ above => above.2⟩
  exact UInt64.toNat_inj.mp
    (toNat_roundUp_of_isLeast positive itself value.toNat_lt)

theorem isGreatest_lastMultiple {granule : Nat} (positive : 0 < granule) :
    IsGreatest {multiple | granule ∣ multiple ∧ multiple < UInt64.size}
      ((UInt64.size - 1) / granule * granule) := by
  constructor
  · have below := Nat.div_mul_le_self (UInt64.size - 1) granule
    exact ⟨Nat.dvd_mul_left _ _,
      Nat.lt_of_le_of_lt below (by simp only [UInt64.size]; omega)⟩
  · rintro _ ⟨⟨quotient, rfl⟩, below⟩
    rw [Nat.mul_comm granule] at below ⊢
    exact Nat.mul_le_mul_right _
      ((Nat.le_div_iff_mul_le positive).mpr (Nat.le_sub_one_of_lt below))

theorem isGreatest_roundUp {value alignment : UInt64} {least : Nat}
    (positive : 0 < alignment.toNat)
    (rounded : IsLeast
      {multiple | alignment.toNat ∣ multiple ∧ value.toNat ≤ multiple} least)
    (large : UInt64.size ≤ least) :
    IsGreatest {multiple | alignment.toNat ∣ multiple ∧ multiple < UInt64.size}
      (roundUp value alignment).toNat := by
  have short : (roundUp value alignment).toNat < value.toNat := by
    by_contra reaches
    have enough := rounded.2 ⟨dvd_roundUp positive, Nat.le_of_not_lt reaches⟩
    have word := (roundUp value alignment).toNat_lt
    simp only [UInt64.size] at large
    omega
  rw [(le_roundUp_or_eq positive).resolve_left (Nat.not_le_of_lt short)]
  exact isGreatest_lastMultiple positive

theorem roundUp_mono {lower upper alignment : UInt64}
    (positive : 0 < alignment.toNat) (le : lower ≤ upper) :
    roundUp lower alignment ≤ roundUp upper alignment := by
  rw [UInt64.le_iff_toNat_le] at le ⊢
  have rounded : (roundUp upper alignment).toNat = _ := toNat_roundUp positive
  rw [rounded]
  split
  · next fits =>
      rw [toNat_roundUp positive, if_pos (by omega)]
      exact Nat.mul_le_mul_right _
        (Nat.div_le_div_right (Nat.add_le_add_right le _))
  · exact roundUp_le_lastMultiple positive

/-! ## Rounding step by step -/

def word? (exact : Int) : Option UInt64 :=
  if 0 ≤ exact ∧ exact < UInt64.size then
    some (UInt64.ofNat exact.toNat)
  else
    none

/-- Rounding up in single steps, with every result checked to be a word. Only
the sum need not be one: then the largest word is taken in its place. -/
def roundUpStepwise (value alignment : UInt64) : Option UInt64 := do
  let padding ← word? (alignment.toNat - 1)
  let padded := (word? (value.toNat + padding.toNat : Nat)).getD maxWord
  word? (padded.toNat / alignment.toNat * alignment.toNat : Nat)

theorem word?_toNat (word : UInt64) : word? word.toNat = some word := by
  have small := word.toNat_lt
  rw [word?, if_pos (by simp only [UInt64.size]; omega), Int.toNat_natCast,
    UInt64.ofNat_toNat]

theorem word?_of_size_le {exact : Nat} (large : UInt64.size ≤ exact) :
    word? exact = none := by
  rw [word?, if_neg (by omega)]

theorem roundUpStepwise_eq {value alignment : UInt64}
    (positive : 0 < alignment.toNat) :
    roundUpStepwise value alignment = some (roundUp value alignment) := by
  have padding : (alignment - 1).toNat = alignment.toNat - 1 :=
    UInt64.toNat_sub_of_le _ _ (UInt64.le_iff_toNat_le.mpr positive)
  have subtracted : word? (alignment.toNat - 1) = some (alignment - 1) := by
    rw [← word?_toNat]
    congr 1
    omega
  have rounds {padded : UInt64}
      (multiple : (roundUp value alignment).toNat =
        padded.toNat / alignment.toNat * alignment.toNat) :
      word? (padded.toNat / alignment.toNat * alignment.toNat : Nat) =
        some (roundUp value alignment) := by
    rw [← multiple, word?_toNat]
  have rounded : (roundUp value alignment).toNat = _ := toNat_roundUp positive
  rw [roundUpStepwise, subtracted, Option.bind_eq_bind, Option.bind_some]
  apply rounds
  split at rounded
  · next fits =>
      have sum : (value + (alignment - 1)).toNat =
          value.toNat + (alignment - 1).toNat := by
        rw [UInt64.toNat_add, padding]
        exact Nat.mod_eq_of_lt fits
      rw [← sum, word?_toNat, Option.getD_some, sum, padding, rounded]
  · next large =>
      rw [padding, word?_of_size_le (Nat.le_of_not_lt large), rounded]
      rfl

/-- Rounding up is exact: it leads to the least multiple where that is a word
and to the last one that is a word where it is none, keeps the order, leaves
multiples where they are and takes no step out of the words. -/
theorem roundUp_exact {alignment : UInt64} (positive : 0 < alignment) :
    (∀ value, ∃ least,
      IsLeast
        {multiple | alignment.toNat ∣ multiple ∧ value.toNat ≤ multiple}
        least ∧
      if least < UInt64.size then
        (roundUp value alignment).toNat = least
      else
        IsGreatest
          {multiple | alignment.toNat ∣ multiple ∧ multiple < UInt64.size}
          (roundUp value alignment).toNat) ∧
    (∀ lower upper, lower ≤ upper →
      roundUp lower alignment ≤ roundUp upper alignment) ∧
    (∀ value, roundUp (roundUp value alignment) alignment =
      roundUp value alignment) ∧
    ∀ value, roundUpStepwise value alignment =
      some (roundUp value alignment) := by
  replace positive : 0 < alignment.toNat := UInt64.lt_iff_toNat_lt.mp positive
  refine ⟨fun value => ?_, ?_, ?_, ?_⟩
  · have rounded := isLeast_multiple positive value.toNat
    refine ⟨_, rounded, ?_⟩
    split
    · next fits => exact toNat_roundUp_of_isLeast positive rounded fits
    · next large =>
        exact isGreatest_roundUp positive rounded (Nat.le_of_not_lt large)
  · intro lower upper le
    exact roundUp_mono positive le
  · intro value
    exact roundUp_of_dvd positive (dvd_roundUp positive)
  · intro value
    exact roundUpStepwise_eq positive

/-- Granules of ten at the end of the word range: the sum with the padding is no
word, whether the multiple is one or not. -/
theorem roundUp_exact_ten :
    0 < (10 : UInt64) ∧
      word? ((maxWord - 7).toNat + 9) = none ∧
      roundUp (maxWord - 7) 10 = maxWord - 5 ∧
      roundUpStepwise (maxWord - 7) 10 = some (maxWord - 5) ∧
      IsGreatest {multiple | 10 ∣ multiple ∧ multiple < UInt64.size}
        (roundUp (maxWord - 1) 10).toNat ∧
      roundUp (maxWord - 7) 10 ≤ roundUp (maxWord - 1) 10 ∧
      roundUp (roundUp (maxWord - 1) 10) 10 = roundUp (maxWord - 1) 10 := by
  have positive : 0 < (10 : UInt64) := by decide
  have ⟨nearest, ordered, settled, stepwise⟩ := roundUp_exact positive
  have fitting : roundUp (maxWord - 7) 10 = maxWord - 5 := by decide
  have beyond : IsGreatest {multiple | 10 ∣ multiple ∧ multiple < UInt64.size}
      (roundUp (maxWord - 1) 10).toNat := by
    obtain ⟨least, rounded, told⟩ := nearest (maxWord - 1)
    have large : ¬ least < UInt64.size := by
      intro small
      rw [if_pos small] at told
      have short : (roundUp (maxWord - 1) 10).toNat < (maxWord - 1).toNat := by
        decide
      exact absurd (rounded.1.2.trans told.ge) (Nat.not_le_of_lt short)
    rwa [if_neg large] at told
  exact ⟨positive, by decide, fitting, fitting ▸ stepwise _, beyond,
    ordered _ _ (by decide), settled _⟩

end MeshCapture
