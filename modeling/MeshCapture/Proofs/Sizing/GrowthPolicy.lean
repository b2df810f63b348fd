import MeshCapture.Settings
import MeshCapture.Proofs.Alignment

/-! # The growth policy

Growth doubles the capacity up to a limit and rounds a requirement up where
doubling does not reach it. `grownCapacity_grows` tells what comes of this while
the rounded requirement is a word, and `current_le_grownCapacity_iff` when a
capacity does not shrink. -/

namespace MeshCapture

/-! ## Doubling -/

/-- A size is doubled as long as both the requirement and the limit lie above
it, and this comes to an end at `finish`. -/
inductive Doubles (required limit : UInt64) :
    (start finish : UInt64) → Prop where
  | done {size : UInt64} (enough : ¬ (size < required ∧ size < limit)) :
      Doubles required limit size size
  | more {size finish : UInt64} (short : size < required ∧ size < limit)
      (later : Doubles required limit (saturatingMul size 2) finish) :
      Doubles required limit size finish

/-- Doubling numbers instead of words leads to the same end, because a product
that saturates is above every requirement. -/
theorem doubles_doubledTo {required limit : UInt64} {size : Nat}
    (positive : 0 < size) :
    Doubles required limit (saturate size)
      (saturate (doubledTo (min required limit).toNat size)) := by
  have below_iff (size : UInt64) : size < required ∧ size < limit ↔
      size.toNat < (min required limit).toNat := by
    rw [UInt64.lt_iff_toNat_lt, UInt64.lt_iff_toNat_lt, UInt64.toNat_min]
    omega
  have words := (min required limit).toNat_lt
  generalize (min required limit).toNat = target at below_iff words ⊢
  fun_induction doubledTo target size with
  | case1 size short induction =>
      have same : (saturate size).toNat = size := by
        rw [toNat_saturate]
        simp only [UInt64.size]
        omega
      apply Doubles.more ((below_iff _).mpr (same.symm ▸ short.2))
      rw [saturatingMul, same, Nat.mul_comm]
      exact induction (by omega)
  | case2 size enough =>
      apply Doubles.done
      rw [below_iff, toNat_saturate]
      simp only [UInt64.size]
      omega

namespace Doubles

variable {required further limit start finish beyond : UInt64}

theorem toNat_double (size : UInt64) :
    (saturatingMul size 2).toNat = min (2 * size.toNat) (UInt64.size - 1) := by
  rw [toNat_saturatingMul, Nat.mul_comm]
  rfl

theorem start_le (doubles : Doubles required limit start finish) :
    start.toNat ≤ finish.toNat := by
  induction doubles with
  | done => exact Nat.le_refl _
  | @more size _ _ _ induction =>
      have small := size.toNat_lt
      rw [toNat_double] at induction
      simp only [UInt64.size] at induction
      omega

theorem eq_start (doubles : Doubles required limit start finish)
    (enough : required ≤ start ∨ limit ≤ start) : finish = start := by
  cases doubles with
  | done => rfl
  | more short =>
      rcases enough with covered | reached
      · exact absurd short.1 (UInt64.not_lt.mpr covered)
      · exact absurd short.2 (UInt64.not_lt.mpr reached)

theorem lt_two_mul (doubles : Doubles required limit start finish) :
    finish = start ∨ finish.toNat < 2 * required.toNat := by
  induction doubles with
  | done => exact .inl rfl
  | @more size finish short _ induction =>
      have below := UInt64.lt_iff_toNat_lt.mp short.1
      rcases induction with same | bounded
      · rw [same, toNat_double]
        omega
      · exact .inr bounded

theorem double_le (doubles : Doubles required limit start finish)
    (short : finish < required) (below : start < limit) :
    2 * start.toNat ≤ finish.toNat := by
  cases doubles with
  | done enough => exact absurd ⟨short, below⟩ enough
  | more _ later =>
      have grows := later.start_le
      have last := Nat.lt_of_lt_of_le (UInt64.lt_iff_toNat_lt.mp short)
        (Nat.le_sub_one_of_lt required.toNat_lt)
      rw [toNat_double] at grows
      simp only [UInt64.size] at grows
      omega

theorem mono (doubles : Doubles required limit start finish)
    (others : Doubles further limit start beyond) (le : required ≤ further) :
    finish.toNat ≤ beyond.toNat := by
  induction doubles with
  | done => exact others.start_le
  | more short _ induction =>
      cases others with
      | done enough =>
          exact absurd ⟨UInt64.lt_of_lt_of_le short.1 le, short.2⟩ enough
      | more _ later => exact induction later

theorem of_le (doubles : Doubles required limit start finish)
    (short : finish < required) (le : required ≤ further) :
    Doubles further limit start finish := by
  induction doubles with
  | done enough => exact .done fun below => enough ⟨short, below.2⟩
  | more below _ induction =>
      exact .more ⟨UInt64.lt_of_lt_of_le below.1 le, below.2⟩ (induction short)

end Doubles

/-! ## Grown capacities -/

namespace Settings

def granule (settings : Settings) : UInt64 :=
  max settings.largeGrowthAlignment 1

theorem granule_pos (settings : Settings) : 0 < settings.granule.toNat := by
  rw [granule, UInt64.toNat_max]
  exact Nat.lt_of_lt_of_le Nat.one_pos (Nat.le_max_right _ _)

variable (settings : Settings)

def growthStart (current : UInt64) : UInt64 :=
  if current = 0 then max settings.initialScratchBytes 1 else current

theorem growthStart_pos (current : UInt64) :
    0 < (settings.growthStart current).toNat := by
  rw [growthStart]
  split
  · rw [UInt64.toNat_max]
    exact Nat.lt_of_lt_of_le Nat.one_pos (Nat.le_max_right _ _)
  · next some =>
      exact Nat.pos_of_ne_zero fun zero => some (UInt64.toNat_inj.mp zero)

theorem growthStart_of_pos {current : UInt64} (some : 0 < current.toNat) :
    settings.growthStart current = current := by
  rw [growthStart, if_neg]
  intro none
  rw [none] at some
  exact Nat.lt_irrefl _ some

theorem le_growthStart (current : UInt64) :
    current.toNat ≤ (settings.growthStart current).toNat := by
  rw [growthStart]
  split
  · next none => exact none ▸ Nat.zero_le _
  · exact Nat.le_refl _

def doubled (current required : UInt64) : UInt64 :=
  saturate (doubledTo (min required settings.exponentialGrowthLimit).toNat
    (settings.growthStart current).toNat)

theorem doubles_doubled (current required : UInt64) :
    Doubles required settings.exponentialGrowthLimit
      (settings.growthStart current) (settings.doubled current required) := by
  have doubles : Doubles required settings.exponentialGrowthLimit
      (saturate (settings.growthStart current).toNat)
      (settings.doubled current required) :=
    doubles_doubledTo (settings.growthStart_pos current)
  rwa [saturate_toNat] at doubles

theorem grownCapacity_eq (current required : UInt64) :
    settings.grownCapacity current required =
      if settings.doubled current required < required then
        roundUp required settings.granule
      else settings.doubled current required :=
  rfl

theorem le_grownCapacity_or_eq (current required : UInt64) :
    let capacity := settings.grownCapacity current required
    required.toNat ≤ capacity.toNat ∨
      capacity = roundUp required settings.granule := by
  intro capacity
  rw [show capacity = _ from settings.grownCapacity_eq current required]
  split
  · exact .inr rfl
  · next enough =>
      exact .inl (UInt64.le_iff_toNat_le.mp (UInt64.not_lt.mp enough))

theorem le_grownCapacity (current required : UInt64) :
    let capacity := settings.grownCapacity current required
    required.toNat ≤ capacity.toNat ∨ UInt64.size / 2 ≤ capacity.toNat := by
  intro capacity
  rcases settings.le_grownCapacity_or_eq current required with
    enough | rounded
  · exact .inl enough
  · rw [show capacity = _ from rounded]
    exact le_roundUp settings.granule_pos

/-! ### Rounded requirements -/

def Rounds (required rounded : UInt64) : Prop :=
  IsLeast {multiple | settings.granule.toNat ∣ multiple ∧
    required.toNat ≤ multiple} rounded.toNat

/-- Growth doubles the capacity until it suffices or the limit is reached, and
rounds up what the doubling does not reach. It gives no less than there was or
is required, and no more than doubling or rounding once goes beyond that. -/
structure Grows (current required rounded capacity : UInt64) : Prop where
  doubles : ∃ doubled,
    Doubles required settings.exponentialGrowthLimit
      (settings.growthStart current) doubled ∧
    capacity = if doubled < required then rounded else doubled
  start_le : settings.growthStart current ≤ capacity
  current_le : current ≤ capacity
  required_le : required ≤ capacity
  eq_start : required ≤ settings.growthStart current →
    capacity = settings.growthStart current
  /-- A size that saturated is below twice the requirement as well. -/
  bounded : settings.growthStart current < required →
    capacity.toNat < 2 * required.toNat ∨ capacity = rounded

section

variable {settings}

theorem Rounds.roundUp_eq {required rounded : UInt64}
    (rounds : settings.Rounds required rounded) :
    roundUp required settings.granule = rounded :=
  UInt64.toNat_inj.mp
    (toNat_roundUp_of_isLeast settings.granule_pos rounds rounded.toNat_lt)

theorem Rounds.le {required rounded : UInt64}
    (rounds : settings.Rounds required rounded) : required ≤ rounded :=
  UInt64.le_iff_toNat_le.mpr rounds.1.2

theorem Rounds.mono {required rounded further beyond : UInt64}
    (rounds : settings.Rounds required rounded)
    (others : settings.Rounds further beyond) (le : required ≤ further) :
    rounded ≤ beyond := by
  apply UInt64.le_iff_toNat_le.mpr
  apply rounds.2
  exact ⟨others.1.1, (UInt64.le_iff_toNat_le.mp le).trans others.1.2⟩

theorem Rounds.grownCapacity_eq {required rounded : UInt64}
    (rounds : settings.Rounds required rounded) (current : UInt64) :
    settings.grownCapacity current required =
      if settings.doubled current required < required then rounded
      else settings.doubled current required := by
  rw [settings.grownCapacity_eq, rounds.roundUp_eq]

theorem Rounds.grows {required rounded : UInt64}
    (rounds : settings.Rounds required rounded) (current : UInt64) :
    settings.Grows current required rounded
      (settings.grownCapacity current required) := by
  have doubles := settings.doubles_doubled current required
  have from_start := UInt64.le_iff_toNat_le.mpr doubles.start_le
  have from_current := UInt64.le_iff_toNat_le.mpr
    (settings.le_growthStart current)
  have enough : settings.growthStart current ≤
        settings.grownCapacity current required ∧
      required ≤ settings.grownCapacity current required := by
    rw [rounds.grownCapacity_eq]
    split
    · next short =>
        have below := UInt64.le_trans from_start (UInt64.le_of_lt short)
        exact ⟨UInt64.le_trans below rounds.le, rounds.le⟩
    · next reached => exact ⟨from_start, UInt64.not_lt.mp reached⟩
  refine ⟨⟨_, doubles, rounds.grownCapacity_eq current⟩, enough.1,
    UInt64.le_trans from_current enough.1, enough.2, ?_, ?_⟩
  · intro covered
    have same := doubles.eq_start (.inl covered)
    rw [rounds.grownCapacity_eq, same, if_neg (UInt64.not_lt.mpr covered)]
  · intro lacking
    rw [rounds.grownCapacity_eq]
    split
    · exact .inr rfl
    · next reached =>
        apply Or.inl
        rcases doubles.lt_two_mul with same | bounded
        · exact absurd (same ▸ lacking) reached
        · exact bounded

theorem Rounds.grownCapacity_le {required rounded further beyond : UInt64}
    (rounds : settings.Rounds required rounded)
    (others : settings.Rounds further beyond) (le : required ≤ further)
    (current : UInt64) :
    settings.grownCapacity current required ≤
      settings.grownCapacity current further := by
  have doubles := settings.doubles_doubled current required
  have doubles_further := settings.doubles_doubled current further
  have less := UInt64.le_iff_toNat_le.mpr (doubles.mono doubles_further le)
  rw [rounds.grownCapacity_eq, others.grownCapacity_eq]
  by_cases short : settings.doubled current required < required
  · -- The limit has stopped the doublings, and so it does for both.
    have stopped := (doubles.of_le short le).mono doubles_further
      (UInt64.le_refl _)
    have no_more := doubles_further.mono (doubles.of_le short le)
      (UInt64.le_refl _)
    have same := UInt64.toNat_inj.mp (Nat.le_antisymm no_more stopped)
    have still := UInt64.lt_of_lt_of_le short le
    rw [if_pos short, same, if_pos still]
    exact rounds.mono others le
  · rw [if_neg short]
    split
    · next lacking =>
        exact UInt64.le_trans less
          (UInt64.le_trans (UInt64.le_of_lt lacking) others.le)
    · exact less

end

/-- While the rounded requirement is a word, growth comes to an end at a
capacity that suffices, that is bounded by the requirement, and that does not
fall when more is required. -/
theorem grownCapacity_grows (current required rounded : UInt64)
    (rounds : settings.Rounds required rounded) :
    settings.Grows current required rounded
        (settings.grownCapacity current required) ∧
      ∀ further beyond, settings.Rounds further beyond → required ≤ further →
        settings.grownCapacity current required ≤
          settings.grownCapacity current further :=
  ⟨rounds.grows current, fun _ _ others le =>
    rounds.grownCapacity_le others le current⟩

/-- A granule that divides no power of two, and a requirement that is rounded up
to a word although the sum on the way to it is none. -/
theorem grownCapacity_grows_to_last :
    let settings : Settings := { largeGrowthAlignment := 10 }
    settings.Rounds 0xFFFFFFFFFFFFFFF8 0xFFFFFFFFFFFFFFFA ∧
      settings.Grows 0x10000000 0xFFFFFFFFFFFFFFF8 0xFFFFFFFFFFFFFFFA
        (settings.grownCapacity 0x10000000 0xFFFFFFFFFFFFFFF8) ∧
      settings.grownCapacity 0x10000000 0xFFFFFFFFFFFFFFF8 ≤
        settings.grownCapacity 0x10000000 0xFFFFFFFFFFFFFFFA := by
  intro settings
  have least (value : UInt64) : IsLeast {multiple |
      settings.granule.toNat ∣ multiple ∧ value.toNat ≤ multiple}
      ((value.toNat + 9) / 10 * 10) :=
    isLeast_multiple (by decide) value.toNat
  have rounds : settings.Rounds 0xFFFFFFFFFFFFFFF8 0xFFFFFFFFFFFFFFFA :=
    least 0xFFFFFFFFFFFFFFF8
  have further : settings.Rounds 0xFFFFFFFFFFFFFFFA 0xFFFFFFFFFFFFFFFA :=
    least 0xFFFFFFFFFFFFFFFA
  rcases settings.grownCapacity_grows 0x10000000 0xFFFFFFFFFFFFFFF8
    0xFFFFFFFFFFFFFFFA rounds with ⟨grows, mono⟩
  exact ⟨rounds, grows, mono _ _ further (by decide)⟩

/-! ### Requirements that cannot be rounded -/

theorem grownCapacity_of_limit_le {current required : UInt64}
    (some : 0 < current.toNat) (lacking : current < required)
    (reached : settings.exponentialGrowthLimit ≤ current) :
    settings.grownCapacity current required =
      roundUp required settings.granule := by
  have doubles := settings.doubles_doubled current required
  rw [settings.growthStart_of_pos some] at doubles
  rw [settings.grownCapacity_eq, doubles.eq_start (.inr reached),
    if_pos lacking]

theorem current_le_grownCapacity_or_eq (current required : UInt64) :
    let capacity := settings.grownCapacity current required
    current ≤ capacity ∨
      capacity.toNat = (UInt64.size - 1) / settings.granule.toNat *
          settings.granule.toNat ∧
        settings.doubled current required < required := by
  intro capacity
  have grows := (settings.le_growthStart current).trans
    (settings.doubles_doubled current required).start_le
  simp only [capacity, UInt64.le_iff_toNat_le, UInt64.lt_iff_toNat_lt]
  rw [settings.grownCapacity_eq]
  split
  · next short =>
      have below := UInt64.lt_iff_toNat_lt.mp short
      rcases le_roundUp_or_eq settings.granule_pos with enough | last
      · exact .inl (grows.trans (below.le.trans enough))
      · exact .inr ⟨last, below⟩
  · exact .inl grows

/-- A capacity shrinks just where it is beyond the last multiple of the granule,
has reached the limit of doubling, and more is required. -/
theorem current_le_grownCapacity_iff (current required : UInt64) :
    current ≤ settings.grownCapacity current required ↔
      required ≤ current ∨ current < settings.exponentialGrowthLimit ∨
        current.toNat ≤ (UInt64.size - 1) / settings.granule.toNat *
          settings.granule.toNat := by
  constructor
  · intro kept
    by_contra shrinks
    simp only [not_or, UInt64.not_le, UInt64.not_lt, Nat.not_le] at shrinks
    rcases shrinks with ⟨lacking, reached, beyond⟩
    have some := Nat.zero_lt_of_lt beyond
    have last : (roundUp required settings.granule).toNat ≤ _ :=
      roundUp_le_lastMultiple settings.granule_pos
    rw [settings.grownCapacity_of_limit_le some lacking reached,
      UInt64.le_iff_toNat_le] at kept
    exact Nat.not_lt.mpr (kept.trans last) beyond
  · intro kept
    apply (settings.current_le_grownCapacity_or_eq current required).elim id
    rintro ⟨last, short⟩
    have half := half_le_lastMultiple settings.granule_pos
    have doubles := settings.doubles_doubled current required
    have grows := (settings.le_growthStart current).trans doubles.start_le
    have below := UInt64.lt_iff_toNat_lt.mp short
    rw [UInt64.le_iff_toNat_le, last]
    rcases kept with enough | small | inside
    · have covered := UInt64.le_iff_toNat_le.mp enough
      omega
    · by_cases some : 0 < current.toNat
      · -- What can be doubled without reaching the requirement lies in the
        -- lower half of the word range.
        rw [settings.growthStart_of_pos some] at doubles
        have twice := doubles.double_le short small
        have word := required.toNat_lt
        simp only [UInt64.size] at half ⊢
        omega
      · omega
    · exact inside

/-- With the ordinary settings: what is required saturated, and the multiple
below it is smaller than the capacity that is there. -/
theorem grownCapacity_shrinks :
    let settings : Settings := {}
    settings.grownCapacity 0xFFFFFFFFFFFFFFFE maxWord < 0xFFFFFFFFFFFFFFFE := by
  intro settings
  rw [settings.grownCapacity_of_limit_le (by decide) (by decide) (by decide)]
  decide

end Settings

end MeshCapture
