import MeshCapture.Index.Selection
import Mathlib.Data.List.Sort

/-! # Positions among ascending words

Halving an interval finds the place that a word has, or would have, among
ascending members. A member is found at the one place where it stands. -/

namespace MeshCapture.Ascending

theorem ofList_eq_self {values : List UInt32}
    (ascending : values.Pairwise (· < ·)) : ofList values = values :=
  (pairwise_ofList values).eq_of_mem_iff ascending (mem_ofList values)

/-- Members in front of `low` lie below `value`, and from `high` on they do
not. -/
structure Separates (members : Array UInt32) (value : UInt32)
    (low high : Nat) : Prop where
  le : low ≤ high
  bounded : high ≤ members.size
  below : ∀ position member, members[position]? = some member →
    position < low → member < value
  above : ∀ position member, members[position]? = some member →
    high ≤ position → value ≤ member

section

variable {members : Array UInt32}

theorem lt_of_position_lt (ascending : members.toList.Pairwise (· < ·))
    {left right : Nat} {lower upper : UInt32}
    (atLeft : members[left]? = some lower)
    (atRight : members[right]? = some upper) (less : left < right) :
    lower < upper := by
  rcases Array.getElem?_eq_some_iff.mp atLeft with ⟨leftSmall, rfl⟩
  rcases Array.getElem?_eq_some_iff.mp atRight with ⟨rightSmall, rfl⟩
  have ordered := List.pairwise_iff_getElem.mp ascending left right
    (by simpa using leftSmall) (by simpa using rightSmall) less
  simpa using ordered

theorem position_lt_iff (ascending : members.toList.Pairwise (· < ·))
    {left right : Nat} {lower upper : UInt32}
    (atLeft : members[left]? = some lower)
    (atRight : members[right]? = some upper) :
    left < right ↔ lower < upper := by
  constructor
  · exact lt_of_position_lt ascending atLeft atRight
  · intro less
    rcases Nat.lt_trichotomy left right with before | same | behind
    · exact before
    · subst same
      rw [atLeft, Option.some_inj] at atRight
      exact absurd less (atRight ▸ UInt32.lt_irrefl lower)
    · exact absurd less
        (UInt32.lt_asymm (lt_of_position_lt ascending atRight atLeft behind))

theorem position_le (ascending : members.toList.Pairwise (· < ·))
    {position : Nat} {member : UInt32}
    (found : members[position]? = some member) :
    position ≤ member.toNat := by
  induction position generalizing member with
  | zero => exact Nat.zero_le _
  | succ position induction =>
      rcases Array.getElem?_eq_some_iff.mp found with ⟨small, _⟩
      have before := Array.getElem?_eq_getElem (Nat.lt_of_succ_lt small)
      have less := lt_of_position_lt ascending before found
        (Nat.lt_succ_self position)
      exact Nat.lt_of_le_of_lt (induction before) less

theorem separates_lowerBound (ascending : members.toList.Pairwise (· < ·))
    {value : UInt32} {low high : Nat}
    (separates : Separates members value low high) :
    Separates members value (lowerBound members value low high)
      (lowerBound members value low high) := by
  fun_induction lowerBound members value low high with
  | case1 low high active middle less induction =>
      have inside : middle < members.size := by
        have := separates.bounded
        omega
      have atMiddle : members[middle]? = some (members.getD middle 0) := by
        simp [Array.getD, inside]
      refine induction ⟨by omega, separates.bounded, ?_, separates.above⟩
      intro position member found before
      rcases Nat.lt_or_eq_of_le (Nat.lt_succ_iff.mp before) with early | same
      · exact UInt32.lt_trans
          (lt_of_position_lt ascending found atMiddle early) less
      · subst same
        rw [atMiddle, Option.some_inj] at found
        exact found ▸ less
  | case2 low high active middle notLess induction =>
      have inside : middle < members.size := by
        have := separates.bounded
        omega
      have atMiddle : members[middle]? = some (members.getD middle 0) := by
        simp [Array.getD, inside]
      refine induction ⟨by omega, by omega, separates.below, ?_⟩
      intro position member found behind
      rcases Nat.lt_or_eq_of_le behind with late | same
      · have greater := lt_of_position_lt ascending atMiddle found late
        exact UInt32.le_trans (UInt32.not_lt.mp notLess)
          (UInt32.le_of_lt greater)
      · subst same
        rw [atMiddle, Option.some_inj] at found
        exact found ▸ UInt32.not_lt.mp notLess
  | case3 low high inactive =>
      have same : high = low := by
        have := separates.le
        omega
      exact same ▸ separates

theorem position?_eq_some_iff (ascending : members.toList.Pairwise (· < ·))
    {value : UInt32} {position : Nat} :
    position? members value = some position ↔
      members[position]? = some value := by
  have separates : Separates members value
      (lowerBound members value 0 members.size)
      (lowerBound members value 0 members.size) := by
    refine separates_lowerBound ascending ⟨by omega, by omega, nofun, ?_⟩
    intro position member found behind
    rw [Array.getElem?_eq_none behind] at found
    cases found
  unfold position?
  simp only
  constructor
  · intro found
    split at found
    · next stands =>
        cases found
        exact stands
    · cases found
  · intro stands
    have notBefore : ¬ position < lowerBound members value 0 members.size :=
      fun before =>
        UInt32.lt_irrefl value (separates.below position value stands before)
    have notBehind : ¬ lowerBound members value 0 members.size < position := by
      intro before
      rcases Array.getElem?_eq_some_iff.mp stands with ⟨small, _⟩
      have found := Array.getElem?_eq_getElem (Nat.lt_trans before small)
      have least := separates.above _ _ found (Nat.le_refl _)
      exact UInt32.not_lt.mpr least
        (lt_of_position_lt ascending found stands before)
    have same : lowerBound members value 0 members.size = position := by omega
    rw [same, if_pos stands]

end

end MeshCapture.Ascending
