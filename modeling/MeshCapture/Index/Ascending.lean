import Std.Data.TreeSet

/-! # Ascending sets of words

A list of words in ascending order, each once, is a set with a position for
every member. `ofList` brings a list into this form, and `position?` finds a
member by halving. -/

namespace MeshCapture.Ascending

/-- The members of `values` in ascending order, each once. -/
def ofList (values : List UInt32) : List UInt32 :=
  (Std.TreeSet.ofList values).toList

theorem mem_ofList (values : List UInt32) (value : UInt32) :
    value ∈ ofList values ↔ value ∈ values := by
  simp [ofList, Std.TreeSet.mem_toList, Std.TreeSet.mem_ofList]

theorem pairwise_ofList (values : List UInt32) :
    (ofList values).Pairwise (· < ·) := by
  have ordered := Std.TreeSet.ordered_toList (t := Std.TreeSet.ofList values)
  exact ordered.imp fun less => Std.compare_eq_lt.mp less

/-- The first position in `low ≤ · < high` whose member is not below `value`,
or `high` when there is none. -/
def lowerBound (members : Array UInt32) (value : UInt32) (low high : Nat) :
    Nat :=
  if low < high then
    let middle := (low + high) / 2
    if members.getD middle 0 < value then
      lowerBound members value (middle + 1) high
    else
      lowerBound members value low middle
  else
    low
termination_by high - low

def position? (members : Array UInt32) (value : UInt32) : Option Nat :=
  let position := lowerBound members value 0 members.size
  if members[position]? = some value then some position else none

example : ofList [7, 3, 7] = [3, 7] := by decide +kernel
example : position? #[2, 5, 9] 5 = some 1 := by decide +kernel
example : position? #[2, 5, 9] 6 = none := by decide +kernel

end MeshCapture.Ascending
