import MeshCapture.Word.Saturating

/-! # Alignment

Buffer regions start at multiples of a granularity. -/

namespace MeshCapture

/-- The least multiple of `alignment` at or above `value`, for a positive
`alignment`. When `value` lies within one granule of the end of the word range
the answer is the largest multiple that is still a word. -/
def roundUp (value alignment : UInt64) : UInt64 :=
  let padding := alignment - 1
  if value ≤ maxWord - padding then
    (value + padding) / alignment * alignment
  else
    maxWord / alignment * alignment

example : roundUp 65 64 = 128 := rfl
example : roundUp 64 64 = 64 := rfl
example : roundUp maxWord 16 = maxWord - 15 := rfl

end MeshCapture
