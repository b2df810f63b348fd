import MeshCapture.Word.Saturating

/-! # Output of single instances

Drawing 1, 2, ... instances and noting the bytes written each time gives a list
of running totals. Their differences are the outputs of the single
instances. -/

namespace MeshCapture

structure InstanceShare where
  vertexCount : UInt32
  byteOffset : UInt64
deriving DecidableEq, Inhabited

namespace InstanceShare

def between (stride start : UInt64) : (totals : List UInt64) →
    List InstanceShare
  | [] => []
  | total :: rest =>
      { vertexCount := (saturatingSub total start / stride).toUInt32
        byteOffset := start } :: between stride total rest

/-- The instance outputs that running totals of bytes describe, for vertices
`stride` bytes apart, and the bytes of all of them. -/
def split (totals : List UInt64) (stride : UInt32) :
    List InstanceShare × UInt64 :=
  (between (max stride 1).toUInt64 0 totals, totals.getLastD 0)

example : split [100, 250, 250, 400] 25 =
    ([⟨4, 0⟩, ⟨6, 100⟩, ⟨0, 250⟩, ⟨6, 250⟩], 400) := by decide

end InstanceShare

end MeshCapture
