import MeshCapture.Index.Ascending
import MeshCapture.Index.Stream

/-! # Index selections

An indexed draw may reference few vertices scattered over a large range. Its
capture draws the ascending set of referenced indices instead, so that every
distinct vertex is shaded once and lands behind the one before it, and the
draw's own indices are renumbered by their positions in that set:

    indices      500 501 502 510 511 512 501
    members      500 501 502 510 511 512
    renumbered     0   1   2   3   4   5   1
-/

namespace MeshCapture

structure IndexSelection where
  /-- The referenced indices in ascending order, each once. -/
  members : Array UInt32
  fetched : UInt32
  /-- Whether index zero is a member only because part of the draw could not be
  read. -/
  paddedWithZero : Bool
deriving DecidableEq

namespace IndexSelection

/-- The selection of a draw of `declared` elements of which `indices` could be
read. The device fetches a missing index as zero, so a short read makes zero
one of the members. -/
def ofIndices (indices : List UInt32) (declared : UInt32) : IndexSelection :=
  let referenced := Ascending.ofList indices
  let fetched := UInt32.ofNat (min indices.length (UInt32.size - 1))
  if fetched < declared ∧ referenced.head? ≠ some 0 then
    { members := (0 :: referenced).toArray, fetched, paddedWithZero := true }
  else
    { members := referenced.toArray, fetched, paddedWithZero := false }

def count (selection : IndexSelection) : UInt32 :=
  UInt32.ofNat selection.members.size

def position? (selection : IndexSelection) (index : UInt32) : Option UInt32 :=
  (Ascending.position? selection.members index).map UInt32.ofNat

def toBytes (selection : IndexSelection) : ByteArray :=
  ⟨(IndexStream.write .bits32 selection.members.toList).toArray⟩

/-- What an index becomes: its position, or itself where it cuts a strip. -/
def replacement (selection : IndexSelection) (restart : Option UInt32)
    (index : UInt32) : UInt32 :=
  if restart = some index then index else (selection.position? index).getD 0

def renumber (selection : IndexSelection) (bytes : ByteArray)
    (width : IndexWidth) (restart : Option UInt32) : ByteArray :=
  ⟨(IndexStream.mapIndices width (selection.replacement restart)
    selection.fetched.toNat bytes.data.toList).toArray⟩

example : (ofIndices [7, 3, 7] 6).members = #[0, 3, 7] := by decide +kernel
example : (ofIndices [2, 0, 1] 10).paddedWithZero = false := by decide +kernel
example : (ofIndices [] 3).members = #[0] := by decide +kernel

end IndexSelection

end MeshCapture
