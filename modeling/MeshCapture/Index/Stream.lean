import MeshCapture.Draw
import MeshCapture.Word.LittleEndian

/-! # Index streams

An index buffer is a run of little-endian indices of one width. Bytes behind
the last whole index belong to no index: reading ignores them and replacing
indices leaves them alone. -/

namespace MeshCapture.IndexStream

def indexBytes (width : IndexWidth) : Nat :=
  width.bytes.toNat

/-- The first `count` indices in `bytes`, or all of them when there are
fewer. -/
def read (width : IndexWidth) : (count : Nat) → (bytes : List UInt8) →
    List UInt32
  | 0, _ => []
  | count + 1, bytes =>
      let digits := bytes.take (indexBytes width)
      if digits.length = indexBytes width then
        UInt32.ofNat (LittleEndian.decode digits) ::
          read width count (bytes.drop (indexBytes width))
      else
        []

def mapIndices (width : IndexWidth) (replace : UInt32 → UInt32) :
    (count : Nat) → (bytes : List UInt8) → List UInt8
  | 0, bytes => bytes
  | count + 1, bytes =>
      let digits := bytes.take (indexBytes width)
      if digits.length = indexBytes width then
        let index := UInt32.ofNat (LittleEndian.decode digits)
        LittleEndian.encode (indexBytes width) (replace index).toNat ++
          mapIndices width replace count (bytes.drop (indexBytes width))
      else
        bytes

def write (width : IndexWidth) (indices : List UInt32) : List UInt8 :=
  indices.flatMap fun index =>
    LittleEndian.encode (indexBytes width) index.toNat

theorem length_mapIndices (width : IndexWidth) (replace : UInt32 → UInt32)
    (count : Nat) (bytes : List UInt8) :
    (mapIndices width replace count bytes).length = bytes.length := by
  induction count generalizing bytes with
  | zero => rfl
  | succ count induction =>
      unfold mapIndices
      simp only
      split
      · next whole =>
          rw [List.length_take] at whole
          rw [List.length_append, LittleEndian.length_encode, induction,
            List.length_drop]
          omega
      · rfl

theorem length_read_le (width : IndexWidth) (count : Nat)
    (bytes : List UInt8) : (read width count bytes).length ≤ count := by
  induction count generalizing bytes with
  | zero => simp [read]
  | succ count induction =>
      unfold read
      simp only
      split
      · exact Nat.succ_le_succ (induction _)
      · exact Nat.zero_le _

example : read .bits16 10 [1, 0, 2, 0, 3] = [1, 2] := by decide
example : read .bits16 1 [1, 0, 2, 0, 3] = [1] := by decide
example : mapIndices .bits16 (· + 1) 10 [1, 0, 2, 0, 3] =
    [2, 0, 3, 0, 3] := by decide

end MeshCapture.IndexStream
