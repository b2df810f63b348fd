import MeshCapture.Proofs.Index.Renumbering

/-! # Fetching single indices

An index is fetched from its own bytes alone. So it does not matter how many
others are read, nor which part of a buffer is looked at, as long as the bytes
lie in it. -/

namespace MeshCapture

namespace IndexStream

theorem getElem?_read (width : IndexWidth) (count : Nat)
    (bytes : List UInt8) (place : Nat) :
    (read width count bytes)[place]? =
      if place < count ∧
          indexBytes width * place + indexBytes width ≤ bytes.length then
        some (UInt32.ofNat (LittleEndian.decode
          ((bytes.drop (indexBytes width * place)).take (indexBytes width))))
      else
        none := by
  induction count generalizing bytes place with
  | zero => simp [read]
  | succ count induction =>
      rcases short_or_append width bytes with short | ⟨digits, rest, whole, rfl⟩
      · rw [read_of_short short, if_neg (by omega)]
        rfl
      · rw [read_append whole]
        cases place with
        | zero =>
            have front : (digits ++ rest).take (indexBytes width) = digits := by
              rw [← whole, List.take_left]
            simp [front, whole]
        | succ place =>
            have behind : (digits ++ rest).drop
                (indexBytes width * (place + 1)) =
                  rest.drop (indexBytes width * place) := by
              rw [Nat.mul_succ, Nat.add_comm, ← List.drop_drop, ← whole,
                List.drop_left]
            rw [List.getElem?_cons_succ, induction, behind,
              List.length_append, whole, Nat.mul_succ]
            congr 1
            rw [Nat.add_comm (indexBytes width) rest.length]
            simp

/-- The index whose bytes start at an offset, zero without all of them. -/
def indexAt (width : IndexWidth) (bytes : ByteArray) (offset : Nat) : UInt32 :=
  (LittleEndian.digitsAt bytes offset (indexBytes width)).elim 0 fun digits =>
    UInt32.ofNat (LittleEndian.decode digits)

theorem indexAt_extract (width : IndexWidth) (bytes : ByteArray)
    (first last offset : Nat) :
    indexAt width (bytes.extract first last) offset =
      if first + offset + indexBytes width ≤ last then
        indexAt width bytes (first + offset)
      else
        0 := by
  rw [indexAt, LittleEndian.digitsAt_extract _ _ _ _ (indexBytes_pos width)]
  split <;> rfl

theorem indexAt_eq_zero {width : IndexWidth} {bytes : ByteArray}
    {offset : Nat} (past : bytes.size < offset + indexBytes width) :
    indexAt width bytes offset = 0 := by
  rw [indexAt, LittleEndian.digitsAt, if_neg (by omega)]
  rfl

theorem fetch_eq_indexAt (width : IndexWidth) (bytes : ByteArray)
    (place : Nat) :
    fetch width bytes place =
      indexAt width bytes (indexBytes width * place) := by
  have digits : (bytes.extract (indexBytes width * place)
      (indexBytes width * place + indexBytes width)).data.toList =
        (bytes.data.toList.drop (indexBytes width * place)).take
          (indexBytes width) := by
    rw [ByteArray.data_extract, Array.toList_extract, List.extract,
      Nat.add_sub_cancel_left]
  have size : bytes.data.toList.length = bytes.size := rfl
  rw [fetch, getElem?_read, indexAt, LittleEndian.digitsAt, digits, size]
  split
  · next inside => rw [if_pos inside.2]; rfl
  · next outside => rw [if_neg (by omega)]; rfl

theorem fetch_eq_held {declared : UInt32} {place : Nat}
    (less : place < declared.toNat) (width : IndexWidth) (bytes : ByteArray) :
    fetch width bytes place = (held width declared bytes)[place]?.getD 0 := by
  rw [fetch, held, getElem?_read, getElem?_read]
  congr 2
  simp [less]

end IndexStream

namespace IndexSelection

variable {selection : IndexSelection} {declared : UInt32}

theorem size_toBytes (selection : IndexSelection) :
    selection.toBytes.size = 4 * selection.members.size := by
  have sum (indices : List UInt32) :
      (IndexStream.write .bits32 indices).length = 4 * indices.length := by
    have width : IndexStream.indexBytes .bits32 = 4 := rfl
    simp [IndexStream.write, List.length_flatMap, width, Nat.mul_comm]
  exact sum selection.members.toList

theorem Selects.fetch_toBytes {indices : List UInt32}
    (selects : selection.Selects indices declared) {position : Nat}
    {index : UInt32} (stands : selection.members[position]? = some index) :
    IndexStream.fetch .bits32 selection.toBytes position = index := by
  rcases Array.getElem?_eq_some_iff.mp stands with ⟨inside, _⟩
  rw [IndexStream.fetch_eq_held
    (Nat.lt_of_lt_of_le inside selects.size_le), IndexStream.held,
    selects.decoded _ selects.size_le, Array.getElem?_toList, stands]
  rfl

theorem Renumbers.member_eq {width : IndexWidth} {restart : Option UInt32}
    {bytes renumbered : ByteArray} {place : Nat}
    (renumbers : selection.Renumbers width restart declared bytes renumbered)
    (less : place < declared.toNat)
    (uncut : restart ≠ some (IndexStream.fetch width bytes place)) :
    selection.members[(IndexStream.fetch width renumbered place).toNat]? =
      some (IndexStream.fetch width bytes place) := by
  cases held : (IndexStream.held width declared bytes)[place]? with
  | none =>
      have behind := List.getElem?_eq_none_iff.mp held
      rcases renumbers.beyond place behind less with ⟨before, after, first⟩
      rw [before, after]
      exact first
  | some index =>
      rcases renumbers.within place index held with ⟨replaced, found, spec⟩
      rw [IndexStream.fetch_eq_held less, held] at uncut
      rw [IndexStream.fetch_eq_held less, IndexStream.fetch_eq_held less, held,
        found]
      rcases spec with ⟨cuts, -⟩ | ⟨-, stands⟩
      · exact absurd cuts uncut
      · exact stands

theorem members_ofIndices_nil (positive : 0 < declared.toNat) :
    (ofIndices [] declared).members = #[0] := by
  have none : Ascending.ofList [] = [] := by
    simpa using length_ofList_le []
  apply Array.toList_inj.mp
  rw [members_ofIndices (Nat.zero_le _), none]
  exact if_pos ⟨positive, nofun⟩

end IndexSelection

end MeshCapture
