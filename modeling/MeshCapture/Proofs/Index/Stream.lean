import MeshCapture.Index.Stream
import MeshCapture.Proofs.LittleEndian

/-! # Reading index streams

Reading takes one index after the other off the front. Replaced indices are read
back where they fit the width, and so are written ones. -/

namespace MeshCapture

namespace IndexStream

abbrev held (width : IndexWidth) (declared : UInt32) (bytes : ByteArray) :
    List UInt32 :=
  read width declared.toNat bytes.data.toList

/-- The index fetched at a place of a draw, zero past the end of the buffer. -/
def fetch (width : IndexWidth) (bytes : ByteArray) (place : Nat) : UInt32 :=
  (read width (place + 1) bytes.data.toList)[place]?.getD 0

theorem indexBytes_pos (width : IndexWidth) : 0 < indexBytes width := by
  cases width <;> decide

theorem indexLimit_le (width : IndexWidth) :
    256 ^ indexBytes width ≤ 2 ^ 32 := by
  cases width <;> decide

theorem read_append {width : IndexWidth} {digits : List UInt8}
    (whole : digits.length = indexBytes width) (count : Nat)
    (rest : List UInt8) :
    read width (count + 1) (digits ++ rest) =
      UInt32.ofNat (LittleEndian.decode digits) :: read width count rest := by
  have front : (digits ++ rest).take (indexBytes width) = digits := by
    rw [← whole, List.take_left]
  have behind : (digits ++ rest).drop (indexBytes width) = rest := by
    rw [← whole, List.drop_left]
  rw [read]
  simp only [front, behind, if_pos whole]

theorem read_of_short {width : IndexWidth} {bytes : List UInt8}
    (short : bytes.length < indexBytes width) (count : Nat) :
    read width count bytes = [] := by
  cases count with
  | zero => rfl
  | succ count =>
      have cut : (bytes.take (indexBytes width)).length ≠ indexBytes width := by
        rw [List.length_take]
        omega
      rw [read]
      simp only [if_neg cut]

theorem mapIndices_append {width : IndexWidth} (replace : UInt32 → UInt32)
    {digits : List UInt8} (whole : digits.length = indexBytes width)
    (count : Nat) (rest : List UInt8) :
    mapIndices width replace (count + 1) (digits ++ rest) =
      LittleEndian.encode (indexBytes width)
          (replace (UInt32.ofNat (LittleEndian.decode digits))).toNat ++
        mapIndices width replace count rest := by
  have front : (digits ++ rest).take (indexBytes width) = digits := by
    rw [← whole, List.take_left]
  have behind : (digits ++ rest).drop (indexBytes width) = rest := by
    rw [← whole, List.drop_left]
  rw [mapIndices]
  simp only [front, behind, if_pos whole]

theorem mapIndices_of_short {width : IndexWidth} (replace : UInt32 → UInt32)
    {bytes : List UInt8} (short : bytes.length < indexBytes width)
    (count : Nat) : mapIndices width replace count bytes = bytes := by
  cases count with
  | zero => rfl
  | succ count =>
      have cut : (bytes.take (indexBytes width)).length ≠ indexBytes width := by
        rw [List.length_take]
        omega
      rw [mapIndices]
      simp only [if_neg cut]

theorem short_or_append (width : IndexWidth) (bytes : List UInt8) :
    bytes.length < indexBytes width ∨
      ∃ digits rest, digits.length = indexBytes width ∧
        bytes = digits ++ rest := by
  by_cases short : bytes.length < indexBytes width
  · exact .inl short
  · refine .inr ⟨bytes.take (indexBytes width),
      bytes.drop (indexBytes width), ?_, (List.take_append_drop _ _).symm⟩
    rw [List.length_take]
    omega

theorem length_read (width : IndexWidth) (count : Nat) (bytes : List UInt8) :
    (read width count bytes).length =
      min count (bytes.length / indexBytes width) := by
  have positive := indexBytes_pos width
  induction count generalizing bytes with
  | zero => simp [read]
  | succ count induction =>
      rcases short_or_append width bytes with short | ⟨digits, rest, whole, rfl⟩
      · rw [read_of_short short, Nat.div_eq_of_lt short]
        simp
      · rw [read_append whole, List.length_cons, induction, List.length_append,
          whole, Nat.add_div_left _ positive]
        omega

theorem toNat_index {width : IndexWidth} {digits : List UInt8}
    (whole : digits.length = indexBytes width) :
    (UInt32.ofNat (LittleEndian.decode digits)).toNat =
      LittleEndian.decode digits := by
  have small := LittleEndian.decode_lt digits
  rw [whole] at small
  exact UInt32.toNat_ofNat_of_lt' (Nat.lt_of_lt_of_le small
    (indexLimit_le width))

theorem toNat_lt_of_mem_read {width : IndexWidth} {count : Nat}
    {bytes : List UInt8} {index : UInt32}
    (member : index ∈ read width count bytes) :
    index.toNat < 256 ^ indexBytes width := by
  induction count generalizing bytes with
  | zero => cases member
  | succ count induction =>
      rcases short_or_append width bytes with short | ⟨digits, rest, whole, rfl⟩
      · rw [read_of_short short] at member
        cases member
      · rw [read_append whole] at member
        rcases List.mem_cons.mp member with rfl | inside
        · rw [toNat_index whole, ← whole]
          exact LittleEndian.decode_lt digits
        · exact induction inside

/-- Reading a replaced stream gives the replaced indices, where they fit the
width. -/
theorem read_mapIndices {width : IndexWidth} {replace : UInt32 → UInt32}
    {count : Nat} {bytes : List UInt8}
    (fits : ∀ index ∈ read width count bytes,
      (replace index).toNat < 256 ^ indexBytes width) :
    read width count (mapIndices width replace count bytes) =
      (read width count bytes).map replace := by
  induction count generalizing bytes with
  | zero => rfl
  | succ count induction =>
      rcases short_or_append width bytes with short | ⟨digits, rest, whole, rfl⟩
      · rw [mapIndices_of_short replace short, read_of_short short]
        rfl
      · rw [read_append whole] at fits ⊢
        have first := fits _ List.mem_cons_self
        have others := induction fun index inside =>
          fits index (List.mem_cons_of_mem _ inside)
        rw [mapIndices_append replace whole,
          read_append (LittleEndian.length_encode _ _), others,
          LittleEndian.decode_encode, Nat.mod_eq_of_lt first,
          UInt32.ofNat_toNat]
        rfl

theorem mapIndices_length_read (width : IndexWidth)
    (replace : UInt32 → UInt32) (count : Nat) (bytes : List UInt8) :
    mapIndices width replace (read width count bytes).length bytes =
      mapIndices width replace count bytes := by
  induction count generalizing bytes with
  | zero => rfl
  | succ count induction =>
      rcases short_or_append width bytes with short | ⟨digits, rest, whole, rfl⟩
      · rw [mapIndices_of_short replace short, mapIndices_of_short replace short]
      · rw [read_append whole, List.length_cons,
          mapIndices_append replace whole, mapIndices_append replace whole,
          induction]

theorem exists_of_getElem?_mapIndices_ne {width : IndexWidth}
    {replace : UInt32 → UInt32} {count : Nat} {bytes : List UInt8}
    {offset : Nat}
    (changed : (mapIndices width replace count bytes)[offset]? ≠
      bytes[offset]?) :
    ∃ place index, (read width count bytes)[place]? = some index ∧
      replace index ≠ index ∧ indexBytes width * place ≤ offset ∧
      offset < indexBytes width * (place + 1) := by
  induction count generalizing bytes offset with
  | zero => exact absurd rfl changed
  | succ count induction =>
      rcases short_or_append width bytes with short | ⟨digits, rest, whole, rfl⟩
      · rw [mapIndices_of_short replace short] at changed
        exact absurd rfl changed
      · rw [mapIndices_append replace whole] at changed
        rw [read_append whole]
        have encoded := LittleEndian.length_encode (indexBytes width)
          (replace (UInt32.ofNat (LittleEndian.decode digits))).toNat
        by_cases front : offset < indexBytes width
        · rw [List.getElem?_append_left (by omega),
            List.getElem?_append_left (by omega)] at changed
          refine ⟨0, _, rfl, ?_, by omega, by omega⟩
          intro equal
          rw [equal, toNat_index whole, ← whole,
            LittleEndian.encode_decode] at changed
          exact changed rfl
        · rw [List.getElem?_append_right (by omega),
            List.getElem?_append_right (by omega), encoded, whole] at changed
          rcases induction changed with
            ⟨place, index, found, different, least, less⟩
          refine ⟨place + 1, index, found, different, ?_, ?_⟩
          · rw [Nat.mul_succ]
            omega
          · rw [Nat.mul_succ]
            omega

theorem fetch_eq_zero {width : IndexWidth} {declared : UInt32}
    {bytes : ByteArray} {place : Nat}
    (behind : (held width declared bytes).length ≤ place)
    (less : place < declared.toNat) : fetch width bytes place = 0 := by
  rw [held, length_read] at behind
  rw [fetch, List.getElem?_eq_none]
  · rfl
  · rw [length_read]
    omega

theorem read_write {indices : List UInt32} {limit : Nat}
    (enough : indices.length ≤ limit) :
    read .bits32 limit (write .bits32 indices) = indices := by
  induction indices generalizing limit with
  | nil => exact read_of_short (by decide) limit
  | cons index rest induction =>
      cases limit with
      | zero => cases enough
      | succ limit =>
          have others := induction (Nat.le_of_succ_le_succ enough)
          have small : index.toNat < 256 ^ indexBytes .bits32 := index.toNat_lt
          rw [write, List.flatMap_cons,
            read_append (LittleEndian.length_encode _ _),
            LittleEndian.decode_encode, Nat.mod_eq_of_lt small,
            UInt32.ofNat_toNat]
          exact congrArg _ others

end IndexStream

end MeshCapture
