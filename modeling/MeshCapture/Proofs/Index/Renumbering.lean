import MeshCapture.Proofs.Index.Position
import MeshCapture.Proofs.Index.Stream

/-! # Renumbered draws

A draw over renumbered indices reads, through the selection, the very indices of
the recorded draw. What the buffer did not hold is fetched as zero before and
after, and the byte stream changes only where an index was renumbered. -/

namespace MeshCapture

/-! ## Selections -/

namespace IndexSelection

/-- The selection is the ascending set of the indices of a draw, and of the zero
that the device fetches where they end early. Its members are numbered in their
order, and its bytes are an index buffer of the members. -/
structure Selects (indices : List UInt32) (declared : UInt32)
    (selection : IndexSelection) : Prop where
  ascending : selection.members.toList.Pairwise (· < ·)
  mem_iff : ∀ index, index ∈ selection.members ↔
    index ∈ indices ∨ index = 0 ∧ indices.length < declared.toNat
  size_le : selection.members.size ≤ declared.toNat
  count_eq : selection.count.toNat = selection.members.size
  numbered : ∀ index,
    (selection.position? index).isSome = true ↔ index ∈ selection.members
  onto : ∀ position < selection.count,
    ∃ index, selection.position? index = some position
  monotone : ∀ left right lower upper,
    selection.position? left = some lower →
      selection.position? right = some upper → (left < right ↔ lower < upper)
  bounded : ∀ index position, selection.position? index = some position →
    position < selection.count ∧ position ≤ index
  decoded : ∀ limit, selection.members.size ≤ limit →
    IndexStream.read .bits32 limit selection.toBytes.data.toList =
      selection.members.toList

section

variable {indices : List UInt32} {declared : UInt32}

theorem toNat_saturated (few : indices.length ≤ declared.toNat) :
    (UInt32.ofNat (min indices.length (UInt32.size - 1))).toNat =
      indices.length := by
  have small := declared.toNat_lt
  simp only [UInt32.size]
  rw [Nat.min_eq_left (by omega)]
  exact UInt32.toNat_ofNat_of_lt' (by simp only [UInt32.size]; omega)

theorem toNat_fetched (few : indices.length ≤ declared.toNat) :
    (ofIndices indices declared).fetched.toNat = indices.length := by
  unfold ofIndices
  simp only
  split <;> exact toNat_saturated few

theorem members_ofIndices (few : indices.length ≤ declared.toNat) :
    (ofIndices indices declared).members.toList =
      if indices.length < declared.toNat ∧
          (Ascending.ofList indices).head? ≠ some 0 then
        0 :: Ascending.ofList indices
      else
        Ascending.ofList indices := by
  rw [ofIndices]
  simp only [UInt32.lt_iff_toNat_lt, toNat_saturated few]
  split <;> rfl

theorem ascending_ofIndices (few : indices.length ≤ declared.toNat) :
    (ofIndices indices declared).members.toList.Pairwise (· < ·) := by
  have ascending := Ascending.pairwise_ofList indices
  rw [members_ofIndices few]
  split
  · next padded =>
      refine List.pairwise_cons.mpr ⟨?_, ascending⟩
      cases referenced : Ascending.ofList indices with
      | nil => exact nofun
      | cons least others =>
          rw [referenced] at padded ascending
          have positive : 0 < least := by
            refine UInt32.pos_iff_ne_zero.mpr fun zero => ?_
            exact padded.2 (by simp [zero])
          intro index member
          rcases List.mem_cons.mp member with rfl | later
          · exact positive
          · exact UInt32.lt_trans positive
              ((List.pairwise_cons.mp ascending).1 index later)
  · exact ascending

theorem mem_ofIndices (few : indices.length ≤ declared.toNat)
    (index : UInt32) :
    index ∈ (ofIndices indices declared).members ↔
      index ∈ indices ∨ index = 0 ∧ indices.length < declared.toNat := by
  rw [← Array.mem_toList_iff, members_ofIndices few]
  split
  · next padded =>
      rw [List.mem_cons, Ascending.mem_ofList, or_comm]
      simp [padded.1]
  · next whole =>
      rw [Ascending.mem_ofList]
      refine (or_iff_left_of_imp ?_).symm
      rintro ⟨rfl, short⟩
      have first : (Ascending.ofList indices).head? = some 0 :=
        not_not.mp fun other => whole ⟨short, other⟩
      exact (Ascending.mem_ofList indices 0).mp (List.mem_of_head? first)

theorem length_ofList_le (values : List UInt32) :
    (Ascending.ofList values).length ≤ values.length := by
  have distinct : (Ascending.ofList values).Nodup :=
    (Ascending.pairwise_ofList values).imp UInt32.ne_of_lt
  have inside : Ascending.ofList values ⊆ values :=
    fun value => (Ascending.mem_ofList values value).mp
  exact (List.subperm_of_subset distinct inside).length_le

theorem size_ofIndices_le (few : indices.length ≤ declared.toNat) :
    (ofIndices indices declared).members.size ≤ declared.toNat := by
  have referenced := length_ofList_le indices
  rw [← Array.length_toList, members_ofIndices few]
  split
  · next padded =>
      rw [List.length_cons]
      omega
  · omega

end

section

variable {selection : IndexSelection}

theorem toNat_count (small : selection.members.size < 2 ^ 32) :
    selection.count.toNat = selection.members.size :=
  UInt32.toNat_ofNat_of_lt' small

theorem position?_iff (ascending : selection.members.toList.Pairwise (· < ·))
    (small : selection.members.size < 2 ^ 32) (index position : UInt32) :
    selection.position? index = some position ↔
      selection.members[position.toNat]? = some index := by
  rw [position?, Option.map_eq_some_iff]
  constructor
  · rintro ⟨place, found, rfl⟩
    rw [Ascending.position?_eq_some_iff ascending] at found
    rcases Array.getElem?_eq_some_iff.mp found with ⟨inside, _⟩
    rwa [UInt32.toNat_ofNat_of_lt' (by simp only [UInt32.size]; omega)]
  · intro stands
    exact ⟨position.toNat,
      (Ascending.position?_eq_some_iff ascending).mpr stands,
      UInt32.ofNat_toNat⟩

theorem exists_position (ascending : selection.members.toList.Pairwise (· < ·))
    (small : selection.members.size < 2 ^ 32) {index : UInt32}
    (member : index ∈ selection.members) :
    ∃ position, selection.position? index = some position ∧
      selection.members[position.toNat]? = some index ∧ position ≤ index := by
  rcases Array.mem_iff_getElem?.mp member with ⟨place, found⟩
  rcases Array.getElem?_eq_some_iff.mp found with ⟨inside, _⟩
  have same : (UInt32.ofNat place).toNat = place :=
    UInt32.toNat_ofNat_of_lt' (by simp only [UInt32.size]; omega)
  have stands : selection.members[(UInt32.ofNat place).toNat]? = some index := by
    rwa [same]
  refine ⟨UInt32.ofNat place, (position?_iff ascending small _ _).mpr stands,
    stands, ?_⟩
  rw [UInt32.le_iff_toNat_le]
  exact Ascending.position_le ascending stands

end

theorem selects_ofIndices {indices : List UInt32} {declared : UInt32}
    (few : indices.length ≤ declared.toNat) :
    (ofIndices indices declared).Selects indices declared := by
  have ascending := ascending_ofIndices few
  have size := size_ofIndices_le few
  have small : (ofIndices indices declared).members.size < 2 ^ 32 :=
    Nat.lt_of_le_of_lt size declared.toNat_lt
  have count := toNat_count small
  have stands (index position : UInt32) :=
    position?_iff ascending small index position
  refine ⟨ascending, mem_ofIndices few, size, count, ?_, ?_, ?_, ?_, ?_⟩
  · intro index
    constructor
    · intro found
      rcases Option.isSome_iff_exists.mp found with ⟨position, found⟩
      exact Array.mem_of_getElem? ((stands index position).mp found)
    · intro member
      rcases exists_position ascending small member with ⟨position, found, _⟩
      exact Option.isSome_iff_exists.mpr ⟨position, found⟩
  · intro position less
    rw [UInt32.lt_iff_toNat_lt, count] at less
    exact ⟨_, (stands _ position).mpr (Array.getElem?_eq_getElem less)⟩
  · intro left right lower upper atLeft atRight
    rw [stands] at atLeft atRight
    rw [UInt32.lt_iff_toNat_lt (a := lower)]
    exact (Ascending.position_lt_iff ascending atLeft atRight).symm
  · intro index position found
    rw [stands] at found
    rcases Array.getElem?_eq_some_iff.mp found with ⟨inside, _⟩
    rw [UInt32.lt_iff_toNat_lt, UInt32.le_iff_toNat_le, count]
    exact ⟨inside, Ascending.position_le ascending found⟩
  · intro limit enough
    exact IndexStream.read_write (by simpa using enough)

/-! ## The renumbered draw -/

/-- A renumbered buffer of the same size holds, for every index that was read,
its place among the members, or the index itself where it cuts a strip. Behind
the indices that were read both buffers give zero, and so does the place zero.
No byte differs but those of renumbered indices. -/
structure Renumbers (width : IndexWidth) (restart : Option UInt32)
    (declared : UInt32) (bytes renumbered : ByteArray)
    (selection : IndexSelection) : Prop where
  size_eq : renumbered.size = bytes.size
  within : ∀ (place : Nat) (index : UInt32),
    (IndexStream.held width declared bytes)[place]? = some index →
      ∃ replaced,
        (IndexStream.held width declared renumbered)[place]? = some replaced ∧
        (restart = some index ∧ replaced = index ∨
          restart ≠ some index ∧
            selection.members[replaced.toNat]? = some index)
  beyond : ∀ place,
    (IndexStream.held width declared bytes).length ≤ place →
      place < declared.toNat →
        IndexStream.fetch width bytes place = 0 ∧
        IndexStream.fetch width renumbered place = 0 ∧
        selection.members[0]? = some 0
  changed : ∀ offset : Nat, renumbered.data[offset]? ≠ bytes.data[offset]? →
    ∃ (place : Nat) (index : UInt32),
      (IndexStream.held width declared bytes)[place]? = some index ∧
        restart ≠ some index ∧
        IndexStream.indexBytes width * place ≤ offset ∧
        offset < IndexStream.indexBytes width * (place + 1)

theorem replacement_spec {selection : IndexSelection}
    {indices : List UInt32} {declared : UInt32}
    (selects : selection.Selects indices declared)
    (restart : Option UInt32) {index : UInt32} (member : index ∈ indices) :
    (restart = some index ∧ selection.replacement restart index = index ∨
      restart ≠ some index ∧
        selection.members[(selection.replacement restart index).toNat]? =
          some index) ∧
      selection.replacement restart index ≤ index := by
  rw [replacement]
  by_cases cuts : restart = some index
  · rw [if_pos cuts]
    exact ⟨.inl ⟨cuts, rfl⟩, UInt32.le_refl index⟩
  · rw [if_neg cuts]
    have small : selection.members.size < 2 ^ 32 :=
      Nat.lt_of_le_of_lt selects.size_le declared.toNat_lt
    have inside : index ∈ selection.members :=
      (selects.mem_iff index).mpr (.inl member)
    rcases exists_position selects.ascending small inside with
      ⟨position, found, stands, least⟩
    rw [found]
    exact ⟨.inr ⟨cuts, stands⟩, least⟩

theorem Selects.head_eq_zero {selection : IndexSelection}
    {indices : List UInt32} {declared : UInt32}
    (selects : selection.Selects indices declared)
    (short : indices.length < declared.toNat) :
    selection.members[0]? = some 0 := by
  have small : selection.members.size < 2 ^ 32 :=
    Nat.lt_of_le_of_lt selects.size_le declared.toNat_lt
  have inside : (0 : UInt32) ∈ selection.members :=
    (selects.mem_iff 0).mpr (.inr ⟨rfl, short⟩)
  rcases exists_position selects.ascending small inside with
    ⟨position, _, stands, least⟩
  have zero : position.toNat = 0 :=
    Nat.le_zero.mp (UInt32.le_iff_toNat_le.mp least)
  rwa [zero] at stands

section

variable {bytes : ByteArray} {width : IndexWidth} {declared : UInt32}
  {selection : IndexSelection}

theorem toList_renumber
    (fetched : selection.fetched.toNat =
      (IndexStream.held width declared bytes).length)
    (restart : Option UInt32) :
    (selection.renumber bytes width restart).data.toList =
      IndexStream.mapIndices width (selection.replacement restart)
        declared.toNat bytes.data.toList := by
  simp only [renumber, fetched]
  exact IndexStream.mapIndices_length_read width _ _ _

theorem held_renumber
    (selects : selection.Selects (IndexStream.held width declared bytes)
      declared)
    (fetched : selection.fetched.toNat =
      (IndexStream.held width declared bytes).length)
    (restart : Option UInt32) :
    IndexStream.held width declared
        (selection.renumber bytes width restart) =
      (IndexStream.held width declared bytes).map
        (selection.replacement restart) := by
  rw [IndexStream.held, toList_renumber fetched]
  refine IndexStream.read_mapIndices fun index member => ?_
  have least := (replacement_spec selects restart member).2
  exact Nat.lt_of_le_of_lt (UInt32.le_iff_toNat_le.mp least)
    (IndexStream.toNat_lt_of_mem_read member)

theorem renumbers_of_selects
    (selects : selection.Selects (IndexStream.held width declared bytes)
      declared)
    (fetched : selection.fetched.toNat =
      (IndexStream.held width declared bytes).length)
    (restart : Option UInt32) :
    selection.Renumbers width restart declared bytes
      (selection.renumber bytes width restart) := by
  have data := toList_renumber fetched restart
  have reads := held_renumber selects fetched restart
  refine ⟨?size, ?within, ?beyond, ?changed⟩
  case size =>
    have lengths := IndexStream.length_mapIndices width
      (selection.replacement restart) declared.toNat bytes.data.toList
    rw [← data] at lengths
    simpa using lengths
  case within =>
    intro place index found
    refine ⟨selection.replacement restart index, ?_,
      (replacement_spec selects restart (List.mem_of_getElem? found)).1⟩
    rw [reads, List.getElem?_map, found]
    rfl
  case beyond =>
    intro place behind less
    refine ⟨IndexStream.fetch_eq_zero behind less, ?_,
      selects.head_eq_zero (Nat.lt_of_le_of_lt behind less)⟩
    refine IndexStream.fetch_eq_zero ?_ less
    rwa [reads, List.length_map]
  case changed =>
    intro offset different
    rw [← Array.getElem?_toList, ← Array.getElem?_toList, data] at different
    rcases IndexStream.exists_of_getElem?_mapIndices_ne different with
      ⟨place, index, found, replaced, least, less⟩
    refine ⟨place, index, found, ?_, least, less⟩
    intro cuts
    exact replaced (if_pos cuts)

end

/-- Every draw reads the same vertices through its selection and its renumbered
indices as it does through its own indices. -/
theorem renumbered_draw_same (bytes : ByteArray) (width : IndexWidth)
    (declared : UInt32) (restart : Option UInt32) :
    let indices := IndexStream.held width declared bytes
    let selection := ofIndices indices declared
    selection.Selects indices declared ∧
      selection.Renumbers width restart declared bytes
        (selection.renumber bytes width restart) := by
  intro indices selection
  have few : indices.length ≤ declared.toNat :=
    IndexStream.length_read_le width declared.toNat bytes.data.toList
  have selects : selection.Selects indices declared := selects_ofIndices few
  exact ⟨selects, renumbers_of_selects selects (toNat_fetched few) restart⟩

end IndexSelection

end MeshCapture
