import MeshCapture.Pipeline.Basic
import MeshCapture.Proofs.Index.Renumbering
import Mathlib.Data.List.Forall2

/-! # Strip cuts of renumbered draws

An index that cuts a strip stays as it is, so renumbering removes no cut. But a
pipeline may cut strips at the restart value of the narrow width while the bound
indices are wide, and then the member whose position is this very value becomes
a cut. Nothing else does. -/

namespace MeshCapture

def StripCut.Cuts (stripCut : StripCut) (index : UInt32) : Prop :=
  stripCut.sentinel = some index

namespace IndexSelection

/-- The index cuts no strip, and its position does. -/
structure InventsCut (selection : IndexSelection) (width : IndexWidth)
    (stripCut : StripCut) (index : UInt32) : Prop where
  wide : width = .bits32
  narrow : stripCut = .enabled .bits16
  uncut : ¬ stripCut.Cuts index
  stands : selection.members[0xFFFF]? = some index

section

variable {selection : IndexSelection} {indices : List UInt32}
  {declared : UInt32} {width : IndexWidth} {stripCut : StripCut}
  {index : UInt32}

theorem Selects.position_unique (selects : selection.Selects indices declared)
    {left right : Nat} (atLeft : selection.members[left]? = some index)
    (atRight : selection.members[right]? = some index) : left = right := by
  have before := Ascending.position_lt_iff selects.ascending atLeft atRight
  have behind := Ascending.position_lt_iff selects.ascending atRight atLeft
  have notLess := UInt32.lt_irrefl index
  have neither : ¬ left < right ∧ ¬ right < left :=
    ⟨fun less => notLess (before.mp less), fun less => notLess (behind.mp less)⟩
  omega

theorem Selects.cuts_position_iff
    (selects : selection.Selects indices declared)
    (fits : index.toNat < 256 ^ IndexStream.indexBytes width)
    (uncut : ¬ stripCut.Cuts index) {position : UInt32}
    (stands : selection.members[position.toNat]? = some index) :
    stripCut.Cuts position ↔ selection.InventsCut width stripCut index := by
  constructor
  · intro cuts
    cases stripCut with
    | disabled => cases cuts
    | enabled cutWidth =>
        cases cutWidth with
        | bits16 =>
            cases cuts
            refine ⟨?_, rfl, uncut, stands⟩
            cases width with
            | bits16 =>
                -- A narrow index is not above the restart value, and no index
                -- is below its position.
                have least := Ascending.position_le selects.ascending stands
                have same := Nat.le_antisymm least (Nat.le_of_lt_succ fits)
                exact absurd (congrArg some (UInt32.toNat_inj.mp same)) uncut
            | bits32 => rfl
        | bits32 =>
            cases cuts
            rcases Array.getElem?_eq_some_iff.mp stands with ⟨inside, _⟩
            have few := Nat.lt_of_lt_of_le inside selects.size_le
            exact absurd declared.toNat_lt (Nat.not_lt.mpr few)
  · intro invents
    have same := selects.position_unique stands invents.stands
    rw [invents.narrow]
    exact congrArg some (UInt32.toNat_inj.mp same.symm)

theorem Selects.cuts_replacement_iff
    (selects : selection.Selects indices declared)
    (fits : index.toNat < 256 ^ IndexStream.indexBytes width)
    (member : index ∈ indices) :
    stripCut.Cuts (selection.replacement stripCut.sentinel index) ↔
      stripCut.Cuts index ∨ selection.InventsCut width stripCut index := by
  rcases (replacement_spec selects stripCut.sentinel member).1 with
    ⟨cuts, same⟩ | ⟨uncut, stands⟩
  · rw [same]
    exact iff_of_true cuts (.inl cuts)
  · rw [selects.cuts_position_iff fits uncut stands]
    exact (or_iff_right uncut).symm

end

/-- A renumbered index cuts a strip just where the index did or where the cut is
invented, so all cuts are kept just if none is. -/
theorem cuts_kept_iff (bytes : ByteArray) (width : IndexWidth)
    (declared : UInt32) (stripCut : StripCut) :
    let indices := IndexStream.held width declared bytes
    let selection := ofIndices indices declared
    let renumbered := IndexStream.held width declared
      (selection.renumber bytes width stripCut.sentinel)
    List.Forall₂
        (fun index replaced => stripCut.Cuts replaced ↔
          stripCut.Cuts index ∨ selection.InventsCut width stripCut index)
        indices renumbered ∧
      (List.Forall₂
          (fun index replaced => stripCut.Cuts replaced ↔ stripCut.Cuts index)
          indices renumbered ↔
        ∀ index ∈ indices, ¬ selection.InventsCut width stripCut index) := by
  intro indices selection renumbered
  have few : indices.length ≤ declared.toNat :=
    IndexStream.length_read_le width declared.toNat bytes.data.toList
  have selects : selection.Selects indices declared := selects_ofIndices few
  have replaced : renumbered =
      indices.map (selection.replacement stripCut.sentinel) :=
    held_renumber selects (toNat_fetched few) stripCut.sentinel
  have cuts (index : UInt32) (member : index ∈ indices) :
      stripCut.Cuts (selection.replacement stripCut.sentinel index) ↔
        stripCut.Cuts index ∨ selection.InventsCut width stripCut index :=
    selects.cuts_replacement_iff (IndexStream.toNat_lt_of_mem_read member)
      member
  simp only [replaced, List.forall₂_map_right_iff, List.forall₂_same]
  refine ⟨cuts, forall₂_congr fun index member => ?_⟩
  rw [cuts index member]
  constructor
  · intro kept invents
    exact invents.uncut (kept.mp (.inr invents))
  · intro fair
    exact or_iff_left fair

/-! ## An invented cut -/

section

variable {values : List UInt32} {declared index : UInt32}

theorem held_write (whole : values.length = declared.toNat) :
    IndexStream.held .bits32 declared
        ⟨(IndexStream.write .bits32 values).toArray⟩ = values :=
  IndexStream.read_write (Nat.le_of_eq whole)

theorem members_of_ascending (ascending : values.Pairwise (· < ·))
    (whole : values.length = declared.toNat) :
    (ofIndices values declared).members.toList = values := by
  rw [members_ofIndices (Nat.le_of_eq whole), if_neg fun padded =>
    Nat.ne_of_lt padded.1 whole]
  exact Ascending.ofList_eq_self ascending

/-- Of wide ascending indices the one at the place of the narrow restart value
is renumbered to this value. -/
theorem renumbered_to_restart (ascending : values.Pairwise (· < ·))
    (whole : values.length = declared.toNat)
    (found : values[0xFFFF]? = some index) (uncut : index ≠ 0xFFFF) :
    let bytes : ByteArray := ⟨(IndexStream.write .bits32 values).toArray⟩
    let selection := ofIndices values declared
    (IndexStream.held .bits32 declared
      (selection.renumber bytes .bits32 (some 0xFFFF)))[0xFFFF]? =
        some 0xFFFF := by
  intro bytes selection
  have held : IndexStream.held .bits32 declared bytes = values :=
    held_write whole
  have few := Nat.le_of_eq whole
  have selects : selection.Selects values declared := selects_ofIndices few
  have stands : selection.members[0xFFFF]? = some index := by
    rwa [← Array.getElem?_toList, members_of_ascending ascending whole]
  have invents : selection.InventsCut .bits32 (.enabled .bits16) index :=
    ⟨rfl, rfl, fun cuts => uncut (Option.some_inj.mp cuts).symm, stands⟩
  have cuts := (selects.cuts_replacement_iff index.toNat_lt
    (List.mem_of_getElem? found)).mpr (.inr invents)
  rw [held_renumber (held.symm ▸ selects) (held.symm ▸ toNat_fetched few),
    List.getElem?_map, held, found]
  exact cuts.symm

end

def oneThrough (last : Nat) : List UInt32 :=
  (List.range' 1 last).map UInt32.ofNat

@[simp] theorem length_oneThrough (last : Nat) :
    (oneThrough last).length = last := by
  simp [oneThrough]

theorem getElem?_oneThrough {last place : Nat} (inside : place < last) :
    (oneThrough last)[place]? = some (UInt32.ofNat (place + 1)) := by
  rw [oneThrough, List.getElem?_map, List.getElem?_range' inside, Nat.one_mul,
    Nat.add_comm]
  rfl

theorem pairwise_oneThrough {last : Nat} (small : last < UInt32.size) :
    (oneThrough last).Pairwise (· < ·) := by
  refine List.pairwise_map.mpr
    (List.Pairwise.imp_of_mem ?_ List.pairwise_lt_range')
  intro left right leftInside rightInside less
  rw [List.mem_range'_1] at leftInside rightInside
  rw [UInt32.lt_iff_toNat_lt, UInt32.toNat_ofNat_of_lt' (by omega),
    UInt32.toNat_ofNat_of_lt' (by omega)]
  exact less

/-- Of the wide indices 1, 2, …, 65536 the last is renumbered to the restart
value of the narrow width. -/
theorem wide_index_becomes_cut :
    let bytes : ByteArray :=
      ⟨(IndexStream.write .bits32 (oneThrough 0x10000)).toArray⟩
    let indices := IndexStream.held .bits32 0x10000 bytes
    let selection := ofIndices indices 0x10000
    let stripCut := StripCut.enabled .bits16
    let renumbered := IndexStream.held .bits32 0x10000
      (selection.renumber bytes .bits32 stripCut.sentinel)
    stripCut.sentinel = some 0xFFFF ∧
      indices[0xFFFF]? = some 0x10000 ∧ renumbered[0xFFFF]? = some 0xFFFF := by
  intro bytes indices selection stripCut renumbered
  have whole : (oneThrough 0x10000).length = (0x10000 : UInt32).toNat :=
    length_oneThrough _
  have last : (oneThrough 0x10000)[0xFFFF]? = some 0x10000 :=
    getElem?_oneThrough (by decide)
  have held : indices = oneThrough 0x10000 := held_write whole
  refine ⟨rfl, held ▸ last, ?_⟩
  simp only [renumbered, selection, held]
  exact renumbered_to_restart (pairwise_oneThrough (by decide)) whole last
    (by decide)

end IndexSelection

end MeshCapture
