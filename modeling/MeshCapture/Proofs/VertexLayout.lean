import MeshCapture.Proofs.History
import MeshCapture.StreamOut.VertexLayout
import Mathlib.Algebra.Group.Nat.Defs
import Mathlib.Data.List.Forall2
import Mathlib.Data.List.Perm.Basic

/-! # Layouts of captured vertices

A layout has an entry for every output that is captured. Its entries lie one
behind the other from the start of the vertex to its end, and moving the first
one back to where the position stood gives the order of the signature. -/

namespace MeshCapture.StreamOut

/-! ## Sizes -/

def components : (entries : List Entry) → Nat
  | [] => 0
  | entry :: rest => entry.componentCount.toNat + components rest

theorem components_perm {left right : List Entry} (same : left.Perm right) :
    components left = components right := by
  induction same with
  | nil => rfl
  | cons entry _ induction => rw [components, components, induction]
  | swap first second rest =>
      simp only [components]
      omega
  | trans _ _ first second => exact first.trans second

theorem Entry.toNat_byteSize (entry : Entry) :
    entry.byteSize.toNat = 4 * entry.componentCount.toNat := by
  have small := entry.componentCount.toNat_lt
  rw [byteSize, UInt32.toNat_mul, UInt8.toNat_toUInt32]
  change entry.componentCount.toNat * 4 % 2 ^ 32 = _
  omega

theorem Entry.toNat_add_byteSize {offset : UInt32} {entry : Entry}
    (fits : offset.toNat + 4 * entry.componentCount.toNat < 2 ^ 32) :
    (offset + entry.byteSize).toNat =
      offset.toNat + 4 * entry.componentCount.toNat := by
  rw [UInt32.toNat_add, toNat_byteSize]
  exact Nat.mod_eq_of_lt fits

/-! ## Placed entries -/

namespace PlacedEntry

def byteEnd (placed : PlacedEntry) : Nat :=
  placed.byteOffset.toNat + 4 * placed.entry.componentCount.toNat

def Covers (placed : PlacedEntry) (byte : Nat) : Prop :=
  placed.byteOffset.toNat ≤ byte ∧ byte < placed.byteEnd

end PlacedEntry

/-- The entries lie one behind the other and leave no byte out in front of
`size`. -/
structure Tiles (size : Nat) (entries : List PlacedEntry) : Prop where
  running : Throughout
    (fun earlier placed => placed.byteOffset.toNat =
      4 * components (earlier.map (·.entry)))
    entries
  apart : entries.Pairwise fun before after =>
    before.byteEnd ≤ after.byteOffset.toNat
  covered : ∀ byte, (∃ placed ∈ entries, placed.Covers byte) ↔ byte < size

namespace VertexLayout

/-! ### Placing -/

section

variable {offset : UInt32} {entries : List Entry}

theorem running_place
    (fits : offset.toNat + 4 * components entries < 2 ^ 32) :
    Throughout
      (fun earlier placed => placed.byteOffset.toNat =
        offset.toNat + 4 * components (earlier.map (·.entry)))
      (place offset entries) := by
  induction entries generalizing offset with
  | nil => exact .nil
  | cons entry rest induction =>
      rw [components] at fits
      have next : (offset + entry.byteSize).toNat = _ :=
        Entry.toNat_add_byteSize (by omega)
      refine Throughout.cons_iff.mpr ⟨rfl, ?_⟩
      refine (induction (by omega)).imp fun earlier placed runs => ?_
      rw [runs, next, List.map_cons, components, Nat.mul_add, Nat.add_assoc]

theorem apart_place
    (fits : offset.toNat + 4 * components entries < 2 ^ 32) :
    (∀ placed ∈ place offset entries,
        offset.toNat ≤ placed.byteOffset.toNat) ∧
      (place offset entries).Pairwise fun before after =>
        before.byteEnd ≤ after.byteOffset.toNat := by
  induction entries generalizing offset with
  | nil => exact ⟨List.forall_mem_nil _, .nil⟩
  | cons entry rest induction =>
      rw [components] at fits
      have next : (offset + entry.byteSize).toNat = _ :=
        Entry.toNat_add_byteSize (by omega)
      have enough : (offset + entry.byteSize).toNat + 4 * components rest <
          2 ^ 32 := by omega
      obtain ⟨behind, apart⟩ := induction enough
      rw [next] at behind
      refine ⟨List.forall_mem_cons.mpr ⟨Nat.le_refl _, ?_⟩,
        List.pairwise_cons.mpr ⟨behind, apart⟩⟩
      intro placed inside
      have := behind placed inside
      omega

theorem covered_place_iff
    (fits : offset.toNat + 4 * components entries < 2 ^ 32) (byte : Nat) :
    (∃ placed ∈ place offset entries, placed.Covers byte) ↔
      offset.toNat ≤ byte ∧ byte < offset.toNat + 4 * components entries := by
  induction entries generalizing offset with
  | nil =>
      simp only [place, List.not_mem_nil, false_and, exists_false, components,
        false_iff]
      omega
  | cons entry rest induction =>
      rw [components] at fits
      have next : (offset + entry.byteSize).toNat = _ :=
        Entry.toNat_add_byteSize (by omega)
      have enough : (offset + entry.byteSize).toNat + 4 * components rest <
          2 ^ 32 := by omega
      have later := induction enough
      rw [next] at later
      have first : PlacedEntry.Covers ⟨entry, offset⟩ byte ↔
          offset.toNat ≤ byte ∧
            byte < offset.toNat + 4 * entry.componentCount.toNat := Iff.rfl
      rw [place, List.exists_mem_cons_iff, first, later, components]
      omega

theorem tiles_place (fits : 4 * components entries < 2 ^ 32) :
    Tiles (4 * components entries) (place 0 entries) := by
  have start : (0 : UInt32).toNat = 0 := rfl
  have enough : (0 : UInt32).toNat + 4 * components entries < 2 ^ 32 := by
    rwa [start, Nat.zero_add]
  refine ⟨?_, (apart_place enough).2, fun byte => ?_⟩
  · refine (running_place enough).imp fun earlier placed runs => ?_
    rw [runs, start, Nat.zero_add]
  · rw [covered_place_iff enough, start, Nat.zero_add]
    exact and_iff_right (Nat.zero_le byte)

theorem toNat_totalSize (fits : 4 * components entries < 2 ^ 32) :
    (totalSize entries).toNat = 4 * components entries := by
  have summed (start : UInt32)
      (enough : start.toNat + 4 * components entries < 2 ^ 32) :
      ((entries.map Entry.byteSize).foldl (· + ·) start).toNat =
        start.toNat + 4 * components entries := by
    clear fits
    induction entries generalizing start with
    | nil => rfl
    | cons entry rest induction =>
        rw [components] at enough ⊢
        have next : (start + entry.byteSize).toNat = _ :=
          Entry.toNat_add_byteSize (by omega)
        rw [List.map_cons, List.foldl_cons, induction _ (by omega), next]
        omega
  have start : (0 : UInt32).toNat = 0 := rfl
  rw [totalSize, summed 0 (by omega), start, Nat.zero_add]

end

/-! ### Moving to the front -/

section

variable {α : Type} {values : List α} {index : Nat}

theorem moveToFront_eq (inside : index < values.length) :
    moveToFront values index = values[index] :: values.eraseIdx index := by
  rw [moveToFront, List.getElem?_eq_getElem inside]

theorem moveToFront_perm (values : List α) (index : Nat) :
    (moveToFront values index).Perm values := by
  by_cases inside : index < values.length
  · rw [moveToFront_eq inside]
    exact List.getElem_cons_eraseIdx_perm inside
  · rw [moveToFront, List.getElem?_eq_none (by omega)]

end

/-- The entries with the first of them back where the position stood. -/
def restored (layout : VertexLayout) : List Entry :=
  let entries := layout.entries.map (·.entry)
  match layout.positionIndex, entries with
  | some index, first :: rest => rest.insertIdx index first
  | _, _ => entries

end VertexLayout

structure Entry.Writes (output : ShaderOutput) (entry : Entry) : Prop where
  name : entry.semanticName = output.semanticName
  index : entry.semanticIndex = output.semanticIndex
  components : entry.componentCount =
    if output.isPosition then 4 else output.componentCount

structure VertexLayout.Arranges (layout : VertexLayout)
    (outputs : List ShaderOutput) : Prop where
  length : layout.entries.length = outputs.length
  restores : List.Forall₂ Entry.Writes outputs layout.restored
  /-- The first entry is that of the last position. -/
  front : ∀ index, layout.positionIndex = some index →
    ∃ position first rest, outputs[index]? = some position ∧
      position.isPosition = true ∧
      (∀ output ∈ outputs.drop (index + 1), output.isPosition = false) ∧
      layout.entries = first :: rest ∧
      first.entry.Writes position ∧ first.byteOffset = 0
  hasPosition_iff : layout.hasPosition = true ↔
    ∃ output ∈ outputs, output.isPosition = true
  tiles : Tiles (4 * components layout.restored) layout.entries
  stride : layout.entries ≠ [] →
    layout.stride.toNat =
      if components layout.restored = 0 then 4
      else 4 * components layout.restored
  stride_eq_zero_iff : layout.stride = 0 ↔ layout.entries = []

namespace VertexLayout

variable {outputs : List ShaderOutput} {stream : Option UInt32}

theorem entryOf_writes (output : ShaderOutput) :
    (entryOf output).Writes output :=
  ⟨rfl, rfl, rfl⟩

theorem ofOutputs_of_empty (none : captured outputs stream = []) :
    ofOutputs outputs stream = {} := by
  simp [ofOutputs, none]

theorem ofOutputs_of_ne (any : captured outputs stream ≠ []) :
    let kept := captured outputs stream
    let entries := kept.map entryOf
    ofOutputs outputs stream =
      { entries := place 0
          ((lastPosition kept).elim entries (moveToFront entries))
        stride :=
          if totalSize entries = 0 then fallbackStride else totalSize entries
        positionIndex := lastPosition kept } := by
  simp [ofOutputs, any]

theorem positionIndex_ofOutputs (outputs : List ShaderOutput)
    (stream : Option UInt32) :
    (ofOutputs outputs stream).positionIndex =
      lastPosition (captured outputs stream) := by
  by_cases none : captured outputs stream = []
  · rw [ofOutputs_of_empty none, none]
    rfl
  · rw [ofOutputs_of_ne none]

theorem lt_length_of_lastPosition {index : Nat}
    (found : lastPosition outputs = some index) : index < outputs.length := by
  obtain ⟨⟨position, stands, -⟩, -⟩ := lastPosition_eq_some found
  exact (List.getElem?_eq_some_iff.mp stands).1

theorem restored_ofOutputs (outputs : List ShaderOutput)
    (stream : Option UInt32) :
    (ofOutputs outputs stream).restored =
      (captured outputs stream).map entryOf := by
  by_cases none : captured outputs stream = []
  · rw [ofOutputs_of_empty none, none]
    rfl
  · rw [ofOutputs_of_ne none, restored]
    simp only [map_entry_place]
    cases position : lastPosition (captured outputs stream) with
    | none => rfl
    | some index =>
        have inside : index <
            ((captured outputs stream).map entryOf).length := by
          rw [List.length_map]
          exact lt_length_of_lastPosition position
        simp only [Option.elim_some, moveToFront_eq inside]
        exact List.insertIdx_eraseIdx_getElem inside

theorem entries_ofOutputs_perm (outputs : List ShaderOutput)
    (stream : Option UInt32) :
    ((ofOutputs outputs stream).entries.map (·.entry)).Perm
      ((captured outputs stream).map entryOf) := by
  by_cases none : captured outputs stream = []
  · rw [ofOutputs_of_empty none, none]
    rfl
  · rw [ofOutputs_of_ne none]
    simp only [map_entry_place]
    cases lastPosition (captured outputs stream) with
    | none => rfl
    | some index => exact moveToFront_perm _ index

theorem length_ofOutputs (outputs : List ShaderOutput)
    (stream : Option UInt32) :
    (ofOutputs outputs stream).entries.length =
      (captured outputs stream).length := by
  simpa using (entries_ofOutputs_perm outputs stream).length_eq

theorem front_ofOutputs {index : Nat}
    (found : lastPosition (captured outputs stream) = some index) :
    ∃ position rest,
      (captured outputs stream)[index]? = some position ∧
        position.isPosition = true ∧
        (ofOutputs outputs stream).entries = ⟨entryOf position, 0⟩ :: rest := by
  obtain ⟨⟨position, stands, isPosition⟩, -⟩ := lastPosition_eq_some found
  obtain ⟨inside, same⟩ := List.getElem?_eq_some_iff.mp stands
  have any : captured outputs stream ≠ [] :=
    List.ne_nil_of_length_pos (Nat.zero_lt_of_lt inside)
  have placed : index < ((captured outputs stream).map entryOf).length := by
    rwa [List.length_map]
  let others := ((captured outputs stream).map entryOf).eraseIdx index
  have entries : (ofOutputs outputs stream).entries =
      place 0 (entryOf position :: others) := by
    rw [ofOutputs_of_ne any, found]
    simp only [Option.elim_some, moveToFront_eq placed, List.getElem_map, same,
      others]
  exact ⟨position, _, stands, isPosition, entries⟩

theorem tiles_ofOutputs
    (fits : 4 * components ((captured outputs stream).map entryOf) < 2 ^ 32) :
    Tiles (4 * components ((captured outputs stream).map entryOf))
      (ofOutputs outputs stream).entries := by
  have same := components_perm (entries_ofOutputs_perm outputs stream)
  by_cases none : captured outputs stream = []
  · rw [none] at fits ⊢
    rw [ofOutputs_of_empty none]
    exact tiles_place fits
  · rw [ofOutputs_of_ne none] at same ⊢
    simp only [map_entry_place] at same ⊢
    rw [← same] at fits ⊢
    exact tiles_place fits

theorem stride_ofOutputs (any : captured outputs stream ≠ [])
    (fits : 4 * components ((captured outputs stream).map entryOf) < 2 ^ 32) :
    (ofOutputs outputs stream).stride.toNat =
      if components ((captured outputs stream).map entryOf) = 0 then 4
      else 4 * components ((captured outputs stream).map entryOf) := by
  have size := toNat_totalSize fits
  rw [ofOutputs_of_ne any]
  simp only [← UInt32.toNat_inj, size]
  split
  · next zero =>
      have none : 4 * components _ = 0 := zero
      rw [if_pos (by omega)]
      rfl
  · next positive =>
      have some : ¬4 * components _ = 0 := positive
      rw [if_neg (by omega), size]

/-- Every layout arranges the outputs that it captures. -/
theorem ofOutputs_arranges (outputs : List ShaderOutput)
    (stream : Option UInt32)
    (fits : 4 * components ((captured outputs stream).map entryOf) < 2 ^ 32) :
    (ofOutputs outputs stream).Arranges (captured outputs stream) := by
  have empty_iff : (ofOutputs outputs stream).entries = [] ↔
      captured outputs stream = [] := by
    rw [← List.length_eq_zero_iff, length_ofOutputs, List.length_eq_zero_iff]
  refine ⟨length_ofOutputs outputs stream, ?restores, ?front, ?position, ?tiles,
    ?stride, ?zero⟩
  case restores =>
    rw [restored_ofOutputs, List.forall₂_map_right_iff, List.forall₂_same]
    exact fun output _ => entryOf_writes output
  case front =>
    intro index found
    rw [positionIndex_ofOutputs] at found
    obtain ⟨position, rest, stands, isPosition, entries⟩ :=
      front_ofOutputs found
    exact ⟨position, _, rest, stands, isPosition,
      (lastPosition_eq_some found).2, entries, entryOf_writes position, rfl⟩
  case position =>
    have none_iff := lastPosition_eq_none_iff (captured outputs stream)
    rw [hasPosition, positionIndex_ofOutputs, Option.isSome_iff_ne_none, ne_eq,
      none_iff]
    simp
  case tiles =>
    rw [restored_ofOutputs]
    exact tiles_ofOutputs fits
  case stride =>
    intro any
    rw [restored_ofOutputs]
    exact stride_ofOutputs (mt empty_iff.mpr any) fits
  case zero =>
    rw [empty_iff]
    constructor
    · intro zero
      by_contra any
      have stride := stride_ofOutputs any fits
      rw [zero] at stride
      split at stride
      · cases stride
      · next positive =>
          have : (0 : UInt32).toNat = 0 := rfl
          omega
    · intro none
      rw [ofOutputs_of_empty none]

/-- Two positions, an output without components and one of another stream. -/
theorem ofOutputs_arranges_two_positions :
    let position (index : UInt32) : ShaderOutput :=
      { semanticName := "SV_Position", semanticIndex := index,
        componentCount := 3, systemValue := .position }
    let output (name : String) (count : UInt8) (stream : UInt32) :
        ShaderOutput :=
      { semanticName := name, semanticIndex := 0, componentCount := count,
        stream }
    let outputs := [position 0, output "UNUSED" 0 0, output "OTHER" 4 1,
      position 1, output "COLOR" 2 0]
    let layout := ofOutputs outputs (some 0)
    4 * components ((captured outputs (some 0)).map entryOf) < 2 ^ 32 ∧
      layout.Arranges (captured outputs (some 0)) ∧
      layout.positionIndex = some 2 ∧ layout.stride = 40 ∧
      layout.entries.map (fun placed =>
        (placed.entry.semanticName, placed.byteOffset)) =
        [("SV_Position", 0), ("SV_Position", 16), ("UNUSED", 32),
          ("COLOR", 32)] := by
  intro position output outputs layout
  have fits :
      4 * components ((captured outputs (some 0)).map entryOf) < 2 ^ 32 := by
    decide
  exact ⟨fits, ofOutputs_arranges outputs (some 0) fits, by decide, by decide,
    by decide⟩

end VertexLayout

end MeshCapture.StreamOut
