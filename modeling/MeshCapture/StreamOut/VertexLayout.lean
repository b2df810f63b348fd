import MeshCapture.Shader
import MeshCapture.StreamOut.Declaration

/-! # Layout of a captured vertex

Every output of a shader is captured as 32-bit components in signature order,
except that the clip-space position is widened to four components and moved to
the front. Readers find the position at offset zero of each vertex and the
remaining outputs behind it in their own order. -/

namespace MeshCapture.StreamOut

structure PlacedEntry where
  entry : Entry
  byteOffset : UInt32
deriving DecidableEq, Inhabited

structure VertexLayout where
  entries : List PlacedEntry := []
  /-- Bytes from one captured vertex to the next. -/
  stride : UInt32 := 0
  /-- Where the position stood among the captured outputs before it was moved
  to the front. -/
  positionIndex : Option Nat := none
deriving DecidableEq, Inhabited

namespace VertexLayout

def fallbackStride : UInt32 := 4

/-- How an output is written. A position always has four components. -/
def entryOf (output : ShaderOutput) : Entry where
  semanticName := output.semanticName
  semanticIndex := output.semanticIndex
  componentCount := if output.isPosition then 4 else output.componentCount

def lastPosition : (outputs : List ShaderOutput) → Option Nat
  | [] => none
  | output :: rest =>
      match lastPosition rest with
      | some index => some (index + 1)
      | none => if output.isPosition then some 0 else none

def moveToFront {α : Type} (values : List α) (index : Nat) : List α :=
  match values[index]? with
  | some value => value :: values.eraseIdx index
  | none => values

def place (offset : UInt32) : (entries : List Entry) → List PlacedEntry
  | [] => []
  | entry :: rest => ⟨entry, offset⟩ :: place (offset + entry.byteSize) rest

def totalSize (entries : List Entry) : UInt32 :=
  (entries.map Entry.byteSize).foldl (· + ·) 0

def captured (outputs : List ShaderOutput) (stream : Option UInt32) :
    List ShaderOutput :=
  match stream with
  | none => outputs
  | some stream => outputs.filter (·.stream == stream)

def ofOutputs (outputs : List ShaderOutput) (stream : Option UInt32) :
    VertexLayout :=
  let kept := captured outputs stream
  let entries := kept.map entryOf
  let position := lastPosition kept
  let size := totalSize entries
  if entries.isEmpty then
    {}
  else
    { entries := place 0 (position.elim entries (moveToFront entries))
      stride := if size = 0 then fallbackStride else size
      positionIndex := position }

def isEmpty (layout : VertexLayout) : Bool :=
  layout.entries.isEmpty

def hasPosition (layout : VertexLayout) : Bool :=
  layout.positionIndex.isSome

/-- The declaration that writes this layout into a single buffer and rasterizes
nothing. -/
def declaration (layout : VertexLayout) : Declaration where
  entries := layout.entries.map (·.entry)
  strides := [layout.stride]
  rasterizedStream := none

@[simp] theorem map_entry_place (offset : UInt32) (entries : List Entry) :
    (place offset entries).map (·.entry) = entries := by
  induction entries generalizing offset with
  | nil => rfl
  | cons entry rest induction => simp [place, induction]

theorem lastPosition_eq_none_iff (outputs : List ShaderOutput) :
    lastPosition outputs = none ↔
      ∀ output ∈ outputs, output.isPosition = false := by
  induction outputs with
  | nil => simp [lastPosition]
  | cons output rest induction =>
      unfold lastPosition
      cases later : lastPosition rest with
      | some position =>
          have some_ne : lastPosition rest ≠ none := by simp [later]
          have notAll := mt induction.mpr some_ne
          simp only [reduceCtorEq, List.mem_cons, forall_eq_or_imp, false_iff,
            not_and]
          exact fun _ => notAll
      | none =>
          have all := induction.mp later
          cases isPosition : output.isPosition with
          | false => simpa [isPosition] using all
          | true => simp [isPosition]

theorem lastPosition_eq_some {outputs : List ShaderOutput} {index : Nat}
    (found : lastPosition outputs = some index) :
    (∃ output, outputs[index]? = some output ∧ output.isPosition = true) ∧
      ∀ output ∈ outputs.drop (index + 1), output.isPosition = false := by
  induction outputs generalizing index with
  | nil => simp [lastPosition] at found
  | cons output rest induction =>
      unfold lastPosition at found
      cases later : lastPosition rest with
      | some position =>
          rw [later] at found
          cases found
          exact induction later
      | none =>
          rw [later] at found
          simp only [Option.ite_none_right_eq_some, Option.some.injEq] at found
          obtain ⟨isPosition, rfl⟩ := found
          exact ⟨⟨output, rfl, isPosition⟩,
            (lastPosition_eq_none_iff rest).mp later⟩

end VertexLayout

end MeshCapture.StreamOut
