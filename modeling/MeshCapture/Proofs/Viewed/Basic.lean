import MeshCapture.MeshView
import MeshCapture.Proofs.Contents.Readout
import MeshCapture.Proofs.Index.Fetch

/-! # Viewed vertices

A viewer addresses the captured vertices of a draw by position, through an index
buffer if it has one. What it should see is the recorded draw: at every position
the vertex that the draw fetches there. Both sides are told by the index and the
base vertex that a vertex is drawn from. -/

namespace MeshCapture

def IndexBufferRange.fetch (range : IndexBufferRange)
    (memory : BufferHandle → ByteArray) (place : Nat) : UInt32 :=
  let bound := (memory range.buffer).extract range.offset.toNat
    (range.offset.toNat + range.size.toNat)
  IndexStream.fetch range.width bound place

def IndexBufferRange.Reaches (range : IndexBufferRange)
    (memory : BufferHandle → ByteArray) (place : Nat) : Prop :=
  let skipped := IndexStream.indexBytes range.width * place
  skipped < range.size.toNat ∧
    range.offset.toNat + skipped < (memory range.buffer).size

structure VertexInput where
  index : Nat
  baseVertex : Int32 := 0
deriving DecidableEq

namespace Command

def elementCount : Command → Nat
  | draw vertexCount .. => vertexCount.toNat
  | drawIndexed indexCount .. => indexCount.toNat
  | _ => 0

def instanceCount : Command → Nat
  | draw _ instanceCount .. | drawIndexed _ instanceCount .. =>
      instanceCount.toNat
  | _ => 0

/-- The input of an element of a draw. Without an index buffer every index is
fetched as zero. -/
def inputAt (memory : BufferHandle → ByteArray)
    (bound : Option IndexBufferRange) (element : Nat) :
    Command → Option VertexInput
  | draw _ _ firstVertex _ => some { index := firstVertex.toNat + element }
  | drawIndexed _ _ firstIndex baseVertex _ =>
      let fetched :=
        bound.elim 0 (·.fetch memory (firstIndex.toNat + element))
      some { index := fetched.toNat, baseVertex }
  | _ => none

def rebound (bound : Option IndexBufferRange) :
    Command → Option IndexBufferRange
  | applyState state => state.indexBuffer
  | setIndexBuffer range => some range
  | _ => bound

def boundIndices (commands : List Command) : Option IndexBufferRange :=
  commands.foldl rebound none

end Command

def Call.isRefusedRead : Call → Bool
  | .readBuffer _ _ _ (.error _) => true
  | _ => false

def Draw.command (draw : Draw) : Command :=
  if draw.flags.indexed then
    .drawIndexed draw.elementCount draw.instanceCount draw.firstIndex
      draw.baseVertex draw.firstInstance
  else
    .draw draw.elementCount draw.instanceCount draw.firstVertex
      draw.firstInstance

namespace DrawVisit

def fetched (visit : DrawVisit) (memory : BufferHandle → ByteArray)
    (place : Nat) : UInt32 :=
  visit.state.indexBuffer.elim 0
    (·.fetch memory (visit.draw.firstIndex.toNat + place))

def HasIndices (visit : DrawVisit) (memory : BufferHandle → ByteArray) : Prop :=
  ∃ range, visit.state.indexBuffer = some range ∧
    range.Reaches memory visit.draw.firstIndex.toNat

def inputAt (visit : DrawVisit) (memory : BufferHandle → ByteArray)
    (place : Nat) : Option VertexInput :=
  visit.draw.command.inputAt memory visit.state.indexBuffer place

end DrawVisit

/-- The one draw in front of the last copy of a stage. -/
structure StageDraw (start history : List Call) extends
    LastCopy start history where
  before : List Command
  command : Command
  between : List Command
  front_eq : front = before ++ command :: between
  draws : command.isDraw = true
  alone : ∀ other ∈ before ++ between, other.isDraw = false

instance {start history : List Call} :
    Subsingleton (StageDraw start history) where
  allEq left right := by
    rcases left with ⟨copy, before, command, between, front_eq, draws, alone⟩
    rcases right with ⟨otherCopy, otherBefore, otherCommand, otherBetween,
      other_front_eq, other_draws, other_alone⟩
    cases Subsingleton.elim copy otherCopy
    rcases last_split_unique (front_eq.symm.trans other_front_eq) draws
      other_draws (fun other late => alone other (by simp [late]))
      (fun other late => other_alone other (by simp [late])) with
      ⟨rfl, rfl, rfl⟩
    rfl

namespace StageDraw

variable {start history : List Call}

def StreamsAll (drawn : StageDraw start history) (contents : Contents)
    (stride : UInt32) : Prop :=
  ∃ total,
    LittleEndian.word64At (drawn.image contents) 0 = some total ∧
      total.toNat = drawn.command.elementCount *
        drawn.command.instanceCount * stride.toNat

def inputAt (drawn : StageDraw start history) (contents : Contents)
    (vertex : Nat) : Option VertexInput :=
  drawn.command.inputAt (contents drawn.earlier drawn.before)
    (Command.boundIndices drawn.before) vertex

end StageDraw

theorem exists_stageDraw_of_list {start history : List Call} {number : Nat}
    {list : CommandList} {before between back : List Command}
    {command : Command} {target source : BufferHandle}
    (inside : start <+: history) (early : start.length ≤ number)
    (executed : (history[number]?).bind Call.executed? = some list)
    (none_later : ∀ call ∈ history.drop (number + 1), call.isExecute = false)
    (list_eq : list.toList =
      before ++ command :: between ++ .copyBuffer target source :: back)
    (draws : command.isDraw = true)
    (alone : ∀ other ∈ before ++ between, other.isDraw = false)
    (last : ∀ command ∈ back, command.isCopy = false) :
    ∃ drawn : StageDraw start history,
      drawn.earlier = history.take number ∧
      drawn.front = before ++ command :: between ∧
      drawn.target = target ∧ drawn.source = source ∧
      drawn.before = before ∧ drawn.command = command := by
  rcases Option.bind_eq_some_iff.mp executed with ⟨call, stands, executed⟩
  have called : call = .execute list (.ok ()) := by
    unfold Call.executed? at executed
    split at executed
    · cases executed
      rfl
    · cases executed
  rcases List.getElem?_eq_some_iff.mp stands with ⟨small, found⟩
  let drawn : StageDraw start history :=
    { earlier := history.take number
      list := list
      later := history.drop (number + 1)
      front := before ++ command :: between
      target := target
      source := source
      back := back
      behind := List.prefix_take_iff.mpr ⟨inside, early⟩
      history_eq := by
        rw [← called, ← found, List.getElem_cons_drop, List.take_append_drop]
      list_eq := list_eq
      last := last
      none_later := none_later
      before := before
      command := command
      between := between
      front_eq := rfl
      draws := draws
      alone := alone }
  exact ⟨drawn, rfl, rfl, rfl, rfl, rfl, rfl⟩

namespace MeshView

/-- The vertex that stands at a place of a view: the index there, zero past the
end of the index buffer, or the place itself without one. -/
def vertexAt (view : MeshView) (memory : BufferHandle → ByteArray)
    (place : Nat) : Nat :=
  match view.indexBuffer with
  | none => place
  | some buffer =>
      let width : IndexWidth :=
        if view.indexByteStride = 2 then .bits16 else .bits32
      let bound := (memory buffer).extract view.indexByteOffset.toNat
        (view.indexByteOffset.toNat + view.indexByteSize.toNat)
      (IndexStream.fetch width bound place).toNat

def Holds (view : MeshView) (memory : BufferHandle → ByteArray)
    (vertex : Nat) : Prop :=
  ∃ buffer, view.vertexBuffer = some buffer ∧
    view.vertexByteOffset.toNat +
      (vertex + 1) * view.vertexByteStride.toNat ≤ (memory buffer).size

/-- The vertex that stands at a place of a view is one of the first instance,
inside the vertex buffer, and was drawn from the given input. -/
structure Shows {start history : List Call} (view : MeshView)
    (contents : Contents) (drawn : StageDraw start history) (place : Nat)
    (input : Option VertexInput) : Prop where
  drawn_lt : view.vertexAt (contents history []) place <
    drawn.command.elementCount
  held : view.Holds (contents history [])
    (view.vertexAt (contents history []) place)
  input_eq : drawn.inputAt contents
    (view.vertexAt (contents history []) place) = input

end MeshView

end MeshCapture
