import MeshCapture.Pipeline.Basic

/-! # Command lists

Work for the device is recorded as a list of commands and submitted as a
unit. -/

namespace MeshCapture

inductive BufferUse where
  | common
  | streamOut
  | copySource
  | copyDestination
  | unorderedAccess
  | genericRead
deriving DecidableEq, Inhabited

/-- A stream-output binding: the filled-size counter lies at `counterOffset`,
and vertices are appended from `dataOffset` on. -/
structure OutputTarget where
  buffer : BufferHandle
  counterOffset : UInt64
  dataOffset : UInt64
  size : UInt64
deriving DecidableEq, Inhabited

inductive Command where
  /-- Binds everything the replay had bound. -/
  | applyState (state : BoundState)
  | setPipeline (pipeline : PipelineHandle)
  | setRootSignature (signature : RootSignatureHandle)
  | applyRootParameters
  | setIndexBuffer (range : IndexBufferRange)
  | setOutputTarget (target : OutputTarget)
  | setTopology (topology : Topology)
  | draw (vertexCount instanceCount firstVertex firstInstance : UInt32)
  | drawIndexed (indexCount instanceCount firstIndex : UInt32)
      (baseVertex : Int32) (firstInstance : UInt32)
  | beginQuery (heap : QueryHeapHandle) (slot : UInt32)
  | endQuery (heap : QueryHeapHandle) (slot : UInt32)
  /-- Writes the statistics of a query to `target` at `offset`. -/
  | resolveQuery (heap : QueryHeapHandle) (slot : UInt32)
      (target : BufferHandle) (offset : UInt64)
  | barrier (buffer : BufferHandle) (before after : BufferUse)
  /-- Copies the whole of `source`, which is as large as `target`. -/
  | copyBuffer (target source : BufferHandle)
  | discard (buffer : BufferHandle)
  | clear (buffer : BufferHandle)
deriving DecidableEq

def Command.isDraw : Command → Bool
  | draw .. | drawIndexed .. => true
  | _ => false

structure CommandList where
  commands : Array Command := #[]
deriving DecidableEq, Inhabited

namespace CommandList

def push (list : CommandList) (command : Command) : CommandList :=
  ⟨list.commands.push command⟩

def toList (list : CommandList) : List Command :=
  list.commands.toList

def isEmpty (list : CommandList) : Bool :=
  list.commands.isEmpty

def drawCount (list : CommandList) : Nat :=
  list.commands.countP Command.isDraw

@[simp] theorem toList_push (list : CommandList) (command : Command) :
    (list.push command).toList = list.toList ++ [command] := by
  simp [push, toList]

theorem drawCount_eq (list : CommandList) :
    list.drawCount = list.toList.countP Command.isDraw := by
  simp [drawCount, toList]

end CommandList

end MeshCapture
