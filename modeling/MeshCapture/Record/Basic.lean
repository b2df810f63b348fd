import MeshCapture.Draw
import MeshCapture.Failure
import MeshCapture.Handle
import MeshCapture.Record.Instances

/-! # Capture records

What is kept of a captured draw: for each of its two stages either buffers with
the captured vertices or the text of a failure. -/

namespace MeshCapture

inductive Stage where
  | vertex
  | post
deriving DecidableEq

/-- The captured output of one stage. The status is empty on success; on
failure every other field keeps its default. -/
structure StageRecord where
  status : String := ""
  /-- The captured vertices; the record owns the buffer. -/
  vertexBuffer : Option BufferHandle := none
  /-- The renumbered indices; the record owns the buffer. -/
  indexBuffer : Option BufferHandle := none
  indexWidth : IndexWidth := .bits32
  vertexStride : UInt32 := 0
  /-- Bytes per instance of an instanced draw that splits evenly. -/
  instanceStride : UInt32 := 0
  nearPlane : Float32 := 0
  farPlane : Float32 := 0
  topology : Topology := .undefined
  /-- Vertices of the draw, or of one instance of an instanced draw. -/
  vertexCount : UInt32 := 0
  /-- Single instances, where they may differ in their amount of output. -/
  instances : List InstanceShare := []
  hasPosition : Bool := false
  usesIndices : Bool := false
deriving DecidableEq, Inhabited

namespace StageRecord

def failed (failure : CaptureFailure) : StageRecord :=
  { status := failure.message }

def isOk (record : StageRecord) : Bool :=
  record.status.isEmpty

def buffers (record : StageRecord) : List BufferHandle :=
  record.vertexBuffer.toList ++ record.indexBuffer.toList

end StageRecord

structure EventRecord where
  /-- The topology the draw was recorded with. -/
  inputTopology : Topology := .undefined
  vertex : StageRecord := {}
  post : StageRecord := {}
deriving DecidableEq, Inhabited

namespace EventRecord

def failed (failure : CaptureFailure) : EventRecord where
  vertex := .failed failure
  post := .failed failure

def stage (record : EventRecord) : Stage → StageRecord
  | .vertex => record.vertex
  | .post => record.post

def buffers (record : EventRecord) : List BufferHandle :=
  record.vertex.buffers ++ record.post.buffers

end EventRecord

end MeshCapture
