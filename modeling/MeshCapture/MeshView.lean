import MeshCapture.Record.Basic

/-! # Mesh views

Everything a viewer needs to draw one instance of one captured stage. -/

namespace MeshCapture

/-- Format of the attribute a viewer reads at the start of each vertex:
floating-point components. -/
structure VertexFormat where
  componentCount : UInt8 := 4
  componentBytes : UInt8 := 4
deriving DecidableEq, Inhabited

structure MeshView where
  vertexBuffer : Option BufferHandle := none
  vertexByteOffset : UInt64 := 0
  vertexByteStride : UInt32 := 0
  /-- The largest word, meaning the whole buffer, where there is one. -/
  vertexByteSize : UInt64 := 0
  indexBuffer : Option BufferHandle := none
  /-- Bytes of an index, zero without an index buffer. -/
  indexByteStride : UInt32 := 0
  indexByteOffset : UInt64 := 0
  indexByteSize : UInt64 := 0
  baseVertex : Int32 := 0
  format : VertexFormat := {}
  showAlpha : Bool := false
  topology : Topology := .undefined
  elementCount : UInt32 := 0
  /-- Whether positions are in clip space and the planes can undo that. -/
  unproject : Bool := false
  nearPlane : Float32 := 0
  farPlane : Float32 := 0
  status : String := ""
deriving DecidableEq, Inhabited

namespace MeshView

def ofStage (record : StageRecord) (instanceIndex : UInt32) : MeshView :=
  let view : MeshView :=
    { vertexBuffer := record.vertexBuffer
      vertexByteOffset :=
        record.instanceStride.toUInt64 * instanceIndex.toUInt64
      vertexByteStride := record.vertexStride
      vertexByteSize := if record.vertexBuffer.isSome then maxWord else 0
      topology := record.topology
      elementCount := record.vertexCount
      unproject := record.hasPosition
      nearPlane := record.nearPlane
      farPlane := record.farPlane
      status := record.status }
  match record.usesIndices, record.indexBuffer with
  | true, some buffer =>
      { view with
        indexBuffer := some buffer
        indexByteStride := record.indexWidth.bytes
        indexByteSize := maxWord }
  | _, _ => view

def narrow (view : MeshView) (output : InstanceShare) : MeshView :=
  { view with
    vertexByteOffset := output.byteOffset
    elementCount := output.vertexCount }

/-- The view of one instance of a captured stage. Without a record the view is
empty and says so. -/
def ofRecord (record : Option EventRecord) (instanceIndex : UInt32)
    (stage : Stage) : MeshView :=
  match record with
  | none => { status := CaptureFailure.notCaptured.message }
  | some record =>
      let captured := record.stage stage
      let view := ofStage captured instanceIndex
      match captured.instances[instanceIndex.toNat]? with
      | some output => view.narrow output
      | none => view

end MeshView

end MeshCapture
