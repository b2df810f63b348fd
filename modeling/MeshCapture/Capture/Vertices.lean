import MeshCapture.Capture.Transfer
import MeshCapture.ClipPlanes
import MeshCapture.Index.Selection
import MeshCapture.Pipeline.Derived
import MeshCapture.Record.Basic

/-! # Capturing what the vertex shader writes

The draw is repeated as points, each vertex once for every instance. Of an
indexed draw only the referenced vertices are drawn, and its renumbered indices
are kept beside them. -/

namespace MeshCapture.Work

variable {σ : Type} [Device σ]

/-- Capacity asked for per selected index, so that the index upload buffer, a
sixteenth of the capacity, has room for the index. -/
def bytesPerSelectedIndex : UInt64 := 64

def plainBytes (pass : Pass) (stride : UInt32) : UInt64 :=
  let vertices := saturatingMul pass.draw.elementCount.toUInt64
    pass.draw.instanceCount.toUInt64
  saturatingAdd (saturatingMul vertices stride.toUInt64)
    pass.settings.counterBytes

/-- The indices the draw fetches, as far as they lie inside the bound index
buffer, and their width. Without a readable buffer there are none. -/
def fetchIndices (pass : Pass) : Work σ (ByteArray × IndexWidth) := do
  match pass.state.indexBuffer with
  | none => return (.empty, pass.draw.indexWidth)
  | some range =>
      if range.size = 0 then
        return (.empty, pass.draw.indexWidth)
      else
        let width := range.width.bytes.toUInt64
        let skip := pass.draw.firstIndex.toUInt64 * width
        let length := min (pass.draw.elementCount.toUInt64 * width)
          (saturatingSub range.size skip)
        let offset := saturatingAdd range.offset skip
        match ← (readBuffer range.buffer offset length).run with
        | .ok bytes => return (bytes, range.width)
        | .error _ => return (.empty, range.width)

structure VertexDraw where
  recording : Recording
  indices : Option (ByteArray × IndexWidth) := none

def pointPass (pass : Pass) (derived : PipelineHandle) (scratch : Scratch)
    (indices : Option IndexBufferRange) (draw : Command) : Recording :=
  let bound := Recording.bindDerived { scratch } pass derived
  let indexed :=
    match indices with
    | none => bound
    | some range => bound.push (.setIndexBuffer range)
  let streaming :=
    indexed.bindOutput pass.settings 0 pass.settings.counterBytes
  (streaming.push (.setTopology .points)).push draw

def recordPlainDraw (pass : Pass) (stride : UInt32)
    (derived : PipelineHandle) : Attempt CaptureFailure σ VertexDraw := do
  let scratch ← (scratchFor pass.settings (plainBytes pass stride)).adapt
    .vertexOutOfMemory
  return {
    recording := pointPass pass derived scratch none <|
      .draw pass.draw.elementCount pass.draw.instanceCount
        pass.draw.firstVertex pass.draw.firstInstance }

def recordSelectedDraw (pass : Pass) (stripCut : StripCut) (stride : UInt32)
    (derived : PipelineHandle) : Attempt CaptureFailure σ VertexDraw := do
  let (fetched, width) ← ExceptT.lift (fetchIndices pass)
  let selection := IndexSelection.ofIndices
    (IndexStream.read width pass.draw.elementCount.toNat fetched.data.toList)
    pass.draw.elementCount
  let required := max (plainBytes pass stride)
    (selection.count.toUInt64 * bytesPerSelectedIndex)
  let scratch ← (scratchFor pass.settings required).adapt .vertexOutOfMemory
  let members := selection.toBytes
  (writeBuffer scratch.indexUpload 0 members).adapt .submission
  let range : IndexBufferRange :=
    { buffer := scratch.indexUpload, offset := 0,
      size := UInt64.ofNat members.size, width := .bits32 }
  let renumbered := selection.renumber fetched width stripCut.sentinel
  return {
    recording := pointPass pass derived scratch (some range) <|
      .drawIndexed selection.count pass.draw.instanceCount 0
        pass.draw.baseVertex pass.draw.firstInstance
    indices :=
      if renumbered.isEmpty then none else some (renumbered, width) }

def recordVertices (pass : Pass) (stripCut : StripCut) (stride : UInt32)
    (derived : PipelineHandle) : Attempt CaptureFailure σ VertexDraw :=
  if pass.draw.flags.indexed then
    recordSelectedDraw pass stripCut stride derived
  else
    recordPlainDraw pass stride derived

def clipPlanes (settings : Settings) (layout : StreamOut.VertexLayout)
    (data : ByteArray) (vertexCount : UInt64) : ClipPlanes :=
  if layout.hasPosition then
    .estimate data layout.stride vertexCount settings.projectionEpsilon
  else
    .fallback

def attachIndices (event : EventId) (record : StageRecord)
    (indices : Option (ByteArray × IndexWidth)) :
    Attempt CaptureFailure σ StageRecord := do
  match indices with
  | none => return record
  | some (bytes, width) =>
      let label := "postvs index buffer for " ++ toString event.toNat
      let buffer ← (store label bytes).adapt fun _ =>
        .vertexOutOfMemory (UInt64.ofNat bytes.size)
      return { record with indexBuffer := some buffer, indexWidth := width }

def streamVertices (pass : Pass) (pipeline : GraphicsPipeline)
    (layout : StreamOut.VertexLayout) (derived : PipelineHandle) :
    Attempt CaptureFailure σ StageRecord := do
  let drawn ← recordVertices pass pipeline.stripCut layout.stride derived
  let recording := drawn.recording.copyOut
  let scratch := recording.scratch
  (submit recording).adapt .submission
  let sizes ← filledSizes .vertexReadback scratch 1
  let reported := sizes.headD 0
  requireOutput .noVertexData reported
  let dataOffset := pass.settings.counterBytes
  let written := min reported (scratch.room pass.settings dataOffset)
  let data ← fetchStaged .vertexReadback scratch dataOffset written
  let planes := clipPlanes pass.settings layout data
    (written / layout.stride.toUInt64)
  let label := "postvs vertex output for " ++ toString pass.event.toNat
  let vertexBuffer ← (store label data).adapt fun _ =>
    .vertexOutOfMemory written
  let instances := max pass.draw.instanceCount 1
  Attempt.onFailure (releaseBuffer vertexBuffer) <|
    attachIndices pass.event
      { vertexBuffer := some vertexBuffer
        vertexStride := layout.stride
        instanceStride :=
          if pass.draw.flags.instanced then
            (written / instances.toUInt64).toUInt32
          else
            0
        nearPlane := planes.near
        farPlane := planes.far
        topology := pass.state.topology
        vertexCount := pass.draw.elementCount
        hasPosition := layout.hasPosition
        usesIndices := pass.draw.flags.indexed }
      drawn.indices

/-- Captures the output of the vertex shader. A shader without outputs has an
empty record, and no device call is made for it. -/
def captureVertices (pass : Pass) (pipeline : GraphicsPipeline)
    (shader : Shader) : Attempt CaptureFailure σ StageRecord := do
  let layout := StreamOut.VertexLayout.ofOutputs shader.outputs none
  if layout.isEmpty then
    return { topology := pass.state.topology }
  else
    let streaming := pipeline.streamingVertices layout pass.rootSignature
    let derived ← (createPipeline streaming).adapt .pipelineCreation
    Attempt.afterwards (releasePipeline derived) <|
      streamVertices pass pipeline layout derived

end MeshCapture.Work
