import MeshCapture.Capture.Vertices

/-! # Capturing what the last geometry or tessellation stage writes

How much these stages write cannot be told from the draw. A statistics query
measures it first. A draw of one instance is repeated until its output fits. Of
a draw of several, the shares of the single instances are found by drawing 1,
2, ... instances, each time with a counter of its own. -/

namespace MeshCapture.Work

variable {σ : Type} [Device σ]

/-- Vertices of the largest primitive that stream output writes. -/
def verticesPerPrimitive : UInt64 := 3

def counterSize : UInt64 := 8

def statisticsSlot : UInt32 := 0

def primitiveBytes (primitives : UInt64) (stride : UInt32) : UInt64 :=
  saturatingMul (saturatingMul primitives verticesPerPrimitive)
    stride.toUInt64

/-! ## Measuring -/

def measuringPass (pass : Pass) (derived : PipelineHandle)
    (scratch : Scratch) : Recording :=
  let heap := scratch.statisticsHeap
  let bound := Recording.bindDerived (Recording.zeroOutput { scratch }) pass
    derived
  let streaming := bound.bindOutput pass.settings 0 pass.settings.counterBytes
  let drawn :=
    (streaming.push (.beginQuery heap statisticsSlot)).repeatDraw pass.draw
      pass.draw.instanceCount
  (drawn.push (.endQuery heap statisticsSlot)).push
    (.resolveQuery heap statisticsSlot scratch.staging 0)

def measure (pass : Pass) (derived : PipelineHandle) (scratch : Scratch) :
    Attempt CaptureFailure σ (StreamOut.Statistics × Scratch) := do
  let recording := measuringPass pass derived scratch
  (submit recording).adapt .submission
  let bytes ← (readBuffer scratch.staging 0
    (UInt64.ofNat StreamOut.Statistics.byteSize)).adapt .statistics
  match StreamOut.Statistics.decode bytes with
  | some statistics => return (statistics, recording.scratch)
  | none =>
      throw (.statistics ⟨.invalidArgument, "resolved query data is truncated"⟩)

/-! ## Drawing -/

/-- What the draws over the post stage leave behind: the scratch set, and where
the vertices start in its output buffer. -/
structure PostOutput where
  scratch : Scratch
  dataOffset : UInt64
deriving DecidableEq

/-- Measures a draw, which writes its output on the way, as often as allowed
until everything fits. `unsettled` is the need that the pass before reported. -/
def drawUntilFitting (pass : Pass) (derived : PipelineHandle)
    (stride : UInt32) (unsettled : UInt64) (scratch : Scratch) :
    (attempts : Nat) → Attempt CaptureFailure σ PostOutput
  | 0 => throw (.postStageOutOfMemory unsettled)
  | attempts + 1 => do
      let (statistics, scratch) ← measure pass derived scratch
      let required := primitiveBytes statistics.primitivesNeeded stride
      if required ≤ scratch.capacity then
        return { scratch, dataOffset := pass.settings.counterBytes }
      else
        let grown ← (scratchFor pass.settings required).adapt
          .postStageOutOfMemory
        drawUntilFitting pass derived stride required grown attempts

/-- Draws the first `instances` instances with the counter of the last of
them. -/
def drawFirst (pass : Pass) (dataOffset : UInt64) (recording : Recording)
    (instances : UInt32) : Recording :=
  let counterOffset := (instances - 1).toUInt64 * counterSize
  (recording.bindOutput pass.settings counterOffset dataOffset).repeatDraw
    pass.draw instances

def drawRun (pass : Pass) (derived : PipelineHandle) (dataOffset : UInt64)
    (recording : Recording) (run : List UInt32) : Recording :=
  run.foldl (drawFirst pass dataOffset) (recording.bindDerived pass derived)

def instanceRuns (size count : Nat) : List (List UInt32) :=
  let runs := (count + size - 1) / size
  (List.range runs).map fun run =>
    (List.range' (run * size + 1) (min size (count - run * size))).map
      UInt32.ofNat

/-- Submits the remaining runs of instance draws, a list for each. The first
list goes on with `recording`. -/
def submitRuns (pass : Pass) (derived : PipelineHandle) (dataOffset : UInt64)
    (recording : Recording) : (runs : List (List UInt32)) →
    Attempt CaptureFailure σ Scratch
  | [] => return recording.scratch
  | run :: rest => do
      let drawn := drawRun pass derived dataOffset recording run
      (submit drawn).adapt .submission
      submitRuns pass derived dataOffset { scratch := drawn.scratch } rest

/-- Draws 1, 2, ... instances, so that every instance has its counter in front
of the vertices. Measuring has used the first counter, so the output buffer is
zeroed before. -/
def drawInstanceCounts (pass : Pass) (derived : PipelineHandle)
    (stride : UInt32) (scratch : Scratch) :
    Attempt CaptureFailure σ PostOutput := do
  let (statistics, _) ← measure pass derived scratch
  let dataOffset := roundUp (pass.draw.instanceCount.toUInt64 * counterSize)
    (max pass.settings.counterBytes counterSize)
  let required := saturatingAdd dataOffset
    (primitiveBytes statistics.primitivesNeeded stride)
  let grown ← (scratchFor pass.settings required).adapt .postStageOutOfMemory
  let scratch ← submitRuns pass derived dataOffset
    (Recording.zeroOutput { scratch := grown })
    (instanceRuns pass.settings.drawsPerList pass.draw.instanceCount.toNat)
  return { scratch, dataOffset }

def drawPrimitives (pass : Pass) (derived : PipelineHandle) (stride : UInt32)
    (scratch : Scratch) : Attempt CaptureFailure σ PostOutput :=
  if 1 < pass.draw.instanceCount then
    drawInstanceCounts pass derived stride scratch
  else
    drawUntilFitting pass derived stride 0 scratch
      (max pass.settings.statisticsAttempts.toNat 1)

example : instanceRuns 2 5 = [[1, 2], [3, 4], [5]] := by decide
example : instanceRuns 2 4 = [[1, 2], [3, 4]] := by decide

/-! ## Storing -/

def streamPrimitives (pass : Pass) (shader : Shader)
    (layout : StreamOut.VertexLayout) (derived : PipelineHandle) :
    Attempt CaptureFailure σ StageRecord := do
  let stride := layout.stride
  let several := decide (1 < pass.draw.instanceCount)
  let scratch ← (scratchFor pass.settings pass.settings.counterBytes).adapt
    .postStageOutOfMemory
  let output ← drawPrimitives pass derived stride scratch
  let recording := Recording.copyOut { scratch := output.scratch }
  let scratch := recording.scratch
  (submit recording).adapt .submission
  let sizes ← filledSizes .postStageReadback scratch
    (if several then pass.draw.instanceCount else 1)
  let (instances, reported) :=
    if several then InstanceShare.split sizes stride else ([], sizes.headD 0)
  requireOutput .noPostStageOutput reported
  let written := min reported (scratch.room pass.settings output.dataOffset)
  let data ← fetchStaged .postStageReadback scratch output.dataOffset written
  let vertexCount := written / stride.toUInt64
  let planes := clipPlanes pass.settings layout data vertexCount
  let label := "postvs post-stage output for " ++ toString pass.event.toNat
  let vertexBuffer ← (store label data).adapt fun _ =>
    .postStageOutOfMemory written
  let shares :=
    if pass.draw.flags.instanced then max pass.draw.instanceCount 1 else 1
  return {
    vertexBuffer := some vertexBuffer
    vertexStride := stride
    instanceStride :=
      if pass.draw.flags.instanced then
        (written / shares.toUInt64).toUInt32
      else
        0
    nearPlane := planes.near
    farPlane := planes.far
    topology := shader.outputTopology.unstripped
    vertexCount := vertexCount.toUInt32 / shares
    instances
    hasPosition := layout.hasPosition }

/-- Captures the output of the last geometry or tessellation stage. Only
stream 0 of a geometry shader with several streams is captured. -/
def capturePrimitives (pass : Pass) (pipeline : GraphicsPipeline)
    (shader : Shader) : Attempt CaptureFailure σ StageRecord := do
  let layout := StreamOut.VertexLayout.ofOutputs shader.outputs (some 0)
  if layout.isEmpty then
    throw .noPostStageOutput
  else
    let streaming := pipeline.streamingPostStage layout pass.rootSignature
    let derived ← (createPipeline streaming).adapt .pipelineCreation
    Attempt.afterwards (releasePipeline derived) <|
      streamPrimitives pass shader layout derived

end MeshCapture.Work
