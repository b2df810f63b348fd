import MeshCapture.Capture.Primitives

/-! # Capturing one draw

A draw either fails a precondition, and then nothing is asked of the device, or
its stages are captured one after the other. Every failure ends as a status in
the record. Allocations happen only while the device tolerates that they
fail. -/

namespace MeshCapture

/-- Why a draw over the given state cannot be captured at all, and otherwise
its pipeline and vertex shader. -/
def DrawVisit.captured (visit : DrawVisit) :
    Except EventRecord (GraphicsPipeline × Shader) := do
  let some bound := visit.state.pipeline
    | throw (.failed .noPipeline)
  let .graphics pipeline := bound.description
    | throw (.failed .notGraphicsPipeline)
  let some shader := pipeline.vertexShader
    | throw (.failed .noVertexShader)
  let topology := visit.state.topology
  if visit.draw.elementCount = 0 then
    throw { EventRecord.failed .noElements with inputTopology := topology }
  else if visit.draw.instanceCount = 0 then
    throw { EventRecord.failed .noInstances with inputTopology := topology }
  else
    return (pipeline, shader)

/-- What is said of a post stage that was not captured because it is not there
or because the vertex stage failed. -/
def GraphicsPipeline.skippedPostStage (pipeline : GraphicsPipeline) :
    StageRecord :=
  .failed <|
    if pipeline.postStage?.isSome then .vertexStageFailed else .noPostStage

namespace Work

variable {σ : Type} [Device σ]

def captureStages (pass : Pass) (pipeline : GraphicsPipeline)
    (shader : Shader) : Work σ EventRecord := do
  let record : EventRecord :=
    { inputTopology := pass.state.topology, post := pipeline.skippedPostStage }
  match ← (captureVertices pass pipeline shader).run with
  | .error failure => return { record with vertex := .failed failure }
  | .ok vertex =>
      match pipeline.postStage? with
      | none => return { record with vertex }
      | some last =>
          match ← (capturePrimitives pass pipeline last).run with
          | .ok post => return { record with vertex, post }
          | .error failure =>
              return { record with vertex, post := .failed failure }

def captureWithSignature (settings : Settings) (visit : DrawVisit)
    (pipeline : GraphicsPipeline) (shader : Shader) : Work σ EventRecord := do
  let pass (rootSignature : Option RootSignatureHandle) : Pass :=
    { settings, event := visit.event, draw := visit.draw, state := visit.state,
      rootSignature }
  match visit.state.derivedRootSignature with
  | none => captureStages (pass none) pipeline shader
  | some description =>
      match ← (createRootSignature description).run with
      | .error cause =>
          return {
            inputTopology := visit.state.topology
            vertex := .failed (.rootSignature cause)
            post := pipeline.skippedPostStage }
      | .ok signature =>
          let record ← captureStages (pass (some signature)) pipeline shader
          releaseRootSignature signature
          return record

def captureDraw (settings : Settings) (visit : DrawVisit) :
    Work σ EventRecord := do
  setMemoryTolerance true
  let record ←
    match visit.captured with
    | .error record => pure record
    | .ok (pipeline, shader) =>
        captureWithSignature settings visit pipeline shader
  setMemoryTolerance false
  return record

end Work

end MeshCapture
