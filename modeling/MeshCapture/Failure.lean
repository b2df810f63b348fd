/-! # Failures

Why a device call failed, and why a capture stage produced nothing. `message`
is the text a viewer shows. -/

namespace MeshCapture

inductive FailureCode where
  | outOfMemory
  | invalidArgument
  | deviceRemoved
  | unsupported
  | other (code : UInt32)
deriving DecidableEq

def hexWord (word : UInt32) : String :=
  let digits := Nat.toDigits 16 word.toNat
  String.ofList (List.replicate (8 - digits.length) '0' ++ digits)

def FailureCode.name : FailureCode → String
  | outOfMemory => "E_OUTOFMEMORY"
  | invalidArgument => "E_INVALIDARG"
  | deviceRemoved => "DEVICE_REMOVED"
  | unsupported => "E_NOTIMPL"
  | other code => "0x" ++ hexWord code

structure DeviceFailure where
  code : FailureCode
  detail : String
deriving DecidableEq

namespace DeviceFailure

def message (error : DeviceFailure) : String :=
  error.detail ++ " (" ++ error.code.name ++ ")"

def isOutOfMemory (error : DeviceFailure) : Bool :=
  error.code == .outOfMemory

end DeviceFailure

inductive FailureKind where
  /-- The action cannot be captured as recorded. -/
  | precondition
  | resourceExhaustion
  /-- A derived object was rejected, or the work could not be submitted. -/
  | pipelineBuild
  /-- Results could not be read back, or there were none. -/
  | readback
deriving DecidableEq

inductive CaptureFailure where
  | noPipeline
  | notGraphicsPipeline
  | noVertexShader
  | noElements
  | noInstances
  | noPostStage
  | vertexStageFailed
  | vertexOutOfMemory (bytes : UInt64)
  | postStageOutOfMemory (bytes : UInt64)
  | rootSignature (cause : DeviceFailure)
  | pipelineCreation (cause : DeviceFailure)
  | submission (cause : DeviceFailure)
  | statistics (cause : DeviceFailure)
  | vertexReadback
  | postStageReadback
  | noVertexData
  | noPostStageOutput
  | notCaptured
deriving DecidableEq

namespace CaptureFailure

def message : CaptureFailure → String
  | noPipeline => "No pipeline bound"
  | notGraphicsPipeline => "No graphics pipeline bound"
  | noVertexShader => "No vertex shader in pipeline"
  | noElements => "Empty drawcall (0 indices/vertices)"
  | noInstances => "Empty drawcall (0 instances)"
  | noPostStage => "No geometry and no tessellation shader bound."
  | vertexStageFailed =>
      "No geometry/tessellation output fetched due to error processing " ++
        "vertex stage."
  | vertexOutOfMemory bytes =>
      "Vertex output generated " ++ toString bytes.toNat ++
        " bytes of data which ran out of memory"
  | postStageOutOfMemory bytes =>
      "Geometry/tessellation output generated " ++ toString bytes.toNat ++
        " bytes of data which ran out of memory"
  | rootSignature cause =>
      "Couldn't enable stream-out in root signature: " ++ cause.message
  | pipelineCreation cause =>
      "Couldn't create patched graphics pipeline: " ++ cause.message
  | submission cause => "Couldn't submit capture commands: " ++ cause.message
  | statistics cause =>
      "Couldn't get stream-out statistics: " ++ cause.message
  | vertexReadback => "Couldn't read back vertex output data from GPU"
  | postStageReadback =>
      "Couldn't read back geometry/tessellation output data from GPU"
  | noVertexData => "Vertex output data from GPU contained no vertex data"
  | noPostStageOutput =>
      "No detectable output generated by geometry/tessellation shaders"
  | notCaptured => "No post-transform data captured for this event"

def kind : CaptureFailure → FailureKind
  | noPipeline | notGraphicsPipeline | noVertexShader | noElements
  | noInstances | noPostStage | vertexStageFailed | notCaptured =>
      .precondition
  | vertexOutOfMemory _ | postStageOutOfMemory _ => .resourceExhaustion
  | rootSignature _ | pipelineCreation _ | submission _ => .pipelineBuild
  | statistics _ | vertexReadback | postStageReadback | noVertexData
  | noPostStageOutput => .readback

end CaptureFailure

end MeshCapture
