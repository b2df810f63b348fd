import MeshCapture.Draw
import MeshCapture.Handle
import MeshCapture.Shader
import MeshCapture.StreamOut.Declaration

/-! # Pipelines and bound state

Descriptions of pipelines and root signatures, and the state that is bound when
a recorded draw is reached. Descriptions are values: a derived one never
changes the one it was derived from. -/

namespace MeshCapture

/-- The interface between shaders and their arguments: flag bits and a
serialized parameter list that is carried along untouched. -/
structure RootSignature where
  flags : UInt32 := 0
  parameters : ByteArray := ⟨#[]⟩
deriving DecidableEq, Inhabited

namespace RootSignature

def streamOutFlag : UInt32 := 64

def allowsStreamOut (signature : RootSignature) : Bool :=
  signature.flags &&& streamOutFlag == streamOutFlag

def allowingStreamOut (signature : RootSignature) : RootSignature :=
  { signature with flags := signature.flags ||| streamOutFlag }

end RootSignature

structure DepthStencil where
  depthEnable : Bool := false
  depthWrite : Bool := false
  stencilEnable : Bool := false
deriving DecidableEq, Inhabited

structure GraphicsPipeline where
  rootSignature : Option RootSignatureHandle := none
  vertexShader : Option Shader := none
  hullShader : Option Shader := none
  domainShader : Option Shader := none
  geometryShader : Option Shader := none
  pixelShader : Option Shader := none
  streamOut : StreamOut.Declaration := {}
  depthStencil : DepthStencil := {}
  primitiveKind : PrimitiveKind := .undefined
  stripCut : StripCut := .disabled
  sampleCount : UInt32 := 0
  sampleQuality : UInt32 := 0
  targetFormats : List UInt32 := []
  depthFormat : UInt32 := 0
  viewInstanceCount : UInt32 := 0
deriving DecidableEq, Inhabited

/-- The last shader before rasterization other than the vertex shader. A
geometry shader runs after tessellation. -/
def GraphicsPipeline.postStage? (pipeline : GraphicsPipeline) :
    Option Shader :=
  pipeline.geometryShader <|> pipeline.domainShader

inductive PipelineDescription where
  | graphics (pipeline : GraphicsPipeline)
  | compute
deriving DecidableEq

structure PipelineBinding where
  id : PipelineHandle
  description : PipelineDescription
deriving DecidableEq

structure RootSignatureBinding where
  id : RootSignatureHandle
  description : RootSignature
deriving DecidableEq

structure IndexBufferRange where
  buffer : BufferHandle
  offset : UInt64
  size : UInt64
  width : IndexWidth
deriving DecidableEq, Inhabited

/-- The state bound when a recorded draw is reached. It is applied again before
every derived draw, which then overrides only what it must. -/
structure BoundState where
  pipeline : Option PipelineBinding := none
  rootSignature : Option RootSignatureBinding := none
  topology : Topology := .undefined
  indexBuffer : Option IndexBufferRange := none
deriving DecidableEq, Inhabited

end MeshCapture
