import MeshCapture.Pipeline.Basic
import MeshCapture.StreamOut.VertexLayout

/-! # Derived pipelines

A capture draws with a pipeline derived from the bound one: it writes stream
output, rasterizes nothing and binds no targets. -/

namespace MeshCapture

/-- The root signature a capture has to create because the bound one does not
allow stream output. -/
def BoundState.derivedRootSignature (state : BoundState) :
    Option RootSignature :=
  match state.rootSignature with
  | none => none
  | some bound =>
      if bound.description.allowsStreamOut then
        none
      else
        some bound.description.allowingStreamOut

namespace GraphicsPipeline

/-- The pipeline that streams out what the vertex shader writes, one point per
vertex. -/
def streamingVertices (pipeline : GraphicsPipeline)
    (layout : StreamOut.VertexLayout) (derived : Option RootSignatureHandle) :
    GraphicsPipeline where
  rootSignature := derived <|> pipeline.rootSignature
  vertexShader := pipeline.vertexShader
  streamOut := layout.declaration
  primitiveKind := .point
  stripCut := pipeline.stripCut
  sampleCount := 1

def streamingPostStage (pipeline : GraphicsPipeline)
    (layout : StreamOut.VertexLayout) (derived : Option RootSignatureHandle) :
    GraphicsPipeline :=
  { pipeline.streamingVertices layout derived with
    hullShader := pipeline.hullShader
    domainShader := pipeline.domainShader
    geometryShader := pipeline.geometryShader
    primitiveKind := pipeline.primitiveKind }

end GraphicsPipeline

end MeshCapture
