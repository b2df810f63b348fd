import MeshCapture.Topology
import MeshCapture.Word.LittleEndian

/-! # Shaders

A shader is known by its bytecode and by what reflection says about its
outputs. -/

namespace MeshCapture

inductive SystemValue where
  | undefined
  | position
  | clipDistance
  | cullDistance
  | renderTargetArrayIndex
  | viewportArrayIndex
  | other (tag : UInt32)
deriving DecidableEq

instance : Inhabited SystemValue := ⟨.undefined⟩

/-- One output of a shader, a row of 32-bit components. -/
structure ShaderOutput where
  semanticName : String
  semanticIndex : UInt32
  componentCount : UInt8
  systemValue : SystemValue := .undefined
  /-- Output stream of a geometry shader; zero for other stages. -/
  stream : UInt32 := 0
deriving DecidableEq, Inhabited

def ShaderOutput.isPosition (element : ShaderOutput) : Bool :=
  element.systemValue == .position

structure Shader where
  bytecode : ByteArray
  outputs : List ShaderOutput := []
  /-- Topology a geometry or domain shader emits. -/
  outputTopology : Topology := .undefined
deriving DecidableEq, Inhabited

end MeshCapture
