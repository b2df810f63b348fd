import MeshCapture.Word.LittleEndian

/-! # Stream output

A pipeline may write the vertices it produces to a buffer. Its declaration
names the written outputs in order and the distance between vertices; the
device counts the primitives that pass. -/

namespace MeshCapture.StreamOut

structure Entry where
  stream : UInt32 := 0
  semanticName : String
  semanticIndex : UInt32
  startComponent : UInt8 := 0
  componentCount : UInt8
  outputSlot : UInt8 := 0
deriving DecidableEq, Inhabited

def Entry.byteSize (entry : Entry) : UInt32 :=
  entry.componentCount.toUInt32 * 4

structure Declaration where
  entries : List Entry := []
  strides : List UInt32 := []
  /-- The stream that is also rasterized; none discards every primitive. -/
  rasterizedStream : Option UInt32 := none
deriving DecidableEq, Inhabited

def Declaration.isEnabled (declaration : Declaration) : Bool :=
  !declaration.entries.isEmpty

structure Statistics where
  primitivesWritten : UInt64
  /-- Primitives that would have been written into a large enough buffer. -/
  primitivesNeeded : UInt64
deriving DecidableEq, Inhabited

namespace Statistics

def byteSize : Nat := 16

/-- A resolved query holds the two counts one after the other. -/
def decode (bytes : ByteArray) : Option Statistics := do
  let written ← LittleEndian.word64At bytes 0
  let needed ← LittleEndian.word64At bytes 8
  return ⟨written, needed⟩

end Statistics

end MeshCapture.StreamOut
