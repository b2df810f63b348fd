import MeshCapture.Device.Command
import MeshCapture.Settings

/-! # Scratch buffers

One set of buffers serves every capture: the stream-out target, whose counters
lie in front of its vertices, a readable copy of it, an upload buffer for
compacted indices and a statistics query heap. The set is made and released as
a whole, and all of it is sized from one capacity. -/

namespace MeshCapture

structure Scratch where
  /-- Bytes for captured vertices behind one filled-size counter. -/
  capacity : UInt64
  output : BufferHandle
  staging : BufferHandle
  indexUpload : BufferHandle
  statisticsHeap : QueryHeapHandle
  /-- What the output buffer may be used for after all that was recorded. -/
  outputUse : BufferUse := .common
deriving DecidableEq, Inhabited

namespace Scratch

def outputBytes (settings : Settings) (capacity : UInt64) : UInt64 :=
  capacity + settings.counterBytes

/-- Bytes of an index upload buffer. Every unique index stands for at least one
four-component vertex of sixteen bytes. -/
def indexBytes (capacity : UInt64) : UInt64 :=
  capacity / 16

def room (scratch : Scratch) (settings : Settings)
    (dataOffset : UInt64) : UInt64 :=
  saturatingSub (outputBytes settings scratch.capacity) dataOffset

def target (scratch : Scratch) (settings : Settings)
    (counterOffset dataOffset : UInt64) : OutputTarget where
  buffer := scratch.output
  counterOffset := counterOffset
  dataOffset := dataOffset
  size := scratch.room settings dataOffset

end Scratch

end MeshCapture
