import MeshCapture.Capture.Recording
import MeshCapture.Scratch.Allocation

/-! # Submitting work and moving bytes

The steps by which a capture hands a recording to the device and gets bytes out
of the staging buffer and into buffers of its own. -/

namespace MeshCapture.Work

variable {σ : Type} [Device σ]

/-- Submits a recording and waits for its end. The draws count as recorded
whether or not the device takes them. -/
def submit (recording : Recording) : Attempt DeviceFailure σ Unit := do
  ExceptT.lift do
    setScratch (some recording.scratch)
    count (·.countDraws (UInt64.ofNat recording.list.drawCount))
  execute recording.list
  ExceptT.lift do
    count Counters.countSubmission
    sync

def store (label : String) (data : ByteArray) :
    Attempt DeviceFailure σ BufferHandle := do
  let buffer ← createBuffer
    { label, size := UInt64.ofNat data.size, heap := .upload }
  Attempt.onFailure (releaseBuffer buffer) do
    writeBuffer buffer 0 data
    return buffer

/-- Exactly `length` bytes of the staging buffer from `offset` on, or
`failure`. -/
def fetchStaged (failure : CaptureFailure) (scratch : Scratch)
    (offset length : UInt64) : Attempt CaptureFailure σ ByteArray :=
  ExceptT.mk do
    match ← (readBuffer scratch.staging offset length).run with
    | .error _ => return .error failure
    | .ok bytes =>
        return if bytes.size = length.toNat then .ok bytes else .error failure

def filledSizes (failure : CaptureFailure) (scratch : Scratch)
    (number : UInt32) : Attempt CaptureFailure σ (List UInt64) := do
  let bytes ← fetchStaged failure scratch 0 (number.toUInt64 * 8)
  return (List.range number.toNat).filterMap fun index =>
    LittleEndian.word64At bytes (8 * index)

def requireOutput (failure : CaptureFailure) (reported : UInt64) :
    Attempt CaptureFailure σ Unit :=
  if reported = 0 then throw failure else return ()

end MeshCapture.Work
