import MeshCapture.Device.Command
import MeshCapture.Failure

/-! # Devices

A device is anything with a state that answers the calls below. Nothing is
assumed about the answers. -/

namespace MeshCapture

inductive Heap where
  | deviceLocal
  | readback
  | upload
deriving DecidableEq, Inhabited

structure BufferDescription where
  label : String
  size : UInt64
  heap : Heap
  unorderedAccess : Bool := false
deriving DecidableEq, Inhabited

class Device (σ : Type) where
  createBuffer :
    BufferDescription → StateM σ (Except DeviceFailure BufferHandle)
  releaseBuffer : BufferHandle → StateM σ Unit
  createQueryHeap :
    (slots : UInt32) → StateM σ (Except DeviceFailure QueryHeapHandle)
  releaseQueryHeap : QueryHeapHandle → StateM σ Unit
  createRootSignature :
    RootSignature → StateM σ (Except DeviceFailure RootSignatureHandle)
  releaseRootSignature : RootSignatureHandle → StateM σ Unit
  createPipeline :
    GraphicsPipeline → StateM σ (Except DeviceFailure PipelineHandle)
  releasePipeline : PipelineHandle → StateM σ Unit
  /-- Copies bytes out of a buffer, fewer than asked for when the range passes
  its end. -/
  readBuffer : BufferHandle → (offset length : UInt64) →
    StateM σ (Except DeviceFailure ByteArray)
  writeBuffer : BufferHandle → (offset : UInt64) → (data : ByteArray) →
    StateM σ (Except DeviceFailure Unit)
  /-- Submits a command list and does not wait for it. -/
  execute : CommandList → StateM σ (Except DeviceFailure Unit)
  sync : StateM σ Unit
  /-- While tolerance is on, a failed allocation is an answer like any other
  and not the loss of the device. -/
  setMemoryTolerance : Bool → StateM σ Unit

end MeshCapture
