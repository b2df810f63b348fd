import MeshCapture.Device.Basic
import MeshCapture.Frame

/-! # Calls

A call to the device, together with its outcome, or a replay asked for. The list
of all calls is the observable course of a run. -/

namespace MeshCapture

inductive Call where
  | createBuffer (description : BufferDescription)
      (outcome : Except DeviceFailure BufferHandle)
  | releaseBuffer (buffer : BufferHandle)
  | createQueryHeap (slots : UInt32)
      (outcome : Except DeviceFailure QueryHeapHandle)
  | releaseQueryHeap (heap : QueryHeapHandle)
  | createRootSignature (description : RootSignature)
      (outcome : Except DeviceFailure RootSignatureHandle)
  | releaseRootSignature (signature : RootSignatureHandle)
  | createPipeline (description : GraphicsPipeline)
      (outcome : Except DeviceFailure PipelineHandle)
  | releasePipeline (pipeline : PipelineHandle)
  | readBuffer (buffer : BufferHandle) (offset length : UInt64)
      (outcome : Except DeviceFailure ByteArray)
  | writeBuffer (buffer : BufferHandle) (offset : UInt64) (data : ByteArray)
      (outcome : Except DeviceFailure Unit)
  | execute (list : CommandList) (outcome : Except DeviceFailure Unit)
  | sync
  | setMemoryTolerance (tolerant : Bool)
  | replay (first last : EventId) (extent : ReplayExtent)

end MeshCapture
