/-! # Handles

A device names the objects it owns by handles. -/

namespace MeshCapture

structure BufferHandle where
  value : UInt64
deriving DecidableEq, Inhabited

structure QueryHeapHandle where
  value : UInt64
deriving DecidableEq, Inhabited

structure PipelineHandle where
  value : UInt64
deriving DecidableEq, Inhabited

structure RootSignatureHandle where
  value : UInt64
deriving DecidableEq, Inhabited

end MeshCapture
