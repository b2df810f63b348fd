import MeshCapture.Counters
import MeshCapture.Device.Call
import MeshCapture.Scratch.Basic

/-! # The workspace of a capture

A capture works on a device, a scratch set and the work counters. Every call it
makes is noted together with its outcome, so that the course of a run is part
of its result. -/

namespace MeshCapture

structure Workspace (σ : Type) where
  device : σ
  /-- The calls made so far, the newest first. -/
  calls : List Call := []
  scratch : Option Scratch := none
  counters : Counters := {}

abbrev Work (σ : Type) := StateM (Workspace σ)

/-- A step that may fail with a cause. What it did until then stays done. -/
abbrev Attempt (ε σ : Type) := ExceptT ε (Work σ)

namespace Attempt

variable {ε σ α : Type}

def afterwards (cleanup : Work σ Unit) (attempt : Attempt ε σ α) :
    Attempt ε σ α :=
  ExceptT.mk do
    let outcome ← attempt.run
    cleanup
    return outcome

def onFailure (undo : Work σ Unit) (attempt : Attempt ε σ α) :
    Attempt ε σ α :=
  ExceptT.mk do
    match ← attempt.run with
    | .ok value => return .ok value
    | .error cause =>
        undo
        return .error cause

end Attempt

namespace Work

variable {σ : Type}

/-- Runs a device operation and notes the call that it is. -/
def call {α : Type} (operation : StateM σ α) (note : α → Call) : Work σ α :=
  modifyGet fun workspace =>
    let (answer, device) := operation.run workspace.device
    (answer, { workspace with device, calls := note answer :: workspace.calls })

def noteReplay (first last : EventId) (extent : ReplayExtent) : Work σ Unit :=
  modify fun workspace =>
    { workspace with calls := .replay first last extent :: workspace.calls }

def scratch? : Work σ (Option Scratch) :=
  return (← get).scratch

def setScratch (scratch : Option Scratch) : Work σ Unit :=
  modify fun workspace => { workspace with scratch }

def count (update : Counters → Counters) : Work σ Unit :=
  modify fun workspace =>
    { workspace with counters := update workspace.counters }

/-! ## Device calls -/

variable [Device σ]

def createBuffer (description : BufferDescription) :
    Attempt DeviceFailure σ BufferHandle :=
  ExceptT.mk <|
    call (Device.createBuffer description) (.createBuffer description)

def releaseBuffer (buffer : BufferHandle) : Work σ Unit :=
  call (Device.releaseBuffer buffer) fun _ => .releaseBuffer buffer

def createQueryHeap (slots : UInt32) :
    Attempt DeviceFailure σ QueryHeapHandle :=
  ExceptT.mk <| call (Device.createQueryHeap slots) (.createQueryHeap slots)

def releaseQueryHeap (heap : QueryHeapHandle) : Work σ Unit :=
  call (Device.releaseQueryHeap heap) fun _ => .releaseQueryHeap heap

def createRootSignature (description : RootSignature) :
    Attempt DeviceFailure σ RootSignatureHandle :=
  ExceptT.mk <|
    call (Device.createRootSignature description)
      (.createRootSignature description)

def releaseRootSignature (signature : RootSignatureHandle) : Work σ Unit :=
  call (Device.releaseRootSignature signature) fun _ =>
    .releaseRootSignature signature

def createPipeline (description : GraphicsPipeline) :
    Attempt DeviceFailure σ PipelineHandle :=
  ExceptT.mk <|
    call (Device.createPipeline description) (.createPipeline description)

def releasePipeline (pipeline : PipelineHandle) : Work σ Unit :=
  call (Device.releasePipeline pipeline) fun _ => .releasePipeline pipeline

def readBuffer (buffer : BufferHandle) (offset length : UInt64) :
    Attempt DeviceFailure σ ByteArray :=
  ExceptT.mk <|
    call (Device.readBuffer buffer offset length)
      (.readBuffer buffer offset length)

def writeBuffer (buffer : BufferHandle) (offset : UInt64) (data : ByteArray) :
    Attempt DeviceFailure σ Unit :=
  ExceptT.mk <|
    call (Device.writeBuffer buffer offset data)
      (.writeBuffer buffer offset data)

def execute (list : CommandList) : Attempt DeviceFailure σ Unit :=
  ExceptT.mk <| call (Device.execute list) (.execute list)

def sync : Work σ Unit :=
  call Device.sync fun _ => .sync

def setMemoryTolerance (tolerant : Bool) : Work σ Unit :=
  call (Device.setMemoryTolerance tolerant) fun _ =>
    .setMemoryTolerance tolerant

end Work

end MeshCapture
