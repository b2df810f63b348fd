import MeshCapture.Device.Basic
import MeshCapture.Scripted.Fault
import MeshCapture.Scripted.Memory

/-! # A scripted device

A device without hardware. It computes nothing: what a copy leaves in its
target, and what a statistics query counts, comes from a script, and so do its
failures. Handles of all kinds are numbered in the order of creation. -/

namespace MeshCapture.Scripted

structure Buffer where
  id : BufferHandle
  label : String
  heap : Heap
  memory : Memory
deriving DecidableEq, Inhabited

/-- What the next buffer copy leaves in its target: counters from its start on
and data at an offset, with zeros around them. -/
structure Readback where
  counters : List UInt64 := []
  dataOffset : UInt64 := 64
  data : ByteArray := .empty
deriving DecidableEq, Inhabited

structure Script where
  /-- Contents and heaps of buffers that are there without the engine. -/
  buffers : List (ByteArray × Heap) := []
  readbacks : List Readback := []
  statistics : List StreamOut.Statistics := []
  /-- Faults to put in place of the present ones. -/
  faults : Option (List Fault) := none
deriving DecidableEq, Inhabited

structure Device where
  nextId : UInt64 := 1
  buffers : List Buffer := []
  queryHeaps : List QueryHeapHandle := []
  rootSignatures : List RootSignatureHandle := []
  pipelines : List PipelineHandle := []
  readbacks : List Readback := []
  statistics : List StreamOut.Statistics := []
  faults : List Fault := []
  tolerant : Bool := false
deriving DecidableEq, Inhabited

namespace Device

def addBuffer (device : Device) (label : String) (heap : Heap)
    (memory : Memory) : BufferHandle × Device :=
  let id : BufferHandle := ⟨device.nextId⟩
  (id, { device with
    nextId := device.nextId + 1
    buffers := device.buffers ++ [{ id, label, heap, memory }] })

def load (device : Device) (script : Script) : Device :=
  let told := { device with
    faults := script.faults.getD device.faults
    readbacks := device.readbacks ++ script.readbacks
    statistics := device.statistics ++ script.statistics }
  script.buffers.foldl
    (fun device (data, heap) =>
      (device.addBuffer "app" heap (.ofBytes data)).2)
    told

def buffer? (device : Device) (id : BufferHandle) : Option Buffer :=
  device.buffers.find? (·.id == id)

def label (device : Device) (id : BufferHandle) : String :=
  (device.buffer? id).elim "" (·.label)

def update (device : Device) (id : BufferHandle) (change : Memory → Memory) :
    Device :=
  { device with
    buffers := device.buffers.map fun buffer =>
      if buffer.id = id then
        { buffer with memory := change buffer.memory }
      else
        buffer }

def strike (device : Device) (kind : CallKind) (label : String)
    (size : UInt64) : Option Effect × Device :=
  let (effect, faults) := Fault.strike kind label size device.faults
  (effect, { device with faults })

/-! ## Commands -/

def Readback.apply (readback : Readback) (memory : Memory) : Memory :=
  let counted := (readback.counters.zipIdx).foldl
    (fun memory (counter, index) => memory.writeWord (8 * index) counter)
    memory.cleared
  counted.write readback.dataOffset.toNat readback.data

def run (device : Device) : Command → Device
  | .copyBuffer target _ =>
      match device.readbacks with
      | [] => device
      | readback :: rest =>
          { device with readbacks := rest }.update target
            (Readback.apply readback)
  | .resolveQuery _ _ target offset =>
      match device.statistics with
      | [] => device
      | statistics :: rest =>
          { device with statistics := rest }.update target fun memory =>
            (memory.writeWord offset.toNat statistics.primitivesWritten).writeWord
              (offset.toNat + 8) statistics.primitivesNeeded
  | _ => device

/-! ## Calls -/

def attempt {α : Type} (kind : CallKind) (label : String) (size : UInt64)
    (succeed : Device → α × Device) : StateM Device (Except DeviceFailure α) :=
  fun device =>
    match device.strike kind label size with
    | (some (.fail error), device) => (.error error, device)
    | (_, device) =>
        let (answer, device) := succeed device
        (.ok answer, device)

def takeId (device : Device) : UInt64 × Device :=
  (device.nextId, { device with nextId := device.nextId + 1 })

def invalid (detail : String) : DeviceFailure := ⟨.invalidArgument, detail⟩

def readable (device : Device) (id : BufferHandle) (offset length : UInt64) :
    Except DeviceFailure ByteArray :=
  match device.buffer? id with
  | none => .error (invalid "unknown buffer")
  | some buffer =>
      if buffer.heap = .deviceLocal then
        .error (invalid "buffer isn't CPU visible")
      else
        .ok (buffer.memory.read offset.toNat length.toNat)

def resized (bytes : ByteArray) (length : Nat) : ByteArray :=
  bytes.extract 0 length ++ zeros (length - bytes.size)

def read (id : BufferHandle) (offset length : UInt64) :
    StateM Device (Except DeviceFailure ByteArray) :=
  fun device =>
    match device.strike .readBuffer (device.label id) length with
    | (some (.fail error), device) => (.error error, device)
    | (some (.resize size), device) =>
        ((device.readable id offset length).map (resized · size.toNat), device)
    | (none, device) => (device.readable id offset length, device)

def writeError? (device : Device) (id : BufferHandle) (offset : UInt64)
    (data : ByteArray) : Option DeviceFailure :=
  match device.buffer? id with
  | none => some (invalid "unknown buffer")
  | some buffer =>
      if buffer.heap ≠ .upload then
        some (invalid "buffer isn't CPU writable")
      else if buffer.memory.size.toNat < offset.toNat + data.size then
        some (invalid "write past end of buffer")
      else
        none

def write (id : BufferHandle) (offset : UInt64) (data : ByteArray) :
    StateM Device (Except DeviceFailure Unit) :=
  fun device =>
    let size := UInt64.ofNat data.size
    match device.strike .writeBuffer (device.label id) size with
    | (some (.fail error), device) => (.error error, device)
    | (_, device) =>
        match device.writeError? id offset data with
        | some error => (.error error, device)
        | none => (.ok (), device.update id (·.write offset.toNat data))

structure Census where
  buffers : Nat
  queryHeaps : Nat
  rootSignatures : Nat
  pipelines : Nat
deriving DecidableEq, Inhabited

def census (device : Device) : Census where
  buffers := device.buffers.length
  queryHeaps := device.queryHeaps.length
  rootSignatures := device.rootSignatures.length
  pipelines := device.pipelines.length

end Device

instance : MeshCapture.Device Device where
  createBuffer description :=
    Device.attempt .createBuffer description.label description.size
      fun device =>
        device.addBuffer description.label description.heap
          { size := description.size }
  releaseBuffer id := modify fun device =>
    { device with buffers := device.buffers.filter (·.id ≠ id) }
  createQueryHeap slots :=
    Device.attempt .createQueryHeap "" slots.toUInt64 fun device =>
      let (id, device) := device.takeId
      (⟨id⟩, { device with queryHeaps := device.queryHeaps ++ [⟨id⟩] })
  releaseQueryHeap id := modify fun device =>
    { device with queryHeaps := device.queryHeaps.filter (· ≠ id) }
  createRootSignature _ :=
    Device.attempt .createRootSignature "" 0 fun device =>
      let (id, device) := device.takeId
      (⟨id⟩, { device with rootSignatures := device.rootSignatures ++ [⟨id⟩] })
  releaseRootSignature id := modify fun device =>
    { device with rootSignatures := device.rootSignatures.filter (· ≠ id) }
  createPipeline _ :=
    Device.attempt .createPipeline "" 0 fun device =>
      let (id, device) := device.takeId
      (⟨id⟩, { device with pipelines := device.pipelines ++ [⟨id⟩] })
  releasePipeline id := modify fun device =>
    { device with pipelines := device.pipelines.filter (· ≠ id) }
  readBuffer := Device.read
  writeBuffer := Device.write
  execute list :=
    Device.attempt .execute "" (UInt64.ofNat list.commands.size) fun device =>
      ((), list.commands.foldl Device.run device)
  sync := pure ()
  setMemoryTolerance tolerant := modify fun device => { device with tolerant }

end MeshCapture.Scripted
