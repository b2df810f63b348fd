import MeshCapture.Failure

/-! # Faults

A scripted device can be told to fail. A fault matches the calls of one kind,
optionally only those on buffers with a certain label or of a least size, and
fires for some of the calls it matches, counted from the first. -/

namespace MeshCapture.Scripted

inductive CallKind where
  | createBuffer
  | createQueryHeap
  | createRootSignature
  | createPipeline
  | readBuffer
  | writeBuffer
  | execute
deriving DecidableEq

inductive Effect where
  | fail (error : DeviceFailure)
  /-- Cuts the bytes of a read to a length, or fills them up with zeros. -/
  | resize (length : UInt64)
deriving DecidableEq

structure Fault where
  kind : CallKind
  /-- Beginning of the label of the buffer. -/
  label : Option String := none
  leastSize : UInt64 := 0
  /-- Matching calls to let pass before the first firing. -/
  skip : UInt64 := 0
  times : UInt64 := 0xFFFFFFFFFFFFFFFF
  effect : Effect
  matched : Nat := 0
deriving DecidableEq

namespace Fault

def matchesCall (fault : Fault) (kind : CallKind) (label : String)
    (size : UInt64) : Bool :=
  fault.kind == kind && fault.label.all (label.startsWith ·) &&
    fault.leastSize ≤ size

def fires (fault : Fault) : Bool :=
  fault.skip.toNat ≤ fault.matched &&
    fault.matched < fault.skip.toNat + fault.times.toNat

/-- Shows a call to all faults. Gives the effect of the first that fires, and
the faults with the call counted. -/
def strike (kind : CallKind) (label : String) (size : UInt64) :
    (faults : List Fault) → Option Effect × List Fault
  | [] => (none, [])
  | fault :: rest =>
      let (later, rest) := strike kind label size rest
      if fault.matchesCall kind label size then
        let counted := { fault with matched := fault.matched + 1 }
        (if fault.fires then some fault.effect else later, counted :: rest)
      else
        (later, fault :: rest)

end Fault

end MeshCapture.Scripted
