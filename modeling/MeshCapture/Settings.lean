import MeshCapture.Word.Alignment

/-! # Settings

The tunables of a capture, and the growth policy they give the shared scratch
buffers: double while small, then round up to a coarse granularity. -/

namespace MeshCapture

structure Settings where
  /-- Scratch capacity the first time output has to be stored. -/
  initialScratchBytes : UInt64 := 33554432
  /-- Growth doubles the capacity until it reaches this size. -/
  exponentialGrowthLimit : UInt64 := 268435456
  /-- Granularity of capacities that doubling does not reach. -/
  largeGrowthAlignment : UInt64 := 16777216
  /-- Capacities from this size on are refused without an attempt, because
  allocations so close to four gigabytes fail on practically every device. -/
  maxScratchBytes : UInt64 := 0xFFFF0000
  /-- Bytes at the start of the output buffer reserved for the filled-size
  counter. -/
  counterBytes : UInt64 := 64
  /-- Slots of the statistics query heap. -/
  querySlots : UInt32 := 16
  /-- Draws of an instanced capture recorded before the list is submitted. -/
  instanceFlushInterval : UInt32 := 1000
  /-- Statistics passes before a capture gives up on its output size. -/
  statisticsAttempts : UInt32 := 8
  /-- Least difference in depth that tells two vertices apart. -/
  projectionEpsilon : Float32 := 0.01
deriving DecidableEq, Inhabited

def doubledTo (target size : Nat) : Nat :=
  if 0 < size ∧ size < target then
    doubledTo target (2 * size)
  else
    size
termination_by target - size

namespace Settings

def grownCapacity (settings : Settings) (current required : UInt64) : UInt64 :=
  let start :=
    if current = 0 then max settings.initialScratchBytes 1 else current
  let target := min required settings.exponentialGrowthLimit
  let doubled := saturate (doubledTo target.toNat start.toNat)
  if doubled < required then
    roundUp required (max settings.largeGrowthAlignment 1)
  else
    doubled

def drawsPerList (settings : Settings) : Nat :=
  max settings.instanceFlushInterval.toNat 1

end Settings

end MeshCapture
