import MeshCapture.Workspace

/-! # Scratch allocation

The scratch set only grows. When a capture needs more room, the device is
drained, the old set is released, and only then is a larger one made. A failed
growth leaves no set at all, and the next one starts over from the initial
size. -/

namespace MeshCapture.Work

variable {σ : Type} [Device σ]

/-- Makes a scratch set of the given capacity, or nothing at all. -/
def makeScratch (settings : Settings) (capacity : UInt64) :
    Attempt DeviceFailure σ Scratch := do
  let size := Scratch.outputBytes settings capacity
  let output ← createBuffer
    { label := "postvs stream-out", size, heap := .deviceLocal,
      unorderedAccess := true }
  Attempt.onFailure (releaseBuffer output) do
    let staging ← createBuffer
      { label := "postvs staging", size, heap := .readback }
    Attempt.onFailure (releaseBuffer staging) do
      let indexUpload ← createBuffer
        { label := "postvs compact indices",
          size := Scratch.indexBytes capacity, heap := .upload }
      Attempt.onFailure (releaseBuffer indexUpload) do
        let statisticsHeap ← createQueryHeap settings.querySlots
        return { capacity, output, staging, indexUpload, statisticsHeap }

def releaseScratch : Work σ Unit := do
  match ← scratch? with
  | none => return
  | some scratch =>
      releaseBuffer scratch.output
      releaseBuffer scratch.staging
      releaseBuffer scratch.indexUpload
      releaseQueryHeap scratch.statisticsHeap
      setScratch none

def retireScratch : Work σ Unit := do
  sync
  releaseScratch
  count Counters.countReallocation

/-- Replaces the scratch set by one of the capacity that the growth policy
gives. Fails with that capacity when it is refused or cannot be had. -/
def growScratch (settings : Settings) (current required : UInt64) :
    Attempt UInt64 σ Scratch :=
  ExceptT.mk do
    let capacity := settings.grownCapacity current required
    retireScratch
    if settings.maxScratchBytes ≤ capacity then
      count Counters.countAllocationFailure
      return .error capacity
    else
      match ← (makeScratch settings capacity).run with
      | .ok scratch =>
          setScratch (some scratch)
          return .ok scratch
      | .error _ =>
          count Counters.countAllocationFailure
          return .error capacity

def scratchFor (settings : Settings) (required : UInt64) :
    Attempt UInt64 σ Scratch := do
  match ← ExceptT.lift scratch? with
  | none => growScratch settings 0 required
  | some scratch =>
      if required ≤ scratch.capacity then
        return scratch
      else
        growScratch settings scratch.capacity required

end MeshCapture.Work
