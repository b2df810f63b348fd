/-! # Work counters

How often the engine did what, since it was made. Counters wrap at the end of
the word range. -/

namespace MeshCapture

structure Counters where
  captureRequests : UInt64 := 0
  cacheHits : UInt64 := 0
  recordsCreated : UInt64 := 0
  /-- Derived draws recorded, statistics passes included. -/
  streamOutDraws : UInt64 := 0
  submissions : UInt64 := 0
  scratchReallocations : UInt64 := 0
  /-- Scratch allocations that failed or were refused for their size. -/
  allocationFailures : UInt64 := 0
deriving DecidableEq, Inhabited

namespace Counters

def countCaptureRequest (counters : Counters) : Counters :=
  { counters with captureRequests := counters.captureRequests + 1 }

def countCacheHit (counters : Counters) : Counters :=
  { counters with cacheHits := counters.cacheHits + 1 }

def countRecord (counters : Counters) : Counters :=
  { counters with recordsCreated := counters.recordsCreated + 1 }

def countDraws (counters : Counters) (draws : UInt64) : Counters :=
  { counters with streamOutDraws := counters.streamOutDraws + draws }

def countSubmission (counters : Counters) : Counters :=
  { counters with submissions := counters.submissions + 1 }

def countReallocation (counters : Counters) : Counters :=
  { counters with scratchReallocations := counters.scratchReallocations + 1 }

def countAllocationFailure (counters : Counters) : Counters :=
  { counters with allocationFailures := counters.allocationFailures + 1 }

end Counters

end MeshCapture
