import MeshCapture.Engine
import MeshCapture.Scripted.Device
import MeshCapture.Scripted.Frame

/-! # Scripted sessions

A session drives an engine over a scripted device through a list of steps and
reports after each of them what the engine answered, what it called, and what
is there. -/

namespace MeshCapture.Scripted

inductive Step where
  | capture (event : EventId)
  | captureAll (events : List EventId)
  | addAlias (primary synonym : EventId)
  | record (event : EventId)
  | mesh (event : EventId) (instanceIndex : UInt32) (stage : Stage)
  | settings
  | clear
  | load (script : Script)

structure Released where
  buffers : List BufferHandle
  queryHeaps : List QueryHeapHandle
  calls : Nat
deriving DecidableEq

inductive Answer where
  | done
  | failed (failure : ReplayFailure)
  | record (record : Option EventRecord)
  | mesh (view : MeshView)
  | settings (settings : Settings)
  | released (released : Released)

structure Report where
  answer : Answer
  /-- The calls of the step in order. The calls of a release are in its answer
  instead. -/
  calls : List Call
  cachedEvents : Nat
  capacity : UInt64
  counters : Counters
  census : Device.Census
  tolerant : Bool

namespace Released

def bufferOf? : Call → Option BufferHandle
  | .releaseBuffer buffer => some buffer
  | _ => none

def queryHeapOf? : Call → Option QueryHeapHandle
  | .releaseQueryHeap heap => some heap
  | _ => none

def ofCalls (calls : List Call) : Released where
  buffers := (calls.filterMap bufferOf?).mergeSort fun left right =>
    left.value ≤ right.value
  queryHeaps := (calls.filterMap queryHeapOf?).mergeSort fun left right =>
    left.value ≤ right.value
  calls := calls.length

end Released

namespace Session

def answerOf : Except ReplayFailure Unit → Answer
  | .ok () => .done
  | .error failure => .failed failure

def take (frame : Frame) (engine : Engine Device) :
    Step → Answer × Engine Device
  | .capture event =>
      let (outcome, engine) := engine.capture frame event
      (answerOf outcome, engine)
  | .captureAll events =>
      let (outcome, engine) := engine.captureAll frame events
      (answerOf outcome, engine)
  | .addAlias primary synonym => (.done, engine.addAlias primary synonym)
  | .record event => (.record (engine.record? event), engine)
  | .mesh event instanceIndex stage =>
      (.mesh (engine.meshView event instanceIndex stage), engine)
  | .settings => (.settings engine.settings, engine)
  | .clear =>
      let cleared := engine.clear
      (.released (.ofCalls cleared.calls), cleared.forgetCalls)
  | .load script =>
      let workspace := engine.workspace
      (.done, { engine with
        workspace := { workspace with device := workspace.device.load script } })

def report (engine : Engine Device) (answer : Answer) : Report where
  answer := answer
  calls := engine.calls
  cachedEvents := engine.store.size
  capacity := engine.scratchCapacity
  counters := engine.counters
  census := engine.workspace.device.census
  tolerant := engine.workspace.device.tolerant

def runSteps (frame : Frame) (engine : Engine Device) :
    (steps : List Step) → List Report × Engine Device
  | [] => ([], engine)
  | step :: rest =>
      let (answer, engine) := take frame engine.forgetCalls step
      let (reports, final) := runSteps frame engine rest
      (report engine answer :: reports, final)

end Session

structure SessionReport where
  steps : List Report
  released : Released
  /-- What was left on the device behind it. -/
  remaining : Device.Census

def runSession (settings : Settings) (script : Script) (actions : List Action)
    (steps : List Step) : SessionReport :=
  let engine := Engine.new (({} : Device).load script) settings
  let (reports, final) := Session.runSteps (frameOf actions) engine steps
  let gone := final.forgetCalls.shutDown
  { steps := reports
    released := .ofCalls gone.calls
    remaining := gone.workspace.device.census }

/-! ## Runs with a failure

In each of them a first draw fails half-way and a second one is captured all the
same. -/

def smallScratch : Settings :=
  { initialScratchBytes := 256 }

def twoDraws (geometry : Bool) : List Engine.Operation :=
  let frame := frameOf [triangle 1 geometry, triangle 2 false]
  [.captureAll frame [1], .captureAll frame [2]]

/-- A device of which the third read, that of the statistics, fails. -/
def interruptedDevice : Device where
  readbacks := [{ counters := [48] }, { counters := [48] }]
  faults := [
    { kind := .readBuffer, skip := 2, times := 1,
      effect := .fail ⟨.deviceRemoved, "lost"⟩ }]

def interrupted : Engine Device :=
  (Engine.new interruptedDevice smallScratch).run (twoDraws true)

def refusingDevice : Device where
  readbacks := [{ counters := [48] }]
  faults := [
    { kind := .execute, times := 1, effect := .fail ⟨.deviceRemoved, "lost"⟩ }]

def refused : Engine Device :=
  (Engine.new refusingDevice smallScratch).run (twoDraws false)

end MeshCapture.Scripted
