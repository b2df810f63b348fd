import MeshCapture.Capture.DrawRecord
import MeshCapture.MeshView
import MeshCapture.Record.Store

/-! # The capture engine

The engine captures draws while a replay passes them and keeps their records
until it is cleared. All it does to the outside is noted in the calls of its
workspace. -/

namespace MeshCapture

structure Engine (σ : Type) where
  settings : Settings
  workspace : Workspace σ
  store : RecordStore := {}

inductive ReplayFailure where
  /-- The replay stopped on the way to the first requested event. -/
  | upTo (first : EventId) (cause : String)
  /-- The replay stopped among the requested events. -/
  | among (first last : EventId) (cause : String)
deriving DecidableEq

def ReplayFailure.message : ReplayFailure → String
  | upTo first cause =>
      "replaying up to event " ++ toString first.toNat ++ ": " ++ cause
  | among first last cause =>
      "replaying events " ++ toString first.toNat ++ "..=" ++
        toString last.toNat ++ ": " ++ cause

namespace Engine

variable {σ : Type}

def new (device : σ) (settings : Settings) : Engine σ where
  settings := settings
  workspace := { device }

/-! ## What the engine knows -/

def scratchCapacity (engine : Engine σ) : UInt64 :=
  engine.workspace.scratch.elim 0 (·.capacity)

def counters (engine : Engine σ) : Counters :=
  engine.workspace.counters

def calls (engine : Engine σ) : List Call :=
  engine.workspace.calls.reverse

def forgetCalls (engine : Engine σ) : Engine σ :=
  { engine with workspace := { engine.workspace with calls := [] } }

def record? (engine : Engine σ) (event : EventId) : Option EventRecord :=
  engine.store.find? event

def meshView (engine : Engine σ) (event : EventId) (instanceIndex : UInt32)
    (stage : Stage) : MeshView :=
  .ofRecord (engine.record? event) instanceIndex stage

/-! ## Requests -/

def perform {α : Type} (engine : Engine σ) (work : Work σ α) :
    α × Engine σ :=
  let (answer, workspace) := work.run engine.workspace
  (answer, { engine with workspace })

def count (engine : Engine σ) (update : Counters → Counters) : Engine σ :=
  (engine.perform (Work.count update)).2

def addAlias (engine : Engine σ) (primary synonym : EventId) : Engine σ :=
  { engine with store := engine.store.addAlias primary synonym }

/-- Counts a request for an event. An event without a record is captured by
capturing the event it stands for, if that one has a recorded draw. -/
def request (frame : Frame) (engine : Engine σ) (event : EventId) :
    Option EventId × Engine σ :=
  let engine := engine.count Counters.countCaptureRequest
  if engine.store.contains event then
    (none, engine.count Counters.countCacheHit)
  else
    let primary := engine.store.resolve event
    (if (frame.draw? primary).isSome then some primary else none, engine)

def requestAll (frame : Frame) (engine : Engine σ) :
    (events : List EventId) → List EventId × Engine σ
  | [] => ([], engine)
  | event :: rest =>
      let (pending, engine) := engine.request frame event
      let (others, engine) := engine.requestAll frame rest
      (pending.toList ++ others, engine)

/-! ## Capturing -/

variable [Device σ]

def captureDraw (engine : Engine σ) (visit : DrawVisit) : Engine σ :=
  if engine.store.contains visit.event then
    engine
  else
    let (record, engine) :=
      engine.perform (Work.captureDraw engine.settings visit)
    { engine with store := engine.store.insert visit.event record }.count
      Counters.countRecord

def follow (wanted : List EventId) (engine : Engine σ) : Visit → Engine σ
  | .draw visit =>
      if wanted.contains visit.event then engine.captureDraw visit else engine
  | .dispatch _ => engine
  | .synonym primary synonym =>
      if wanted.contains primary then
        engine.addAlias primary synonym
      else
        engine

def replay (frame : Frame) (wanted : List EventId) (engine : Engine σ)
    (first last : EventId) (extent : ReplayExtent) :
    Option String × Engine σ :=
  let noted := (engine.perform (Work.noteReplay first last extent)).2
  let course := frame.replay first last extent
  (course.failure, course.visits.foldl (follow wanted) noted)

/-- Captures the given events with one replay: up to the first of them and then
through the last. Events without a recorded draw are passed over. -/
def captureAll (frame : Frame) (engine : Engine σ) (events : List EventId) :
    Except ReplayFailure Unit × Engine σ :=
  let (pending, engine) := engine.requestAll frame events
  let wanted := Ascending.ofList pending
  match wanted.head?, wanted.getLast? with
  | some first, some last =>
      match engine.replay frame wanted 0 first .beforeLast with
      | (some cause, engine) => (.error (.upTo first cause), engine)
      | (none, engine) =>
          match engine.replay frame wanted first last .full with
          | (some cause, engine) => (.error (.among first last cause), engine)
          | (none, engine) => (.ok (), engine)
  | _, _ => (.ok (), engine)

def capture (frame : Frame) (engine : Engine σ) (event : EventId) :
    Except ReplayFailure Unit × Engine σ :=
  engine.captureAll frame [event]

/-! ## Letting go -/

def clear (engine : Engine σ) : Engine σ :=
  let released :=
    (engine.perform (engine.store.buffers.forM Work.releaseBuffer)).2
  { released with store := {} }

def shutDown (engine : Engine σ) : Engine σ :=
  (engine.clear.perform Work.releaseScratch).2

/-! ## Runs -/

inductive Operation where
  | captureAll (frame : Frame) (events : List EventId)
  | addAlias (primary synonym : EventId)
  | clear

def apply (engine : Engine σ) : Operation → Engine σ
  | .captureAll frame events => (engine.captureAll frame events).2
  | .addAlias primary synonym => engine.addAlias primary synonym
  | .clear => engine.clear

def run (engine : Engine σ) (operations : List Operation) : Engine σ :=
  operations.foldl apply engine

end Engine

end MeshCapture
