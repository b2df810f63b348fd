import MeshCapture.Pipeline.Basic

/-! # Recorded frames

A frame is a recorded stream of actions that can be replayed. A replay of a
range of events visits the actions of the range, each with the state bound at
that point, and it may stop early. -/

namespace MeshCapture

inductive ReplayExtent where
  /-- Everything before the last event, and not its own action. -/
  | beforeLast
  | full
deriving DecidableEq

structure DrawVisit where
  event : EventId
  draw : Draw
  state : BoundState
deriving DecidableEq, Inhabited

inductive Visit where
  | draw (visit : DrawVisit)
  | dispatch (event : EventId)
  /-- Tells that `synonym` produces exactly what `primary` produces. -/
  | synonym (primary synonym : EventId)
deriving DecidableEq

structure Replay where
  visits : List Visit := []
  failure : Option String := none
deriving DecidableEq

structure Frame where
  draw? : EventId → Option Draw
  replay : (first last : EventId) → ReplayExtent → Replay

end MeshCapture
