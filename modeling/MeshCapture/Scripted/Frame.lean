import MeshCapture.Frame

/-! # Scripted frames

A recorded frame given as the list of its actions in stream order. -/

namespace MeshCapture.Scripted

structure Action where
  event : EventId
  draw : Draw := {}
  state : BoundState := {}
  /-- The action is a dispatch and draws nothing. -/
  dispatch : Bool := false
  /-- The frame lists the action among its draws. -/
  listed : Bool := true
  /-- A replay reports the draw. -/
  drawn : Bool := true
  /-- Why a replay that reaches the action stops there. -/
  failure : Option String := none
  /-- Pairs of a primary event and its alias, reported before the action. -/
  aliasesBefore : List (EventId × EventId) := []
  /-- Pairs of a primary event and its alias, reported behind the action. -/
  aliasesAfter : List (EventId × EventId) := []
deriving DecidableEq

namespace Action

def visits (action : Action) : List Visit :=
  let aliases (pairs : List (EventId × EventId)) : List Visit :=
    pairs.map fun (primary, synonym) => .synonym primary synonym
  let reached : List Visit :=
    if action.dispatch then
      [.dispatch action.event]
    else if action.drawn then
      [.draw ⟨action.event, action.draw, action.state⟩]
    else
      []
  aliases action.aliasesBefore ++ reached ++ aliases action.aliasesAfter

def isReached (first last : EventId) (extent : ReplayExtent)
    (action : Action) : Bool :=
  first ≤ action.event && action.event ≤ last &&
    !(extent == .beforeLast && action.event == last)

/-- The course of a replay over `actions`, which ends before the first one that
fails. -/
def course : (actions : List Action) → Replay
  | [] => {}
  | action :: rest =>
      match action.failure with
      | some cause => { failure := some cause }
      | none =>
          let later := course rest
          { later with visits := action.visits ++ later.visits }

end Action

def triangle (event : EventId) (geometry : Bool) : Action :=
  let shader : Shader :=
    { bytecode := .empty
      outputs := [
        { semanticName := "SV_Position", semanticIndex := 0,
          componentCount := 4, systemValue := .position }] }
  let pipeline : GraphicsPipeline :=
    { vertexShader := some shader
      geometryShader := if geometry then some shader else none }
  { event
    draw := { elementCount := 3, instanceCount := 1 }
    state := { pipeline := some ⟨⟨100⟩, .graphics pipeline⟩ } }

def frameOf (actions : List Action) : Frame where
  draw? event :=
    (actions.find? fun action =>
      action.event == event && !action.dispatch && action.listed).map (·.draw)
  replay first last extent :=
    Action.course (actions.filter (Action.isReached first last extent))

end MeshCapture.Scripted
