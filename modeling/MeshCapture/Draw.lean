import MeshCapture.Topology

/-! # Recorded draws

The parameters of one recorded draw call, and the index formats it may fetch
its vertices through. -/

namespace MeshCapture

/-- Position of an action in the recorded command stream. -/
abbrev EventId := UInt32

inductive IndexWidth where
  | bits16
  | bits32
deriving DecidableEq

instance : Inhabited IndexWidth := ⟨.bits32⟩

namespace IndexWidth

def bytes : IndexWidth → UInt32
  | bits16 => 2
  | bits32 => 4

def restartValue : IndexWidth → UInt32
  | bits16 => 0xFFFF
  | bits32 => 0xFFFFFFFF

end IndexWidth

/-- Whether a pipeline cuts strips, and at the restart value of which width. -/
inductive StripCut where
  | disabled
  | enabled (width : IndexWidth)
deriving DecidableEq

instance : Inhabited StripCut := ⟨.disabled⟩

def StripCut.sentinel : StripCut → Option UInt32
  | disabled => none
  | enabled width => some width.restartValue

/-- Properties of a draw as a set of bits; bits without a meaning here are
kept. -/
structure DrawFlags where
  bits : UInt32 := 0
deriving DecidableEq, Inhabited

namespace DrawFlags

def indexed (flags : DrawFlags) : Bool :=
  flags.bits &&& 1 == 1

def instanced (flags : DrawFlags) : Bool :=
  flags.bits &&& 2 == 2

end DrawFlags

structure Draw where
  /-- Vertices of a plain draw, indices of an indexed one. -/
  elementCount : UInt32 := 0
  instanceCount : UInt32 := 0
  flags : DrawFlags := {}
  firstVertex : UInt32 := 0
  /-- First index of an indexed draw, counted in indices. -/
  firstIndex : UInt32 := 0
  firstInstance : UInt32 := 0
  baseVertex : Int32 := 0
  topology : Topology := .undefined
  indexWidth : IndexWidth := .bits32
deriving DecidableEq, Inhabited

end MeshCapture
