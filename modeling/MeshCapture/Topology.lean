/-! # Primitive topologies

A draw assembles its vertices into primitives. Stream output never writes
strips: every strip is taken apart into independent primitives before it
reaches memory, so captured data is described by the unstripped topology. -/

namespace MeshCapture

inductive Arrangement where
  | list
  | strip
deriving DecidableEq

inductive Topology where
  | undefined
  | points
  | lines (arrangement : Arrangement) (adjacency : Bool)
  | triangles (arrangement : Arrangement) (adjacency : Bool)
  | patches (controlPoints : UInt8)
deriving DecidableEq

inductive PrimitiveKind where
  | undefined
  | point
  | line
  | triangle
  | patch
deriving DecidableEq

instance : Inhabited Topology := ⟨.undefined⟩
instance : Inhabited PrimitiveKind := ⟨.undefined⟩

namespace Topology

def kind : Topology → PrimitiveKind
  | undefined => .undefined
  | points => .point
  | lines _ _ => .line
  | triangles _ _ => .triangle
  | patches _ => .patch

def unstripped : Topology → Topology
  | lines _ adjacency => lines .list adjacency
  | triangles _ adjacency => triangles .list adjacency
  | other => other

def isStrip : Topology → Bool
  | lines .strip _ | triangles .strip _ => true
  | _ => false

@[simp] theorem isStrip_unstripped (topology : Topology) :
    topology.unstripped.isStrip = false := by
  cases topology <;> rfl

@[simp] theorem kind_unstripped (topology : Topology) :
    topology.unstripped.kind = topology.kind := by
  cases topology <;> rfl

theorem unstripped_eq_self_iff (topology : Topology) :
    topology.unstripped = topology ↔ topology.isStrip = false := by
  cases topology with
  | lines arrangement _ => cases arrangement <;> simp [unstripped, isStrip]
  | triangles arrangement _ => cases arrangement <;> simp [unstripped, isStrip]
  | _ => simp [unstripped, isStrip]

end Topology

end MeshCapture
