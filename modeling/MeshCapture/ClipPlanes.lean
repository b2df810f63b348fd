import MeshCapture.Word.LittleEndian

/-! # Clip planes of a captured projection

Under a perspective projection with the clip planes `N` and `F`, clip-space
depth is linear in view depth: `z = w * m + c` with `m = F / (F - N)` and
`c = -(F * N) / (F - N)`. Two vertices that differ in both `z` and `w` give `m`
and `c`, and from these `N = -c / m` and `F = c / (1 - m)`. -/

namespace MeshCapture

structure Position where
  x : Float32
  y : Float32
  z : Float32
  w : Float32

structure Depth where
  z : Float32
  w : Float32

structure ClipPlanes where
  near : Float32
  far : Float32
deriving DecidableEq

namespace Position

/-- The position at the start of vertex `index` of vertices `stride` bytes
apart, when all its sixteen bytes are there. -/
def ofVertex? (data : ByteArray) (stride : UInt32) (index : Nat) :
    Option Position := do
  let start := index * stride.toNat
  let x ← LittleEndian.word32At data start
  let y ← LittleEndian.word32At data (start + 4)
  let z ← LittleEndian.word32At data (start + 8)
  let w ← LittleEndian.word32At data (start + 12)
  return ⟨.ofBits x, .ofBits y, .ofBits z, .ofBits w⟩

def depth (position : Position) : Depth :=
  ⟨position.z, position.w⟩

end Position

namespace ClipPlanes

def fallback : ClipPlanes := ⟨0.1, 100⟩

/-- Far plane of a reversed projection that has none: the largest finite
number. -/
def infiniteFar : Float32 := Float32.ofBits 0x7F7FFFFF

def minimumNear : Float32 := 0.000001

instance : Inhabited ClipPlanes := ⟨fallback⟩

def solve (epsilon : Float32) (first other : Depth) : Option ClipPlanes :=
  if (other.w - first.w).abs ≤ epsilon ∨ (other.z - first.z).abs ≤ epsilon then
    none
  else
    let m := (other.z - first.z) / (other.w - first.w)
    let c := other.z - other.w * m
    if m == 1 || c == 0 then
      none
    else
      let near := -c / m
      if near ≤ minimumNear then none else some ⟨near, c / (1 - m)⟩

/-- What the first vertex alone says. One between the eye and its own `w` comes
from a reversed projection without a far plane. -/
def ofSingle (first : Depth) : ClipPlanes :=
  if 0 < first.z ∧ first.z < first.w then
    ⟨first.z, infiniteFar⟩
  else
    fallback

/-- The first solution among `remaining` vertices from `index` on. The search
ends where the data does. -/
def search (data : ByteArray) (stride : UInt32) (epsilon : Float32)
    (first : Depth) (index : Nat) : (remaining : Nat) → Option ClipPlanes
  | 0 => none
  | remaining + 1 =>
      match Position.ofVertex? data stride index with
      | none => none
      | some position =>
          match solve epsilon first position.depth with
          | some planes => some planes
          | none => search data stride epsilon first (index + 1) remaining

def estimate (data : ByteArray) (stride : UInt32) (vertexCount : UInt64)
    (epsilon : Float32) : ClipPlanes :=
  match Position.ofVertex? data stride 0 with
  | none => fallback
  | some position =>
      let first := position.depth
      match search data stride epsilon first 1 (vertexCount.toNat - 1) with
      | some planes => planes
      | none => ofSingle first

end ClipPlanes

end MeshCapture
