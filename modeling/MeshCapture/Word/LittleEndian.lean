/-! # Little-endian numbers

A number is stored as base-256 digits, least significant digit first. Writing
with a fixed width keeps the low digits alone. -/

namespace MeshCapture.LittleEndian

def encode : (width : Nat) → (value : Nat) → List UInt8
  | 0, _ => []
  | width + 1, value => UInt8.ofNat value :: encode width (value / 256)

def decode : (bytes : List UInt8) → Nat
  | [] => 0
  | byte :: rest => byte.toNat + 256 * decode rest

@[simp] theorem length_encode (width value : Nat) :
    (encode width value).length = width := by
  induction width generalizing value with
  | zero => rfl
  | succ width induction => simp [encode, induction]

/-! ## Numbers inside a byte buffer -/

/-- Buffers are compared as the runtime compares them. -/
instance (priority := 2000) decidableEqBytes : DecidableEq ByteArray :=
  ByteArray.decEq

def digitsAt (bytes : ByteArray) (offset width : Nat) : Option (List UInt8) :=
  if offset + width ≤ bytes.size then
    some (bytes.extract offset (offset + width)).data.toList
  else
    none

def word32At (bytes : ByteArray) (offset : Nat) : Option UInt32 :=
  (digitsAt bytes offset 4).map fun digits => UInt32.ofNat (decode digits)

def word64At (bytes : ByteArray) (offset : Nat) : Option UInt64 :=
  (digitsAt bytes offset 8).map fun digits => UInt64.ofNat (decode digits)

example : word32At ⟨#[9, 0x04, 0x03, 0x02, 0x01]⟩ 1 = some 0x01020304 := by
  decide
example : word32At ⟨#[9, 0x04, 0x03, 0x02]⟩ 1 = none := by decide

end MeshCapture.LittleEndian
