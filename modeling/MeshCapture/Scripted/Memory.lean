import MeshCapture.Word.LittleEndian

/-! # Sparse buffer contents

A fresh buffer is all zeros, and most of a large one stays so. Its contents are
kept as a start that was written to, with zeros behind it up to the buffer's
size. -/

namespace MeshCapture.Scripted

def zeros (count : Nat) : ByteArray :=
  go count .empty
where
  go : Nat → ByteArray → ByteArray
    | 0, bytes => bytes
    | count + 1, bytes => go count (bytes.push 0)

structure Memory where
  size : UInt64
  start : ByteArray := .empty
deriving DecidableEq, Inhabited

namespace Memory

def ofBytes (bytes : ByteArray) : Memory where
  size := UInt64.ofNat bytes.size
  start := bytes

def cleared (memory : Memory) : Memory :=
  { memory with start := .empty }

/-- The bytes from `offset` on, at most `length` of them and none behind the
end. -/
def read (memory : Memory) (offset length : Nat) : ByteArray :=
  let low := min offset memory.size.toNat
  let high := min (offset + length) memory.size.toNat
  let written := memory.start.extract low high
  written ++ zeros (high - low - written.size)

def write (memory : Memory) (offset : Nat) (data : ByteArray) : Memory :=
  let data := data.extract 0 (memory.size.toNat - offset)
  if data.isEmpty then
    memory
  else
    let before := memory.start.extract 0 offset
    let behind := memory.start.extract (offset + data.size) memory.start.size
    { memory with
      start := before ++ zeros (offset - before.size) ++ data ++ behind }

def writeWord (memory : Memory) (offset : Nat) (word : UInt64) : Memory :=
  memory.write offset ⟨(LittleEndian.encode 8 word.toNat).toArray⟩

example : ((ofBytes ⟨#[1, 2, 3]⟩).write 1 ⟨#[7, 8, 9]⟩).read 0 9 =
    ⟨#[1, 7, 8]⟩ := by decide
example : (Memory.write ⟨6, .empty⟩ 2 ⟨#[5]⟩).read 1 4 = ⟨#[0, 5, 0, 0]⟩ := by
  decide

end Memory

end MeshCapture.Scripted
