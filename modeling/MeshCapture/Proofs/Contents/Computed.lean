import MeshCapture.Proofs.Contents.Basic
import MeshCapture.Scripted.Device

/-! # Computed contents

Contents of buffers can be worked out from a run, given what commands that copy
nothing leave in the buffers they may change. They explain the run as soon as
its reads and writes agree with them. -/

namespace MeshCapture

theorem Scripted.size_zeros (count : Nat) : (zeros count).size = count := by
  have grown (bytes : ByteArray) :
      (zeros.go count bytes).size = bytes.size + count := by
    induction count generalizing bytes with
    | zero => rfl
    | succ count induction =>
        rw [zeros.go, induction, ByteArray.size_push]
        omega
  exact (grown .empty).trans (Nat.zero_add count)

def overwritten (bytes : ByteArray) (offset : Nat) (data : ByteArray) :
    ByteArray :=
  bytes.extract 0 offset ++ data ++
    bytes.extract (offset + data.size) bytes.size

section

variable {bytes data : ByteArray} {offset : Nat}

theorem size_overwritten (fits : offset + data.size ≤ bytes.size) :
    (overwritten bytes offset data).size = bytes.size := by
  simp only [overwritten, ByteArray.size_append, ByteArray.size_extract]
  omega

theorem extract_overwritten (fits : offset + data.size ≤ bytes.size) :
    (overwritten bytes offset data).extract offset (offset + data.size) =
      data := by
  have front : (bytes.extract 0 offset).size = offset := by
    rw [ByteArray.size_extract]
    omega
  rw [overwritten, ByteArray.append_assoc]
  calc
    _ = (data ++ bytes.extract (offset + data.size) bytes.size).extract 0
          data.size := ByteArray.extract_append_size_add' front.symm
    _ = data := ByteArray.extract_append_eq_left rfl

end

abbrev CommandEffect := Command → BufferHandle → ByteArray → ByteArray

namespace CommandEffect

variable (effect : CommandEffect) (initial : BufferHandle → ByteArray)

def afterCommand (memory : BufferHandle → ByteArray) :
    Command → BufferHandle → ByteArray
  | .copyBuffer target source, buffer =>
      memory (if buffer = target then source else buffer)
  | command, buffer =>
      if command.isDraw = true ∨ command.written? = some buffer then
        effect command buffer (memory buffer)
      else
        memory buffer

def afterCall (memory : BufferHandle → ByteArray) :
    Call → BufferHandle → ByteArray
  | .createBuffer description (.ok made), buffer =>
      if buffer = made then
        Scripted.zeros description.size.toNat
      else
        memory buffer
  | .writeBuffer target offset data (.ok ()), buffer =>
      if buffer = target then
        overwritten (memory buffer) offset.toNat data
      else
        memory buffer
  | .execute list (.ok ()), buffer =>
      list.toList.foldl effect.afterCommand memory buffer
  | _, buffer => memory buffer

def contents : Contents := fun earlier front =>
  front.foldl effect.afterCommand (earlier.foldl effect.afterCall initial)

def Agrees (earlier : List Call) : Call → Prop
  | .readBuffer buffer offset length (.ok bytes) =>
      bytes = (effect.contents initial earlier [] buffer).extract offset.toNat
        (offset.toNat + length.toNat)
  | .writeBuffer buffer offset data (.ok ()) =>
      offset.toNat + data.size ≤
        (effect.contents initial earlier [] buffer).size
  | _ => True

instance (earlier : List Call) (call : Call) :
    Decidable (effect.Agrees initial earlier call) := by
  unfold Agrees
  split <;> infer_instance

theorem contents_concat (earlier : List Call) (call : Call) :
    effect.contents initial (earlier ++ [call]) [] =
      effect.afterCall (effect.contents initial earlier []) call := by
  simp [contents]

theorem executes (earlier : List Call) (front : List Command)
    (command : Command) :
    (effect.contents initial).Executes earlier front command where
  copied target source same := by
    subst same
    simp [contents, afterCommand]
  kept idle buffer other := by
    simp only [contents, List.foldl_append, List.foldl_cons, List.foldl_nil]
    cases command <;>
      simp_all [afterCommand, Command.isDraw, Command.written?, eq_comm]

theorem explains {earlier : List Call} {call : Call}
    (agrees : effect.Agrees initial earlier call) :
    (effect.contents initial).Explains earlier call where
  created description buffer same := by
    subst same
    rw [contents_concat]
    simp [afterCall, Scripted.size_zeros]
  read buffer offset length bytes same := by
    subst same
    exact agrees
  written buffer offset data same := by
    subst same
    rw [contents_concat]
    simp only [afterCall, if_true]
    exact ⟨size_overwritten agrees, extract_overwritten agrees⟩
  executed list executed := by
    cases call with
    | execute other outcome =>
        cases outcome with
        | ok =>
            cases executed
            exact ⟨contents_concat _ _ _ _, fun front command _ _ =>
              effect.executes initial earlier front command⟩
        | error => cases executed
    | _ => cases executed
  kept idle buffer other := by
    rw [contents_concat]
    unfold afterCall
    split
    · exact if_neg fun same => other (congrArg some same.symm)
    · exact if_neg fun same => other (congrArg some same.symm)
    · cases idle
    · rfl

/-- Contents worked out explain a run whose reads and writes agree with them. -/
theorem faithful {history : List Call}
    (agrees : Throughout (effect.Agrees initial) history) :
    (effect.contents initial).Faithful history :=
  agrees.imp fun _ _ => effect.explains initial

end CommandEffect

/-- On a scripted device draws leave a readback in one buffer, and queries
resolve to the same statistics. -/
def Scripted.streaming (output : BufferHandle) (readback : Readback)
    (statistics : StreamOut.Statistics) : CommandEffect
  | .draw .., buffer, bytes | .drawIndexed .., buffer, bytes =>
      if buffer = output then
        (Device.Readback.apply readback
          { size := UInt64.ofNat bytes.size }).read 0 bytes.size
      else
        bytes
  | .resolveQuery _ _ _ offset, _, bytes =>
      overwritten bytes offset.toNat
        ⟨(LittleEndian.encode 8 statistics.primitivesWritten.toNat ++
          LittleEndian.encode 8 statistics.primitivesNeeded.toNat).toArray⟩
  | .clear _, _, bytes => zeros bytes.size
  | _, _, bytes => bytes

end MeshCapture
