import MeshCapture.Proofs.History
import MeshCapture.Workspace
import MeshCapture.Proofs.Course.Step

/-! # Contents of buffers

What the buffers of a device hold is not seen in a run. Some contents explain
the run when every call fits them: reads and writes transfer the bytes they name,
and commands change the buffers they write to. A draw may change anything. -/

namespace MeshCapture

def Command.written? : Command → Option BufferHandle
  | .resolveQuery _ _ target _ => some target
  | .copyBuffer target _ => some target
  | .discard buffer | .clear buffer => some buffer
  | _ => none

def Command.isCopy : Command → Bool
  | .copyBuffer .. => true
  | _ => false

def Call.touched? : Call → Option BufferHandle
  | .createBuffer _ (.ok buffer) => some buffer
  | .releaseBuffer buffer => some buffer
  | .writeBuffer buffer _ _ _ => some buffer
  | _ => none

def Call.isRead : Call → Bool
  | .readBuffer .. => true
  | _ => false

/-- The bytes of every buffer at every point of a run: behind some calls and,
while the next call executes a list, behind the first commands of it. -/
abbrev Contents := List Call → List Command → BufferHandle → ByteArray

namespace Contents

/-- A copy replaces the whole of its target. A command that draws nothing
changes at most the buffer it writes to. -/
structure Executes (contents : Contents) (earlier : List Call)
    (front : List Command) (command : Command) : Prop where
  copied : ∀ target source, command = .copyBuffer target source →
    contents earlier (front ++ [command]) target =
      contents earlier front source
  kept : command.isDraw = false → ∀ buffer, command.written? ≠ some buffer →
    contents earlier (front ++ [command]) buffer =
      contents earlier front buffer

/-- A buffer is as large as its description says. A read gives the bytes that
are there, and behind a write the written ones are. Executing a list leaves what
its commands leave, and every other call changes the buffer it names at most. -/
structure Explains (contents : Contents) (earlier : List Call)
    (call : Call) : Prop where
  created : ∀ description buffer,
    call = .createBuffer description (.ok buffer) →
    (contents (earlier ++ [call]) [] buffer).size = description.size.toNat
  read : ∀ buffer offset length bytes,
    call = .readBuffer buffer offset length (.ok bytes) →
    bytes = (contents earlier [] buffer).extract offset.toNat
      (offset.toNat + length.toNat)
  written : ∀ buffer offset data,
    call = .writeBuffer buffer offset data (.ok ()) →
    (contents (earlier ++ [call]) [] buffer).size =
        (contents earlier [] buffer).size ∧
      (contents (earlier ++ [call]) [] buffer).extract offset.toNat
        (offset.toNat + data.size) = data
  executed : ∀ list ∈ call.executed?,
    contents (earlier ++ [call]) [] = contents earlier list.toList ∧
      Throughout (contents.Executes earlier) list.toList
  kept : call.isExecute = false → ∀ buffer, call.touched? ≠ some buffer →
    contents (earlier ++ [call]) [] buffer = contents earlier [] buffer

def Faithful (contents : Contents) (history : List Call) : Prop :=
  Throughout contents.Explains history

end Contents

theorem Throughout.of_append {α : Type} {check : List α → α → Prop}
    {history more : List α} (holds : Throughout check (history ++ more)) :
    Throughout check history := by
  intro earlier event later split
  exact holds earlier event (later ++ more) (by simp [split])

theorem Contents.eq_of_throughout {contents : Contents} {earlier : List Call}
    {front back : List Command} {buffer : BufferHandle}
    (executes : Throughout (contents.Executes earlier) (front ++ back))
    (idle : ∀ command ∈ back, command.isDraw = false)
    (others : ∀ command ∈ back, command.written? ≠ some buffer) :
    contents earlier (front ++ back) buffer =
      contents earlier front buffer := by
  induction back using List.reverseRecOn with
  | nil => rw [List.append_nil]
  | append_singleton back command induction =>
      rw [← List.append_assoc] at executes ⊢
      have parts := Throughout.concat_iff.mp executes
      rw [parts.2.kept (idle command (by simp)) buffer
        (others command (by simp))]
      exact induction parts.1
        (fun command inside => idle command (by simp [inside]))
        fun command inside => others command (by simp [inside])

end MeshCapture
