import MeshCapture.Scratch.Basic

/-! # Recording derived work

A command list under construction, together with the scratch set it is recorded
against. Commands that use the output buffer in another way than the commands
before them are preceded by a barrier, so that a recording knows at every point
what the buffer may be used for. -/

namespace MeshCapture

structure Pass where
  settings : Settings
  event : EventId
  draw : Draw
  state : BoundState
  /-- The root signature created because the bound one does not allow stream
  output. -/
  rootSignature : Option RootSignatureHandle
deriving DecidableEq

structure Recording where
  scratch : Scratch
  list : CommandList := {}
deriving DecidableEq

namespace Recording

def push (recording : Recording) (command : Command) : Recording :=
  { recording with list := recording.list.push command }

/-- Prepares the output buffer for another use. A buffer already prepared for it
needs no barrier. -/
def transition (recording : Recording) (use : BufferUse) : Recording :=
  let scratch := recording.scratch
  if scratch.outputUse = use then
    recording
  else
    { scratch := { scratch with outputUse := use }
      list := recording.list.push
        (.barrier scratch.output scratch.outputUse use) }

def bindDerived (recording : Recording) (pass : Pass)
    (pipeline : PipelineHandle) : Recording :=
  let bound :=
    (recording.push (.applyState pass.state)).push (.setPipeline pipeline)
  match pass.rootSignature with
  | none => bound
  | some signature =>
      (bound.push (.setRootSignature signature)).push .applyRootParameters

def bindOutput (recording : Recording) (settings : Settings)
    (counterOffset dataOffset : UInt64) : Recording :=
  let ready := recording.transition .streamOut
  ready.push <| .setOutputTarget <|
    ready.scratch.target settings counterOffset dataOffset

def repeatDraw (recording : Recording) (draw : Draw) (instances : UInt32) :
    Recording :=
  recording.push <|
    if draw.flags.indexed then
      .drawIndexed draw.elementCount instances draw.firstIndex draw.baseVertex
        draw.firstInstance
    else
      .draw draw.elementCount instances draw.firstVertex draw.firstInstance

def zeroOutput (recording : Recording) : Recording :=
  let ready := recording.transition .unorderedAccess
  ready.push (.clear ready.scratch.output)

/-- Copies the output buffer to the staging buffer and zeroes it for the next
capture. -/
def copyOut (recording : Recording) : Recording :=
  let ready := recording.transition .copySource
  let copied := ready.push
    (.copyBuffer ready.scratch.staging ready.scratch.output)
  (copied.push (.discard ready.scratch.output)).zeroOutput

/-! ## What the steps leave behind -/

@[simp] theorem scratch_push (recording : Recording) (command : Command) :
    (recording.push command).scratch = recording.scratch := rfl

@[simp] theorem scratch_transition (recording : Recording) (use : BufferUse) :
    (recording.transition use).scratch =
      { recording.scratch with outputUse := use } := by
  unfold transition
  simp only
  split
  · next same => rw [← same]
  · rfl

@[simp] theorem scratch_bindDerived (recording : Recording) (pass : Pass)
    (pipeline : PipelineHandle) :
    (recording.bindDerived pass pipeline).scratch = recording.scratch := by
  unfold bindDerived
  cases pass.rootSignature <;> rfl

@[simp] theorem scratch_bindOutput (recording : Recording)
    (settings : Settings) (counterOffset dataOffset : UInt64) :
    (recording.bindOutput settings counterOffset dataOffset).scratch =
      { recording.scratch with outputUse := .streamOut } :=
  scratch_transition recording .streamOut

@[simp] theorem scratch_repeatDraw (recording : Recording) (draw : Draw)
    (instances : UInt32) :
    (recording.repeatDraw draw instances).scratch = recording.scratch := rfl

@[simp] theorem scratch_zeroOutput (recording : Recording) :
    recording.zeroOutput.scratch =
      { recording.scratch with outputUse := .unorderedAccess } :=
  scratch_transition recording .unorderedAccess

@[simp] theorem scratch_copyOut (recording : Recording) :
    recording.copyOut.scratch =
      { recording.scratch with outputUse := .unorderedAccess } := by
  simp [copyOut]

end Recording

end MeshCapture
