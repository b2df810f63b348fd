import MeshCapture.Proofs.Conduct.Lists
import MeshCapture.Proofs.Viewed.Basic

/-! # What a list does to the output buffer

Of a command list only two kinds of commands change the contents of the output
buffer before it is copied: it is zeroed, and it is drawn into. A list is told
by these steps, each draw together with what its list has bound by then. -/

namespace MeshCapture

inductive OutputStep where
  | zeroed (buffer : BufferHandle)
  | drawn (command : Command) (bound : Bindings)
deriving DecidableEq

def OutputStep.isDrawn : OutputStep → Bool
  | zeroed _ => false
  | drawn .. => true

def Command.outputStep? (bound : Bindings) (command : Command) :
    Option OutputStep :=
  match command with
  | clear buffer => some (.zeroed buffer)
  | command => if command.isDraw then some (.drawn command bound) else none

theorem Command.outputStep?_eq_drawn_iff {command drawn : Command}
    {bound other : Bindings} :
    command.outputStep? bound = some (.drawn drawn other) ↔
      command.isDraw = true ∧ drawn = command ∧ other = bound := by
  unfold outputStep?
  split
  · simp [isDraw]
  · split
    · next isDraw => simp [isDraw, eq_comm]
    · next plain => simp [plain]

/-- The steps of commands behind which `bound` was bound. -/
def outputStepsFrom (bound : Bindings) : (commands : List Command) →
    List OutputStep
  | [] => []
  | command :: rest =>
      (command.outputStep? bound).toList ++
        outputStepsFrom (command.bind bound) rest

def CommandList.outputSteps (list : CommandList) : List OutputStep :=
  outputStepsFrom {} list.toList

theorem outputStepsFrom_append (bound : Bindings)
    (front back : List Command) :
    outputStepsFrom bound (front ++ back) =
      outputStepsFrom bound front ++
        outputStepsFrom (front.foldl Command.bind bound) back := by
  induction front generalizing bound with
  | nil => rfl
  | cons command rest induction =>
      rw [List.cons_append, outputStepsFrom, outputStepsFrom, induction,
        List.append_assoc, List.foldl_cons]

theorem CommandList.drawCount_eq_outputSteps (list : CommandList) :
    list.drawCount = list.outputSteps.countP OutputStep.isDrawn := by
  have counted (bound : Bindings) (commands : List Command) :
      commands.countP Command.isDraw =
        (outputStepsFrom bound commands).countP OutputStep.isDrawn := by
    induction commands generalizing bound with
    | nil => rfl
    | cons command rest induction =>
        rw [outputStepsFrom, List.countP_append, ← induction, List.countP_cons,
          Nat.add_comm]
        congr 1
        cases command <;> rfl
  rw [drawCount_eq]
  exact counted {} list.toList

/-! ## Steps of a recording -/

def Draw.withInstances (draw : Draw) (instances : UInt32) : Draw :=
  { draw with instanceCount := instances }

namespace Recording

def outputSteps (recording : Recording) : List OutputStep :=
  recording.list.outputSteps

@[simp] theorem outputSteps_fresh (scratch : Scratch) :
    ({ scratch } : Recording).outputSteps = [] := rfl

@[simp] theorem outputSteps_push (recording : Recording) (command : Command) :
    (recording.push command).outputSteps =
      recording.outputSteps ++
        (command.outputStep? recording.bound).toList := by
  rw [outputSteps, CommandList.outputSteps, push, CommandList.toList_push,
    outputStepsFrom_append]
  simp [outputStepsFrom, outputSteps, CommandList.outputSteps, bound, bindings]

@[simp] theorem outputSteps_transition (recording : Recording)
    (use : BufferUse) :
    (recording.transition use).outputSteps = recording.outputSteps := by
  unfold transition
  simp only
  split
  · rfl
  · exact (outputSteps_push recording _).trans (List.append_nil _)

@[simp] theorem outputSteps_bindDerived (recording : Recording) (pass : Pass)
    (pipeline : PipelineHandle) :
    (recording.bindDerived pass pipeline).outputSteps =
      recording.outputSteps := by
  rw [bindDerived]
  cases pass.rootSignature <;>
    simp [Command.outputStep?, Command.isDraw]

@[simp] theorem outputSteps_bindOutput (recording : Recording)
    (settings : Settings) (counterOffset dataOffset : UInt64) :
    (recording.bindOutput settings counterOffset dataOffset).outputSteps =
      recording.outputSteps := by
  simp [bindOutput, Command.outputStep?, Command.isDraw]

@[simp] theorem outputSteps_repeatDraw (recording : Recording) (draw : Draw)
    (instances : UInt32) :
    (recording.repeatDraw draw instances).outputSteps =
      recording.outputSteps ++
        [.drawn (draw.withInstances instances).command recording.bound] := by
  rw [repeatDraw, outputSteps_push, Draw.command, Draw.withInstances]
  split
  · rfl
  · rfl

@[simp] theorem outputSteps_zeroOutput (recording : Recording) :
    recording.zeroOutput.outputSteps =
      recording.outputSteps ++ [.zeroed recording.scratch.output] := by
  simp [zeroOutput, Command.outputStep?]

end Recording

def Pass.boundTo (pass : Pass) (derived : PipelineHandle)
    (target : OutputTarget) : Bindings where
  state := some pass.state
  pipeline := some derived
  signature := pass.rootSignature
  arguments := pass.rootSignature.isSome
  target := some target

@[simp] theorem scratch_measuringPass (pass : Pass) (derived : PipelineHandle)
    (scratch : Scratch) :
    (Work.measuringPass pass derived scratch).scratch =
      { scratch with outputUse := .streamOut } := by
  simp [Work.measuringPass]

theorem outputSteps_measuringPass (pass : Pass) (derived : PipelineHandle)
    (scratch : Scratch) :
    (Work.measuringPass pass derived scratch).outputSteps =
      [.zeroed scratch.output,
        .drawn pass.draw.command (pass.boundTo derived
          (scratch.target pass.settings 0 pass.settings.counterBytes))] := by
  simp [Work.measuringPass, Command.outputStep?, Command.isDraw, Command.bind,
    Scratch.target, Scratch.room, Draw.withInstances, Pass.boundTo]

end MeshCapture
