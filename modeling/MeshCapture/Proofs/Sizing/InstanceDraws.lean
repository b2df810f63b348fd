import MeshCapture.Proofs.Course.Primitives
import MeshCapture.Proofs.FilledCounters.Recording
import MeshCapture.Proofs.Sizing.Trials

/-! # Draws of single instances

The shares of several instances are found by drawing 1, 2, ... of them, a run of
draws to a list. However long the runs are, the lists together zero the output
buffer once and then draw each number of instances once, at a counter of its
own. -/

namespace MeshCapture

open Work (PostOutput)

variable {σ : Type}

/-! ## Runs -/

theorem instancesFrom_append (first count more : Nat) :
    instancesFrom first count ++ instancesFrom (first + count) more =
      instancesFrom first (count + more) := by
  rw [instancesFrom, instancesFrom, instancesFrom, ← List.map_append,
    Nat.add_right_comm, List.range'_append_1]

theorem flatten_instanceRuns {size : Nat} (positive : 0 < size)
    (count : Nat) :
    (Work.instanceRuns size count).flatten = instancesFrom 0 count := by
  have cut (number : Nat) :
      ((List.range number).map fun run =>
          instancesFrom (run * size) (min size (count - run * size))).flatten =
        instancesFrom 0 (min (number * size) count) := by
    induction number with
    | zero => simp [instancesFrom]
    | succ number induction =>
        rw [List.range_succ, List.map_append, List.flatten_append, induction,
          List.map_singleton, List.flatten_singleton, Nat.succ_mul]
        rcases Nat.le_total (number * size) count with inside | behind
        · have whole : min (number * size + size) count =
              number * size + min size (count - number * size) := by
            omega
          rw [Nat.min_eq_left inside, whole, ← instancesFrom_append,
            Nat.zero_add]
        · rw [Nat.min_eq_right behind, Nat.sub_eq_zero_of_le behind,
            Nat.min_zero, Nat.min_eq_right (Nat.le_add_right_of_le behind)]
          exact List.append_nil _
  have enough : count ≤ (count + size - 1) / size * size := by
    have least := Nat.lt_div_mul_add positive (a := count + size - 1)
    omega
  have whole := cut ((count + size - 1) / size)
  rw [Nat.min_eq_right enough] at whole
  exact whole

theorem length_instanceRuns (size count : Nat) :
    (Work.instanceRuns size count).length = (count + size - 1) / size := by
  rw [Work.instanceRuns, List.length_map, List.length_range]

theorem length_of_mem_instanceRuns {size count : Nat} (positive : 0 < size)
    {run : List UInt32} (inside : run ∈ Work.instanceRuns size count) :
    0 < run.length ∧ run.length ≤ size := by
  obtain ⟨index, less, rfl⟩ := List.mem_map.mp inside
  have before := (Nat.le_div_iff_mul_le positive).mp (List.mem_range.mp less)
  rw [List.length_map, List.length_range', Nat.succ_mul] at *
  omega

/-! ## Lists -/

section

variable {pass : Pass} {derived : PipelineHandle} {dataOffset : UInt64}

def Pass.instanceStep (pass : Pass) (derived : PipelineHandle)
    (scratch : Scratch) (dataOffset : UInt64) (instances : UInt32) :
    OutputStep :=
  .drawn (pass.draw.withInstances instances).command
    (pass.boundTo derived (scratch.target pass.settings
      ((instances - 1).toUInt64 * Work.counterSize) dataOffset))

theorem outputSteps_drawRun (pass : Pass) (derived : PipelineHandle)
    (dataOffset : UInt64) (recording : Recording) (run : List UInt32) :
    (Work.drawRun pass derived dataOffset recording run).outputSteps =
      recording.outputSteps ++
        run.map (pass.instanceStep derived recording.scratch dataOffset) := by
  -- A draw leaves nothing bound but its target, and the next one replaces that.
  have folded (bound : Recording)
      (same : ∃ use, bound.scratch =
        { recording.scratch with outputUse := use })
      (carries : ∀ target, { bound.bound with target := some target } =
        pass.boundTo derived target) :
      (run.foldl (Work.drawFirst pass dataOffset) bound).outputSteps =
        bound.outputSteps ++
          run.map
            (pass.instanceStep derived recording.scratch dataOffset) := by
    induction run generalizing bound with
    | nil => simp
    | cons instances rest induction =>
        obtain ⟨use, scratch⟩ := same
        have step : (Work.drawFirst pass dataOffset bound
            instances).outputSteps = bound.outputSteps ++
              [pass.instanceStep derived recording.scratch dataOffset
                instances] := by
          rw [Work.drawFirst, Recording.outputSteps_repeatDraw,
            Recording.outputSteps_bindOutput, Recording.bound_bindOutput,
            carries, scratch]
          rfl
        rw [List.foldl_cons, induction, step, List.map_cons,
          List.append_assoc]
        · rfl
        · exact ⟨.streamOut, by simp [Work.drawFirst, scratch]⟩
        · intro target
          rw [← carries target]
          simp [Work.drawFirst]
  rw [Work.drawRun, folded]
  · simp
  · exact ⟨recording.scratch.outputUse, by simp⟩
  · intro target
    simp [Pass.boundTo]

def runLists (pass : Pass) (derived : PipelineHandle) (dataOffset : UInt64)
    (recording : Recording) : (runs : List (List UInt32)) → List CommandList
  | [] => []
  | run :: rest =>
      let drawn := Work.drawRun pass derived dataOffset recording run
      drawn.list ::
        runLists pass derived dataOffset { scratch := drawn.scratch } rest

theorem length_runLists (recording : Recording)
    (runs : List (List UInt32)) :
    (runLists pass derived dataOffset recording runs).length =
      runs.length := by
  induction runs generalizing recording with
  | nil => rfl
  | cons run rest induction =>
      exact congrArg Nat.succ (induction _)

theorem exists_run_of_mem_runLists {recording : Recording}
    {runs : List (List UInt32)} {list : CommandList}
    (undrawn : recording.outputSteps.countP OutputStep.isDrawn = 0)
    (inside : list ∈ runLists pass derived dataOffset recording runs) :
    ∃ run ∈ runs, list.drawCount = run.length := by
  induction runs generalizing recording with
  | nil => cases inside
  | cons run rest induction =>
      rcases List.mem_cons.mp inside with rfl | later
      · refine ⟨run, List.mem_cons_self, ?_⟩
        have steps := outputSteps_drawRun pass derived dataOffset recording
          run
        rw [CommandList.drawCount_eq_outputSteps]
        change (Recording.outputSteps _).countP _ = _
        rw [steps, List.countP_append, undrawn, Nat.zero_add,
          List.countP_eq_length.mpr, List.length_map]
        intro step drawn
        obtain ⟨instances, -, rfl⟩ := List.mem_map.mp drawn
        rfl
      · obtain ⟨other, among, same⟩ := induction rfl later
        exact ⟨other, List.mem_cons_of_mem _ among, same⟩

theorem outputSteps_runLists (recording : Recording)
    (runs : List (List UInt32)) (any : runs ≠ []) :
    (runLists pass derived dataOffset recording runs).flatMap
        CommandList.outputSteps =
      recording.outputSteps ++ runs.flatten.map
        (pass.instanceStep derived recording.scratch dataOffset) := by
  induction runs generalizing recording with
  | nil => exact absurd rfl any
  | cons run rest induction =>
      have steps := outputSteps_drawRun pass derived dataOffset recording run
      rw [runLists, List.flatMap_cons, List.flatten_cons, List.map_append]
      change Recording.outputSteps _ ++ _ = _
      rw [steps, List.append_assoc]
      congr 2
      cases rest with
      | nil => rfl
      | cons next rest =>
          obtain ⟨use, same⟩ := Recording.scratch_drawRun pass derived
            dataOffset recording run
          rw [induction _ nofun, same]
          rfl

/-! ## Submission -/

/-- Lists handed over one after the other. Each is waited for before the next
one, and behind one that is refused there are no more. -/
inductive HandedOver : (lists : List CommandList) → (calls : List Call) →
    Except DeviceFailure Unit → Prop where
  | done : HandedOver [] [] (.ok ())
  | refused (list : CommandList) (unsent : List CommandList)
      (cause : DeviceFailure) :
      HandedOver (list :: unsent) [.execute list (.error cause)] (.error cause)
  | taken {list : CommandList} {rest : List CommandList} {calls : List Call}
      {outcome : Except DeviceFailure Unit}
      (later : HandedOver rest calls outcome) :
      HandedOver (list :: rest) (.execute list (.ok ()) :: .sync :: calls)
        outcome

def Call.outputSteps : Call → List OutputStep
  | execute list _ => list.outputSteps
  | _ => []

theorem HandedOver.outputSteps {lists : List CommandList} {calls : List Call}
    (handed : HandedOver lists calls (.ok ())) :
    calls.flatMap Call.outputSteps =
      lists.flatMap CommandList.outputSteps := by
  generalize whole : Except.ok () = outcome at handed
  induction handed with
  | done => rfl
  | refused => cases whole
  | taken later induction =>
      rw [List.flatMap_cons, List.flatMap_cons, List.flatMap_cons,
        induction whole]
      rfl

variable [Device σ] {before after : Workspace σ}

theorem Attempt.Ends.submitRuns {recording : Recording}
    {runs : List (List UInt32)} {outcome : Except CaptureFailure Scratch}
    (ends : (Work.submitRuns pass derived dataOffset recording runs).Ends
      before outcome after) :
    ∃ calls handed use,
      after.history = before.history ++ calls ∧
        HandedOver (runLists pass derived dataOffset recording runs) calls
          handed ∧
        outcome = (handed.map fun _ =>
          { recording.scratch with outputUse := use }).mapError
            .submission := by
  induction runs generalizing recording before with
  | nil =>
      rcases ends_pure.mp ends with ⟨rfl, rfl⟩
      exact ⟨[], .ok (), _, (List.append_nil _).symm, .done, rfl⟩
  | cons run rest induction =>
      rcases ends_bind.mp ends with
        ⟨_, submits, rfl⟩ | ⟨_, between, submits, goes_on⟩
      · rcases ends_adapt.mp submits with ⟨inner, ended, same⟩
        cases inner with
        | ok _ => cases same
        | error cause =>
            cases same
            exact ⟨_, .error cause, .common, ended.submit.2,
              .refused _ _ cause, rfl⟩
      · have taken := Ends.submit (succeeds_adapt.mp submits)
        obtain ⟨calls, handed, use, history, later, result⟩ :=
          induction goes_on
        obtain ⟨drawn, same⟩ := Recording.scratch_drawRun pass derived
          dataOffset recording run
        refine ⟨_, handed, use, ?_, later.taken, ?_⟩
        · rw [history, taken.2, List.append_assoc]
          rfl
        · rw [result, same]

def Pass.counterRegion (pass : Pass) : UInt64 :=
  roundUp (pass.draw.instanceCount.toUInt64 * Work.counterSize)
    (max pass.settings.counterBytes Work.counterSize)

/-- Measures a draw and asks for room for all that it needs behind the
counters. -/
def Work.roomForInstances (pass : Pass) (derived : PipelineHandle)
    (stride : UInt32) (scratch : Scratch) :
    Attempt CaptureFailure σ Scratch := do
  let (statistics, _) ← measure pass derived scratch
  (scratchFor pass.settings (saturatingAdd pass.counterRegion
    (primitiveBytes statistics.primitivesNeeded stride))).adapt
      .postStageOutOfMemory

theorem Work.drawInstanceCounts_eq (pass : Pass) (derived : PipelineHandle)
    (stride : UInt32) (scratch : Scratch) :
    (drawInstanceCounts pass derived stride scratch :
        Attempt CaptureFailure σ PostOutput) =
      roomForInstances pass derived stride scratch >>= fun grown =>
        submitRuns pass derived pass.counterRegion
            (Recording.zeroOutput { scratch := grown })
            (instanceRuns pass.settings.drawsPerList
              pass.draw.instanceCount.toNat) >>= fun scratch =>
          pure { scratch, dataOffset := pass.counterRegion } := by
  rw [drawInstanceCounts, roomForInstances, bind_assoc]
  rfl

def instanceLists (pass : Pass) (derived : PipelineHandle)
    (grown : Scratch) : List CommandList :=
  runLists pass derived pass.counterRegion
    (Recording.zeroOutput { scratch := grown })
    (Work.instanceRuns pass.settings.drawsPerList
      pass.draw.instanceCount.toNat)

inductive Instanced (pass : Pass) (derived : PipelineHandle) (stride : UInt32)
    (measurement : Measurement) (before after : Workspace σ) :
    Except CaptureFailure PostOutput → Prop where
  /-- The measuring pass reported nothing. -/
  | unmeasured (untold : measurement.need? stride = none)
      (history : after.history =
        before.history ++ measurement.calls pass derived) :
      Instanced pass derived stride measurement before after
        (.error measurement.failure)
  /-- There is no set with room for what it reported. -/
  | denied (bytes : UInt64) {growth : List Call}
      (upkeep : ∀ call ∈ growth, call.isUpkeep = true)
      (history : after.history =
        before.history ++ measurement.calls pass derived ++ growth) :
      Instanced pass derived stride measurement before after
        (.error (.postStageOutOfMemory bytes))
  /-- The lists of all instances are handed over. -/
  | submitted {growth calls : List Call} (grown : Scratch)
      {handed : Except DeviceFailure Unit} (use : BufferUse)
      (upkeep : ∀ call ∈ growth, call.isUpkeep = true)
      (history : after.history =
        before.history ++ measurement.calls pass derived ++ growth ++ calls)
      (hands : HandedOver (instanceLists pass derived grown) calls handed) :
      Instanced pass derived stride measurement before after
        ((handed.map fun _ =>
          { scratch := { grown with outputUse := use }
            dataOffset := pass.counterRegion }).mapError .submission)

theorem Attempt.Ends.roomForInstances {stride : UInt32} {scratch : Scratch}
    {outcome : Except CaptureFailure Scratch}
    (ends : (Work.roomForInstances pass derived stride scratch).Ends before
      outcome after) :
    ∃ measurement : Measurement, measurement.scratch = scratch ∧
      ((outcome = .error measurement.failure ∧
          measurement.need? stride = none ∧
          after.history =
            before.history ++ measurement.calls pass derived) ∨
        ∃ growth, (∀ call ∈ growth, call.isUpkeep = true) ∧
          after.history =
            before.history ++ measurement.calls pass derived ++ growth ∧
          ∀ cause, outcome = .error cause →
            ∃ bytes, cause = .postStageOutOfMemory bytes) := by
  rcases ends_bind.mp ends with ⟨cause, measures, rfl⟩ | ⟨⟨statistics, _⟩,
    there, measures, grows⟩
  · obtain ⟨measurement, same, history, -, ⟨_, impossible, -⟩ | ⟨why, untold⟩⟩
      := measures.measure stride
    · cases impossible
    · cases why
      exact ⟨measurement, same, .inl ⟨rfl, untold, history⟩⟩
  · obtain ⟨measurement, same, history, -, -⟩ := measures.measure stride
    obtain ⟨inner, answers, rfl⟩ := ends_adapt.mp grows
    obtain ⟨growth, grew, upkeep⟩ := answers.scratchFor.upkeep
    refine ⟨measurement, same, .inr ⟨growth, upkeep, history ▸ grew, ?_⟩⟩
    intro cause failed
    cases inner with
    | ok _ => cases failed
    | error bytes =>
        cases failed
        exact ⟨bytes, rfl⟩

theorem Attempt.Ends.drawInstanceCounts {stride : UInt32} {scratch : Scratch}
    {outcome : Except CaptureFailure PostOutput}
    (ends : (Work.drawInstanceCounts pass derived stride scratch).Ends before
      outcome after) :
    ∃ measurement : Measurement, measurement.scratch = scratch ∧
      Instanced pass derived stride measurement before after outcome := by
  rw [Work.drawInstanceCounts_eq] at ends
  rcases ends_bind.mp ends with
    ⟨cause, stops, rfl⟩ | ⟨grown, there, room, draws⟩
  · obtain ⟨measurement, same,
      ⟨why, untold, history⟩ | ⟨growth, upkeep, history, denied⟩⟩ :=
        stops.roomForInstances
    · cases why
      exact ⟨measurement, same, .unmeasured untold history⟩
    · obtain ⟨bytes, rfl⟩ := denied cause rfl
      exact ⟨measurement, same, .denied bytes upkeep history⟩
  · obtain ⟨measurement, same, ⟨impossible, -⟩ | ⟨growth, upkeep, grew, -⟩⟩ :=
      room.roomForInstances
    · cases impossible
    · refine ⟨measurement, same, ?_⟩
      rcases ends_bind.mp draws with
        ⟨cause, stops, rfl⟩ | ⟨drawn, _, submits, gives⟩
      · obtain ⟨calls, handed, use, history, hands, result⟩ := stops.submitRuns
        rw [grew] at history
        cases handed with
        | ok _ => cases result
        | error cause =>
            cases result
            exact .submitted grown use upkeep history hands
      · rcases ends_pure.mp gives with ⟨rfl, rfl⟩
        obtain ⟨calls, handed, use, history, hands, result⟩ :=
          submits.submitRuns
        rw [grew] at history
        cases handed with
        | ok _ =>
            cases result
            rw [Recording.scratch_zeroOutput]
            exact .submitted grown _ upkeep history hands
        | error cause => cases result

end

/-! ## All instances -/

theorem Pass.slot_inside (pass : Pass) {index : Nat}
    (less : index < pass.draw.instanceCount.toNat) :
    (counterSlot index).toNat = 8 * index ∧
      8 * index + 8 ≤ pass.counterRegion.toNat := by
  have few := pass.draw.instanceCount.toNat_lt
  have slots : (pass.draw.instanceCount.toUInt64 * Work.counterSize).toNat =
      8 * pass.draw.instanceCount.toNat := by
    rw [UInt64.toNat_mul, UInt32.toNat_toUInt64]
    simp only [Work.counterSize, UInt64.reduceToNat]
    omega
  have granule : 0 < (max pass.settings.counterBytes
      Work.counterSize).toNat := by
    rw [UInt64.toNat_max]
    exact Nat.lt_of_lt_of_le (by decide) (Nat.le_max_right _ _)
  have room : _ ≤ pass.counterRegion.toNat ∨ _ ≤ pass.counterRegion.toNat :=
    le_roundUp granule
  rw [slots] at room
  constructor
  · rw [counterSlot, UInt64.toNat_ofNat']
    omega
  · simp only [UInt64.size] at room
    omega

theorem Pass.instanceStep_eq (pass : Pass) (derived : PipelineHandle)
    (scratch : Scratch) (dataOffset : UInt64) {index : Nat}
    (small : index + 1 < 2 ^ 32) :
    pass.instanceStep derived scratch dataOffset (UInt32.ofNat (index + 1)) =
      .drawn (pass.draw.withInstances (UInt32.ofNat (index + 1))).command
        (pass.boundTo derived
          (scratch.target pass.settings (counterSlot index) dataOffset)) := by
  rw [instanceStep, counterOffset_eq_slot small]

theorem outputSteps_instanceLists (pass : Pass)
    (any : 0 < pass.draw.instanceCount.toNat) (derived : PipelineHandle)
    (grown : Scratch) :
    (instanceLists pass derived grown).flatMap CommandList.outputSteps =
      .zeroed grown.output ::
        (List.range pass.draw.instanceCount.toNat).map fun index =>
          .drawn (pass.draw.withInstances (UInt32.ofNat (index + 1))).command
            (pass.boundTo derived (grown.target pass.settings
              (counterSlot index) pass.counterRegion)) := by
  have positive : 0 < pass.settings.drawsPerList :=
    Nat.lt_of_lt_of_le Nat.one_pos (Nat.le_max_right _ _)
  rw [instanceLists,
    outputSteps_runLists _ _ (instanceRuns_ne_nil positive any),
    flatten_instanceRuns positive, instancesFrom, List.range'_eq_map_range,
    List.map_map, List.map_map, Recording.outputSteps_zeroOutput,
    Recording.scratch_zeroOutput, Recording.outputSteps_fresh, List.nil_append,
    List.singleton_append]
  congr 1
  refine List.map_congr_left fun index inside => ?_
  have few := pass.draw.instanceCount.toNat_lt
  have less := List.mem_range.mp inside
  have number : 0 + 1 + index = index + 1 := by omega
  simp only [Function.comp_apply]
  rw [number, pass.instanceStep_eq derived _ _ (by omega)]
  rfl

def Pass.flushing (pass : Pass) (interval : UInt32) : Pass :=
  { pass with
    settings := { pass.settings with instanceFlushInterval := interval } }

theorem Attempt.Succeeds.drawInstanceCounts [Device σ]
    {before after : Workspace σ} {pass : Pass} {derived : PipelineHandle}
    {stride : UInt32} {scratch : Scratch} {output : PostOutput}
    (succeeds : (Work.drawInstanceCounts pass derived stride scratch).Succeeds
      before output after) :
    ∃ grown there,
      (Work.roomForInstances pass derived stride scratch).Succeeds before grown
          there ∧
        after.history.flatMap Call.outputSteps =
          there.history.flatMap Call.outputSteps ++
            (instanceLists pass derived grown).flatMap
              CommandList.outputSteps := by
  rw [Work.drawInstanceCounts_eq] at succeeds
  obtain ⟨grown, there, room, draws⟩ := succeeds_bind.mp succeeds
  obtain ⟨drawn, _, submits, gives⟩ := succeeds_bind.mp draws
  obtain ⟨calls, handed, use, history, hands, result⟩ :=
    Ends.submitRuns submits
  rcases succeeds_pure.mp gives with ⟨rfl, rfl⟩
  refine ⟨grown, there, room, ?_⟩
  cases handed with
  | ok _ =>
      rw [history, List.flatMap_append, hands.outputSteps]
      rfl
  | error cause => cases result

/-- However many draws go to a list, the draws of 1, 2, ... instances are all
made, each once and at a counter of its own in front of the vertices, and the
output buffer is zeroed before the first of them alone. -/
theorem Work.drawInstanceCounts_draws [Device σ] {pass : Pass}
    (several : 1 < pass.draw.instanceCount) (derived : PipelineHandle)
    (stride : UInt32) (scratch : Scratch) (before : Workspace σ) :
    let count := pass.draw.instanceCount.toNat
    let size := pass.settings.drawsPerList
    (∃ outcome after measurement,
      (drawInstanceCounts pass derived stride scratch).run.run before =
          (outcome, after) ∧
        measurement.scratch = scratch ∧
        Instanced pass derived stride measurement before after outcome) ∧
      (∀ grown : Scratch,
        let lists := instanceLists pass derived grown
        lists.flatMap CommandList.outputSteps =
            .zeroed grown.output :: (List.range count).map (fun index =>
              .drawn
                (pass.draw.withInstances (UInt32.ofNat (index + 1))).command
                (pass.boundTo derived (grown.target pass.settings
                  (counterSlot index) pass.counterRegion))) ∧
          lists.length = (count + size - 1) / size ∧
          ∀ list ∈ lists, 0 < list.drawCount ∧ list.drawCount ≤ size) ∧
      (∀ index < count, (counterSlot index).toNat = 8 * index ∧
        8 * index + 8 ≤ pass.counterRegion.toNat) ∧
      ∀ interval output finish other ending,
        (drawInstanceCounts pass derived stride scratch).run.run before =
            (.ok output, finish) →
          (drawInstanceCounts (pass.flushing interval) derived stride
              scratch).run.run before = (.ok other, ending) →
            ending.history.flatMap Call.outputSteps =
              finish.history.flatMap Call.outputSteps := by
  intro count size
  have any : 0 < pass.draw.instanceCount.toNat :=
    Nat.lt_of_succ_lt (UInt32.lt_iff_toNat_lt.mp several)
  have positive : 0 < pass.settings.drawsPerList :=
    Nat.lt_of_lt_of_le Nat.one_pos (Nat.le_max_right _ _)
  refine ⟨?_, fun grown => ⟨?_, ?_, ?_⟩, fun index less =>
    pass.slot_inside less, ?_⟩
  · obtain ⟨outcome, after, ends⟩ := Attempt.exists_ends
      (drawInstanceCounts pass derived stride scratch) before
    obtain ⟨measurement, same, instanced⟩ := ends.drawInstanceCounts
    exact ⟨outcome, after, measurement, ends, same, instanced⟩
  · exact outputSteps_instanceLists pass any derived grown
  · rw [instanceLists, length_runLists, length_instanceRuns]
  · intro list inside
    obtain ⟨run, among, drawn⟩ := exists_run_of_mem_runLists (by
      rw [Recording.outputSteps_zeroOutput]
      rfl) inside
    rw [drawn]
    exact length_of_mem_instanceRuns positive among
  · intro interval output finish other ending first second
    obtain ⟨grown, there, room, steps⟩ :=
      Attempt.Succeeds.drawInstanceCounts first
    obtain ⟨_, _, same_room, same_steps⟩ :=
      Attempt.Succeeds.drawInstanceCounts second
    -- The length of the lists is not asked for before the room is there.
    have same : (roomForInstances pass derived stride scratch).Succeeds before
      _ _ := same_room
    cases room.symm.trans same
    rw [steps, same_steps, outputSteps_instanceLists pass any,
      outputSteps_instanceLists (pass.flushing interval) any]
    rfl

namespace Scripted

def threefoldPass : Pass :=
  { depthPass.flushing 2 with draw := depthPass.draw.withInstances 3 }

end Scripted

open Scripted in
/-- The first two draws go to one list, and the third one to another. -/
theorem Work.drawInstanceCounts_draws_three :
    let scratch : Scratch := ⟨40, ⟨1⟩, ⟨2⟩, ⟨3⟩, ⟨4⟩, .common⟩
    let grown : Scratch := ⟨160, ⟨5⟩, ⟨6⟩, ⟨7⟩, ⟨8⟩, .streamOut⟩
    let output : PostOutput := { scratch := grown, dataOffset := 32 }
    1 < threefoldPass.draw.instanceCount ∧
      (instanceLists threefoldPass ⟨9⟩ grown).length = 2 ∧
      ∃ after measurement,
        (drawInstanceCounts threefoldPass ⟨9⟩ 4 scratch).run.run crowdedStart =
            (.ok output, after) ∧
          Instanced threefoldPass ⟨9⟩ 4 measurement crowdedStart after
            (.ok output) := by
  intro scratch grown output
  have several : 1 < threefoldPass.draw.instanceCount := by decide
  rcases drawInstanceCounts_draws several ⟨9⟩ 4 scratch crowdedStart with
    ⟨⟨outcome, after, measurement, ran, -, instanced⟩, lists, -⟩
  have drawn : outcome = .ok output := by
    have first : ((drawInstanceCounts threefoldPass ⟨9⟩ 4 scratch).run.run
        crowdedStart).1 = outcome := congrArg Prod.fst ran
    rw [← first]
    decide +kernel
  subst drawn
  exact ⟨several, (lists grown).2.1, after, measurement, ran, instanced⟩

end MeshCapture
