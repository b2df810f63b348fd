import MeshCapture.Proofs.Contents.Stored
import MeshCapture.Proofs.Sizing.Capacity
import MeshCapture.Proofs.Sizing.OutputSteps
import Mathlib.Data.List.Chain

/-! # Trials of a draw

A draw of one instance is tried over larger and larger scratch sets until the
pass that measures it has also captured it. What a trial was and what the device
answered to it is kept here, so that the end of all trials can be told from
them. -/

namespace MeshCapture

open Work (PostOutput)

variable {σ : Type}

/-! ## One trial -/

structure Measurement where
  scratch : Scratch
  taken : Except DeviceFailure Unit
  /-- What was read of the statistics, if the list was taken. -/
  statistics : Except DeviceFailure ByteArray

namespace Measurement

def calls (pass : Pass) (derived : PipelineHandle)
    (measurement : Measurement) : List Call :=
  let list := (Work.measuringPass pass derived measurement.scratch).list
  match measurement.taken with
  | .error cause => [.execute list (.error cause)]
  | .ok () =>
      [.execute list (.ok ()), .sync,
        .readBuffer measurement.scratch.staging 0 16 measurement.statistics]

/-- The bytes for all primitives that the draw needs, as far as a word tells
them, if the pass reported any. -/
def need? (stride : UInt32) (measurement : Measurement) : Option UInt64 :=
  match measurement.taken, measurement.statistics with
  | .ok (), .ok bytes =>
      (StreamOut.Statistics.decode bytes).map fun statistics =>
        saturate (3 * stride.toNat * statistics.primitivesNeeded.toNat)
  | _, _ => none

def failure (measurement : Measurement) : CaptureFailure :=
  match measurement.taken, measurement.statistics with
  | .error cause, _ => .submission cause
  | .ok (), .error cause => .statistics cause
  | .ok (), .ok _ =>
      .statistics ⟨.invalidArgument, "resolved query data is truncated"⟩

def Overflows (stride : UInt32) (measurement : Measurement) (need : UInt64) :
    Prop :=
  measurement.need? stride = some need ∧ measurement.scratch.capacity < need

end Measurement

structure Trial extends Measurement where
  regrowth : List Call := []

namespace Trial

def calls (pass : Pass) (derived : PipelineHandle) (trial : Trial) :
    List Call :=
  trial.toMeasurement.calls pass derived ++ trial.regrowth

/-- Behind a pass that reported more than fitted, the next one has room for
that much. -/
def LeadsTo (stride : UInt32) (trial next : Trial) : Prop :=
  ∃ need, trial.Overflows stride need ∧ need ≤ next.scratch.capacity

end Trial

inductive Concluded (pass : Pass) (derived : PipelineHandle) (stride : UInt32)
    (exhausted : Prop) (last : Trial) :
    Except CaptureFailure PostOutput → Option Scratch → Prop where
  /-- The pass reported no more than fits, so that it has captured all. -/
  | fitted (need : UInt64) (told : last.need? stride = some need)
      (fits : need ≤ last.scratch.capacity) (still : last.regrowth = []) :
      Concluded pass derived stride exhausted last
        (.ok
          { scratch := (Work.measuringPass pass derived last.scratch).scratch
            dataOffset := pass.settings.counterBytes })
        (some (Work.measuringPass pass derived last.scratch).scratch)
  /-- The pass reported nothing. -/
  | failed (left : Option Scratch) (untold : last.need? stride = none)
      (still : last.regrowth = []) :
      Concluded pass derived stride exhausted last (.error last.failure) left
  /-- There is no larger set to be had. -/
  | denied (need : UInt64) (overflows : last.Overflows stride need)
      (why : pass.settings.maxScratchBytes ≤
          pass.settings.grownCapacity last.scratch.capacity need ∨
        ∃ call ∈ last.regrowth, call.isFailedCreation = true) :
      Concluded pass derived stride exhausted last
        (.error (.postStageOutOfMemory
          (pass.settings.grownCapacity last.scratch.capacity need)))
        none
  /-- There is a larger set, but no trial left. -/
  | unsettled (need : UInt64) (grown : Scratch)
      (overflows : last.Overflows stride need) (spent : exhausted) :
      Concluded pass derived stride exhausted last
        (.error (.postStageOutOfMemory need)) (some grown)

theorem Concluded.mono {pass : Pass} {derived : PipelineHandle}
    {stride : UInt32} {exhausted other : Prop} {last : Trial}
    {outcome : Except CaptureFailure PostOutput} {left : Option Scratch}
    (concluded : Concluded pass derived stride exhausted last outcome left)
    (implies : exhausted → other) :
    Concluded pass derived stride other last outcome left := by
  cases concluded with
  | fitted need told fits still => exact .fitted need told fits still
  | failed _ untold still => exact .failed _ untold still
  | denied need overflows why => exact .denied need overflows why
  | unsettled need grown overflows spent =>
      exact .unsettled need grown overflows (implies spent)

theorem Work.primitiveBytes_eq (primitives : UInt64) (stride : UInt32) :
    primitiveBytes primitives stride =
      saturate (3 * stride.toNat * primitives.toNat) := by
  apply UInt64.toNat_inj.mp
  have three : verticesPerPrimitive.toNat = 3 := rfl
  rw [primitiveBytes, toNat_saturatingMul, toNat_saturatingMul, toNat_saturate,
    three, UInt32.toNat_toUInt64, Nat.mul_right_comm, Nat.mul_comm 3]
  rcases Nat.le_total (primitives.toNat * 3) (UInt64.size - 1) with few | many
  · rw [Nat.min_eq_left few]
  · rw [Nat.min_eq_right many]
    rcases Nat.eq_zero_or_pos stride.toNat with zero | positive
    · rw [zero, Nat.mul_zero, Nat.mul_zero]
    · have left : UInt64.size - 1 ≤ (UInt64.size - 1) * stride.toNat :=
        Nat.le_mul_of_pos_right _ positive
      have right : UInt64.size - 1 ≤ primitives.toNat * 3 * stride.toNat :=
        Nat.le_trans many (Nat.le_mul_of_pos_right _ positive)
      rw [Nat.min_eq_right left, Nat.min_eq_right right]

/-! ## One pass -/

section

variable [Device σ] {before after : Workspace σ} {pass : Pass}
  {derived : PipelineHandle} {scratch : Scratch}

theorem Attempt.Ends.measure (stride : UInt32)
    {outcome : Except CaptureFailure (StreamOut.Statistics × Scratch)}
    (ends : (Work.measure pass derived scratch).Ends before outcome after) :
    ∃ measurement : Measurement, measurement.scratch = scratch ∧
      after.history = before.history ++ measurement.calls pass derived ∧
      after.scratch = some (Work.measuringPass pass derived scratch).scratch ∧
      ((∃ statistics, outcome = .ok (statistics,
            (Work.measuringPass pass derived scratch).scratch) ∧
          measurement.need? stride = some
            (Work.primitiveBytes statistics.primitivesNeeded stride)) ∨
        outcome = .error measurement.failure ∧
          measurement.need? stride = none) := by
  rcases ends_bind.mp ends with ⟨_, submits, rfl⟩ | ⟨_, there, submits, rest⟩
  · rcases ends_adapt.mp submits with ⟨inner, refused, same⟩
    cases inner with
    | ok _ => cases same
    | error cause =>
        cases same
        exact ⟨⟨scratch, .error cause, .error cause⟩, rfl, refused.submit.2,
          refused.submit.1, .inr ⟨rfl, rfl⟩⟩
  · have taken := Ends.submit (succeeds_adapt.mp submits)
    have reads {outcome : Except DeviceFailure ByteArray}
        {finish : Workspace σ}
        (read : (Work.readBuffer scratch.staging 0 16).Ends there outcome
          finish) :
        finish.history = before.history ++
            Measurement.calls pass derived ⟨scratch, .ok (), outcome⟩ ∧
          finish.scratch =
            some (Work.measuringPass pass derived scratch).scratch := by
      refine ⟨?_, read.adds.scratch.trans taken.1⟩
      rw [read.adds.history, taken.2, List.append_assoc]
      rfl
    rcases ends_bind.mp rest with ⟨_, reading, rfl⟩ | ⟨bytes, held, reading,
      told⟩
    · rcases ends_adapt.mp reading with ⟨inner, read, same⟩
      cases inner with
      | ok _ => cases same
      | error cause =>
          cases same
          exact ⟨_, rfl, (reads read).1, (reads read).2, .inr ⟨rfl, rfl⟩⟩
    · have read := reads (succeeds_adapt.mp reading)
      cases decoded : StreamOut.Statistics.decode bytes with
      | none =>
          simp only [decoded] at told
          rcases ends_throw.mp told with ⟨rfl, rfl⟩
          exact ⟨_, rfl, read.1, read.2,
            .inr ⟨rfl, congrArg (Option.map _) decoded⟩⟩
      | some statistics =>
          simp only [decoded] at told
          rcases ends_pure.mp told with ⟨rfl, rfl⟩
          refine ⟨_, rfl, read.1, read.2, .inl ⟨statistics, rfl, ?_⟩⟩
          rw [Work.primitiveBytes_eq]
          exact congrArg (Option.map _) decoded

/-! ## All trials -/

/-- All trials of a draw: those in `front` reported more than fitted and were
followed by a growth, and `last` ended the search. -/
structure Search (pass : Pass) (derived : PipelineHandle) (stride : UInt32)
    (scratch : Scratch) (attempts : Nat) (front : List Trial) (last : Trial)
    (before : Workspace σ) (outcome : Except CaptureFailure PostOutput)
    (after : Workspace σ) : Prop where
  first : ∀ trial ∈ (front ++ [last]).head?, trial.scratch = scratch
  bounded : front.length < attempts
  history : after.history =
    before.history ++ (front ++ [last]).flatMap (Trial.calls pass derived)
  upkeep : ∀ trial ∈ front ++ [last], ∀ call ∈ trial.regrowth,
    call.isUpkeep = true
  chained : (front ++ [last]).IsChain (Trial.LeadsTo stride)
  concluded : Concluded pass derived stride (front.length + 1 = attempts) last
    outcome after.scratch

omit [Device σ] in
theorem Answered.regrown (sound : pass.settings.Sound) {need : UInt64}
    {present : Scratch} {outcome : Except UInt64 Scratch}
    (there : before.scratch = some present) (short : present.capacity < need)
    (answered : Answered pass.settings need before outcome after) :
    ∃ regrowth, after.history = before.history ++ regrowth ∧
      (∀ call ∈ regrowth, call.isUpkeep = true) ∧
      ((∃ grown, outcome = .ok grown ∧ after.scratch = some grown ∧
          need ≤ grown.capacity) ∨
        outcome =
            .error (pass.settings.grownCapacity present.capacity need) ∧
          after.scratch = none ∧
          (pass.settings.maxScratchBytes ≤
              pass.settings.grownCapacity present.capacity need ∨
            ∃ call ∈ regrowth, call.isFailedCreation = true)) := by
  have capacity : before.capacity = present.capacity := by
    rw [Workspace.capacity, there]
    rfl
  cases answered with
  | kept same enough =>
      cases there.symm.trans same
      exact (UInt64.not_lt.mpr enough short).elim
  | @replaced grown _ lacking grew accepted unused history placed =>
      rw [List.append_assoc] at history
      refine ⟨_, history, List.forall_mem_append.mpr
        ⟨before.retirement_upkeep, grown.creations_upkeep _⟩,
        .inl ⟨grown, rfl, placed, ?_⟩⟩
      rw [grew] at accepted ⊢
      exact UInt64.le_iff_toNat_le.mpr (sound.required_le accepted)
  | refused lacking large history absent =>
      rw [capacity] at large
      exact ⟨_, history, before.retirement_upkeep,
        .inr ⟨by rw [capacity], absent, .inl large⟩⟩
  | @abandoned _ made lacking accepted abandons history absent =>
      rw [List.append_assoc] at history
      refine ⟨_, history, List.forall_mem_append.mpr
        ⟨before.retirement_upkeep, abandons.upkeep⟩,
        .inr ⟨by rw [capacity], absent, .inr ?_⟩⟩
      obtain ⟨call, inside, failed⟩ := abandons.exists_failed
      exact ⟨call, List.mem_append_right _ inside, failed⟩

theorem Attempt.Ends.regrow (sound : pass.settings.Sound) {need : UInt64}
    {present : Scratch} {next : Scratch → Attempt CaptureFailure σ PostOutput}
    {outcome : Except CaptureFailure PostOutput}
    (there : before.scratch = some present) (short : present.capacity < need)
    (ends : Ends
      ((Work.scratchFor pass.settings need).adapt .postStageOutOfMemory >>=
        next : Attempt CaptureFailure σ PostOutput)
      before outcome after) :
    let denied := pass.settings.grownCapacity present.capacity need
    ∃ regrowth, (∀ call ∈ regrowth, call.isUpkeep = true) ∧
      ((after.history = before.history ++ regrowth ∧ after.scratch = none ∧
          outcome = .error (.postStageOutOfMemory denied) ∧
          (pass.settings.maxScratchBytes ≤ denied ∨
            ∃ call ∈ regrowth, call.isFailedCreation = true)) ∨
        ∃ grown between, between.history = before.history ++ regrowth ∧
          between.scratch = some grown ∧ need ≤ grown.capacity ∧
          (next grown).Ends between outcome after) := by
  intro denied
  rcases ends_bind.mp ends with
    ⟨cause, grows, rfl⟩ | ⟨grown, between, grows, goes_on⟩
  · obtain ⟨inner, denies, same⟩ := ends_adapt.mp grows
    rcases denies.scratchFor.regrown sound there short with
      ⟨regrowth, grew, upkeep, ⟨_, rfl, _⟩ | ⟨rfl, gone, why⟩⟩
    · cases same
    · cases same
      exact ⟨regrowth, upkeep, .inl ⟨grew, gone, rfl, why⟩⟩
  · rcases (Ends.scratchFor (succeeds_adapt.mp grows)).regrown sound there
      short with
      ⟨regrowth, grew, upkeep, ⟨_, same, placed, room⟩ | ⟨impossible, _⟩⟩
    · cases same
      exact ⟨regrowth, upkeep,
        .inr ⟨grown, between, grew, placed, room, goes_on⟩⟩
    · cases impossible

theorem Attempt.Ends.firstTrial (sound : pass.settings.Sound)
    {stride : UInt32} {unsettled : UInt64} {attempts : Nat}
    {outcome : Except CaptureFailure PostOutput}
    (ends : (Work.drawUntilFitting pass derived stride unsettled scratch
      (attempts + 1)).Ends before outcome after) :
    ∃ trial : Trial, trial.scratch = scratch ∧
      (∀ call ∈ trial.regrowth, call.isUpkeep = true) ∧
      ((after.history = before.history ++ trial.calls pass derived ∧
          Concluded pass derived stride False trial outcome after.scratch) ∨
        ∃ need grown between, trial.Overflows stride need ∧
          need ≤ grown.capacity ∧ between.scratch = some grown ∧
          between.history = before.history ++ trial.calls pass derived ∧
          (Work.drawUntilFitting pass derived stride need grown
            attempts).Ends between outcome after) := by
  have capacity : (Work.measuringPass pass derived scratch).scratch.capacity =
      scratch.capacity := by
    rw [scratch_measuringPass]
  rcases ends_bind.mp ends with
    ⟨cause, measures, rfl⟩ | ⟨⟨statistics, measured⟩, there, measures, rest⟩
  · rcases measures.measure stride with
      ⟨measurement, same, history, left, ⟨_, impossible, _⟩ | ⟨why, untold⟩⟩
    · cases impossible
    · cases why
      refine ⟨⟨measurement, []⟩, same, List.forall_mem_nil _, .inl ⟨?_, ?_⟩⟩
      · rw [history, Trial.calls, List.append_nil]
      · exact .failed _ untold rfl
  · rcases Ends.measure stride measures with
      ⟨measurement, rfl, history, left, ⟨_, given, told⟩ | ⟨impossible, _⟩⟩
    · cases given
      simp only [capacity] at rest
      split at rest
      · next fits =>
          rcases ends_pure.mp rest with ⟨rfl, rfl⟩
          refine ⟨⟨measurement, []⟩, rfl, List.forall_mem_nil _, .inl ⟨?_, ?_⟩⟩
          · rw [history, Trial.calls, List.append_nil]
          · rw [left]
            exact .fitted _ told fits rfl
      · next short =>
          have short := UInt64.not_le.mp short
          obtain ⟨regrowth, upkeep, gives⟩ :=
            regrow sound left (capacity.symm ▸ short) rest
          rw [capacity] at gives
          have followed {finish : Workspace σ}
              (grew : finish.history = there.history ++ regrowth) :
              finish.history = before.history ++
                Trial.calls pass derived ⟨measurement, regrowth⟩ := by
            rw [grew, history, List.append_assoc]
            rfl
          refine ⟨⟨measurement, regrowth⟩, rfl, upkeep, ?_⟩
          rcases gives with ⟨grew, gone, rfl, why⟩ | ⟨grown, between, grew,
            placed, room, again⟩
          · refine .inl ⟨followed grew, ?_⟩
            rw [gone]
            exact .denied _ ⟨told, short⟩ why
          · exact .inr ⟨_, grown, between, ⟨told, short⟩, room, placed,
              followed grew, again⟩
    · cases impossible

theorem Attempt.Ends.drawUntilFitting (sound : pass.settings.Sound)
    {stride : UInt32} {unsettled : UInt64} {attempts : Nat}
    {outcome : Except CaptureFailure PostOutput}
    (ends : (Work.drawUntilFitting pass derived stride unsettled scratch
      (attempts + 1)).Ends before outcome after) :
    ∃ front last, Search pass derived stride scratch (attempts + 1) front last
      before outcome after := by
  -- What the first trial leaves is the start of the others.
  induction attempts generalizing before unsettled scratch with
  | zero =>
      rcases ends.firstTrial sound with
        ⟨trial, same, upkeep, ⟨history, concluded⟩ | ⟨need, grown, between,
          overflows, -, placed, history, again⟩⟩
      · exact ⟨[], trial, by simpa, Nat.one_pos, by simpa, by simpa,
          .singleton trial, concluded.mono nofun⟩
      · rcases ends_throw.mp again with ⟨rfl, rfl⟩
        exact ⟨[], trial, by simpa, Nat.one_pos, by simpa, by simpa,
          .singleton trial, placed ▸ .unsettled need grown overflows rfl⟩
  | succ attempts induction =>
      rcases ends.firstTrial sound with
        ⟨trial, same, upkeep, ⟨history, concluded⟩ | ⟨need, grown, between,
          overflows, room, placed, history, again⟩⟩
      · exact ⟨[], trial, by simpa, Nat.succ_pos _, by simpa, by simpa,
          .singleton trial, concluded.mono nofun⟩
      · obtain ⟨front, last, others⟩ := induction again
        refine ⟨trial :: front, last, by simpa, Nat.succ_lt_succ others.bounded,
          ?_, ?_, ?_, others.concluded.mono (congrArg Nat.succ)⟩
        · rw [others.history, history, List.append_assoc]
          rfl
        · exact List.forall_mem_cons.mpr ⟨upkeep, others.upkeep⟩
        · refine List.isChain_cons.mpr ⟨fun next inside => ?_, others.chained⟩
          exact ⟨need, overflows, others.first next inside ▸ room⟩

end

/-! ## The end of a search -/

namespace Search

variable {pass : Pass} {derived : PipelineHandle} {stride : UInt32}
  {scratch : Scratch} {attempts : Nat} {front : List Trial} {last : Trial}
  {before after : Workspace σ}
  {outcome : Except CaptureFailure PostOutput}

theorem overflows_of_mem_front
    (search : Search pass derived stride scratch attempts front last before
      outcome after) {trial : Trial} (inside : trial ∈ front) :
    ∃ need, trial.Overflows stride need := by
  have chained := search.chained
  clear search
  induction front with
  | nil => cases inside
  | cons head front induction =>
      rw [List.cons_append, List.isChain_cons] at chained
      rcases List.mem_cons.mp inside with rfl | later
      · cases front with
        | nil =>
            obtain ⟨need, overflows, -⟩ := chained.1 last rfl
            exact ⟨need, overflows⟩
        | cons next _ =>
            obtain ⟨need, overflows, -⟩ := chained.1 next rfl
            exact ⟨need, overflows⟩
      · exact induction later chained.2

theorem outOfMemory_iff
    (search : Search pass derived stride scratch attempts front last before
      outcome after) :
    (∃ bytes, outcome = .error (.postStageOutOfMemory bytes)) ↔
      ∀ trial ∈ front ++ [last], ∃ need, trial.Overflows stride need := by
  have split : (∀ trial ∈ front ++ [last],
      ∃ need, trial.Overflows stride need) ↔
        ∃ need, last.Overflows stride need := by
    rw [List.forall_mem_append, List.forall_mem_singleton]
    exact and_iff_right fun trial => search.overflows_of_mem_front
  rw [split]
  have concluded := search.concluded
  generalize after.scratch = left at concluded
  cases concluded with
  | fitted need told fits still =>
      refine iff_of_false nofun fun ⟨other, same, short⟩ => ?_
      cases told.symm.trans same
      exact UInt64.not_lt.mpr fits short
  | failed _ untold still =>
      refine iff_of_false (fun ⟨bytes, same⟩ => ?_) fun ⟨other, same, short⟩ =>
        nomatch untold.symm.trans same
      have blamed : last.failure = .postStageOutOfMemory bytes :=
        Except.error.inj same
      unfold Measurement.failure at blamed
      split at blamed <;> cases blamed
  | denied need overflows why => exact iff_of_true ⟨_, rfl⟩ ⟨need, overflows⟩
  | unsettled need grown overflows spent =>
      exact iff_of_true ⟨_, rfl⟩ ⟨need, overflows⟩

theorem settles
    (search : Search pass derived stride scratch attempts front last before
      outcome after) {need : UInt64}
    (told : ∀ trial ∈ front ++ [last], trial.need? stride = some need) :
    (front = [] ∧ last.scratch = scratch) ∨
      (∃ first, front = [first]) ∧ need ≤ last.scratch.capacity := by
  have room (trial next : Trial) (inside : trial ∈ front ++ [last])
      (leads : trial.LeadsTo stride next) : need ≤ next.scratch.capacity := by
    obtain ⟨other, ⟨same, -⟩, room⟩ := leads
    cases (told trial inside).symm.trans same
    exact room
  have chained := search.chained
  rcases front with _ | ⟨trial, _ | ⟨next, rest⟩⟩
  · exact .inl ⟨rfl, search.first last rfl⟩
  · refine .inr ⟨⟨trial, rfl⟩, room trial _ (by simp) ?_⟩
    exact (List.isChain_cons_cons.mp chained).1
  · have inside : next ∈ trial :: next :: rest :=
      List.mem_cons_of_mem _ List.mem_cons_self
    obtain ⟨other, same, short⟩ := search.overflows_of_mem_front inside
    cases (told next (by simp)).symm.trans same
    have fits := room trial _ (by simp)
      (List.isChain_cons_cons.mp chained).1
    exact (UInt64.not_lt.mpr fits short).elim

end Search

/-- However the needs that a device reports vary, the search takes at most the
trials it is allowed. It ends well only with a pass that has captured all it
reported, and for want of memory just if no pass has. A need that stays the same
is met by the second trial. -/
theorem Work.drawUntilFitting_searches [Device σ] {pass : Pass}
    (sound : pass.settings.Sound) (derived : PipelineHandle) (stride : UInt32)
    (scratch : Scratch) (before : Workspace σ) :
    let attempts := max pass.settings.statisticsAttempts.toNat 1
    ∃ outcome after front last,
      (drawUntilFitting pass derived stride 0 scratch attempts).run.run
          before = (outcome, after) ∧
        Search pass derived stride scratch attempts front last before outcome
          after ∧
        (∀ trial ∈ front ++ [last],
          (measuringPass pass derived trial.scratch).list.outputSteps =
            [.zeroed trial.scratch.output,
              .drawn pass.draw.command (pass.boundTo derived
                (trial.scratch.target pass.settings 0
                  pass.settings.counterBytes))]) ∧
        ((∃ bytes, outcome = .error (.postStageOutOfMemory bytes)) ↔
          ∀ trial ∈ front ++ [last], ∃ need, trial.Overflows stride need) ∧
        ∀ need,
          (∀ trial ∈ front ++ [last], trial.need? stride = some need ∧
            ∀ call ∈ trial.regrowth, call.isFailedCreation = false) →
          pass.settings.grownCapacity scratch.capacity need <
            pass.settings.maxScratchBytes →
          2 ≤ attempts → outcome.isOk = true ∧ front.length ≤ 1 := by
  intro attempts
  rcases Attempt.exists_ends
    (drawUntilFitting pass derived stride 0 scratch attempts) before with
    ⟨outcome, after, ends⟩
  obtain ⟨fewer, more⟩ : ∃ fewer, attempts = fewer + 1 :=
    Nat.exists_eq_add_one.mpr
      (Nat.lt_of_lt_of_le Nat.one_pos (Nat.le_max_right _ _))
  have ended := ends
  rw [more] at ended
  obtain ⟨front, last, search⟩ := ended.drawUntilFitting sound
  refine ⟨outcome, after, front, last, ends, more ▸ search,
    fun trial _ => outputSteps_measuringPass pass derived trial.scratch,
    search.outOfMemory_iff, ?_⟩
  intro need steady accepted several
  have told : ∀ trial ∈ front ++ [last], trial.need? stride = some need :=
    fun trial inside => (steady trial inside).1
  have last_told := told last (by simp)
  have settled := search.settles told
  have unmet {other : UInt64} (overflows : last.Overflows stride other) :
      front = [] ∧ last.scratch = scratch := by
    refine settled.resolve_right fun ⟨_, fits⟩ => ?_
    cases last_told.symm.trans overflows.1
    exact UInt64.not_lt.mpr fits overflows.2
  constructor
  · have concluded := search.concluded
    generalize after.scratch = left at concluded
    cases concluded with
    | fitted => rfl
    | failed _ untold => cases untold.symm.trans last_told
    | denied other overflows why =>
        cases last_told.symm.trans overflows.1
        rw [(unmet overflows).2] at why
        rcases why with refused | ⟨call, inside, failed⟩
        · exact (UInt64.not_le.mpr accepted refused).elim
        · exact nomatch ((steady last (by simp)).2 call inside).symm.trans
            failed
    | unsettled other grown overflows spent =>
        rw [(unmet overflows).1, ← more] at spent
        simp only [List.length_nil] at spent
        omega
  · rcases settled with ⟨none, -⟩ | ⟨⟨first, one⟩, -⟩
    · simp [none]
    · simp [one]

namespace Scripted

def crowdedStart : Workspace Device :=
  ((Work.scratchFor tinyScratch 16).run.run
    { device := { statistics := [⟨0, 10⟩, ⟨0, 10⟩] } }).2

end Scripted

open Scripted in
/-- The ten triangles of four-byte vertices do not fit at first. They fit the
second time, in four times the room. -/
theorem Work.drawUntilFitting_searches_twice :
    let attempts := max depthPass.settings.statisticsAttempts.toNat 1
    let scratch : Scratch := ⟨40, ⟨1⟩, ⟨2⟩, ⟨3⟩, ⟨4⟩, .common⟩
    let grown : Scratch := ⟨160, ⟨5⟩, ⟨6⟩, ⟨7⟩, ⟨8⟩, .streamOut⟩
    depthPass.settings.Sound ∧ crowdedStart.scratch = some scratch ∧
      ∃ after front last,
        (drawUntilFitting depthPass ⟨9⟩ 4 0 scratch attempts).run.run
            crowdedStart = (.ok { scratch := grown, dataOffset := 16 }, after) ∧
          Search depthPass ⟨9⟩ 4 scratch attempts front last crowdedStart
            (.ok { scratch := grown, dataOffset := 16 }) after := by
  intro attempts scratch grown
  have sound : depthPass.settings.Sound := by decide
  rcases drawUntilFitting_searches sound ⟨9⟩ 4 scratch crowdedStart with
    ⟨outcome, after, front, last, ran, search, -⟩
  have first : ((drawUntilFitting depthPass ⟨9⟩ 4 0 scratch
      attempts).run.run crowdedStart).1 = outcome := congrArg Prod.fst ran
  have fits : outcome = .ok { scratch := grown, dataOffset := 16 } := by
    rw [← first]
    decide +kernel
  subst fits
  exact ⟨sound, by decide +kernel, after, front, last, ran, search⟩

end MeshCapture
