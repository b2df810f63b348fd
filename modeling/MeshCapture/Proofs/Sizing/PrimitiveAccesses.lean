import MeshCapture.Proofs.Sizing.InstanceDraws
import MeshCapture.Proofs.Sizing.VertexAccesses

/-! # Accesses of the post stage

What this stage writes is known only from the device. The statistics tell how
much room to ask for, and the counters how much to read, but no more is read
than there is behind the counters. -/

namespace MeshCapture

open StageTask
open Work (PostOutput)

variable {σ : Type}

/-! ## Sizes -/

theorem StreamOut.Statistics.exists_decode {bytes : ByteArray}
    (enough : byteSize ≤ bytes.size) :
    ∃ statistics, decode bytes = some statistics := by
  simp only [byteSize] at enough
  obtain ⟨written, first⟩ := LittleEndian.exists_word64At
    (show 0 + 8 ≤ bytes.size by omega)
  obtain ⟨needed, second⟩ := LittleEndian.exists_word64At
    (show 8 + 8 ≤ bytes.size by omega)
  refine ⟨⟨written, needed⟩, ?_⟩
  rw [decode, first, second]
  rfl

theorem Scratch.Offers.instances_fit {pass : Pass} {stride : UInt32}
    {primitives : UInt64} {scratch : Scratch}
    (offers : scratch.Offers pass.settings (saturatingAdd pass.counterRegion
      (Work.primitiveBytes primitives stride)))
    (sound : pass.settings.Sound) :
    pass.counterRegion.toNat ≤ scratch.outputSize pass.settings ∧
      3 * stride.toNat * primitives.toNat ≤
        (scratch.room pass.settings pass.counterRegion).toNat := by
  have whole := offers.proportioned.outputSize_eq sound
  have room := scratch.room_behind pass.settings pass.counterRegion
  have enough := offers.enough
  rw [toNat_saturatingAdd, Work.primitiveBytes_eq, toNat_saturate] at enough
  have both : pass.counterRegion.toNat +
      3 * stride.toNat * primitives.toNat ≤ scratch.capacity.toNat := by
    apply offers.proportioned.unsaturated
    omega
  omega

theorem exists_index_of_mem_run {size count : Nat} {run : List UInt32}
    {instances : UInt32} (positive : 0 < size)
    (among : run ∈ Work.instanceRuns size count) (member : instances ∈ run) :
    ∃ index < count, instances = UInt32.ofNat (index + 1) := by
  have number := List.mem_flatten.mpr ⟨run, among, member⟩
  rw [flatten_instanceRuns positive] at number
  obtain ⟨place, within, rfl⟩ := List.mem_map.mp number
  rw [List.mem_range'_1] at within
  refine ⟨place - 1, by omega, ?_⟩
  rw [Nat.sub_add_cancel within.1]

namespace Pass

variable {pass : Pass}

theorem counter_inside {run : List UInt32} {instances : UInt32}
    (among : run ∈ Work.instanceRuns pass.settings.drawsPerList
      pass.draw.instanceCount.toNat) (member : instances ∈ run) :
    ((instances - 1).toUInt64 * Work.counterSize).toNat + 8 ≤
      pass.counterRegion.toNat := by
  obtain ⟨index, less, rfl⟩ := exists_index_of_mem_run
    (Nat.lt_of_lt_of_le Nat.one_pos (Nat.le_max_right _ _)) among member
  have few := pass.draw.instanceCount.toNat_lt
  obtain ⟨slot, inside⟩ := pass.slot_inside less
  rw [counterOffset_eq_slot (by omega), slot]
  exact inside

theorem counters_inside (several : 1 < pass.draw.instanceCount) :
    8 * pass.draw.instanceCount.toNat ≤ pass.counterRegion.toNat := by
  have any := UInt32.lt_iff_toNat_lt.mp several
  rw [UInt32.toNat_one] at any
  have last := (pass.slot_inside (Nat.sub_one_lt_of_lt any)).2
  omega

end Pass

/-- The counters are in front of the vertices, and these start inside of the
output buffer. -/
structure Work.PostOutput.Spaced (pass : Pass) (output : PostOutput) :
    Prop where
  counters : 8 * (Stage.post.counterCount pass.draw).toNat ≤
    output.dataOffset.toNat
  inside : output.dataOffset.toNat ≤
    output.scratch.outputSize pass.settings

namespace Attempt.Guarantees

variable [Device σ] {task : StageTask} {start : Workspace σ}
  {need : Option Nat} {scratch : Scratch} {derived : PipelineHandle}

/-- What was read stands in for the need until the next read. -/
theorem measure (sound : task.pass.settings.Sound)
    (roomy : 8 ≤ task.pass.settings.counterBytes.toNat)
    (isPost : task.stage = .post) (wide : 8 ≤ scratch.capacity.toNat) :
    Guarantees (task.Holds start need scratch)
      (Work.measure task.pass derived scratch :
        Attempt CaptureFailure σ (StreamOut.Statistics × Scratch))
      (fun measured now => measured.2.capacity = scratch.capacity ∧
        task.Holds start (some (3 * task.stride.toNat *
          measured.1.primitivesNeeded.toNat)) measured.2 now)
      (task.Stops start) := by
  refine of_holds fun proportioned => ?_
  have resolved : StreamOut.Statistics.byteSize ≤
      scratch.outputSize task.pass.settings := by
    rw [proportioned.outputSize_eq sound]
    exact Nat.add_le_add wide roomy
  have suits : task.Suits need scratch
      (Work.measuringPass task.pass derived scratch) :=
    .measuringPass isPost roomy (proportioned.counters_inside sound) resolved
  obtain ⟨use, same⟩ := suits.scratch_eq
  rw [Work.measure]
  refine bind (submit suits) fun _ => ?_
  refine bind (adapt ((readStaging ?_).weaken (fun _ => id) (fun _ _ => id)
    fun _ _ unread => ⟨unread.1, fun _ => unread.2⟩)) fun bytes => ?_
  · rw [UInt64.toNat_zero, Nat.zero_add]
    exact resolved
  cases decoded : StreamOut.Statistics.decode bytes with
  | none =>
      -- Bytes that do not decode are fewer than were asked for.
      refine throw fun now ⟨holds, _, short⟩ => ⟨holds.kept, fun _ => ?_⟩
      refine short fun whole => ?_
      obtain ⟨statistics, told⟩ :=
        StreamOut.Statistics.exists_decode (Nat.le_of_eq whole.symm)
      cases decoded.symm.trans told
  | some statistics =>
      refine pure fun now ⟨holds, read, _⟩ => ?_
      rw [same]
      refine ⟨rfl, holds.kept, ?_, holds.present⟩
      intro needed told
      cases told
      exact ⟨bytes, statistics, read, decoded, rfl⟩

theorem submitRuns {bytes : Nat} {dataOffset : UInt64}
    (isPost : task.stage = .post) (known : bytes ∈ need)
    (inside : dataOffset.toNat ≤ scratch.outputSize task.pass.settings)
    (enough : bytes ≤ (scratch.room task.pass.settings dataOffset).toNat)
    (runs : List (List UInt32))
    (slots : ∀ run ∈ runs, ∀ instances ∈ run,
      ((instances - 1).toUInt64 * Work.counterSize).toNat + 8 ≤
        dataOffset.toNat)
    {recording : Recording} (suits : task.Suits need scratch recording) :
    Guarantees (task.Holds start need scratch)
      (Work.submitRuns task.pass derived dataOffset recording runs :
        Attempt CaptureFailure σ Scratch)
      (fun drawn now => (∃ use, drawn = { scratch with outputUse := use }) ∧
        task.Holds start need scratch now)
      (task.Stops start) := by
  -- Only the use of the output buffer differs from run to run, and that is
  -- nothing to the set: every recording goes on over the same one.
  induction runs generalizing recording with
  | nil => exact pure fun _ holds => ⟨suits.scratch_eq, holds⟩
  | cons run rest induction =>
      have drawn : task.Suits need scratch
          (Work.drawRun task.pass derived dataOffset recording run) :=
        .drawRun isPost suits run (slots run List.mem_cons_self) known inside
          enough
      exact bind (submit drawn) fun _ => induction
        (fun other among => slots other (List.mem_cons_of_mem _ among))
        drawn.restart

section

variable (sound : task.pass.settings.Sound)
  (roomy : 8 ≤ task.pass.settings.counterBytes.toNat)
  (isPost : task.stage = .post)

include sound roomy isPost

theorem drawUntilFitting (single : ¬ 1 < task.pass.draw.instanceCount)
    {unsettled : UInt64} (attempts : Nat) (wide : 8 ≤ scratch.capacity.toNat) :
    Guarantees (task.Holds start none scratch)
      (Work.drawUntilFitting task.pass derived task.stride unsettled scratch
        attempts : Attempt CaptureFailure σ PostOutput)
      (fun output now => output.Spaced task.pass ∧
        task.Holds start none output.scratch now)
      (task.Stops start) := by
  induction attempts generalizing scratch unsettled with
  | zero => exact throw fun _ holds => holds.kept.stops rfl
  | succ attempts induction =>
      rw [Work.drawUntilFitting]
      refine bind (measure sound roomy isPost wide) fun measured =>
        of_fact fun same => ?_
      obtain ⟨statistics, left⟩ := measured
      simp only at same ⊢
      split
      · refine of_holds fun proportioned => pure fun now holds => ?_
        refine ⟨⟨?_, proportioned.counters_inside sound⟩, holds.forget⟩
        rw [Stage.counterCount, if_neg single]
        exact roomy
      · next short =>
          refine bind ((scratchFor sound fun _ => rfl).of_start
            fun _ holds => holds.kept) fun grown => of_fact fun offers => ?_
          -- What did not fit needs more than before, and so the larger set has
          -- room for the statistics, too.
          apply induction
          have enough := offers.enough
          rw [same, UInt64.not_le, UInt64.lt_iff_toNat_lt] at short
          omega

theorem roomForInstances (wide : 8 ≤ scratch.capacity.toNat) :
    Guarantees (task.Holds start none scratch)
      (Work.roomForInstances task.pass derived task.stride scratch :
        Attempt CaptureFailure σ Scratch)
      (fun grown now => ∃ bytes,
        (task.pass.counterRegion.toNat ≤
              grown.outputSize task.pass.settings ∧
            bytes ≤
              (grown.room task.pass.settings task.pass.counterRegion).toNat) ∧
          task.Holds start (some bytes) grown now)
      (task.Stops start) := by
  rw [Work.roomForInstances]
  refine bind (measure sound roomy isPost wide) fun measured =>
    of_fact fun _ => ?_
  refine (scratchForKnown sound fun _ => rfl).weaken
    (fun _ holds => ⟨holds.kept, holds.knows⟩) ?_ fun _ _ => id
  intro grown now both
  exact ⟨_, both.1.instances_fit sound, both.2⟩

theorem drawInstanceCounts (several : 1 < task.pass.draw.instanceCount)
    (wide : 8 ≤ scratch.capacity.toNat) :
    Guarantees (task.Holds start none scratch)
      (Work.drawInstanceCounts task.pass derived task.stride scratch :
        Attempt CaptureFailure σ PostOutput)
      (fun output now => output.Spaced task.pass ∧
        task.Holds start none output.scratch now)
      (task.Stops start) := by
  rw [Work.drawInstanceCounts_eq]
  refine bind (roomForInstances sound roomy isPost wide) fun grown =>
    of_exists fun bytes => of_fact fun ⟨inside, enough⟩ => ?_
  have zeroed : task.Suits (some bytes) grown
      (Recording.zeroOutput { scratch := grown }) :=
    Suits.fresh.zeroOutput
  refine bind (submitRuns isPost rfl inside enough _
      (fun _ among _ => Pass.counter_inside among) zeroed)
    fun drawn => of_fact fun ⟨use, same⟩ => pure fun now holds => ?_
  rw [same]
  refine ⟨⟨?_, inside⟩, (holds.reused use).forget⟩
  rw [Stage.counterCount, if_pos several]
  exact Pass.counters_inside several

theorem drawPrimitives (wide : 8 ≤ scratch.capacity.toNat) :
    Guarantees (task.Holds start none scratch)
      (Work.drawPrimitives task.pass derived task.stride scratch :
        Attempt CaptureFailure σ PostOutput)
      (fun output now => output.Spaced task.pass ∧
        task.Holds start none output.scratch now)
      (task.Stops start) := by
  rw [Work.drawPrimitives]
  split
  · next several => exact drawInstanceCounts sound roomy isPost several wide
  · next single => exact drawUntilFitting sound roomy isPost single _ wide

theorem streamPrimitives {shader : Shader} {layout : StreamOut.VertexLayout}
    (same : layout.stride = task.stride) :
    Guarantees (task.Kept start)
      (Work.streamPrimitives task.pass shader layout derived :
        Attempt CaptureFailure σ StageRecord)
      (fun _ => task.Kept start) (task.Stops start) := by
  rw [Work.streamPrimitives, same]
  -- The first request is for no more than the counters take, but as these are
  -- put in front of the capacity, there is room for the statistics.
  refine bind (scratchFor sound fun _ => rfl) fun first =>
    of_fact fun offers => ?_
  have wide : 8 ≤ first.capacity.toNat := Nat.le_trans roomy offers.enough
  refine bind (drawPrimitives sound roomy isPost wide) fun output =>
    of_fact fun spaced => ?_
  have copied : task.Suits none output.scratch
      (Recording.copyOut { scratch := output.scratch }) :=
    Suits.fresh.copyOut
  have inside : output.dataOffset.toNat ≤ Scratch.outputSize
      task.pass.settings
      (Recording.copyOut { scratch := output.scratch }).scratch := by
    rw [Recording.scratch_copyOut]
    exact spaced.inside
  refine bind (submit_left copied) fun _ => ?_
  refine bind (filledSizes ?_) fun sizes => ?_
  · simp only [decide_eq_true_eq]
    exact Nat.le_trans spaced.counters inside
  refine bind (requireOutput rfl) fun _ => ?_
  refine bind (fetchStaged (Scratch.read_inside _ inside)) fun data => ?_
  refine bind ((stored fun _ => rfl).of_start fun _ holds => holds.kept)
    fun buffer => ?_
  exact pure fun _ kept => kept

theorem capturePrimitives (pipeline : GraphicsPipeline) {shader : Shader}
    (same : (StreamOut.VertexLayout.ofOutputs shader.outputs
      (some 0)).stride = task.stride) :
    Guarantees (task.Kept start)
      (Work.capturePrimitives task.pass pipeline shader :
        Attempt CaptureFailure σ StageRecord)
      (fun _ => task.Kept start) (task.Stops start) := by
  rw [Work.capturePrimitives]
  simp only
  split
  · exact throw fun _ kept => kept.stops rfl
  · exact overPipeline fun derived =>
      streamPrimitives sound roomy isPost same

end

end Attempt.Guarantees

end MeshCapture
