import MeshCapture.Proofs.Course.Vertices

/-! # Courses of a post-stage capture

Like a vertex capture, but with any number of recordings: one for every
measuring pass and one for every run of instances. -/

namespace MeshCapture

variable {σ : Type} [Device σ] {held : Multiset Resource}

/-! ## Runs of instances -/

/-- Runs that go on from `done` instances without gap or overlap. -/
inductive Consecutive : (done : Nat) → List (List UInt32) → Prop where
  | nil (done : Nat) : Consecutive done []
  | cons (done count : Nat) (rest : List (List UInt32))
      (positive : 0 < count) (bounded : done + count < 2 ^ 32)
      (others : Consecutive (done + count) rest) :
      Consecutive done (instancesFrom done count :: rest)

theorem consecutive_runs (size count : Nat) (positive : 0 < size)
    (bounded : count < 2 ^ 32) (start number : Nat)
    (inside : ∀ run, run < start + number → run * size < count) :
    Consecutive (min (start * size) count)
      ((List.range' start number).map fun run =>
        instancesFrom (run * size) (min size (count - run * size))) := by
  induction number generalizing start with
  | zero => exact .nil _
  | succ number induction =>
      have first : start * size < count := inside start (by omega)
      have next : min ((start + 1) * size) count =
          start * size + min size (count - start * size) := by
        rw [Nat.succ_mul]
        omega
      have rest := induction (start + 1) fun run less =>
        inside run (by omega)
      rw [next] at rest
      rw [List.range'_succ, List.map_cons, Nat.min_eq_left first.le]
      exact .cons _ _ _ (by omega) (by omega) rest

theorem consecutive_instanceRuns (size count : Nat) (positive : 0 < size)
    (bounded : count < 2 ^ 32) :
    Consecutive 0 (Work.instanceRuns size count) := by
  have runs := consecutive_runs size count positive bounded 0
    ((count + size - 1) / size) ?_
  · rw [Nat.zero_mul, Nat.zero_min, ← List.range_eq_range'] at runs
    exact runs
  · intro run less
    have whole : (run + 1) * size ≤ count + size - 1 :=
      (Nat.le_div_iff_mul_le positive).mp (by omega)
    rw [Nat.succ_mul] at whole
    omega

theorem instanceRuns_ne_nil {size count : Nat} (positive : 0 < size)
    (any : 0 < count) : Work.instanceRuns size count ≠ [] := by
  have runs : 0 < (count + size - 1) / size :=
    Nat.div_pos (by omega) positive
  simp [Work.instanceRuns, runs.ne']

/-! ## Measuring and drawing -/

theorem Attempt.Takes.measure {pass : Pass} {derived : PipelineHandle}
    {scratch : Scratch} :
    Attempt.Takes (At (some scratch) held)
      (Work.measure pass derived scratch :
        Attempt CaptureFailure σ (StreamOut.Statistics × Scratch))
      (fun measured => At (some measured.2) held)
      (Holds held) := by
  have submitted : Attempt.Takes (At (some scratch) held)
      (Work.submit (Work.measuringPass pass derived scratch) :
        Attempt DeviceFailure σ Unit)
      (fun _ => At (some (Work.measuringPass pass derived scratch).scratch)
        held)
      (Holds held) :=
    Attempt.Takes.submit.weaken
      (fun _ now => ⟨scratch, now, fun before => .measuring before pass derived⟩)
      (fun _ _ ends => ends.now) fun _ stops => stops
  apply Attempt.Takes.bind submitted.adapt
  intro _
  refine Attempt.Takes.bind
    (Attempt.Takes.quietCall fun _ => rfl).adapt ?_
  intro bytes
  cases StreamOut.Statistics.decode bytes with
  | some statistics => exact Attempt.Takes.pure fun _ now => now
  | none => exact Attempt.Takes.throw fun _ now => now.holds

theorem Attempt.Takes.drawUntilFitting {pass : Pass}
    {derived : PipelineHandle} {stride : UInt32} {unsettled : UInt64}
    {scratch : Scratch} {attempts : Nat} :
    Attempt.Takes (At (some scratch) held)
      (Work.drawUntilFitting pass derived stride unsettled scratch attempts :
        Attempt CaptureFailure σ Work.PostOutput)
      (fun output => At (some output.scratch) held)
      (Holds held) := by
  induction attempts generalizing unsettled scratch with
  | zero => exact Attempt.Takes.throw fun _ now => now.holds
  | succ attempts induction =>
      apply Attempt.Takes.bind Attempt.Takes.measure
      intro (statistics, measured)
      simp only
      split
      · exact Attempt.Takes.pure fun _ now => now
      · apply Attempt.Takes.bind Attempt.Takes.scratchFor.at.adapt
        exact fun grown => induction

theorem Attempt.Takes.submitRuns {pass : Pass} {derived : PipelineHandle}
    {dataOffset : UInt64} {scratch : Scratch} {done : Nat}
    {runs : List (List UInt32)} (consecutive : Consecutive done runs) :
    Attempt.Takes (Drawing scratch held (some done))
      (Work.submitRuns pass derived dataOffset { scratch } runs :
        Attempt CaptureFailure σ Scratch)
      (fun scratch => At (some scratch) held)
      (Holds held) := by
  induction consecutive generalizing scratch with
  | nil done => exact Attempt.Takes.pure fun _ drawing => drawing.now
  | cons done count rest positive bounded others induction =>
      refine Attempt.Takes.bind
        (Attempt.Takes.submitAfter (.moreInstances pass derived dataOffset done
          count positive bounded)).adapt ?_
      exact fun _ => induction

theorem Attempt.Takes.submitAllRuns {pass : Pass} {derived : PipelineHandle}
    {dataOffset : UInt64} {scratch : Scratch} {runs : List (List UInt32)}
    (consecutive : Consecutive 0 runs) (any : runs ≠ []) :
    Attempt.Takes (At (some scratch) held)
      (Work.submitRuns pass derived dataOffset
        (Recording.zeroOutput { scratch }) runs :
        Attempt CaptureFailure σ Scratch)
      (fun scratch => At (some scratch) held)
      (Holds held) := by
  cases consecutive with
  | nil => exact absurd rfl any
  | cons _ count rest positive bounded others =>
      rw [Nat.zero_add] at bounded others
      have recorded (before : Option Nat) :
          Recorded scratch before _ (some count) :=
        .firstInstances before pass derived dataOffset count positive bounded
      refine Attempt.Takes.bind (Attempt.Takes.submit.weaken
        (fun _ now => ⟨scratch, now, recorded⟩)
        (fun _ _ ends => ends) (fun _ stops => stops)).adapt ?_
      exact fun _ => Attempt.Takes.submitRuns others

theorem Attempt.Takes.drawInstanceCounts {pass : Pass}
    {derived : PipelineHandle} {stride : UInt32} {scratch : Scratch}
    (several : 1 < pass.draw.instanceCount) :
    Attempt.Takes (At (some scratch) held)
      (Work.drawInstanceCounts pass derived stride scratch :
        Attempt CaptureFailure σ Work.PostOutput)
      (fun output => At (some output.scratch) held)
      (Holds held) := by
  have many : 0 < pass.draw.instanceCount.toNat := by
    have : 1 < pass.draw.instanceCount.toNat := several
    omega
  have positive : 0 < pass.settings.drawsPerList := by
    rw [Settings.drawsPerList]
    omega
  apply Attempt.Takes.bind Attempt.Takes.measure
  intro (statistics, measured)
  apply Attempt.Takes.bind Attempt.Takes.scratchFor.at.adapt
  intro grown
  refine Attempt.Takes.bind
    (Attempt.Takes.submitAllRuns
      (consecutive_instanceRuns _ _ positive
        pass.draw.instanceCount.toNat_lt)
      (instanceRuns_ne_nil positive many)) ?_
  exact fun scratch => Attempt.Takes.pure fun _ now => now

theorem Attempt.Takes.drawPrimitives {pass : Pass} {derived : PipelineHandle}
    {stride : UInt32} {scratch : Scratch} :
    Attempt.Takes (At (some scratch) held)
      (Work.drawPrimitives pass derived stride scratch :
        Attempt CaptureFailure σ Work.PostOutput)
      (fun output => At (some output.scratch) held)
      (Holds held) := by
  rw [Work.drawPrimitives]
  split
  · next several => exact Attempt.Takes.drawInstanceCounts several
  · exact Attempt.Takes.drawUntilFitting

/-! ## The whole stage -/

theorem Attempt.Takes.streamPrimitives {pass : Pass} {shader : Shader}
    {layout : StreamOut.VertexLayout} {derived : PipelineHandle} :
    Attempt.Takes (Holds held)
      (Work.streamPrimitives pass shader layout derived :
        Attempt CaptureFailure σ StageRecord)
      (fun record => Holds (record.resources + held))
      (Holds held) := by
  apply Attempt.Takes.bind Attempt.Takes.scratchFor.adapt
  intro scratch
  apply Attempt.Takes.bind Attempt.Takes.drawPrimitives
  intro output
  refine Attempt.Takes.bind (Attempt.Takes.submitWork.weaken
    (fun _ now => ⟨output.scratch, now, .closing⟩)
    (fun _ _ ends => ends) (fun _ stops => stops)).adapt ?_
  intro _
  apply Attempt.Takes.bind Attempt.Takes.filledSizes
  intro sizes
  apply Attempt.Takes.bind Attempt.Takes.requireOutput
  intro _
  apply Attempt.Takes.bind Attempt.Takes.fetchStaged
  intro data
  apply Attempt.Takes.bind Attempt.Takes.store.adapt
  intro vertexBuffer
  exact Attempt.Takes.pure fun _ now => now

theorem Attempt.Takes.capturePrimitives {pass : Pass}
    {pipeline : GraphicsPipeline} {shader : Shader} :
    Attempt.Takes (Holds held)
      (Work.capturePrimitives pass pipeline shader :
        Attempt CaptureFailure σ StageRecord)
      (fun record => Holds (record.resources + held))
      (Holds held) := by
  rw [Work.capturePrimitives]
  simp only
  split
  · exact Attempt.Takes.throw fun _ now => now
  · refine Attempt.Takes.bind (Attempt.Takes.createBeside (fun _ => rfl)
      (fun _ => rfl) fun _ => rfl).adapt ?_
    intro derived
    refine Attempt.Takes.afterwards Attempt.Takes.streamPrimitives ?_
      (Work.Takes.releaseBeside fun _ => rfl)
    intro record
    rw [Multiset.add_cons]
    exact Work.Takes.releaseBeside fun _ => rfl

end MeshCapture
