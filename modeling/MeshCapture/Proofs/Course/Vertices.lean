import MeshCapture.Proofs.Course.Scratch

/-! # Courses of a vertex capture

Capturing the vertex stage goes a course that ends with the resources it started
with and, where it succeeds, those of its record. -/

namespace MeshCapture

variable {σ ε α : Type} [Device σ] {held : Multiset Resource}

/-! ## Submitting and moving bytes -/

structure Drawing (scratch : Scratch) (held : Multiset Resource)
    (drawn : Option Nat) (standing : Standing) : Prop where
  now : At (some scratch) held standing
  drawn : standing.drawn = drawn

/-- The scratch set changes with the recording, whether or not the device does
the work. -/
theorem Attempt.Takes.submitAfter {scratch : Scratch} {recording : Recording}
    {before after : Option Nat}
    (recorded : Recorded scratch before recording after) :
    Attempt.Takes (Drawing scratch held before)
      (Work.submit recording : Attempt DeviceFailure σ Unit)
      (fun _ => Drawing recording.scratch held after)
      (Holds held) := by
  intro workspace now drawn ⟨⟨present, same⟩, started⟩
  cases same
  cases started
  -- The draws count before the device is asked.
  let counted : Workspace σ :=
    { workspace with
      scratch := some recording.scratch
      counters := workspace.counters.countDraws
        (UInt64.ofNat recording.list.drawCount) }
  have run : (Work.submit recording).run.run workspace =
      ((Work.execute recording.list).run >>=
        ExceptT.bindCont fun _ => ExceptT.lift do
          Work.count Counters.countSubmission
          Work.sync).run counted := rfl
  rcases answered : (Device.execute recording.list).run counted.device with
    ⟨outcome, device⟩
  have executed : (Work.execute recording.list).run.run counted = _ :=
    Work.run_call answered
  rw [run, Work.run_bind executed]
  cases outcome with
  | error cause =>
      refine ⟨now, none, .single ?_, rfl⟩
      change Step _ (Standing.mk (_ :: workspace.calls).reverse _ _ now none)
      rw [List.reverse_cons]
      exact .rejected scratch recording after cause present recorded
  | ok value =>
      refine ⟨now, after, .single ?_, ⟨rfl, rfl⟩, rfl⟩
      change Step _ (Standing.mk
        (.sync :: .execute _ (.ok ()) :: workspace.calls).reverse _ _ now after)
      rw [List.reverse_cons, List.reverse_cons, List.append_assoc]
      exact .submitted scratch recording after present recorded

def Ready (held : Multiset Resource) (recording : Recording)
    (after : Option Nat) (standing : Standing) : Prop :=
  ∃ scratch, At (some scratch) held standing ∧
    ∀ before, Recorded scratch before recording after

theorem Attempt.Takes.submit {recording : Recording} {after : Option Nat} :
    Attempt.Takes (Ready held recording after)
      (Work.submit recording : Attempt DeviceFailure σ Unit)
      (fun _ => Drawing recording.scratch held after)
      (Holds held) := by
  apply Work.Takes.of_standing
  intro standing ⟨scratch, now, recorded⟩
  refine (Attempt.Takes.submitAfter (recorded standing.drawn)).weaken ?_
    (fun _ _ ends => ends) fun _ stops => stops
  intro same equal
  subst equal
  exact ⟨now, rfl⟩

theorem Attempt.Takes.submitWork {recording : Recording}
    {after : Option Nat} :
    Attempt.Takes (Ready held recording after)
      (Work.submit recording : Attempt DeviceFailure σ Unit)
      (fun _ => Holds held) (Holds held) :=
  Attempt.Takes.submit.weaken (fun _ now => now)
    (fun _ _ ends => ends.now.holds) fun _ now => now

theorem Attempt.Takes.store {label : String} {data : ByteArray} :
    Attempt.Takes (Holds held)
      (Work.store label data : Attempt DeviceFailure σ BufferHandle)
      (fun buffer => Holds (.buffer buffer ::ₘ held))
      (Holds held) := by
  refine Attempt.Takes.bind
    (Attempt.Takes.createBeside (fun _ => rfl) (fun _ => rfl) fun _ => rfl) ?_
  intro buffer
  refine Attempt.Takes.onFailure ?_ (Work.Takes.releaseBeside fun _ => rfl)
  apply Attempt.Takes.bind (Attempt.Takes.quietBeside fun _ => rfl)
  exact fun _ => Attempt.Takes.pure fun _ now => now

theorem Attempt.Takes.fetchStaged {failure : CaptureFailure}
    {scratch : Scratch} {offset length : UInt64} :
    Attempt.Takes (Holds held)
      (Work.fetchStaged failure scratch offset length :
        Attempt CaptureFailure σ ByteArray)
      (fun _ => Holds held) (Holds held) := by
  apply Work.Takes.bind (Work.Takes.quietBeside fun _ => rfl)
  intro answer
  cases answer with
  | error cause => exact Work.Takes.pure fun _ now => now
  | ok bytes =>
      refine Work.Takes.pure fun _ now => ?_
      split <;> exact now

theorem Attempt.Takes.filledSizes {failure : CaptureFailure}
    {scratch : Scratch} {number : UInt32} :
    Attempt.Takes (Holds held)
      (Work.filledSizes failure scratch number :
        Attempt CaptureFailure σ (List UInt64))
      (fun _ => Holds held) (Holds held) :=
  Attempt.Takes.bind Attempt.Takes.fetchStaged fun _ =>
    Attempt.Takes.pure fun _ now => now

omit [Device σ] in
theorem Attempt.Takes.requireOutput {failure : CaptureFailure}
    {reported : UInt64} :
    Attempt.Takes (Holds held)
      (Work.requireOutput failure reported : Attempt CaptureFailure σ Unit)
      (fun _ => Holds held) (Holds held) := by
  rw [Work.requireOutput]
  split
  · exact Attempt.Takes.throw fun _ now => now
  · exact Attempt.Takes.pure fun _ now => now

/-! ## The vertex stage -/

theorem Work.Takes.fetchIndices {pass : Pass} :
    Work.Takes (Holds held)
      (Work.fetchIndices pass : Work σ (ByteArray × IndexWidth))
      fun _ => Holds held := by
  rw [Work.fetchIndices]
  cases pass.state.indexBuffer with
  | none => exact Work.Takes.pure fun _ now => now
  | some range =>
      simp only
      split
      · exact Work.Takes.pure fun _ now => now
      · apply Work.Takes.bind (Work.Takes.quietBeside fun _ => rfl)
        intro answer
        cases answer with
        | ok bytes => exact Work.Takes.pure fun _ now => now
        | error cause => exact Work.Takes.pure fun _ now => now

theorem Attempt.Takes.recordPlainDraw {pass : Pass} {stride : UInt32}
    {derived : PipelineHandle} :
    Attempt.Takes (Holds held)
      (Work.recordPlainDraw pass stride derived :
        Attempt CaptureFailure σ Work.VertexDraw)
      (fun drawn => Ready held drawn.recording.copyOut none)
      (Holds held) := by
  apply Attempt.Takes.bind Attempt.Takes.scratchFor.adapt
  intro scratch
  refine Attempt.Takes.pure fun _ now => ⟨scratch, now, fun before => ?_⟩
  exact .vertices before pass derived none _ rfl

theorem Attempt.Takes.recordSelectedDraw {pass : Pass} {stripCut : StripCut}
    {stride : UInt32} {derived : PipelineHandle} :
    Attempt.Takes (Holds held)
      (Work.recordSelectedDraw pass stripCut stride derived :
        Attempt CaptureFailure σ Work.VertexDraw)
      (fun drawn => Ready held drawn.recording.copyOut none)
      (Holds held) := by
  refine Attempt.Takes.bind
    (Attempt.Takes.lift Work.Takes.fetchIndices) ?_
  intro (fetched, width)
  apply Attempt.Takes.bind Attempt.Takes.scratchFor.adapt
  intro scratch
  refine Attempt.Takes.bind
    (Attempt.Takes.quietCall fun _ => rfl).adapt ?_
  intro _
  refine Attempt.Takes.pure fun _ now => ⟨scratch, now, fun before => ?_⟩
  exact .vertices before pass derived (some _) _ rfl

theorem Attempt.Takes.recordVertices {pass : Pass} {stripCut : StripCut}
    {stride : UInt32} {derived : PipelineHandle} :
    Attempt.Takes (Holds held)
      (Work.recordVertices pass stripCut stride derived :
        Attempt CaptureFailure σ Work.VertexDraw)
      (fun drawn => Ready held drawn.recording.copyOut none)
      (Holds held) := by
  rw [Work.recordVertices]
  split
  · exact Attempt.Takes.recordSelectedDraw
  · exact Attempt.Takes.recordPlainDraw

theorem Attempt.Takes.attachIndices {event : EventId} {record : StageRecord}
    {indices : Option (ByteArray × IndexWidth)}
    (unindexed : record.indexBuffer = none) :
    Attempt.Takes (Holds (record.resources + held))
      (Work.attachIndices event record indices :
        Attempt CaptureFailure σ StageRecord)
      (fun attached => Holds (attached.resources + held))
      (Holds (record.resources + held)) := by
  unfold Work.attachIndices
  cases indices with
  | none => exact Attempt.Takes.pure fun _ now => now
  | some indices =>
      apply Attempt.Takes.bind Attempt.Takes.store.adapt
      intro buffer
      refine Attempt.Takes.pure fun standing now => ?_
      rw [Holds, StageRecord.resources_attach record buffer _ unindexed]
      simpa [Holds] using now

theorem Attempt.Takes.streamVertices {pass : Pass}
    {pipeline : GraphicsPipeline} {layout : StreamOut.VertexLayout}
    {derived : PipelineHandle} :
    Attempt.Takes (Holds held)
      (Work.streamVertices pass pipeline layout derived :
        Attempt CaptureFailure σ StageRecord)
      (fun record => Holds (record.resources + held))
      (Holds held) := by
  apply Attempt.Takes.bind Attempt.Takes.recordVertices
  intro drawn
  apply Attempt.Takes.bind Attempt.Takes.submitWork.adapt
  intro _
  apply Attempt.Takes.bind Attempt.Takes.filledSizes
  intro sizes
  apply Attempt.Takes.bind Attempt.Takes.requireOutput
  intro _
  apply Attempt.Takes.bind Attempt.Takes.fetchStaged
  intro data
  apply Attempt.Takes.bind Attempt.Takes.store.adapt
  intro vertexBuffer
  refine Attempt.Takes.onFailure ?_ (Work.Takes.releaseBeside fun _ => rfl)
  refine Attempt.Takes.weaken (Attempt.Takes.attachIndices ?_) ?_
    (fun _ _ ends => ends) ?_
  · rfl
  · exact fun _ now => now
  · exact fun _ now => now

theorem Attempt.Takes.captureVertices {pass : Pass}
    {pipeline : GraphicsPipeline} {shader : Shader} :
    Attempt.Takes (Holds held)
      (Work.captureVertices pass pipeline shader :
        Attempt CaptureFailure σ StageRecord)
      (fun record => Holds (record.resources + held))
      (Holds held) := by
  rw [Work.captureVertices]
  simp only
  split
  · refine Attempt.Takes.pure fun _ now => ?_
    simpa [StageRecord.resources, StageRecord.buffers] using now
  · refine Attempt.Takes.bind (Attempt.Takes.createBeside (fun _ => rfl)
      (fun _ => rfl) fun _ => rfl).adapt ?_
    intro derived
    refine Attempt.Takes.afterwards Attempt.Takes.streamVertices ?_
      (Work.Takes.releaseBeside fun _ => rfl)
    intro record
    rw [Multiset.add_cons]
    exact Work.Takes.releaseBeside fun _ => rfl

end MeshCapture
