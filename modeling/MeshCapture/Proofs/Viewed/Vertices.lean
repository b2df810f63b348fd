import MeshCapture.Proofs.Viewed.Selected

/-! # Viewing captured vertices

A viewer finds the vertex of every position of a recorded draw among the captured
ones, unless the draw is indexed and no index could be read for it. Then there is
one vertex and no index buffer to lead all positions to it. -/

namespace MeshCapture

theorem DrawVisit.counts_pos_of_captured {visit : DrawVisit}
    {found : GraphicsPipeline × Shader} (captured : visit.captured = .ok found) :
    0 < visit.draw.elementCount.toNat ∧
      0 < visit.draw.instanceCount.toNat := by
  unfold DrawVisit.captured at captured
  have positive {count : UInt32} (some : ¬ count = 0) : 0 < count.toNat :=
    Nat.pos_of_ne_zero fun none => some (UInt32.toNat_inj.mp none)
  split at captured
  · split at captured
    · split at captured
      · simp only at captured
        split at captured
        · cases captured
        · split at captured
          · cases captured
          · next elements instances =>
              exact ⟨positive elements, positive instances⟩
      · cases captured
    · cases captured
  · cases captured

/-- The viewer finds the vertex of every place of a recorded draw that does not
cut a strip, unless the draw is indexed and has no renumbered indices to view.
Then only the first place can be right. There are renumbered indices if the draw
has indices and no read of them is refused. -/
theorem Engine.viewed_vertex_iff {σ : Type} [Device σ] (device : σ)
    (settings : Settings) (operations : List Operation) (visit : DrawVisit)
    (pipeline : GraphicsPipeline) (shader : Shader)
    (start finish : Workspace σ) (whole : EventRecord) (contents : Contents)
    (found : visit.captured = .ok (pipeline, shader))
    (outputs : (StreamOut.VertexLayout.ofOutputs shader.outputs none).isEmpty =
      false)
    (captured : StageCapture ((new device settings).run operations) visit
      .vertex start whole.vertex finish)
    (fresh : FreshHandles finish.history)
    (faithful : contents.Faithful finish.history)
    (sized : ∀ buffer,
      (contents start.history [] buffer).size < UInt64.size)
    (addressable : ∀ scratch ∈ finish.scratch,
      scratch.IsAddressable ((new device settings).run operations).settings)
    (streams : ∀ drawn : StageDraw start.history finish.history,
      drawn.StreamsAll contents whole.vertex.vertexStride) :
    let view := MeshView.ofRecord (some whole) 0 .vertex
    let memory := contents start.history []
    ((∀ call ∈ finish.history.drop start.history.length,
        call.isRefusedRead = false) →
      (view.indexBuffer.isSome = true ↔
        visit.draw.flags.indexed = true ∧ visit.HasIndices memory)) ∧
    ∃ drawn : StageDraw start.history finish.history,
      ∀ place < view.elementCount.toNat,
        (visit.draw.flags.indexed = true →
          pipeline.stripCut.sentinel ≠ some (visit.fetched memory place)) →
        (view.Shows contents drawn place (visit.inputAt memory place) ↔
          (visit.draw.flags.indexed = true →
            view.indexBuffer.isSome = true ∨
              place = 0 ∧ visit.fetched memory 0 = 0)) := by
  intro view memory
  rcases DrawVisit.counts_pos_of_captured found with ⟨elements, instances⟩
  cases captured with
  | vertex pass _ _ _ _ _ same begins succeeds =>
      cases found.symm.trans same
      rcases begins.exists_owns with ⟨held, owns⟩
      obtain ⟨signature, rfl⟩ : ∃ signature,
          pass = visit.pass ((new device settings).run operations).settings
            signature := by
        cases begins <;> exact ⟨_, rfl⟩
      rcases succeeds.vertexStage owns fresh faithful outputs with ⟨stage⟩
      rw [stage.stride_eq] at streams
      rw [stage.view_eq.2.2.2]
      cases indexed : visit.draw.flags.indexed with
      | false =>
          have unviewed : view.indexBuffer = none :=
            stage.indexBuffer_eq_none (.inr indexed)
          rcases stage.shows_plain indexed instances faithful addressable
            streams with ⟨drawn, shows⟩
          exact ⟨fun _ => by simp [unviewed], drawn, fun place less _ =>
            iff_of_true (shows place less) nofun⟩
      | true =>
          rcases stage.shows_selected_iff indexed elements instances faithful
            sized addressable streams with ⟨viewed_iff, drawn, shows⟩
          refine ⟨fun answered => ?_, drawn, fun place less uncut => ?_⟩
          · rw [viewed_iff answered, and_iff_right rfl]
          · exact (shows place less (uncut rfl)).trans
              ⟨fun right _ => right, fun right => right rfl⟩

/-! ### Scripted captures -/

namespace Scripted

def repeatedVertex (indices : Option IndexBufferRange) : DrawVisit where
  event := 1
  draw :=
    { elementCount := 3, instanceCount := 1, flags := ⟨1⟩, firstIndex := 1,
      baseVertex := 2 }
  state :=
    { pipeline := some ⟨⟨100⟩, .graphics depthPipeline⟩
      indexBuffer := indices }

def repeatedIndices : ByteArray := ⟨#[9, 0, 5, 0, 5, 0, 5, 0]⟩

def repeatedRange : IndexBufferRange where
  buffer := ⟨1⟩
  offset := 0
  size := 8
  width := .bits16

def repeatedOutput : Readback where
  counters := [4]
  dataOffset := 16
  data := ⟨#[1, 2, 3, 4]⟩

def repeatedDevice : Device :=
  ({} : Device).load
    { buffers := [(repeatedIndices, .upload)], readbacks := [repeatedOutput] }

def repeatedSettings : Settings where
  initialScratchBytes := 64
  counterBytes := 16

def repeatedContents : Contents :=
  (streaming ⟨3⟩ repeatedOutput ⟨0, 0⟩).contents fun buffer =>
    if buffer = ⟨1⟩ then repeatedIndices else .empty

def repeatedStart : Workspace Device :=
  ((Work.setMemoryTolerance true).run { device := repeatedDevice }).2

def repeatedVertices (indices : Option IndexBufferRange) :
    Except CaptureFailure StageRecord × Workspace Device :=
  (Work.captureVertices ((repeatedVertex indices).pass repeatedSettings none)
    depthPipeline depthShader).run.run repeatedStart

def repeatedRecord (indices : Option IndexBufferRange) : EventRecord where
  vertex := (repeatedVertices indices).1.toOption.getD default

def repeatedBindings (indices : Option IndexBufferRange) : List Command :=
  [.applyState (repeatedVertex indices).state, .setPipeline ⟨2⟩,
    .setIndexBuffer
      { buffer := ⟨5⟩, offset := 0, size := 4, width := .bits32 },
    .barrier ⟨3⟩ .common .streamOut,
    .setOutputTarget
      { buffer := ⟨3⟩, counterOffset := 0, dataOffset := 16, size := 64 },
    .setTopology .points]

def repeatedFront (indices : Option IndexBufferRange) : List Command :=
  repeatedBindings indices ++ .drawIndexed 1 1 0 2 0 ::
    [.barrier ⟨3⟩ .streamOut .copySource]

def repeatedBack : List Command :=
  [.discard ⟨3⟩, .barrier ⟨3⟩ .copySource .unorderedAccess, .clear ⟨3⟩]

def repeatedList (indices : Option IndexBufferRange) : CommandList :=
  let commands : List Command :=
    repeatedFront indices ++ .copyBuffer ⟨4⟩ ⟨3⟩ :: repeatedBack
  ⟨commands.toArray⟩

structure RepeatedCapture (indices : Option IndexBufferRange) (number : Nat) :
    Prop where
  ok : (repeatedVertices indices).1.isOk = true
  fresh : FreshHandles (repeatedVertices indices).2.history
  faithful : repeatedContents.Faithful (repeatedVertices indices).2.history
  addressable : ∀ scratch ∈ (repeatedVertices indices).2.scratch,
    scratch.IsAddressable repeatedSettings
  later : repeatedStart.history.length ≤ number
  executed : ((repeatedVertices indices).2.history[number]?).bind
    Call.executed? = some (repeatedList indices)
  last : ∀ call ∈ (repeatedVertices indices).2.history.drop (number + 1),
    call.isExecute = false
  counted : LittleEndian.word64At
    (repeatedContents ((repeatedVertices indices).2.history.take number)
      (repeatedFront indices ++ [.copyBuffer ⟨4⟩ ⟨3⟩]) ⟨4⟩) 0 = some 4

namespace RepeatedCapture

variable {indices : Option IndexBufferRange} {number : Nat}

theorem captured (capture : RepeatedCapture indices number) :
    StageCapture (Engine.new repeatedDevice repeatedSettings)
      (repeatedVertex indices) .vertex repeatedStart
      (repeatedRecord indices).vertex (repeatedVertices indices).2 :=
  .vertex _ depthPipeline depthShader repeatedStart _ _ rfl
    (.bound repeatedStart rfl rfl)
    (Attempt.succeeds_of_isOk _ _ capture.ok)

theorem draws_one (capture : RepeatedCapture indices number)
    (drawn : StageDraw repeatedStart.history
      (repeatedVertices indices).2.history) :
    drawn.command.elementCount = 1 ∧ drawn.StreamsAll repeatedContents 4 := by
  have inside : repeatedStart.history <+: (repeatedVertices indices).2.history :=
    Attempt.Takes.captureVertices.history_prefix 0 rfl
      (Attempt.succeeds_of_isOk _ _ capture.ok)
  have listed : (repeatedList indices).toList =
      repeatedBindings indices ++ .drawIndexed 1 1 0 2 0 ::
        [.barrier ⟨3⟩ .streamOut .copySource] ++
          .copyBuffer ⟨4⟩ ⟨3⟩ :: repeatedBack := rfl
  rcases exists_stageDraw_of_list inside capture.later capture.executed
    capture.last listed rfl (by simp [repeatedBindings, Command.isDraw])
    (by simp [repeatedBack, Command.isCopy]) with
    ⟨known, earlier, front, target, source, -, command⟩
  rw [Subsingleton.elim drawn known]
  refine ⟨by rw [command]; rfl, 4, ?_, by rw [command]; rfl⟩
  rw [LastCopy.image, earlier, front, target, source]
  exact capture.counted

end RepeatedCapture

theorem size_repeatedContents (buffer : BufferHandle) :
    (repeatedContents repeatedStart.history [] buffer).size <
      UInt64.size := by
  have initial : repeatedContents repeatedStart.history [] buffer =
      if buffer = ⟨1⟩ then repeatedIndices else .empty := rfl
  rw [initial]
  split <;> decide

theorem repeatedCapture_indexed : RepeatedCapture (some repeatedRange) 9 where
  ok := by decide +kernel
  fresh := by decide +kernel
  faithful := CommandEffect.faithful _ _ (by decide +kernel)
  addressable := by decide +kernel
  later := by decide +kernel
  executed := by decide +kernel
  last := by decide +kernel
  counted := by decide +kernel

theorem repeatedCapture_none : RepeatedCapture none 8 where
  ok := by decide +kernel
  fresh := by decide +kernel
  faithful := CommandEffect.faithful _ _ (by decide +kernel)
  addressable := by decide +kernel
  later := by decide +kernel
  executed := by decide +kernel
  last := by decide +kernel
  counted := by decide +kernel

end Scripted

open Scripted in
/-- The renumbered indices lead the last place to the one vertex, drawn from the
index that stands there. -/
theorem Engine.viewed_vertex_repeated :
    let indices := some repeatedRange
    let start := repeatedStart
    let finish := (repeatedVertices indices).2
    let view := MeshView.ofRecord (some (repeatedRecord indices)) 0 .vertex
    StageCapture (new repeatedDevice repeatedSettings) (repeatedVertex indices)
        .vertex start (repeatedRecord indices).vertex finish ∧
      FreshHandles finish.history ∧ repeatedContents.Faithful finish.history ∧
      (∀ drawn : StageDraw start.history finish.history,
        drawn.StreamsAll repeatedContents 4) ∧
      ∃ drawn : StageDraw start.history finish.history,
        view.Shows repeatedContents drawn 2
          (some { index := 5, baseVertex := 2 }) := by
  intro indices start finish view
  have capture : RepeatedCapture indices 9 := repeatedCapture_indexed
  have stride : (repeatedRecord indices).vertex.vertexStride = 4 := by
    decide +kernel
  have streams (drawn : StageDraw start.history finish.history) :
      drawn.StreamsAll repeatedContents
        (repeatedRecord indices).vertex.vertexStride := by
    rw [stride]
    exact (capture.draws_one drawn).2
  rcases viewed_vertex_iff repeatedDevice repeatedSettings []
    (repeatedVertex indices) depthPipeline depthShader start finish
    (repeatedRecord indices) repeatedContents rfl rfl capture.captured
    capture.fresh capture.faithful size_repeatedContents capture.addressable
    streams with ⟨viewed_iff, drawn, shows⟩
  have answered : ∀ call ∈ finish.history.drop start.history.length,
      call.isRefusedRead = false := by decide +kernel
  have viewed : view.indexBuffer.isSome = true :=
    (viewed_iff answered).mpr
      ⟨by decide, repeatedRange, rfl, by decide +kernel, by decide +kernel⟩
  have elements : 2 < view.elementCount.toNat := by decide +kernel
  have input : (repeatedVertex indices).inputAt
      (repeatedContents start.history []) 2 =
        some { index := 5, baseVertex := 2 } := by decide +kernel
  have shown := (shows 2 elements fun _ => nofun).mpr fun _ => .inl viewed
  rw [input] at shown
  exact ⟨capture.captured, capture.fresh, capture.faithful,
    fun drawn => (capture.draws_one drawn).2, drawn, shown⟩

open Scripted in
/-- Without an index buffer every index is fetched as zero, but the view leads
all places but the first past the one vertex that was drawn. -/
theorem Engine.viewed_vertex_missing :
    let start := repeatedStart
    let finish := (repeatedVertices none).2
    let view := MeshView.ofRecord (some (repeatedRecord none)) 0 .vertex
    StageCapture (new repeatedDevice repeatedSettings) (repeatedVertex none)
        .vertex start (repeatedRecord none).vertex finish ∧
      FreshHandles finish.history ∧ repeatedContents.Faithful finish.history ∧
      (∀ drawn : StageDraw start.history finish.history,
        drawn.StreamsAll repeatedContents 4) ∧
      1 < view.elementCount.toNat ∧ depthPipeline.stripCut.sentinel = none ∧
      (repeatedVertex none).inputAt (repeatedContents start.history []) 1 =
        some { index := 0, baseVertex := 2 } ∧
      ∀ drawn : StageDraw start.history finish.history,
        ¬ view.Shows repeatedContents drawn 1
          (some { index := 0, baseVertex := 2 }) := by
  intro start finish view
  have capture : RepeatedCapture none 8 := repeatedCapture_none
  have viewless : view.indexBuffer = none := by decide +kernel
  refine ⟨capture.captured, capture.fresh, capture.faithful,
    fun drawn => (capture.draws_one drawn).2, by decide +kernel, rfl, rfl,
    fun drawn shows => ?_⟩
  have beyond := shows.drawn_lt
  rw [(capture.draws_one drawn).1, MeshView.vertexAt, viewless] at beyond
  exact absurd beyond (by decide)

end MeshCapture
