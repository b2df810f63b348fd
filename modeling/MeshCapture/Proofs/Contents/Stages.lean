import MeshCapture.Proofs.Contents.Readout
import MeshCapture.Capture.DrawRecord

/-! # Successful stages

What a stage has done when it succeeds: it drew, read a copy of the output out
and kept a part of it in a buffer of its record. -/

namespace MeshCapture

section

variable {σ : Type} [Device σ]

/-! ## Counters and vertices -/

/-- How many counters tell the output of a stage: one for each of several
instances of a post stage, and one otherwise. -/
def Stage.counterCount (draw : Draw) : Stage → UInt32
  | .vertex => 1
  | .post => if 1 < draw.instanceCount then draw.instanceCount else 1

def Stage.dataOffset (settings : Settings) (draw : Draw) : Stage → UInt64
  | .vertex => settings.counterBytes
  | .post =>
      if 1 < draw.instanceCount then
        roundUp (draw.instanceCount.toUInt64 * 8)
          (max settings.counterBytes 8)
      else
        settings.counterBytes

/-! ## The vertex stage -/

variable {contents : Contents} {held : Multiset Resource}

omit [Device σ] in
theorem Workspace.Owns.distinct {workspace : Workspace σ} {scratch : Scratch}
    (owns : workspace.Owns held) (fresh : FreshHandles workspace.history)
    (present : workspace.scratch = some scratch) :
    scratch.output ≠ scratch.staging := by
  have once := nodup_live fresh
  rw [owns, scratchResources, present] at once
  have parts : (Scratch.resources scratch).Nodup :=
    Multiset.nodup_of_le (Multiset.le_add_left _ _) once
  intro same
  simp [Scratch.resources, same] at parts

omit [Device σ] in
theorem Ready.distinct {recording : Recording} {workspace : Workspace σ}
    {drawn : Option Nat}
    (ready : Ready held recording.copyOut none
      (workspace.standing held drawn))
    (owns : workspace.Owns held) (fresh : FreshHandles workspace.history) :
    recording.scratch.output ≠ recording.scratch.staging := by
  rcases ready with ⟨scratch, now, recorded⟩
  rcases (recorded none).scratch_eq with ⟨use, same⟩
  rw [Recording.scratch_copyOut] at same
  have output := congrArg Scratch.output same
  have staging := congrArg Scratch.staging same
  simp only at output staging
  rw [output, staging]
  exact owns.distinct fresh now.scratch

theorem Attempt.Succeeds.attachIndices {before after : Workspace σ}
    {event : EventId} {record attached : StageRecord}
    {indices : Option (ByteArray × IndexWidth)}
    (succeeds : (Work.attachIndices event record indices).Succeeds before
      attached after) :
    indices = none ∧ attached = record ∧ before = after ∨
      ∃ bytes width label buffer, indices = some (bytes, width) ∧
        (Work.store label bytes).Succeeds before buffer after ∧
        attached = { record with
          indexBuffer := some buffer, indexWidth := width } := by
  unfold Work.attachIndices at succeeds
  cases indices with
  | none =>
      rcases succeeds_pure.mp succeeds with ⟨rfl, rfl⟩
      exact .inl ⟨rfl, rfl, rfl⟩
  | some indices =>
      rcases indices with ⟨bytes, width⟩
      rcases succeeds_bind.mp succeeds with ⟨buffer, there, stores, rest⟩
      rcases succeeds_pure.mp rest with ⟨rfl, rfl⟩
      exact .inr ⟨bytes, width, _, buffer, rfl, succeeds_adapt.mp stores, rfl⟩

theorem Attempt.Succeeds.adds_attachIndices {before after : Workspace σ}
    {event : EventId} {record attached : StageRecord}
    {indices : Option (ByteArray × IndexWidth)}
    (succeeds : (Work.attachIndices event record indices).Succeeds before
      attached after) :
    ∃ more, before.Adds more after ∧ ∀ call ∈ more, call.isExecute = false := by
  rcases succeeds.attachIndices with
    ⟨-, -, rfl⟩ | ⟨_, _, _, _, -, stores, -⟩
  · exact ⟨[], ⟨(List.append_nil _).symm, rfl⟩, by simp⟩
  · rcases stores.store with ⟨_, creates, writes⟩
    exact ⟨_, creates.trans writes, by simp [Call.isExecute]⟩

def Pass.vertexRecord (pass : Pass) (layout : StreamOut.VertexLayout)
    (data : ByteArray) (written : UInt64) (buffer : BufferHandle) :
    StageRecord :=
  let planes := Work.clipPlanes pass.settings layout data
    (written / layout.stride.toUInt64)
  { vertexBuffer := some buffer
    vertexStride := layout.stride
    instanceStride :=
      if pass.draw.flags.instanced then
        (written / (max pass.draw.instanceCount 1).toUInt64).toUInt32
      else
        0
    nearPlane := planes.near
    farPlane := planes.far
    topology := pass.state.topology
    vertexCount := pass.draw.elementCount
    hasPosition := layout.hasPosition
    usesIndices := pass.draw.flags.indexed }

theorem Attempt.Succeeds.streamVertices {start finish : Workspace σ}
    {pass : Pass} {pipeline : GraphicsPipeline}
    {layout : StreamOut.VertexLayout} {derived : PipelineHandle}
    {record : StageRecord} (owns : start.Owns held)
    (fresh : FreshHandles finish.history)
    (faithful : contents.Faithful finish.history)
    (succeeds : (Work.streamVertices pass pipeline layout derived).Succeeds
      start record finish) :
    ∃ drawn ready after sizes data buffer,
      (Work.recordVertices pass pipeline.stripCut layout.stride
        derived).Succeeds start drawn ready ∧
      start.history <+: ready.history ∧
      let room := drawn.recording.scratch.room pass.settings
        pass.settings.counterBytes
      let written := min (sizes.headD 0) room
      ReadOut contents drawn.recording ready after 1 sizes
        pass.settings.counterBytes written data buffer ∧
      (Work.attachIndices pass.event
        (pass.vertexRecord layout data written buffer)
        drawn.indices).Succeeds after record finish := by
  rcases succeeds_bind.mp succeeds with ⟨drawn, ready, records, rest⟩
  rcases succeeds_bind.mp rest with ⟨_, copied, submits, rest⟩
  rcases succeeds_bind.mp rest with ⟨sizes, counted, counts, rest⟩
  rcases succeeds_bind.mp rest with ⟨_, there, requires, rest⟩
  rcases requires.requireOutput with ⟨rfl, _⟩
  rcases succeeds_bind.mp rest with ⟨data, fetched, fetches, rest⟩
  rcases succeeds_bind.mp rest with ⟨buffer, after, stores, rest⟩
  have attaches := succeeds_onFailure.mp rest
  have early : after.history <+: finish.history := by
    rcases attaches.adds_attachIndices with ⟨_, adds, -⟩
    exact adds.history_prefix
  have recordsTake : Attempt.Takes (Holds held)
      (Work.recordVertices pass pipeline.stripCut layout.stride derived :
        Attempt CaptureFailure σ Work.VertexDraw) _ _ :=
    Attempt.Takes.recordVertices
  rcases recordsTake.owns owns rfl records with
    ⟨heldAfter, _, isReady, ownsAfter, inside⟩
  have heldSame : heldAfter = held := by
    rcases isReady with ⟨_, now, _⟩
    exact now.held
  subst heldSame
  have stores := succeeds_adapt.mp stores
  rcases exists_history_readOut (succeeds_adapt.mp submits) counts fetches
    stores with ⟨later, executed, _⟩
  have upTo : ready.history <+: finish.history :=
    List.IsPrefix.trans ⟨_, executed.symm⟩ early
  have distinct := isReady.distinct ownsAfter (fresh.of_prefix upTo)
  simp only [Recording.scratch_copyOut] at fetches attaches
  refine ⟨drawn, ready, after, sizes, data, buffer, records, inside, ?_, ?_⟩
  · refine (succeeds_adapt.mp submits).readOut counts ?_ stores distinct
      (faithful.of_prefix early)
    rw [Recording.scratch_copyOut]
    exact fetches
  · exact attaches

theorem Attempt.Succeeds.contents_attachIndices {before after : Workspace σ}
    {event : EventId} {record attached : StageRecord}
    {indices : Option (ByteArray × IndexWidth)} {buffer : BufferHandle}
    (succeeds : (Work.attachIndices event record indices).Succeeds before
      attached after)
    (fresh : FreshHandles after.history)
    (faithful : contents.Faithful after.history)
    (owned : .buffer buffer ∈ live before.history) :
    contents after.history [] buffer = contents before.history [] buffer := by
  rcases succeeds.attachIndices with
    ⟨-, -, rfl⟩ | ⟨_, _, _, _, -, stores, -⟩
  · rfl
  · refine stores.contents_store_of_ne faithful fun same => ?_
    rw [same] at owned
    exact (stores.live_store fresh).1 owned

theorem Attempt.Succeeds.captureVertices {start finish : Workspace σ}
    {pass : Pass} {pipeline : GraphicsPipeline} {shader : Shader}
    {record : StageRecord}
    (succeeds : (Work.captureVertices pass pipeline shader).Succeeds start
      record finish) :
    let layout := StreamOut.VertexLayout.ofOutputs shader.outputs none
    layout.isEmpty = true ∧ record = { topology := pass.state.topology } ∧
        start = finish ∨
      layout.isEmpty = false ∧ ∃ derived bound reached,
        start.Adds [.createPipeline
          (pipeline.streamingVertices layout pass.rootSignature)
          (.ok derived)] bound ∧
        (Work.streamVertices pass pipeline layout derived).Succeeds bound
          record reached ∧
        reached.Adds [.releasePipeline derived] finish := by
  intro layout
  rw [Work.captureVertices] at succeeds
  simp only at succeeds
  split at succeeds
  · next empty =>
      rcases succeeds_pure.mp succeeds with ⟨rfl, rfl⟩
      exact .inl ⟨empty, rfl, rfl⟩
  · next outputs =>
      rcases succeeds_bind.mp succeeds with ⟨derived, bound, creates, rest⟩
      rcases succeeds_afterwards.mp rest with ⟨reached, streams, releases⟩
      refine .inr ⟨by simpa using outputs, derived, bound, reached,
        adds (succeeds_adapt.mp creates), streams, ?_⟩
      exact releases ▸ Work.adds_releasePipeline reached derived

/-- What a successful vertex stage over some outputs did: it recorded a draw,
read the copy of its output out and kept that in a buffer. Renumbered indices
are in another one. -/
structure VertexStage (contents : Contents) (pass : Pass)
    (stripCut : StripCut) (layout : StreamOut.VertexLayout)
    (start finish : Workspace σ) (record : StageRecord) where
  derived : PipelineHandle
  bound : Workspace σ
  drawn : Work.VertexDraw
  ready : Workspace σ
  after : Workspace σ
  sizes : List UInt64
  data : ByteArray
  buffer : BufferHandle
  more : List Call
  early : start.history <+: bound.history
  unchanged : contents bound.history [] = contents start.history []
  records : (Work.recordVertices pass stripCut layout.stride derived).Succeeds
    bound drawn ready
  behind : start.history <+: ready.history
  readOut : ReadOut contents drawn.recording ready after 1 sizes
    pass.settings.counterBytes
    (min (sizes.headD 0) (drawn.recording.scratch.room pass.settings
      pass.settings.counterBytes)) data buffer
  adds : after.Adds more finish
  idle : ∀ call ∈ more, call.isExecute = false
  kept : contents finish.history [] buffer = contents after.history [] buffer
  recorded : ∃ written,
    let whole := pass.vertexRecord layout data written buffer
    drawn.indices = none ∧ record = whole ∨
      ∃ bytes width indices, drawn.indices = some (bytes, width) ∧
        record = { whole with
          indexBuffer := some indices, indexWidth := width } ∧
        (bytes.size < UInt64.size →
          contents finish.history [] indices = bytes)

theorem Attempt.Succeeds.vertexStage {start finish : Workspace σ}
    {pass : Pass} {pipeline : GraphicsPipeline} {shader : Shader}
    {record : StageRecord} (owns : start.Owns held)
    (fresh : FreshHandles finish.history)
    (faithful : contents.Faithful finish.history)
    (succeeds : (Work.captureVertices pass pipeline shader).Succeeds start
      record finish)
    (outputs : (StreamOut.VertexLayout.ofOutputs shader.outputs none).isEmpty =
      false) :
    Nonempty (VertexStage contents pass pipeline.stripCut
      (.ofOutputs shader.outputs none) start finish record) := by
  rcases succeeds.captureVertices with
    ⟨empty, -⟩ | ⟨-, derived, bound, reached, creates, streams, releases⟩
  · simp [empty] at outputs
  · have freshReached := fresh.of_prefix releases.history_prefix
    have faithfulReached : contents.Faithful reached.history :=
      faithful.of_prefix releases.history_prefix
    have released (buffer : BufferHandle) :
        contents finish.history [] buffer =
          contents reached.history [] buffer :=
      releases.contents_eq faithful rfl nofun
    rcases streams.streamVertices (creates.owns rfl owns) freshReached
      faithfulReached with
      ⟨drawn, ready, after, sizes, data, buffer, records, inside, readOut,
        attaches⟩
    rcases attaches.adds_attachIndices with ⟨more, adds, idle⟩
    have owned := readOut.owned (freshReached.of_prefix adds.history_prefix)
    have toReady : start.history <+: ready.history :=
      creates.history_prefix.trans inside
    rcases readOut.history with ⟨later, executed, -⟩
    have faithfulBound : contents.Faithful bound.history :=
      faithfulReached.of_prefix (inside.trans
        (List.IsPrefix.trans ⟨_, executed.symm⟩ adds.history_prefix))
    refine ⟨{ derived, bound, drawn, ready, after, sizes, data, buffer, records,
              readOut, more := more ++ [.releasePipeline derived]
              unchanged := funext fun buffer =>
                creates.contents_eq faithfulBound rfl nofun
              early := creates.history_prefix
              behind := toReady
              adds := adds.trans releases
              idle := ?idle
              kept := (released buffer).trans
                (attaches.contents_attachIndices freshReached faithfulReached
                  owned)
              recorded := ?recorded }⟩
    case idle =>
      intro call made
      rcases List.mem_append.mp made with attached | last
      · exact idle call attached
      · rw [List.mem_singleton.mp last]
        rfl
    case recorded =>
      rcases attaches.attachIndices with
        ⟨absent, same, -⟩ | ⟨bytes, width, _, indices, given, stores, same⟩
      · exact ⟨_, .inl ⟨absent, same⟩⟩
      · refine ⟨_, .inr ⟨bytes, width, indices, given, same, fun small => ?_⟩⟩
        rw [released, stores.contents_store faithfulReached small]

/-! ## The post stage -/

def Pass.reported (pass : Pass) (sizes : List UInt64) : UInt64 :=
  if 1 < pass.draw.instanceCount then sizes.getLastD 0 else sizes.headD 0

theorem Attempt.Succeeds.drawUntilFitting {start finish : Workspace σ}
    {pass : Pass} {derived : PipelineHandle} {stride : UInt32}
    {unsettled : UInt64} {scratch : Scratch} {attempts : Nat}
    {output : Work.PostOutput}
    (succeeds : (Work.drawUntilFitting pass derived stride unsettled scratch
      attempts).Succeeds start output finish) :
    output.dataOffset = pass.settings.counterBytes := by
  induction attempts generalizing start unsettled scratch with
  | zero => exact (succeeds_throw.mp succeeds).elim
  | succ attempts induction =>
      rcases succeeds_bind.mp succeeds with ⟨⟨_, _⟩, _, _, rest⟩
      simp only at rest
      split at rest
      · rcases succeeds_pure.mp rest with ⟨rfl, rfl⟩
        rfl
      · rcases succeeds_bind.mp rest with ⟨_, _, _, again⟩
        exact induction again

theorem Attempt.Succeeds.drawPrimitives {start finish : Workspace σ}
    {pass : Pass} {derived : PipelineHandle} {stride : UInt32}
    {scratch : Scratch} {output : Work.PostOutput}
    (succeeds : (Work.drawPrimitives pass derived stride scratch).Succeeds
      start output finish) :
    output.dataOffset = Stage.post.dataOffset pass.settings pass.draw := by
  rw [Work.drawPrimitives] at succeeds
  rw [Stage.dataOffset]
  split at succeeds
  · next several =>
      rw [if_pos several]
      rcases succeeds_bind.mp succeeds with ⟨⟨_, _⟩, _, _, rest⟩
      rcases succeeds_bind.mp rest with ⟨_, _, _, rest⟩
      rcases succeeds_bind.mp rest with ⟨_, _, _, rest⟩
      rcases succeeds_pure.mp rest with ⟨rfl, rfl⟩
      rfl
  · next single =>
      rw [if_neg single]
      exact succeeds.drawUntilFitting

theorem Attempt.Succeeds.streamPrimitives {start finish : Workspace σ}
    {pass : Pass} {shader : Shader} {layout : StreamOut.VertexLayout}
    {derived : PipelineHandle} {record : StageRecord}
    (owns : start.Owns held) (fresh : FreshHandles finish.history)
    (faithful : contents.Faithful finish.history)
    (succeeds : (Work.streamPrimitives pass shader layout derived).Succeeds
      start record finish) :
    ∃ scratch ready sizes data buffer,
      start.history <+: ready.history ∧
      let offset := Stage.post.dataOffset pass.settings pass.draw
      let written := min (pass.reported sizes)
        (scratch.room pass.settings offset)
      ReadOut contents { scratch } ready finish
        (Stage.post.counterCount pass.draw) sizes offset written data
        buffer ∧
      record.vertexBuffer = some buffer := by
  rcases succeeds_bind.mp succeeds with ⟨first, there, grows, rest⟩
  rcases succeeds_bind.mp rest with ⟨output, ready, draws, rest⟩
  rcases succeeds_bind.mp rest with ⟨_, copied, submits, rest⟩
  rcases succeeds_bind.mp rest with ⟨sizes, counted, counts, rest⟩
  obtain ⟨instances, told⟩ : ∃ instances,
      (if decide (1 < pass.draw.instanceCount) = true then
        InstanceShare.split sizes layout.stride
      else
        ([], sizes.headD 0)) = (instances, pass.reported sizes) := by
    simp only [decide_eq_true_eq, Pass.reported]
    split <;> exact ⟨_, rfl⟩
  rw [told] at rest
  rcases succeeds_bind.mp rest with ⟨_, checked, requires, rest⟩
  rcases requires.requireOutput with ⟨rfl, _⟩
  rcases succeeds_bind.mp rest with ⟨data, fetched, fetches, rest⟩
  rcases succeeds_bind.mp rest with ⟨buffer, after, stores, rest⟩
  rcases succeeds_pure.mp rest with ⟨rfl, rfl⟩
  have stores := succeeds_adapt.mp stores
  have submits := succeeds_adapt.mp submits
  have offset := draws.drawPrimitives
  have number : (if decide (1 < pass.draw.instanceCount) = true then
      pass.draw.instanceCount else 1) = Stage.post.counterCount pass.draw := by
    simp only [decide_eq_true_eq, Stage.counterCount]
  rw [number] at counts
  rw [offset] at fetches
  rcases Attempt.Takes.scratchFor.ownsScratch owns rfl
    (succeeds_adapt.mp grows) with ⟨present, ownsFirst, toFirst⟩
  rcases Attempt.Takes.drawPrimitives.ownsScratch ownsFirst ⟨present, rfl⟩
    draws with ⟨drawn, ownsReady, toReady⟩
  rcases exists_history_readOut submits counts fetches stores with
    ⟨later, executed, _⟩
  have distinct := ownsReady.distinct
    (fresh.of_prefix ⟨_, executed.symm⟩) drawn
  refine ⟨output.scratch, ready, sizes, data, buffer, toFirst.trans toReady,
    ?_, rfl⟩
  refine submits.readOut counts ?_ stores distinct faithful
  have room (dataOffset : UInt64) :
      (Recording.copyOut { scratch := output.scratch }).scratch.room
          pass.settings dataOffset =
        output.scratch.room pass.settings dataOffset := by
    rw [Recording.scratch_copyOut]
    rfl
  rwa [room] at fetches

theorem Attempt.Succeeds.capturePrimitives {start finish : Workspace σ}
    {pass : Pass} {pipeline : GraphicsPipeline} {shader : Shader}
    {record : StageRecord}
    (succeeds : (Work.capturePrimitives pass pipeline shader).Succeeds start
      record finish) :
    let layout := StreamOut.VertexLayout.ofOutputs shader.outputs (some 0)
    ∃ derived bound reached,
      start.Adds [.createPipeline
        (pipeline.streamingPostStage layout pass.rootSignature)
        (.ok derived)] bound ∧
      (Work.streamPrimitives pass shader layout derived).Succeeds bound
        record reached ∧
      reached.Adds [.releasePipeline derived] finish := by
  intro layout
  rw [Work.capturePrimitives] at succeeds
  simp only at succeeds
  split at succeeds
  · exact (succeeds_throw.mp succeeds).elim
  · rcases succeeds_bind.mp succeeds with ⟨derived, bound, creates, rest⟩
    rcases succeeds_afterwards.mp rest with ⟨reached, streams, releases⟩
    exact ⟨derived, bound, reached, adds (succeeds_adapt.mp creates), streams,
      releases ▸ Work.adds_releasePipeline reached derived⟩

end

end MeshCapture
