import MeshCapture.Proofs.Contents.Computed
import MeshCapture.Proofs.Contents.Stages

/-! # What is stored

A stage keeps a part of what its last copy left in the staging buffer. How long
the part is, a counter in the same copy tells. Nothing else that was ever in the
staging buffer is kept. -/

namespace MeshCapture

variable {σ : Type} {contents : Contents}

/-- The buffer holds what the last copy between two workspaces left behind an
offset in the staging buffer, as much as the counter in the copy says and as
there is room for. The copy has all its bytes from the output buffer. -/
def KeepsLastCopy (contents : Contents) (settings : Settings)
    (start finish : Workspace σ) (counterOffset : Nat) (dataOffset : UInt64)
    (buffer : BufferHandle) : Prop :=
  ∃ (copy : LastCopy start.history finish.history) (scratch : Scratch)
      (total : UInt64),
    finish.scratch = some scratch ∧
    copy.target = scratch.staging ∧ copy.source = scratch.output ∧
    let image := copy.image contents
    image = contents copy.earlier copy.front copy.source ∧
    LittleEndian.word64At image counterOffset = some total ∧
    let size := (scratch.capacity + settings.counterBytes).toNat
    let length := min total.toNat (size - dataOffset.toNat)
    contents finish.history [] buffer =
        image.extract dataOffset.toNat (dataOffset.toNat + length) ∧
      (contents finish.history [] buffer).size = length

theorem Scratch.toNat_room (scratch : Scratch) (settings : Settings)
    (dataOffset : UInt64) :
    (scratch.room settings dataOffset).toNat =
      (scratch.capacity + settings.counterBytes).toNat - dataOffset.toNat :=
  toNat_saturatingSub _ _

theorem ReadOut.keepsLastCopy [Device σ] {settings : Settings}
    {recording : Recording} {start ready after finish : Workspace σ}
    {number : UInt32} {sizes : List UInt64} {offset reported : UInt64}
    {data : ByteArray} {buffer : BufferHandle} {more : List Call}
    (readOut : ReadOut contents recording ready after number sizes offset
      (min reported (recording.scratch.room settings offset)) data buffer)
    (any : 0 < number.toNat)
    (told : ∀ front total, sizes = front ++ [total] →
      front.length ≤ number.toNat - 1 → reported = total)
    (behind : start.history <+: ready.history)
    (adds : after.Adds more finish)
    (idle : ∀ call ∈ more, call.isExecute = false)
    (kept : contents finish.history [] buffer =
      contents after.history [] buffer) :
    KeepsLastCopy contents settings start finish (8 * (number.toNat - 1))
      offset buffer := by
  rcases exists_counters readOut.counted any with
    ⟨others, total, few, counter, counters⟩
  have last : reported = total :=
    told others total (readOut.sizes_eq.trans counters) few
  rcases readOut.exists_lastCopy behind adds idle with
    ⟨copy, earlier, front, target, source⟩
  have image : copy.image contents =
      recording.image contents ready.history := by
    rw [LastCopy.image, earlier, front, target, source]
    rfl
  have length := readOut.size_eq
  have held := readOut.data_eq
  rw [UInt64.toNat_min, last, Scratch.toNat_room] at length held
  have scratch := adds.scratch.trans readOut.scratch
  rw [Recording.scratch_copyOut] at scratch
  refine ⟨copy, _, total, scratch, target, source, ?_⟩
  rw [kept, readOut.stored, image, earlier, front, source]
  exact ⟨readOut.copied, counter, held, length⟩

/-! ## The stages -/

section

variable [Device σ] {held : Multiset Resource} {pass : Pass}
  {start finish : Workspace σ} {record : StageRecord}

theorem Attempt.Succeeds.keepsVertices {pipeline : GraphicsPipeline}
    {shader : Shader} (owns : start.Owns held)
    (fresh : FreshHandles finish.history)
    (faithful : contents.Faithful finish.history)
    (succeeds : (Work.captureVertices pass pipeline shader).Succeeds start
      record finish)
    (outputs : (StreamOut.VertexLayout.ofOutputs shader.outputs none).isEmpty =
      false) :
    ∃ buffer, record.vertexBuffer = some buffer ∧
      KeepsLastCopy contents pass.settings start finish 0
        pass.settings.counterBytes buffer := by
  rcases succeeds.vertexStage owns fresh faithful outputs with ⟨stage⟩
  refine ⟨stage.buffer, ?_, ?_⟩
  · rcases stage.recorded with
      ⟨_, ⟨-, same⟩ | ⟨_, _, _, -, same, -⟩⟩ <;>
    exact congrArg StageRecord.vertexBuffer same
  · refine stage.readOut.keepsLastCopy (by decide) ?_ stage.behind stage.adds
      stage.idle stage.kept
    intro front total counters few
    have none : front = [] := List.eq_nil_of_length_eq_zero
      (Nat.le_zero.mp few)
    rw [counters, none]
    rfl

theorem Attempt.Succeeds.keepsPrimitives {pipeline : GraphicsPipeline}
    {shader : Shader} (owns : start.Owns held)
    (fresh : FreshHandles finish.history)
    (faithful : contents.Faithful finish.history)
    (succeeds : (Work.capturePrimitives pass pipeline shader).Succeeds start
      record finish) :
    ∃ buffer, record.vertexBuffer = some buffer ∧
      KeepsLastCopy contents pass.settings start finish
        (8 * ((Stage.post.counterCount pass.draw).toNat - 1))
        (Stage.post.dataOffset pass.settings pass.draw) buffer := by
  rcases succeeds.capturePrimitives with
    ⟨derived, bound, reached, creates, streams, releases⟩
  have faithfulReached : contents.Faithful reached.history :=
    faithful.of_prefix releases.history_prefix
  rcases streams.streamPrimitives (creates.owns rfl owns)
    (fresh.of_prefix releases.history_prefix) faithfulReached with
    ⟨scratch, ready, sizes, data, buffer, inside, readOut, stored⟩
  refine ⟨buffer, stored, ?_⟩
  refine readOut.keepsLastCopy ?_ ?_ (creates.history_prefix.trans inside)
    releases (by simp [Call.isExecute])
    (releases.contents_eq faithful rfl nofun)
  · rw [Stage.counterCount]
    split
    · next several =>
        have : 1 < pass.draw.instanceCount.toNat := several
        omega
    · decide
  · intro front total counters few
    rw [Pass.reported, counters]
    split
    · exact List.getLastD_concat
    · next single =>
        rw [Stage.counterCount, if_neg single] at few
        have none : front = [] := List.eq_nil_of_length_eq_zero
          (Nat.le_zero.mp few)
        rw [none]
        rfl

end

/-- A stage capture that succeeds keeps the vertices its last copy left in the
staging buffer, as many as the last counter in that copy tells. Only a vertex
stage without outputs has none to keep. -/
theorem Engine.stage_keeps_last_copy [Device σ] (device : σ)
    (settings : Settings) (operations : List Operation) (visit : DrawVisit)
    (stage : Stage) (start finish : Workspace σ) (record : StageRecord)
    (contents : Contents)
    (captured : StageCapture ((new device settings).run operations) visit stage
      start record finish)
    (fresh : FreshHandles finish.history)
    (faithful : contents.Faithful finish.history) :
    let settings := ((new device settings).run operations).settings
    (stage = .vertex ∧ start = finish ∧ record.vertexBuffer = none ∧
      ∃ pipeline shader, visit.captured = .ok (pipeline, shader) ∧
        (StreamOut.VertexLayout.ofOutputs shader.outputs none).isEmpty =
          true) ∨
    ∃ buffer, record.vertexBuffer = some buffer ∧
      KeepsLastCopy contents settings start finish
        (8 * ((stage.counterCount visit.draw).toNat - 1))
        (stage.dataOffset settings visit.draw) buffer := by
  cases captured with
  | vertex pass pipeline shader _ _ _ found begins succeeds =>
      rcases begins.exists_owns with ⟨held, owns⟩
      cases outputs : (StreamOut.VertexLayout.ofOutputs shader.outputs
          none).isEmpty with
      | false =>
          have kept := succeeds.keepsVertices owns fresh faithful outputs
          cases begins <;> exact .inr kept
      | true =>
          rcases succeeds.captureVertices with
            ⟨-, rfl, same⟩ | ⟨present, -⟩
          · exact .inl ⟨rfl, same, rfl, pipeline, shader, found, outputs⟩
          · simp [outputs] at present
  | post pass pipeline shader last first _ _ vertex _ found begins vertices
      present succeeds =>
      rcases begins.exists_owns with ⟨held, owns⟩
      rcases Attempt.Takes.captureVertices.owns owns rfl vertices with
        ⟨between, _, -, ownsBetween, -⟩
      have kept := succeeds.keepsPrimitives ownsBetween fresh faithful
      cases begins <;> exact .inr kept

/-! ### A scripted capture -/

namespace Scripted

def depthShader : Shader where
  bytecode := .empty
  outputs := [
    { semanticName := "DEPTH", semanticIndex := 0, componentCount := 1 }]

def depthPipeline : GraphicsPipeline where
  vertexShader := some depthShader
  geometryShader := some depthShader

def depthTriangles : DrawVisit where
  event := 1
  draw := { elementCount := 3, instanceCount := 2 }
  state := { pipeline := some ⟨⟨100⟩, .graphics depthPipeline⟩ }

def depthOutput : Readback where
  counters := [12, 24]
  dataOffset := 16
  data := ⟨((List.range 24).map UInt8.ofNat).toArray⟩

def depthDevice : Device where
  readbacks := [depthOutput, depthOutput]
  statistics := [⟨2, 2⟩]

def tinyScratch : Settings where
  initialScratchBytes := 40
  counterBytes := 16

def depthPass : Pass :=
  depthTriangles.pass tinyScratch none

def depthStart : Workspace Device :=
  ((Work.setMemoryTolerance true).run { device := depthDevice }).2

def depthVertices : Except CaptureFailure StageRecord × Workspace Device :=
  (Work.captureVertices depthPass depthPipeline depthShader).run.run depthStart

def depthPrimitives : Except CaptureFailure StageRecord × Workspace Device :=
  (Work.capturePrimitives depthPass depthPipeline depthShader).run.run
    depthVertices.2

end Scripted

open Scripted in
/-- The post stage keeps the triangles of both instances. -/
theorem Engine.stage_keeps_last_copy_instances :
    let contents :=
      (streaming ⟨2⟩ depthOutput ⟨2, 2⟩).contents fun _ => .empty
    let start := depthVertices.2
    let finish := depthPrimitives.2
    let record := depthPrimitives.1.toOption.getD default
    StageCapture (new depthDevice tinyScratch) depthTriangles .post start
        record finish ∧
      FreshHandles finish.history ∧ contents.Faithful finish.history ∧
      ∃ buffer, record.vertexBuffer = some buffer ∧
        KeepsLastCopy contents tinyScratch start finish 8 16 buffer := by
  intro contents start finish record
  have fresh : FreshHandles finish.history := by decide +kernel
  have faithful : contents.Faithful finish.history :=
    CommandEffect.faithful _ _ (by decide +kernel)
  have captured : StageCapture (new depthDevice tinyScratch) depthTriangles
      .post start record finish :=
    .post depthPass depthPipeline depthShader depthShader depthStart start
      finish _ record rfl (.bound depthStart rfl rfl)
      (Attempt.succeeds_of_isOk _ _ (by decide +kernel)) rfl
      (Attempt.succeeds_of_isOk _ _ (by decide +kernel))
  rcases stage_keeps_last_copy depthDevice tinyScratch [] depthTriangles .post
    start finish record contents captured fresh faithful with
    ⟨vertexStage, -⟩ | kept
  · cases vertexStage
  · exact ⟨captured, fresh, faithful, kept⟩

end MeshCapture
