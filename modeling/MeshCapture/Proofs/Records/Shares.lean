import MeshCapture.MeshView
import MeshCapture.Proofs.Contents.Stored
import MeshCapture.Proofs.Records.Law
import MeshCapture.Proofs.Records.Totals

/-! # Shares of instances

The shares of the instances are cut out of the running totals as the device
tells them, and the vertices are cut to what there was room for. A share can so
end behind the vertices that are there. -/

namespace MeshCapture

/-! ## Views -/

namespace MeshView

def vertexEnd (view : MeshView) : Nat :=
  view.vertexByteOffset.toNat +
    view.elementCount.toNat * view.vertexByteStride.toNat

theorem vertexEnd_ofRecord {record : EventRecord} {stage : Stage}
    {instanceIndex : UInt32} {share : InstanceShare}
    (found : (record.stage stage).instances[instanceIndex.toNat]? =
      some share) :
    (ofRecord (some record) instanceIndex stage).vertexEnd =
      share.vertexEnd (record.stage stage).vertexStride := by
  have stride : (ofStage (record.stage stage) instanceIndex).vertexByteStride =
      (record.stage stage).vertexStride := by
    unfold ofStage
    simp only
    split <;> rfl
  simp only [ofRecord, found]
  rw [vertexEnd, InstanceShare.vertexEnd, ← stride]
  rfl

end MeshView

/-! ## Stored vertices -/

/-- The calls of a stage over several instances in front of the last ones. It
reads the total of every instance and then as many bytes as the last total tells
and there is room for, and stores these in the buffer of its record. -/
structure SharesStored {σ : Type} (settings : Settings) (draw : Draw)
    (record : StageRecord) (finish : Workspace σ) (later : List Call) where
  scratch : Scratch
  totals : List UInt64
  length : UInt64
  counted : ByteArray
  data : ByteArray
  label : String
  buffer : BufferHandle
  earlier : List Call
  scratch_eq : finish.scratch = some scratch
  buffer_eq : record.vertexBuffer = some buffer
  history_eq : finish.history = earlier ++
    [.readBuffer scratch.staging 0 (draw.instanceCount.toUInt64 * 8)
        (.ok counted),
      .readBuffer scratch.staging (Stage.post.dataOffset settings draw) length
        (.ok data),
      .createBuffer { label, size := length, heap := .upload } (.ok buffer),
      .writeBuffer buffer 0 data (.ok ())] ++ later
  counted_size : counted.size = 8 * draw.instanceCount.toNat
  totals_eq :
    totals = LittleEndian.words counted draw.instanceCount.toNat
  length_eq : length = min (totals.getLastD 0)
    (scratch.room settings (Stage.post.dataOffset settings draw))
  instances_eq : record.instances =
    (InstanceShare.split totals record.vertexStride).1

namespace SharesStored

variable {σ : Type} {settings : Settings} {draw : Draw} {record : StageRecord}
  {reached finish : Workspace σ} {later : List Call}

instance : Subsingleton (SharesStored settings draw record finish later) where
  allEq left right := by
    rcases left with ⟨scratch, totals, length, counted, data, label, buffer,
      earlier, scratch_eq, _, history_eq, _, totals_eq, _, _⟩
    rcases right with ⟨otherScratch, otherTotals, otherLength, otherCounted,
      otherData, otherLabel, otherBuffer, otherEarlier, other_scratch_eq, _,
      other_history_eq, _, other_totals_eq, _, _⟩
    have same := List.append_cancel_right
      (history_eq.symm.trans other_history_eq)
    rcases List.append_inj' same rfl with ⟨rfl, calls⟩
    cases Option.some.inj (scratch_eq.symm.trans other_scratch_eq)
    cases calls
    cases totals_eq.trans other_totals_eq.symm
    rfl

def room (stored : SharesStored settings draw record finish later) : UInt64 :=
  stored.scratch.room settings (Stage.post.dataOffset settings draw)

def followed (stored : SharesStored settings draw record reached later)
    {more : List Call} (adds : reached.Adds more finish) :
    SharesStored settings draw record finish (later ++ more) :=
  { stored with
    scratch_eq := adds.scratch.trans stored.scratch_eq
    history_eq := by rw [adds.history, stored.history_eq, List.append_assoc] }

theorem totals_length
    (stored : SharesStored settings draw record finish later) :
    stored.totals.length = draw.instanceCount.toNat := by
  rw [stored.totals_eq, LittleEndian.length_words stored.counted_size]

theorem instances_length
    (stored : SharesStored settings draw record finish later) :
    record.instances.length = draw.instanceCount.toNat := by
  rw [stored.instances_eq, InstanceShare.length_split, stored.totals_length]

theorem views_inside_iff
    (stored : SharesStored settings draw record finish later)
    {whole : EventRecord} (kept : whole.post = record) {bound : Nat} :
    (∀ instanceIndex < draw.instanceCount,
        (MeshView.ofRecord (some whole) instanceIndex .post).vertexEnd ≤
          bound) ↔
      ∀ share ∈ record.instances,
        share.vertexEnd record.vertexStride ≤ bound := by
  subst kept
  have shown {instanceIndex : UInt32} {share : InstanceShare}
      (found : whole.post.instances[instanceIndex.toNat]? = some share) :
      (MeshView.ofRecord (some whole) instanceIndex .post).vertexEnd =
        share.vertexEnd whole.post.vertexStride :=
    MeshView.vertexEnd_ofRecord found
  constructor
  · intro views share inside
    rcases List.getElem?_of_mem inside with ⟨index, found⟩
    have below : index < draw.instanceCount.toNat := by
      rw [← stored.instances_length]
      exact (List.getElem?_eq_some_iff.mp found).1
    have small : (UInt32.ofNat index).toNat = index :=
      UInt32.toNat_ofNat_of_lt' (below.trans draw.instanceCount.toNat_lt)
    rw [← shown (small.symm ▸ found)]
    exact views _ (UInt32.lt_iff_toNat_lt.mpr (small.symm ▸ below))
  · intro shares instanceIndex below
    have inside : instanceIndex.toNat < whole.post.instances.length :=
      stored.instances_length ▸ UInt32.lt_iff_toNat_lt.mp below
    rw [shown (List.getElem?_eq_getElem inside)]
    exact shares _ (List.getElem_mem inside)

theorem inside_iff (stored : SharesStored settings draw record finish later)
    (any : 0 < draw.instanceCount) (apart : 0 < record.vertexStride) :
    (∀ share ∈ record.instances,
        share.vertexEnd record.vertexStride ≤ stored.length.toNat) ↔
      InstanceShare.TotalsFit stored.totals record.vertexStride.toNat
        stored.room.toNat := by
  have told : stored.totals ≠ [] := by
    rw [← List.length_pos_iff, stored.totals_length]
    exact UInt32.lt_iff_toNat_lt.mp any
  rw [stored.instances_eq, stored.length_eq, UInt64.toNat_min]
  exact InstanceShare.split_inside_iff told apart

end SharesStored

namespace Attempt.Succeeds

variable {σ : Type} [Device σ] {pass : Pass} {shader : Shader}
  {record : StageRecord} {before after start finish : Workspace σ}

theorem sharesStored_streamPrimitives {layout : StreamOut.VertexLayout}
    {derived : PipelineHandle}
    (succeeds : (Work.streamPrimitives pass shader layout derived).Succeeds
      start record finish)
    (several : 1 < pass.draw.instanceCount) :
    Nonempty (SharesStored pass.settings pass.draw record finish []) := by
  rcases succeeds_bind.mp succeeds with ⟨first, there, grows, rest⟩
  rcases succeeds_bind.mp rest with ⟨output, ready, draws, rest⟩
  rcases succeeds_bind.mp rest with ⟨_, copied, submits, rest⟩
  rcases succeeds_bind.mp rest with ⟨totals, counted, counts, rest⟩
  simp only [several, decide_true, if_true] at counts rest
  rcases succeeds_bind.mp rest with ⟨_, checked, requires, rest⟩
  rcases requires.requireOutput with ⟨rfl, _⟩
  rcases succeeds_bind.mp rest with ⟨data, fetched, fetches, rest⟩
  rcases succeeds_bind.mp rest with ⟨buffer, after, stores, rest⟩
  rcases succeeds_pure.mp rest with ⟨rfl, rfl⟩
  rw [draws.drawPrimitives] at fetches
  have submitted := (succeeds_adapt.mp submits).submit.2
  rcases counts.filledSizes with ⟨bytes, countsRead, enough, rfl⟩
  rcases fetches.fetchStaged with ⟨dataRead, whole⟩
  rcases (succeeds_adapt.mp stores).store with ⟨between, creates, writes⟩
  have added := countsRead.trans (dataRead.trans (creates.trans writes))
  rw [whole, UInt64.ofNat_toNat] at added
  exact ⟨{
    scratch := (Recording.copyOut { scratch := output.scratch }).scratch
    totals := LittleEndian.words bytes pass.draw.instanceCount.toNat
    length := _
    counted := bytes
    data
    label := _
    buffer
    earlier := copied.history
    scratch_eq := added.scratch.trans submitted
    buffer_eq := rfl
    history_eq := added.history.trans (List.append_nil _).symm
    totals_eq := rfl
    counted_size := enough
    length_eq := rfl
    instances_eq := rfl }⟩

theorem sharesStored_capturePrimitives {pipeline : GraphicsPipeline}
    (succeeds : (Work.capturePrimitives pass pipeline shader).Succeeds start
      record finish)
    (several : 1 < pass.draw.instanceCount) :
    ∃ derived, Nonempty (SharesStored pass.settings pass.draw record finish
      [.releasePipeline derived]) := by
  rcases succeeds.capturePrimitives with
    ⟨derived, bound, reached, -, streams, releases⟩
  rcases streams.sharesStored_streamPrimitives several with ⟨stored⟩
  exact ⟨derived, ⟨stored.followed releases⟩⟩

end Attempt.Succeeds

/-- A post stage over several instances that succeeds stores as much as the last
total tells and there is room for, and cuts a share for every instance out of
the totals as they are. So the shares end inside the stored vertices, and with
them all that the views of the instances address, just when the totals fit. -/
theorem Engine.shares_inside_iff {σ : Type} [Device σ] (device : σ)
    (settings : Settings) (operations : List Operation) (visit : DrawVisit)
    (start finish : Workspace σ) (record : StageRecord)
    (captured : StageCapture ((new device settings).run operations) visit .post
      start record finish)
    (several : 1 < visit.draw.instanceCount) :
    let settings := ((new device settings).run operations).settings
    ∃ derived, ∃ stored : SharesStored settings visit.draw record finish
        [.releasePipeline derived],
      record.instances.length = visit.draw.instanceCount.toNat ∧
      ((∀ share ∈ record.instances,
          share.vertexEnd record.vertexStride ≤ stored.length.toNat) ↔
        InstanceShare.TotalsFit stored.totals record.vertexStride.toNat
          stored.room.toNat) ∧
      ∀ whole : EventRecord, whole.post = record →
        ((∀ instanceIndex < visit.draw.instanceCount,
            (MeshView.ofRecord (some whole) instanceIndex .post).vertexEnd ≤
              stored.length.toNat) ↔
          InstanceShare.TotalsFit stored.totals record.vertexStride.toNat
            stored.room.toNat) := by
  cases captured with
  | post pass pipeline shader last first _ _ vertex _ found begins vertices
      present succeeds =>
      have apart : 0 < record.vertexStride :=
        succeeds.holds_capturePrimitives.2.1.stride
      have any : 0 < visit.draw.instanceCount :=
        UInt32.lt_trans (by decide) several
      have stores : ∃ derived, Nonempty (SharesStored
          ((new device settings).run operations).settings visit.draw record
          finish [.releasePipeline derived]) := by
        cases begins <;>
        exact succeeds.sharesStored_capturePrimitives several
      rcases stores with ⟨derived, ⟨stored⟩⟩
      have shares := stored.inside_iff any apart
      exact ⟨derived, stored, stored.instances_length, shares, fun whole kept =>
        (stored.views_inside_iff kept).trans shares⟩

/-! ### Scripted totals -/

namespace Scripted

def totalsDevice (totals : List UInt64) : Device where
  readbacks := [depthOutput, { depthOutput with counters := totals }]
  statistics := [⟨2, 2⟩]

def totalsStart (totals : List UInt64) : Workspace Device :=
  ((Work.setMemoryTolerance true).run { device := totalsDevice totals }).2

def totalsVertices (totals : List UInt64) :
    Except CaptureFailure StageRecord × Workspace Device :=
  (Work.captureVertices depthPass depthPipeline depthShader).run.run
    (totalsStart totals)

def totalsPrimitives (totals : List UInt64) :
    Except CaptureFailure StageRecord × Workspace Device :=
  (Work.capturePrimitives depthPass depthPipeline depthShader).run.run
    (totalsVertices totals).2

def totalsRecord (totals : List UInt64) : StageRecord :=
  (totalsPrimitives totals).1.toOption.getD default

theorem captured_totals {totals : List UInt64}
    (vertices : (totalsVertices totals).1.isOk = true)
    (primitives : (totalsPrimitives totals).1.isOk = true) :
    StageCapture (Engine.new (totalsDevice totals) tinyScratch) depthTriangles
      .post (totalsVertices totals).2 (totalsRecord totals)
      (totalsPrimitives totals).2 :=
  .post depthPass depthPipeline depthShader depthShader (totalsStart totals) _ _
    _ _ rfl (.bound _ rfl rfl) (Attempt.succeeds_of_isOk _ _ vertices) rfl
    (Attempt.succeeds_of_isOk _ _ primitives)

end Scripted

open Scripted in
/-- A stage that stores the triangles of both instances. -/
theorem Engine.shares_inside_triangles :
    let totals := [12, 24]
    let record := totalsRecord totals
    let finish := (totalsPrimitives totals).2
    StageCapture (new (totalsDevice totals) tinyScratch) depthTriangles .post
        (totalsVertices totals).2 record finish ∧
      1 < depthTriangles.draw.instanceCount ∧
      ∃ derived, ∃ stored : SharesStored tinyScratch depthTriangles.draw record
          finish [.releasePipeline derived],
        record.instances.length = 2 ∧
        ((∀ share ∈ record.instances,
            share.vertexEnd record.vertexStride ≤ stored.length.toNat) ↔
          InstanceShare.TotalsFit stored.totals record.vertexStride.toNat
            stored.room.toNat) := by
  intro totals record finish
  have captured : StageCapture (new (totalsDevice totals) tinyScratch)
      depthTriangles .post (totalsVertices totals).2 record finish :=
    captured_totals (by decide +kernel) (by decide +kernel)
  rcases shares_inside_iff (totalsDevice totals) tinyScratch [] depthTriangles
    (totalsVertices totals).2 finish record captured (by decide) with
    ⟨derived, stored, number, shares, -⟩
  exact ⟨captured, by decide, derived, stored, number, shares⟩

def Call.madeSize? (buffer : BufferHandle) : Call → Option UInt64
  | .createBuffer description (.ok made) =>
      if made = buffer then some description.size else none
  | _ => none

open Scripted in
/-- There is room for 40 bytes, and the last total tells 1000. The buffer of the
record gets 40 bytes, and the share of the second instance ends behind them. -/
theorem Engine.share_overruns :
    let totals := [12, 1000]
    let record := totalsRecord totals
    let finish := (totalsPrimitives totals).2
    StageCapture (new (totalsDevice totals) tinyScratch) depthTriangles .post
        (totalsVertices totals).2 record finish ∧
      1 < depthTriangles.draw.instanceCount ∧ record.vertexStride = 4 ∧
      ∃ buffer share, record.vertexBuffer = some buffer ∧
        finish.history.filterMap (Call.madeSize? buffer) = [40] ∧
        record.instances[1]? = some share ∧
        40 < share.vertexEnd record.vertexStride ∧
        40 <
          (MeshView.ofRecord (some { post := record }) 1 .post).vertexEnd := by
  intro totals record finish
  have captured : StageCapture (new (totalsDevice totals) tinyScratch)
      depthTriangles .post (totalsVertices totals).2 record finish :=
    captured_totals (by decide +kernel) (by decide +kernel)
  exact ⟨captured, by decide, by decide +kernel, ⟨8⟩, ⟨247, 12⟩,
    by decide +kernel, by decide +kernel, by decide +kernel, by decide +kernel,
    by decide +kernel⟩

end MeshCapture
