import MeshCapture.Proofs.Contents.Stored
import MeshCapture.Proofs.Viewed.Drawn

/-! # Views of a vertex stage

What a viewer is given of a successful vertex stage: the buffers, and in them all
vertices that were drawn. For a plain draw that is all there is to see. -/

namespace MeshCapture

/-! ## Room for all vertices -/

/-- The bytes asked for a draw suffice for every part of its vertices that a
counter can tell. -/
theorem Work.le_plainBytes {pass : Pass} {stride : UInt32} {bytes : Nat}
    (word : bytes < UInt64.size)
    (part : bytes ≤ pass.draw.elementCount.toNat *
      pass.draw.instanceCount.toNat * stride.toNat) :
    bytes ≤ (plainBytes pass stride).toNat := by
  have fits := Nat.mul_le_mul (Nat.le_of_lt_succ pass.draw.elementCount.toNat_lt)
    (Nat.le_of_lt_succ pass.draw.instanceCount.toNat_lt)
  have vertices : min
      (pass.draw.elementCount.toNat * pass.draw.instanceCount.toNat)
      (UInt64.size - 1) =
        pass.draw.elementCount.toNat * pass.draw.instanceCount.toNat :=
    Nat.min_eq_left (by simp only [UInt64.size]; omega)
  unfold plainBytes
  simp only [toNat_saturatingAdd, toNat_saturatingMul, UInt32.toNat_toUInt64]
  rw [vertices]
  omega

section

variable {σ : Type} {contents : Contents} {settings : Settings}
  {recording : Recording} {ready after : Workspace σ} {sizes : List UInt64}
  {data : ByteArray} {buffer : BufferHandle}

theorem ReadOut.size_eq_counter {total : UInt64}
    (readOut : ReadOut contents recording ready after 1 sizes
      settings.counterBytes (min (sizes.headD 0)
        (recording.scratch.room settings settings.counterBytes)) data buffer)
    (counter : LittleEndian.word64At
      (recording.image contents ready.history) 0 = some total)
    (small : recording.scratch.capacity.toNat +
      settings.counterBytes.toNat < UInt64.size)
    (fits : total.toNat ≤ recording.scratch.capacity.toNat) :
    data.size = total.toNat := by
  rcases exists_counters readOut.counted (by decide) with
    ⟨others, last, few, stands, counters⟩
  have none : others = [] := List.eq_nil_of_length_eq_zero (Nat.le_zero.mp few)
  have same : last = total := Option.some.inj (stands.symm.trans counter)
  have told : sizes = [total] := by
    rw [readOut.sizes_eq, counters, none, same]
    rfl
  have room : (recording.scratch.room settings settings.counterBytes).toNat =
      recording.scratch.capacity.toNat := by
    rw [Scratch.room, Scratch.outputBytes, toNat_saturatingSub,
      UInt64.toNat_add, Nat.mod_eq_of_lt small, Nat.add_sub_cancel]
  rw [readOut.size_eq, told, UInt64.toNat_min, room]
  exact Nat.min_eq_left fits

end

/-! ## Views of a vertex stage -/

namespace VertexStage

variable {σ : Type} [Device σ] {contents : Contents} {pass : Pass}
  {stripCut : StripCut} {layout : StreamOut.VertexLayout}
  {start finish : Workspace σ} {whole : EventRecord}

theorem view_eq
    (stage : VertexStage contents pass stripCut layout start finish
      whole.vertex) :
    let view := MeshView.ofRecord (some whole) 0 .vertex
    view.vertexBuffer = some stage.buffer ∧ view.vertexByteOffset = 0 ∧
      view.vertexByteStride = layout.stride ∧
      view.elementCount = pass.draw.elementCount := by
  rcases stage.recorded with ⟨_, ⟨-, same⟩ | ⟨_, _, _, -, same, -⟩⟩ <;>
    cases indexed : pass.draw.flags.indexed <;>
    simp [MeshView.ofRecord, EventRecord.stage, same, Pass.vertexRecord,
      MeshView.ofStage, indexed]

theorem stride_eq
    (stage : VertexStage contents pass stripCut layout start finish
      whole.vertex) :
    whole.vertex.vertexStride = layout.stride := by
  rcases stage.recorded with ⟨_, ⟨-, same⟩ | ⟨_, _, _, -, same, -⟩⟩ <;>
    exact congrArg StageRecord.vertexStride same

theorem indexBuffer_eq_none
    (stage : VertexStage contents pass stripCut layout start finish
      whole.vertex)
    (none : stage.drawn.indices = none ∨ pass.draw.flags.indexed = false) :
    (MeshView.ofRecord (some whole) 0 .vertex).indexBuffer = .none := by
  rcases stage.recorded with ⟨_, ⟨-, same⟩ | ⟨_, _, _, given, same, -⟩⟩
  · cases indexed : pass.draw.flags.indexed <;>
      simp [MeshView.ofRecord, EventRecord.stage, same, Pass.vertexRecord,
        MeshView.ofStage, indexed]
  · have plain : pass.draw.flags.indexed = false := by
      simpa [given] using none
    simp [MeshView.ofRecord, EventRecord.stage, same, Pass.vertexRecord,
      MeshView.ofStage, plain]

theorem view_indices
    (stage : VertexStage contents pass stripCut layout start finish
      whole.vertex)
    (indexed : pass.draw.flags.indexed = true) {bytes : ByteArray}
    {width : IndexWidth} (given : stage.drawn.indices = some (bytes, width))
    (small : bytes.size < UInt64.size) :
    let view := MeshView.ofRecord (some whole) 0 .vertex
    view.indexBuffer.isSome = true ∧
      ∀ place, view.vertexAt (contents finish.history []) place =
        (IndexStream.fetch width bytes place).toNat := by
  intro view
  rcases stage.recorded with
    ⟨_, ⟨absent, -⟩ | ⟨_, _, indices, present, same, held⟩⟩
  · simp [given] at absent
  · cases given.symm.trans present
    have fields : view.indexBuffer = some indices ∧
        view.indexByteStride = width.bytes ∧ view.indexByteOffset = 0 ∧
        view.indexByteSize = maxWord := by
      simp [view, MeshView.ofRecord, EventRecord.stage, same,
        Pass.vertexRecord, MeshView.ofStage, indexed]
    rcases fields with ⟨buffer, stride, offset, size⟩
    refine ⟨by simp [buffer], fun place => ?_⟩
    have widths : (if width.bytes = 2 then IndexWidth.bits16
        else IndexWidth.bits32) = width := by
      cases width <;> rfl
    have everything : bytes.extract 0 maxWord.toNat = bytes := by
      have last : maxWord.toNat = max maxWord.toNat bytes.size :=
        (Nat.max_eq_left (Nat.le_pred_of_lt small)).symm
      rw [last]
      exact ByteArray.extract_zero_max_size
    simp only [MeshView.vertexAt, buffer, stride, offset, size, widths,
      UInt64.toNat_zero, Nat.zero_add, held small, everything]

theorem holds
    (stage : VertexStage contents pass stripCut layout start finish
      whole.vertex)
    {elements number vertex : Nat}
    (size : stage.data.size = elements * number * layout.stride.toNat)
    (instances : 0 < number) (less : vertex < elements) :
    (MeshView.ofRecord (some whole) 0 .vertex).Holds
      (contents finish.history []) vertex := by
  rcases stage.view_eq with ⟨buffer, offset, stride, -⟩
  refine ⟨stage.buffer, buffer, ?_⟩
  rw [offset, stride, stage.kept, stage.readOut.stored, size]
  have first : vertex + 1 ≤ elements * number :=
    Nat.le_trans less (Nat.le_mul_of_pos_right elements instances)
  rw [UInt64.toNat_zero, Nat.zero_add]
  exact Nat.mul_le_mul_right _ first

theorem addressable
    (stage : VertexStage contents pass stripCut layout start finish
      whole.vertex)
    (addressable : ∀ scratch ∈ finish.scratch,
      scratch.IsAddressable pass.settings) :
    stage.drawn.recording.scratch.IsAddressable pass.settings := by
  have last := stage.adds.scratch.trans stage.readOut.scratch
  rw [Recording.scratch_copyOut] at last
  have known : Scratch.IsAddressable pass.settings
      { stage.drawn.recording.scratch with outputUse := .unorderedAccess } :=
    addressable _ last
  exact known

theorem size_eq
    (stage : VertexStage contents pass stripCut layout start finish
      whole.vertex)
    {elements : Nat} {total : UInt64}
    (counter : LittleEndian.word64At
      (stage.drawn.recording.image contents stage.ready.history) 0 = some total)
    (told : total.toNat =
      elements * pass.draw.instanceCount.toNat * layout.stride.toNat)
    (few : elements ≤ pass.draw.elementCount.toNat)
    (enough : (Work.plainBytes pass layout.stride).toNat ≤
      stage.drawn.recording.scratch.capacity.toNat)
    (addressable : stage.drawn.recording.scratch.IsAddressable pass.settings) :
    stage.data.size =
      elements * pass.draw.instanceCount.toNat * layout.stride.toNat := by
  have part : total.toNat ≤ pass.draw.elementCount.toNat *
      pass.draw.instanceCount.toNat * layout.stride.toNat := by
    rw [told]
    exact Nat.mul_le_mul_right _ (Nat.mul_le_mul_right _ few)
  have fits := (Work.le_plainBytes total.toNat_lt part).trans enough
  have small : stage.drawn.recording.scratch.capacity.toNat +
      pass.settings.counterBytes.toNat < UInt64.size :=
    Nat.lt_of_lt_of_le addressable (Nat.div_le_self _ _)
  rw [stage.readOut.size_eq_counter counter small fits, told]

/-- The points that a vertex stage drew: what they were drawn from, and that the
view holds those of the first instance. -/
theorem exists_drawn
    (stage : VertexStage contents pass stripCut layout start finish
      whole.vertex)
    {scratch : Scratch} {indices : Option IndexBufferRange} {draw : Command}
    {required : UInt64} {before grown : Workspace σ}
    (recorded : stage.drawn.recording =
      Work.pointPass pass stage.derived scratch indices draw)
    (draws : draw.isDraw = true)
    (few : draw.elementCount ≤ pass.draw.elementCount.toNat)
    (every : draw.instanceCount = pass.draw.instanceCount.toNat)
    (instances : 0 < pass.draw.instanceCount.toNat)
    (enough : (Work.plainBytes pass layout.stride).toNat ≤ required.toNat)
    (grows : (Work.scratchFor pass.settings required).Succeeds before scratch
      grown)
    (faithful : contents.Faithful finish.history)
    (addressable : ∀ scratch ∈ finish.scratch,
      scratch.IsAddressable pass.settings)
    (streams : ∀ drawn : StageDraw start.history finish.history,
      drawn.StreamsAll contents layout.stride) :
    ∃ drawn : StageDraw start.history finish.history,
      drawn.command = draw ∧
      (∀ vertex, drawn.inputAt contents vertex =
        draw.inputAt (contents stage.ready.history [])
          (indices.or pass.state.indexBuffer) vertex) ∧
      ∀ vertex < draw.elementCount,
        (MeshView.ofRecord (some whole) 0 .vertex).Holds
          (contents finish.history []) vertex := by
  have capacity : stage.drawn.recording.scratch.capacity =
      scratch.capacity := by
    rw [recorded, scratch_pointPass]
  have small := stage.addressable addressable
  have readOut := stage.readOut
  rw [recorded] at readOut
  rcases readOut.exists_stageDraw draws stage.behind stage.adds stage.idle
    (faithful.of_prefix stage.adds.history_prefix) with
    ⟨drawn, command, image, inputs⟩
  rcases streams drawn with ⟨total, counter, told⟩
  rw [image, ← recorded] at counter
  rw [command, every] at told
  have room : required.toNat ≤ scratch.capacity.toNat := by
    refine grows.scratchFor ?_
    rwa [Scratch.IsAddressable, capacity] at small
  have size := stage.size_eq counter told few
    (capacity ▸ enough.trans room) small
  exact ⟨drawn, command, inputs, fun vertex less =>
    stage.holds size instances less⟩

end VertexStage

section

variable {σ : Type} [Device σ] {contents : Contents} {visit : DrawVisit}
  {settings : Settings} {signature : Option RootSignatureHandle}
  {stripCut : StripCut} {layout : StreamOut.VertexLayout}
  {start finish : Workspace σ} {whole : EventRecord}

theorem VertexStage.shows_plain
    (stage : VertexStage contents (visit.pass settings signature) stripCut
      layout start finish whole.vertex)
    (plain : visit.draw.flags.indexed = false)
    (instances : 0 < visit.draw.instanceCount.toNat)
    (faithful : contents.Faithful finish.history)
    (addressable : ∀ scratch ∈ finish.scratch, scratch.IsAddressable settings)
    (streams : ∀ drawn : StageDraw start.history finish.history,
      drawn.StreamsAll contents layout.stride) :
    ∃ drawn : StageDraw start.history finish.history,
      ∀ place < visit.draw.elementCount.toNat,
        (MeshView.ofRecord (some whole) 0 .vertex).Shows contents drawn place
          (visit.inputAt (contents start.history []) place) := by
  have records := stage.records
  unfold Work.recordVertices at records
  rw [if_neg (by simpa [DrawVisit.pass] using plain)] at records
  rcases records.recordPlainDraw with ⟨scratch, grows, recorded⟩
  rcases stage.exists_drawn recorded rfl (Nat.le_refl _) rfl instances
    (Nat.le_refl _) grows faithful addressable streams with
    ⟨drawn, command, inputs, held⟩
  refine ⟨drawn, fun place less => ?_⟩
  have stands : (MeshView.ofRecord (some whole) 0 .vertex).vertexAt
      (contents finish.history []) place = place := by
    rw [MeshView.vertexAt, stage.indexBuffer_eq_none (.inr plain)]
  refine ⟨?_, ?_, ?_⟩
  · rw [stands, command]
    exact less
  · rw [stands]
    exact held place less
  · rw [stands, inputs, DrawVisit.inputAt, Draw.command, if_neg (by simp [plain])]
    rfl

end

end MeshCapture
