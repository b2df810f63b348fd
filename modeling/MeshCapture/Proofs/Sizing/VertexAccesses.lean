import MeshCapture.Proofs.Sizing.AccessRules
import MeshCapture.Proofs.Viewed.Stage

/-! # Accesses of the vertex stage

The room that this stage asks for is told by the draw and by the indices that it
fetches: nothing it does with the scratch set leaves it, whatever the counter
says. -/

namespace MeshCapture

open StageTask

variable {σ : Type}

/-! ## Sizes -/

namespace Scratch.Proportioned

variable {settings : Settings} {scratch : Scratch}

theorem counters_inside (proportioned : scratch.Proportioned settings)
    (sound : settings.Sound) :
    settings.counterBytes.toNat ≤ scratch.outputSize settings := by
  rw [proportioned.outputSize_eq sound]
  exact Nat.le_add_left _ _

theorem room_eq (proportioned : scratch.Proportioned settings)
    (sound : settings.Sound) :
    (scratch.room settings settings.counterBytes).toNat =
      scratch.capacity.toNat := by
  have whole := proportioned.outputSize_eq sound
  have room := scratch.room_behind settings settings.counterBytes
  omega

/-- A need that saturates is refused, and so one that fits is not cut short. -/
theorem unsaturated (proportioned : scratch.Proportioned settings) {need : Nat}
    (enough : min need (UInt64.size - 1) ≤ scratch.capacity.toNat) :
    need ≤ scratch.capacity.toNat := by
  have accepted := UInt64.lt_iff_toNat_lt.mp proportioned.accepted
  have word := settings.maxScratchBytes.toNat_lt
  simp only [UInt64.size] at enough
  omega

end Scratch.Proportioned

theorem Scratch.Offers.vertices_fit {settings : Settings} {required : UInt64}
    {scratch : Scratch} (offers : scratch.Offers settings required)
    {pass : Pass} {stride : UInt32}
    (large : (Work.plainBytes pass stride).toNat ≤ required.toNat) :
    pass.draw.elementCount.toNat * pass.draw.instanceCount.toNat *
      stride.toNat ≤ scratch.capacity.toNat := by
  refine offers.proportioned.unsaturated ?_
  refine Nat.le_trans ?_ (Nat.le_trans large offers.enough)
  exact Work.le_plainBytes (by simp only [UInt64.size]; omega)
    (Nat.min_le_left _ _)

theorem Scratch.read_inside {settings : Settings} {scratch : Scratch}
    {dataOffset : UInt64} (reported : UInt64)
    (inside : dataOffset.toNat ≤ scratch.outputSize settings) :
    dataOffset.toNat +
        (min reported (scratch.room settings dataOffset)).toNat ≤
      scratch.outputSize settings := by
  have room := scratch.room_behind settings dataOffset
  rw [UInt64.toNat_min]
  omega

namespace IndexSelection

variable {indices : List UInt32} {declared : UInt32}
  (few : indices.length ≤ declared.toNat)

include few

theorem toNat_count_ofIndices :
    (ofIndices indices declared).count.toNat =
      (ofIndices indices declared).members.size := by
  have size := size_ofIndices_le few
  have word := declared.toNat_lt
  exact toNat_count (by omega)

theorem count_ofIndices_le :
    (ofIndices indices declared).count.toNat ≤ declared.toNat := by
  rw [toNat_count_ofIndices few]
  exact size_ofIndices_le few

theorem size_toBytes_ofIndices :
    (ofIndices indices declared).toBytes.size =
      4 * (ofIndices indices declared).count.toNat := by
  rw [size_toBytes, toNat_count_ofIndices few]

theorem size_toBytes_le_indexBytes {capacity : UInt64}
    (enough : ((ofIndices indices declared).count.toUInt64 *
      Work.bytesPerSelectedIndex).toNat ≤ capacity.toNat) :
    (ofIndices indices declared).toBytes.size ≤
      (Scratch.indexBytes capacity).toNat := by
  have word := (ofIndices indices declared).count.toNat_lt
  rw [UInt64.toNat_mul, UInt32.toNat_toUInt64] at enough
  simp only [Work.bytesPerSelectedIndex, UInt64.reduceToNat] at enough
  rw [size_toBytes_ofIndices few, Scratch.toNat_indexBytes]
  omega

end IndexSelection

/-! ## The vertex stage -/

namespace StageTask.Suits

variable {task : StageTask} {scratch : Scratch} {derived : PipelineHandle}
  {required : UInt64} (sound : task.pass.settings.Sound)
  (roomy : 8 ≤ task.pass.settings.counterBytes.toNat)
  (isVertex : task.stage = .vertex)
  (offers : scratch.Offers task.pass.settings required)
  (large : (Work.plainBytes task.pass task.stride).toNat ≤ required.toNat)

include sound roomy isVertex offers large

theorem points {indices : Option IndexBufferRange} {draw : Command}
    (isDraw : draw.isDraw = true)
    (elements : draw.elementCount ≤ task.pass.draw.elementCount.toNat)
    (instances : draw.instanceCount = task.pass.draw.instanceCount.toNat)
    (uploaded : ∀ range ∈ indices,
      (Command.setIndexBuffer range).Inside task.pass.settings scratch ∧
        4 * draw.elementCount ≤ range.size.toNat) :
    task.Suits none scratch
      (Work.pointPass task.pass derived scratch indices draw) := by
  have vertices := offers.vertices_fit large
  refine pointPass isVertex isDraw roomy
    (offers.proportioned.counters_inside sound) uploaded ?_
  rw [offers.proportioned.room_eq sound, instances]
  exact Nat.le_trans
    (Nat.mul_le_mul_right _ (Nat.mul_le_mul_right _ elements)) vertices

theorem plainPoints :
    task.Suits none scratch
      (Work.pointPass task.pass derived scratch none
        (.draw task.pass.draw.elementCount task.pass.draw.instanceCount
          task.pass.draw.firstVertex task.pass.draw.firstInstance)) :=
  points sound roomy isVertex offers large rfl (Nat.le_refl _) rfl
    fun _ inside => nomatch inside

theorem selectedPoints {indices : List UInt32}
    (few : indices.length ≤ task.pass.draw.elementCount.toNat)
    (inside : (IndexSelection.ofIndices indices
        task.pass.draw.elementCount).toBytes.size ≤
      (Scratch.indexBytes scratch.capacity).toNat) :
    let selection := IndexSelection.ofIndices indices
      task.pass.draw.elementCount
    let range : IndexBufferRange :=
      { buffer := scratch.indexUpload, offset := 0,
        size := UInt64.ofNat selection.toBytes.size, width := .bits32 }
    task.Suits none scratch
      (Work.pointPass task.pass derived scratch (some range)
        (.drawIndexed selection.count task.pass.draw.instanceCount 0
          task.pass.draw.baseVertex task.pass.draw.firstInstance)) := by
  intro selection range
  have bytes : selection.toBytes.size = 4 * selection.count.toNat :=
    IndexSelection.size_toBytes_ofIndices few
  have size : range.size.toNat = selection.toBytes.size := by
    have word := selection.count.toNat_lt
    exact UInt64.toNat_ofNat_of_lt' (by simp only [UInt64.size]; omega)
  refine points sound roomy isVertex offers large rfl
    (IndexSelection.count_ofIndices_le few) rfl ?_
  rintro _ ⟨⟩
  refine ⟨⟨rfl, ?_⟩, Nat.le_of_eq (bytes.symm.trans size.symm)⟩
  rw [size, UInt64.toNat_zero, Nat.zero_add]
  exact inside

end StageTask.Suits

namespace Attempt.Guarantees

variable [Device σ] {task : StageTask} {start : Workspace σ}
  {scratch : Scratch} {derived : PipelineHandle}

theorem fetchIndices (isVertex : task.stage = .vertex) :
    Guarantees (task.Kept start)
      (ExceptT.lift (Work.fetchIndices task.pass) :
        Attempt CaptureFailure σ (ByteArray × IndexWidth))
      (fun _ => task.Kept start) (task.Stops start) := by
  refine lift ?_
  rw [Work.fetchIndices]
  cases bound : task.pass.state.indexBuffer with
  | none => exact Work.Ensures.pure fun _ kept => kept
  | some range =>
      have reads (offset length : UInt64) : Work.Ensures (task.Kept start)
          (Work.readBuffer range.buffer offset length :
            Attempt DeviceFailure σ ByteArray).run
          fun _ => task.Kept start :=
        fun now kept => kept.adds (Work.adds_call rfl)
          (.inr ⟨isVertex, range, bound, rfl⟩) rfl
      simp only
      split
      · exact Work.Ensures.pure fun _ kept => kept
      · refine Work.Ensures.bind (reads _ _) fun answer => ?_
        cases answer <;> exact Work.Ensures.pure fun _ kept => kept

theorem upload {data : ByteArray}
    (inside : data.size ≤ (Scratch.indexBytes scratch.capacity).toNat) :
    Guarantees (task.Holds start none scratch)
      ((Work.writeBuffer scratch.indexUpload 0 data).adapt .submission :
        Attempt CaptureFailure σ Unit)
      (fun _ => task.Holds start none scratch) (task.Stops start) := by
  refine adapt (call fun now outcome later holds adds => ?_)
  have fits : task.Fits now.history
      (.writeBuffer scratch.indexUpload 0 data outcome) := by
    refine .inl ⟨scratch, holds.inPlace, rfl, ?_⟩
    rwa [UInt64.toNat_zero, Nat.zero_add]
  have keeps := holds.kept.adds adds fits rfl
  obtain ⟨use, present⟩ := holds.present
  cases outcome with
  | error cause => exact keeps.stops rfl
  | ok _ => exact ⟨keeps, nofun, use, adds.scratch.trans present⟩

theorem attachIndices {event : EventId} {record : StageRecord}
    {indices : Option (ByteArray × IndexWidth)} :
    Guarantees (task.Kept start)
      (Work.attachIndices event record indices :
        Attempt CaptureFailure σ StageRecord)
      (fun _ => task.Kept start) (task.Stops start) := by
  cases indices with
  | none => exact pure fun _ kept => kept
  | some found =>
      exact bind (stored fun _ => rfl) fun _ => pure fun _ kept => kept

section

variable (sound : task.pass.settings.Sound)
  (roomy : 8 ≤ task.pass.settings.counterBytes.toNat)
  (isVertex : task.stage = .vertex)

include sound roomy isVertex

theorem recordSelectedDraw {stripCut : StripCut} :
    Guarantees (task.Kept start)
      (Work.recordSelectedDraw task.pass stripCut task.stride derived :
        Attempt CaptureFailure σ Work.VertexDraw)
      (fun drawn now => ∃ scratch, task.Suits none scratch drawn.recording ∧
        task.Holds start none scratch now)
      (task.Stops start) := by
  refine bind (fetchIndices isVertex) fun ⟨fetched, width⟩ => ?_
  let indices := IndexStream.read width task.pass.draw.elementCount.toNat
    fetched.data.toList
  have few : indices.length ≤ task.pass.draw.elementCount.toNat :=
    IndexStream.length_read_le _ _ _
  refine bind (scratchFor sound fun _ => rfl) fun scratch =>
    of_fact fun offers => ?_
  -- The larger of two sizes was asked for: that of the vertices, and one for
  -- which the upload buffer has room for the list.
  have enough := offers.enough
  rw [UInt64.toNat_max] at enough
  have inside := IndexSelection.size_toBytes_le_indexBytes few
    (Nat.le_trans (Nat.le_max_right _ _) enough)
  have large (other : UInt64) :
      (Work.plainBytes task.pass task.stride).toNat ≤
        (max (Work.plainBytes task.pass task.stride) other).toNat := by
    rw [UInt64.toNat_max]
    exact Nat.le_max_left _ _
  refine bind (upload inside) fun _ => pure fun _ holds => ?_
  exact ⟨scratch, .selectedPoints sound roomy isVertex offers (large _) few
    inside, holds⟩

theorem recordPlainDraw :
    Guarantees (task.Kept start)
      (Work.recordPlainDraw task.pass task.stride derived :
        Attempt CaptureFailure σ Work.VertexDraw)
      (fun drawn now => ∃ scratch, task.Suits none scratch drawn.recording ∧
        task.Holds start none scratch now)
      (task.Stops start) := by
  refine bind (scratchFor sound fun _ => rfl) fun scratch =>
    of_fact fun offers => pure fun _ holds => ?_
  exact ⟨scratch, .plainPoints sound roomy isVertex offers (Nat.le_refl _),
    holds⟩

theorem recordVertices {stripCut : StripCut} :
    Guarantees (task.Kept start)
      (Work.recordVertices task.pass stripCut task.stride derived :
        Attempt CaptureFailure σ Work.VertexDraw)
      (fun drawn now => ∃ scratch, task.Suits none scratch drawn.recording ∧
        task.Holds start none scratch now)
      (task.Stops start) := by
  rw [Work.recordVertices]
  split
  · exact recordSelectedDraw sound roomy isVertex
  · exact recordPlainDraw sound roomy isVertex

theorem streamVertices (pipeline : GraphicsPipeline)
    {layout : StreamOut.VertexLayout} (same : layout.stride = task.stride) :
    Guarantees (task.Kept start)
      (Work.streamVertices task.pass pipeline layout derived :
        Attempt CaptureFailure σ StageRecord)
      (fun _ => task.Kept start) (task.Stops start) := by
  rw [Work.streamVertices, same]
  refine bind (recordVertices sound roomy isVertex) fun drawn =>
    of_exists fun scratch => of_fact fun suits => ?_
  refine bind (submit_left suits.copyOut) fun _ =>
    of_holds fun proportioned => ?_
  have counters := proportioned.counters_inside sound
  refine bind (filledSizes (by exact Nat.le_trans roomy counters))
    fun sizes => ?_
  refine bind (requireOutput rfl) fun _ => ?_
  refine bind (fetchStaged (Scratch.read_inside _ counters)) fun data => ?_
  refine bind ((stored fun _ => rfl).of_start fun _ holds => holds.kept)
    fun buffer => ?_
  refine onFailure attachIndices fun cause now stops => ?_
  exact stops.adds (Work.adds_releaseBuffer now buffer) trivial rfl

theorem captureVertices (pipeline : GraphicsPipeline) {shader : Shader}
    (same : (StreamOut.VertexLayout.ofOutputs shader.outputs none).stride =
      task.stride) :
    Guarantees (task.Kept start)
      (Work.captureVertices task.pass pipeline shader :
        Attempt CaptureFailure σ StageRecord)
      (fun _ => task.Kept start) (task.Stops start) := by
  rw [Work.captureVertices]
  simp only
  split
  · exact pure fun _ kept => kept
  · exact overPipeline fun derived =>
      streamVertices sound roomy isVertex pipeline same

end

end Attempt.Guarantees

end MeshCapture
