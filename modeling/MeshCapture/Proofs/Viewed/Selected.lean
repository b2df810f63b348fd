import MeshCapture.Proofs.Viewed.Stage

/-! # Views of selected vertices

An indexed draw is captured as one draw of the selected indices, and viewed
through the renumbered ones. Where there are none to view, what was drawn is one
vertex. -/

namespace MeshCapture

section

variable {σ : Type} [Device σ] {contents : Contents} {visit : DrawVisit}
  {settings : Settings} {signature : Option RootSignatureHandle}
  {stripCut : StripCut} {layout : StreamOut.VertexLayout}
  {start finish : Workspace σ} {whole : EventRecord}

theorem IndexSelection.Selects.fetch_uploaded {selection : IndexSelection}
    {indices : List UInt32} {declared : UInt32}
    (selects : selection.Selects indices declared)
    {memory : BufferHandle → ByteArray} {upload : BufferHandle}
    (held : (memory upload).extract 0 selection.toBytes.size =
      selection.toBytes)
    {position : Nat} {index : UInt32}
    (stands : selection.members[position]? = some index) :
    IndexBufferRange.fetch
      { buffer := upload, offset := 0,
        size := UInt64.ofNat selection.toBytes.size, width := .bits32 }
      memory position = index := by
  have count := Nat.lt_of_le_of_lt selects.size_le declared.toNat_lt
  have size : (UInt64.ofNat selection.toBytes.size).toNat =
      selection.toBytes.size := by
    apply UInt64.toNat_ofNat_of_lt'
    rw [selection.size_toBytes]
    simp only [UInt64.size]
    omega
  rw [IndexBufferRange.fetch]
  simp only [size, UInt64.toNat_zero, Nat.zero_add, held]
  exact selects.fetch_toBytes stands

theorem Pass.selects_selection (pass : Pass) (bytes : ByteArray)
    (width : IndexWidth) :
    (pass.selection bytes width).Selects
      (IndexStream.held width pass.draw.elementCount bytes)
      pass.draw.elementCount :=
  IndexSelection.selects_ofIndices (IndexStream.length_read_le _ _ _)

theorem Pass.renumbers_renumbered (pass : Pass) (stripCut : StripCut)
    (bytes : ByteArray) (width : IndexWidth) :
    (pass.selection bytes width).Renumbers width stripCut.sentinel
      pass.draw.elementCount bytes (pass.renumbered stripCut bytes width) :=
  IndexSelection.renumbers_of_selects (pass.selects_selection bytes width)
    (IndexSelection.toNat_fetched (IndexStream.length_read_le _ _ _)) _

theorem Pass.isEmpty_renumbered (pass : Pass) (stripCut : StripCut)
    (bytes : ByteArray) (width : IndexWidth) :
    (pass.renumbered stripCut bytes width).isEmpty = bytes.isEmpty := by
  rw [ByteArray.isEmpty, ByteArray.isEmpty,
    (pass.renumbers_renumbered stripCut bytes width).size_eq]

theorem Pass.members_selection_empty (pass : Pass) (width : IndexWidth)
    (elements : 0 < pass.draw.elementCount.toNat) :
    (pass.selection .empty width).members = #[0] := by
  have held : IndexStream.held width pass.draw.elementCount .empty = [] := by
    apply List.eq_nil_of_length_eq_zero
    rw [IndexStream.length_read]
    simp
  rw [selection, held]
  exact IndexSelection.members_ofIndices_nil elements

/-- A draw of selected vertices: each is drawn from its member of the selection,
and the view holds them all. -/
structure DrawsSelection [Device σ]
    (stage : VertexStage contents (visit.pass settings signature) stripCut
      layout start finish whole.vertex)
    (bytes : ByteArray) (width : IndexWidth)
    (drawn : StageDraw start.history finish.history) : Prop where
  reads : ReadsIndices visit (contents start.history [])
    (finish.history.drop start.history.length) bytes width
  renumbering : stage.drawn.indices =
    if bytes.isEmpty then
      none
    else
      some ((visit.pass settings signature).renumbered stripCut bytes width,
        width)
  count : drawn.command.elementCount =
    ((visit.pass settings signature).selection bytes width).members.size
  inputs : ∀ (position : Nat) (index : UInt32),
    ((visit.pass settings signature).selection bytes width).members[position]? =
      some index →
    drawn.inputAt contents position = some
      { index := index.toNat, baseVertex := visit.draw.baseVertex }
  held : ∀ vertex < drawn.command.elementCount,
    (MeshView.ofRecord (some whole) 0 .vertex).Holds
      (contents finish.history []) vertex

theorem VertexStage.exists_drawsSelection
    (stage : VertexStage contents (visit.pass settings signature) stripCut
      layout start finish whole.vertex)
    (indexed : visit.draw.flags.indexed = true)
    (elements : 0 < visit.draw.elementCount.toNat)
    (instances : 0 < visit.draw.instanceCount.toNat)
    (faithful : contents.Faithful finish.history)
    (sized : ∀ buffer,
      (contents start.history [] buffer).size < UInt64.size)
    (addressable : ∀ scratch ∈ finish.scratch, scratch.IsAddressable settings)
    (streams : ∀ drawn : StageDraw start.history finish.history,
      drawn.StreamsAll contents layout.stride) :
    ∃ bytes width drawn, DrawsSelection stage bytes width drawn := by
  have records := stage.records
  unfold Work.recordVertices at records
  rw [if_pos (by simpa [DrawVisit.pass] using indexed)] at records
  rcases records.recordSelectedDraw with
    ⟨bytes, width, there, required, scratch, grown, fetches, enough, grows,
      writes, recorded, renumbering⟩
  let selection := (visit.pass settings signature).selection bytes width
  have selects := (visit.pass settings signature).selects_selection bytes width
  have toFinish : stage.ready.history <+: finish.history := by
    rcases stage.readOut.history with ⟨later, executed, -⟩
    exact List.IsPrefix.trans ⟨_, executed.symm⟩ stage.adds.history_prefix
  have faithfulReady := faithful.of_prefix toFinish
  have fromThere : there.history <+: finish.history := by
    have growth := Attempt.Takes.scratchFor.history_prefix 0 rfl grows
    exact (growth.trans writes.history_prefix).trans toFinish
  rcases Work.readsIndices_of_fetchIndices fetches elements
    (faithful.of_prefix fromThere) (stage.unchanged.symm ▸ sized) with
    ⟨calls, made, reads⟩
  rw [stage.unchanged] at reads
  have meanwhile : calls ⊆ finish.history.drop start.history.length := by
    rcases stage.early with ⟨ahead, early⟩
    rcases fromThere with ⟨behind, late⟩
    rw [← late, made, ← early, List.append_assoc, List.append_assoc,
      List.drop_left]
    intro call inside
    simp [inside]
  have uploaded := ((writes.explains faithfulReady).written _ _ _ rfl).2
  rw [← writes.history, UInt64.toNat_zero, Nat.zero_add] at uploaded
  have few : selection.count.toNat ≤ visit.draw.elementCount.toNat :=
    selects.count_eq.trans_le selects.size_le
  rcases stage.exists_drawn recorded rfl few rfl instances enough grows faithful
    addressable streams with ⟨drawn, command, inputs, held⟩
  rw [Pass.isEmpty_renumbered] at renumbering
  refine ⟨bytes, width, drawn, reads.mono meanwhile, renumbering, ?count,
    ?inputs, ?held⟩
  case count =>
    rw [command]
    exact selects.count_eq
  case inputs =>
    intro position index stands
    have same := selects.fetch_uploaded uploaded stands
    rw [inputs]
    simp only [Option.some_or, Command.inputAt, Option.elim_some,
      UInt32.toNat_zero, Nat.zero_add]
    rw [same]
    rfl
  case held =>
    rw [command]
    exact held

theorem DrawVisit.inputAt_of_indexed {visit : DrawVisit}
    (indexed : visit.draw.flags.indexed = true)
    (memory : BufferHandle → ByteArray) (place : Nat) :
    visit.inputAt memory place = some
      { index := (visit.fetched memory place).toNat
        baseVertex := visit.draw.baseVertex } := by
  rw [inputAt, Draw.command, if_pos indexed]
  rfl

namespace DrawsSelection

variable
  {stage : VertexStage contents (visit.pass settings signature) stripCut
    layout start finish whole.vertex}
  {bytes : ByteArray} {width : IndexWidth}
  {drawn : StageDraw start.history finish.history}

theorem indices_eq (selected : DrawsSelection stage bytes width drawn)
    (present : bytes.isEmpty = false) :
    stage.drawn.indices =
      some ((visit.pass settings signature).renumbered stripCut bytes width,
        width) := by
  simpa [present] using selected.renumbering

theorem size_renumbered (selected : DrawsSelection stage bytes width drawn) :
    ((visit.pass settings signature).renumbered stripCut bytes width).size <
      UInt64.size :=
  ((visit.pass settings signature).renumbers_renumbered stripCut bytes
    width).size_eq ▸ selected.reads.small

theorem isSome_indexBuffer (selected : DrawsSelection stage bytes width drawn)
    (indexed : visit.draw.flags.indexed = true)
    (present : bytes.isEmpty = false) :
    (MeshView.ofRecord (some whole) 0 .vertex).indexBuffer.isSome = true :=
  (stage.view_indices indexed (selected.indices_eq present)
    selected.size_renumbered).1

theorem indexBuffer_eq_none (selected : DrawsSelection stage bytes width drawn)
    (empty : bytes.isEmpty = true) :
    (MeshView.ofRecord (some whole) 0 .vertex).indexBuffer = none :=
  stage.indexBuffer_eq_none (.inl (by simpa [empty] using selected.renumbering))

theorem shows_of_renumbered
    (selected : DrawsSelection stage bytes width drawn)
    (indexed : visit.draw.flags.indexed = true) {place : Nat}
    (less : place < visit.draw.elementCount.toNat)
    (uncut : stripCut.sentinel ≠
      some (visit.fetched (contents start.history []) place))
    (present : bytes.isEmpty = false) :
    (MeshView.ofRecord (some whole) 0 .vertex).Shows contents drawn place
      (visit.inputAt (contents start.history []) place) := by
  have renumbers := (visit.pass settings signature).renumbers_renumbered
    stripCut bytes width
  rcases stage.view_indices indexed (selected.indices_eq present)
    selected.size_renumbered with ⟨-, places⟩
  have fetched := selected.reads.fetched present place less
  have member := renumbers.member_eq less (fetched ▸ uncut)
  rcases Array.getElem?_eq_some_iff.mp member with ⟨inside, -⟩
  rw [fetched] at member
  have vertex_lt : (IndexStream.fetch width
      ((visit.pass settings signature).renumbered stripCut bytes width)
        place).toNat < drawn.command.elementCount := by
    rw [selected.count]
    exact inside
  refine ⟨?_, ?_, ?_⟩
  · rw [places]
    exact vertex_lt
  · rw [places]
    exact selected.held _ vertex_lt
  · rw [places, selected.inputs _ _ member,
      DrawVisit.inputAt_of_indexed indexed]

theorem shows_iff_of_empty
    (selected : DrawsSelection stage bytes width drawn)
    (indexed : visit.draw.flags.indexed = true)
    (elements : 0 < visit.draw.elementCount.toNat)
    (empty : bytes.isEmpty = true) (place : Nat) :
    let view := MeshView.ofRecord (some whole) 0 .vertex
    view.Shows contents drawn place
        (visit.inputAt (contents start.history []) place) ↔
      place = 0 ∧ visit.fetched (contents start.history []) 0 = 0 := by
  intro view
  have viewless : view.indexBuffer = none := selected.indexBuffer_eq_none empty
  have stands : view.vertexAt (contents finish.history []) place = place := by
    rw [MeshView.vertexAt, viewless]
  have unread : bytes = .empty := by
    rw [← ByteArray.size_eq_zero_iff]
    simpa [ByteArray.isEmpty] using empty
  have members : ((visit.pass settings signature).selection bytes
      width).members = #[0] := by
    rw [unread]
    exact Pass.members_selection_empty _ width elements
  have count : drawn.command.elementCount = 1 := by
    rw [selected.count, members]
    rfl
  have zero : drawn.inputAt contents 0 = some
      { index := 0, baseVertex := visit.draw.baseVertex } :=
    selected.inputs 0 0 (by rw [members]; rfl)
  rw [DrawVisit.inputAt_of_indexed indexed]
  constructor
  · intro shows
    have first : place = 0 := by
      have less := shows.drawn_lt
      rw [stands, count] at less
      omega
    subst first
    have same := shows.input_eq
    rw [stands, zero, Option.some_inj] at same
    have index := congrArg VertexInput.index same
    exact ⟨rfl, UInt32.toNat_inj.mp index.symm⟩
  · rintro ⟨rfl, fetched⟩
    refine ⟨?_, ?_, ?_⟩
    · rw [stands, count]
      decide
    · rw [stands]
      exact selected.held 0 (by omega)
    · rw [stands, zero, fetched]
      rfl

end DrawsSelection

/-- The view of an indexed draw leads every place that does not cut a strip to
the vertex of its index, if there are renumbered indices to view. There are, if
the draw has indices and no read of them is refused. -/
theorem VertexStage.shows_selected_iff
    (stage : VertexStage contents (visit.pass settings signature) stripCut
      layout start finish whole.vertex)
    (indexed : visit.draw.flags.indexed = true)
    (elements : 0 < visit.draw.elementCount.toNat)
    (instances : 0 < visit.draw.instanceCount.toNat)
    (faithful : contents.Faithful finish.history)
    (sized : ∀ buffer,
      (contents start.history [] buffer).size < UInt64.size)
    (addressable : ∀ scratch ∈ finish.scratch, scratch.IsAddressable settings)
    (streams : ∀ drawn : StageDraw start.history finish.history,
      drawn.StreamsAll contents layout.stride) :
    let view := MeshView.ofRecord (some whole) 0 .vertex
    let memory := contents start.history []
    ((∀ call ∈ finish.history.drop start.history.length,
        call.isRefusedRead = false) →
      (view.indexBuffer.isSome = true ↔ visit.HasIndices memory)) ∧
    ∃ drawn : StageDraw start.history finish.history,
      ∀ place < visit.draw.elementCount.toNat,
        stripCut.sentinel ≠ some (visit.fetched memory place) →
        (view.Shows contents drawn place (visit.inputAt memory place) ↔
          view.indexBuffer.isSome = true ∨
            place = 0 ∧ visit.fetched memory 0 = 0) := by
  intro view memory
  rcases stage.exists_drawsSelection indexed elements instances faithful sized
    addressable streams with ⟨bytes, width, drawn, selected⟩
  cases empty : bytes.isEmpty with
  | false =>
      have viewed : view.indexBuffer.isSome = true :=
        selected.isSome_indexBuffer indexed empty
      refine ⟨fun _ => iff_of_true viewed (selected.reads.has empty), drawn,
        fun place less uncut => iff_of_true ?_ (.inl viewed)⟩
      exact selected.shows_of_renumbered indexed less uncut empty
  | true =>
      have unviewed : ¬ view.indexBuffer.isSome = true := by
        simp [view, selected.indexBuffer_eq_none empty]
      refine ⟨fun answered => iff_of_false unviewed fun has => ?_, drawn,
        fun place less _ => ?_⟩
      · rcases selected.reads.gives has with present | ⟨call, made, refused⟩
        · simp [empty] at present
        · simp [answered call made] at refused
      · exact (selected.shows_iff_of_empty indexed elements empty place).trans
          (or_iff_right unviewed).symm

end

end MeshCapture
