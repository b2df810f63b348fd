import MeshCapture.Proofs.Contents.Stages
import MeshCapture.Proofs.Growth
import MeshCapture.Proofs.Viewed.Fetched

/-! # Drawn vertices

The draw that a vertex stage records over the derived pipeline, and what its
vertices are drawn from. -/

namespace MeshCapture

/-! ## Recording points -/

/-- The commands of a recording draw nothing and write to no buffer. The index
buffer bound behind them is the given one. -/
structure Recording.Binds (recording : Recording)
    (bound : Option IndexBufferRange) : Prop where
  idle : ∀ command ∈ recording.list.toList, command.isDraw = false
  quiet : ∀ command ∈ recording.list.toList, command.written? = none
  bound_eq : Command.boundIndices recording.list.toList = bound

namespace Recording.Binds

variable {recording : Recording} {bound next : Option IndexBufferRange}

theorem fresh (scratch : Scratch) : Binds { scratch } none := by
  have empty : ({ scratch } : Recording).list.toList = [] := rfl
  exact ⟨by simp [empty], by simp [empty], rfl⟩

theorem push (binds : recording.Binds bound) {command : Command}
    (idle : command.isDraw = false) (quiet : command.written? = none)
    (rebinds : command.rebound bound = next) :
    (recording.push command).Binds next := by
  refine ⟨?_, ?_, ?_⟩
  · simpa [toList_push, or_imp, forall_and] using And.intro binds.idle idle
  · simpa [toList_push, or_imp, forall_and] using And.intro binds.quiet quiet
  · rw [toList_push, Command.boundIndices, List.foldl_append]
    exact (congrArg (Command.rebound · command) binds.bound_eq).trans rebinds

theorem transition (binds : recording.Binds bound) (use : BufferUse) :
    (recording.transition use).Binds bound := by
  unfold Recording.transition
  simp only
  split
  · exact binds
  · let barrier : Command :=
      .barrier recording.scratch.output recording.scratch.outputUse use
    have barred : (recording.push barrier).Binds bound :=
      binds.push rfl rfl rfl
    exact ⟨barred.idle, barred.quiet, barred.bound_eq⟩

theorem bindDerived (binds : recording.Binds bound) (pass : Pass)
    (derived : PipelineHandle) :
    (recording.bindDerived pass derived).Binds pass.state.indexBuffer := by
  have state : ((recording.push (.applyState pass.state)).push
      (.setPipeline derived)).Binds pass.state.indexBuffer :=
    (binds.push rfl rfl rfl).push rfl rfl rfl
  unfold Recording.bindDerived
  simp only
  split
  · exact state
  · exact (state.push rfl rfl rfl).push rfl rfl rfl

end Recording.Binds

theorem exists_toList_pointPass (pass : Pass) (derived : PipelineHandle)
    (scratch : Scratch) (indices : Option IndexBufferRange) (draw : Command) :
    ∃ ahead : Recording,
      (Work.pointPass pass derived scratch indices draw).list.toList =
        ahead.list.toList ++ [draw] ∧
      ahead.Binds (indices.or pass.state.indexBuffer) := by
  have bound := (Recording.Binds.fresh scratch).bindDerived pass derived
  refine ⟨_, Recording.toList_push _ _, ?_⟩
  refine Recording.Binds.push ?_ rfl rfl rfl
  refine (Recording.Binds.transition ?_ .streamOut).push rfl rfl rfl
  cases indices with
  | none => exact bound
  | some range => exact bound.push rfl rfl rfl

theorem scratch_pointPass (pass : Pass) (derived : PipelineHandle)
    (scratch : Scratch) (indices : Option IndexBufferRange) (draw : Command) :
    (Work.pointPass pass derived scratch indices draw).scratch =
      { scratch with outputUse := .streamOut } := by
  cases indices <;> simp [Work.pointPass]

/-! ## Recording the vertices -/

section

variable {σ : Type} [Device σ] {start ready : Workspace σ} {pass : Pass}
  {stripCut : StripCut} {stride : UInt32} {derived : PipelineHandle}
  {drawn : Work.VertexDraw}

theorem Attempt.Succeeds.recordPlainDraw
    (succeeds : (Work.recordPlainDraw pass stride derived).Succeeds start drawn
      ready) :
    ∃ scratch,
      (Work.scratchFor pass.settings (Work.plainBytes pass stride)).Succeeds
        start scratch ready ∧
      drawn.recording = Work.pointPass pass derived scratch none
        (.draw pass.draw.elementCount pass.draw.instanceCount
          pass.draw.firstVertex pass.draw.firstInstance) := by
  rcases succeeds_bind.mp succeeds with ⟨scratch, there, grows, last⟩
  rcases succeeds_pure.mp last with ⟨rfl, rfl⟩
  exact ⟨scratch, succeeds_adapt.mp grows, rfl⟩

def Pass.selection (pass : Pass) (bytes : ByteArray) (width : IndexWidth) :
    IndexSelection :=
  .ofIndices (IndexStream.held width pass.draw.elementCount bytes)
    pass.draw.elementCount

def Pass.renumbered (pass : Pass) (stripCut : StripCut) (bytes : ByteArray)
    (width : IndexWidth) : ByteArray :=
  (pass.selection bytes width).renumber bytes width stripCut.sentinel

theorem Attempt.Succeeds.recordSelectedDraw
    (succeeds : (Work.recordSelectedDraw pass stripCut stride derived).Succeeds
      start drawn ready) :
    ∃ bytes width there required scratch grown,
      (Work.fetchIndices pass).run start = ((bytes, width), there) ∧
      (Work.plainBytes pass stride).toNat ≤ required.toNat ∧
      (Work.scratchFor pass.settings required).Succeeds there scratch grown ∧
      let selection := pass.selection bytes width
      let members := selection.toBytes
      let renumbered := pass.renumbered stripCut bytes width
      grown.Adds [.writeBuffer scratch.indexUpload 0 members (.ok ())] ready ∧
      drawn.recording = Work.pointPass pass derived scratch
        (some { buffer := scratch.indexUpload, offset := 0,
                size := UInt64.ofNat members.size, width := .bits32 })
        (.drawIndexed selection.count pass.draw.instanceCount 0
          pass.draw.baseVertex pass.draw.firstInstance) ∧
      drawn.indices =
        if renumbered.isEmpty then none else some (renumbered, width) := by
  rcases succeeds_bind.mp succeeds with ⟨⟨bytes, width⟩, there, fetches, rest⟩
  rcases succeeds_bind.mp rest with ⟨scratch, grown, grows, rest⟩
  rcases succeeds_bind.mp rest with ⟨_, written, writes, last⟩
  rcases succeeds_pure.mp last with ⟨rfl, rfl⟩
  refine ⟨bytes, width, there, _, scratch, grown, succeeds_lift.mp fetches, ?_,
    succeeds_adapt.mp grows, adds (succeeds_adapt.mp writes), rfl, rfl⟩
  rw [UInt64.toNat_max]
  exact Nat.le_max_left _ _

end

/-! ## The draw in front of the copy -/

section

variable {σ : Type} {contents : Contents}
  {start ready after finish : Workspace σ} {pass : Pass}
  {derived : PipelineHandle} {scratch : Scratch}
  {indices : Option IndexBufferRange} {draw : Command} {number : UInt32}
  {sizes : List UInt64} {offset length : UInt64} {data : ByteArray}
  {buffer : BufferHandle} {more : List Call}

theorem Recording.Binds.contents_eq {ahead recording : Recording}
    {bound : Option IndexBufferRange} (binds : ahead.Binds bound)
    {earlier : List Call} {rest : List Command}
    (split : recording.list.toList = ahead.list.toList ++ rest)
    (explains : contents.Explains earlier
      (.execute recording.list (.ok ()))) :
    contents earlier ahead.list.toList = contents earlier [] := by
  have executes := (explains.executed _ rfl).2
  rw [split] at executes
  have ahead_executes : Throughout (contents.Executes earlier)
      ([] ++ ahead.list.toList) := executes.of_append
  funext buffer
  refine Contents.eq_of_throughout ahead_executes binds.idle ?_
  intro command inside
  rw [binds.quiet command inside]
  exact nofun

/-- Points that were read out are one draw, made from what the buffers held when
the recording was submitted. -/
theorem ReadOut.exists_stageDraw
    (readOut : ReadOut contents
      (Work.pointPass pass derived scratch indices draw) ready after number
      sizes offset length data buffer)
    (draws : draw.isDraw = true)
    (behind : start.history <+: ready.history)
    (adds : after.Adds more finish)
    (idle : ∀ call ∈ more, call.isExecute = false)
    (faithful : contents.Faithful after.history) :
    ∃ drawn : StageDraw start.history finish.history,
      drawn.command = draw ∧
      drawn.image contents =
        (Work.pointPass pass derived scratch indices draw).image contents
          ready.history ∧
      ∀ vertex, drawn.inputAt contents vertex =
        draw.inputAt (contents ready.history [])
          (indices.or pass.state.indexBuffer) vertex := by
  let points := Work.pointPass pass derived scratch indices draw
  rcases exists_toList_pointPass pass derived scratch indices draw with
    ⟨ahead, listed, binds⟩
  rcases readOut.exists_lastCopy behind adds idle with
    ⟨copy, earlier, front, target, source⟩
  rcases readOut.history with ⟨later, executed, -⟩
  rw [executed] at faithful
  have explains := faithful _ _ _ rfl
  have before := binds.contents_eq
    (by rw [Recording.toList_copyOut, listed, List.append_assoc,
      List.append_assoc]) explains
  have idleBarriers : ∀ command ∈ points.scratch.barriers .copySource,
      command.isDraw = false := by
    unfold Scratch.barriers
    split <;> simp [Command.isDraw]
  let drawn : StageDraw start.history finish.history :=
    { copy with
      before := ahead.list.toList
      command := draw
      between := points.scratch.barriers .copySource
      front_eq := by
        rw [front, Recording.untilCopy, listed, List.append_assoc,
          List.singleton_append]
      draws := draws
      alone := by
        intro other inside
        rcases List.mem_append.mp inside with early | late
        · exact binds.idle other early
        · exact idleBarriers other late }
  refine ⟨drawn, rfl, ?_, fun vertex => ?_⟩
  · change copy.image contents = _
    rw [LastCopy.image, earlier, front, target, source]
    rfl
  · change draw.inputAt (contents copy.earlier ahead.list.toList)
      (Command.boundIndices ahead.list.toList) vertex = _
    rw [earlier, before, binds.bound_eq]

end

end MeshCapture
