import MeshCapture.Proofs.Sizing.Accesses

/-! # Lists with room

A recording suits a scratch set when its list names nothing outside of the set
and has room for all it draws. This is seen from the steps by which the list was
recorded. -/

namespace MeshCapture

theorem Command.inside_of_draw {settings : Settings} {scratch : Scratch}
    {command : Command} (isDraw : command.isDraw = true) :
    command.Inside settings scratch := by
  cases command <;> trivial

namespace StageTask

variable {task : StageTask} {need : Option Nat} {scratch : Scratch}
  {recording : Recording}

theorem HasRoom.mono {known other : Nat → Prop} {list longer : CommandList}
    {command : Command} {bound : Bindings}
    (room : task.HasRoom known list command bound)
    (implies : ∀ bytes, known bytes → other bytes)
    (subset : list.toList ⊆ longer.toList) :
    task.HasRoom other longer command bound := by
  obtain ⟨target, bound, fits⟩ := room
  refine ⟨target, bound, ?_⟩
  cases stage : task.stage with
  | vertex =>
      rw [stage] at fits
      exact fits
  | post =>
      rw [stage] at fits
      rcases fits with ⟨heap, slot, measures⟩ | ⟨bytes, told, enough⟩
      · exact .inl ⟨heap, slot, subset measures⟩
      · exact .inr ⟨bytes, implies bytes told, enough⟩

structure Suits (task : StageTask) (need : Option Nat) (scratch : Scratch)
    (recording : Recording) : Prop where
  scratch_eq : ∃ use, recording.scratch = { scratch with outputUse := use }
  inside : ∀ command ∈ recording.list.toList,
    command.Inside task.pass.settings scratch
  drawn : ∀ command bound, .drawn command bound ∈ recording.outputSteps →
    task.HasRoom (· ∈ need) recording.list command bound

namespace Suits

theorem fresh : task.Suits need scratch { scratch } :=
  ⟨⟨_, rfl⟩, List.forall_mem_nil _, fun _ _ => nofun⟩

theorem restart (suits : task.Suits need scratch recording) :
    task.Suits need scratch { scratch := recording.scratch } :=
  ⟨suits.scratch_eq, List.forall_mem_nil _, fun _ _ => nofun⟩

/-! ## Single commands -/

theorem push (suits : task.Suits need scratch recording) (command : Command)
    (inside : command.Inside task.pass.settings scratch)
    (room : command.isDraw = true →
      task.HasRoom (· ∈ need) recording.list command recording.bound) :
    task.Suits need scratch (recording.push command) := by
  have pushed : (recording.push command).list.toList =
      recording.list.toList ++ [command] :=
    CommandList.toList_push _ _
  refine ⟨suits.scratch_eq, ?_, fun drawn bound step => ?_⟩
  · rw [pushed]
    exact List.forall_mem_append.mpr
      ⟨suits.inside, List.forall_mem_singleton.mpr inside⟩
  · have room : task.HasRoom (· ∈ need) recording.list drawn bound := by
      rw [Recording.outputSteps_push] at step
      rcases List.mem_append.mp step with before | now
      · exact suits.drawn drawn bound before
      · obtain ⟨isDraw, rfl, rfl⟩ := Command.outputStep?_eq_drawn_iff.mp
          (Option.mem_toList.mp now)
        exact room isDraw
    refine room.mono (fun _ known => known) ?_
    rw [pushed]
    exact List.subset_append_left _ _

theorem pushPlain (suits : task.Suits need scratch recording)
    (command : Command) (inside : command.Inside task.pass.settings scratch)
    (plain : command.isDraw = false) :
    task.Suits need scratch (recording.push command) :=
  suits.push command inside fun isDraw => nomatch plain.symm.trans isDraw

/-! ## Steps of a recording -/

theorem transition (suits : task.Suits need scratch recording)
    (use : BufferUse) :
    task.Suits need scratch (recording.transition use) := by
  obtain ⟨before, same⟩ := suits.scratch_eq
  have pushed := suits.pushPlain (.barrier recording.scratch.output
    recording.scratch.outputUse use) trivial rfl
  unfold Recording.transition
  simp only
  split
  · exact suits
  · exact ⟨⟨use, by rw [same]⟩, pushed.inside, pushed.drawn⟩

theorem bindDerived (suits : task.Suits need scratch recording) (pass : Pass)
    (derived : PipelineHandle) :
    task.Suits need scratch (recording.bindDerived pass derived) := by
  have bound := (suits.pushPlain (.applyState pass.state) trivial
    rfl).pushPlain (.setPipeline derived) trivial rfl
  rw [Recording.bindDerived]
  cases pass.rootSignature with
  | none => exact bound
  | some signature =>
      exact (bound.pushPlain (.setRootSignature signature) trivial
        rfl).pushPlain .applyRootParameters trivial rfl

theorem repeatDraw (suits : task.Suits need scratch recording) (draw : Draw)
    (instances : UInt32)
    (room : ∀ command,
      task.HasRoom (· ∈ need) recording.list command recording.bound) :
    task.Suits need scratch (recording.repeatDraw draw instances) := by
  rw [Recording.repeatDraw]
  split
  · exact suits.push _ trivial fun _ => room _
  · exact suits.push _ trivial fun _ => room _

theorem bindOutput (suits : task.Suits need scratch recording)
    {counterOffset dataOffset : UInt64}
    (behind : counterOffset.toNat + 8 ≤ dataOffset.toNat)
    (inside : dataOffset.toNat ≤ scratch.outputSize task.pass.settings) :
    task.Suits need scratch
      (recording.bindOutput task.pass.settings counterOffset dataOffset) := by
  have ready := suits.transition .streamOut
  obtain ⟨use, same⟩ := ready.scratch_eq
  have room := scratch.room_behind task.pass.settings dataOffset
  refine ready.pushPlain _ ?_ rfl
  rw [same]
  refine ⟨rfl, behind, ?_⟩
  change dataOffset.toNat +
    (scratch.room task.pass.settings dataOffset).toNat ≤ _
  omega

theorem buffers_eq (suits : task.Suits need scratch recording) :
    recording.scratch.staging = scratch.staging ∧
      recording.scratch.output = scratch.output := by
  obtain ⟨use, same⟩ := suits.scratch_eq
  rw [same]
  exact ⟨rfl, rfl⟩

theorem zeroOutput (suits : task.Suits need scratch recording) :
    task.Suits need scratch recording.zeroOutput :=
  have ready := suits.transition .unorderedAccess
  ready.pushPlain (.clear _) ready.buffers_eq.2 rfl

theorem copyOut (suits : task.Suits need scratch recording) :
    task.Suits need scratch recording.copyOut := by
  have ready := suits.transition .copySource
  have copied := ready.pushPlain (.copyBuffer _ _) ready.buffers_eq rfl
  exact (copied.pushPlain (.discard _) copied.buffers_eq.2 rfl).zeroOutput

/-! ## Whole recordings -/

variable {derived : PipelineHandle}

/-- What is drawn as points goes behind the counter, through indices in the
upload buffer if there are some. -/
theorem pointPass {indices : Option IndexBufferRange} {draw : Command}
    (isVertex : task.stage = .vertex) (isDraw : draw.isDraw = true)
    (roomy : 8 ≤ task.pass.settings.counterBytes.toNat)
    (inside : task.pass.settings.counterBytes.toNat ≤
      scratch.outputSize task.pass.settings)
    (uploaded : ∀ range ∈ indices,
      (Command.setIndexBuffer range).Inside task.pass.settings scratch ∧
        4 * draw.elementCount ≤ range.size.toNat)
    (room : draw.elementCount * draw.instanceCount * task.stride.toNat ≤
      (scratch.room task.pass.settings
        task.pass.settings.counterBytes).toNat) :
    task.Suits need scratch
      (Work.pointPass task.pass derived scratch indices draw) := by
  let settings := task.pass.settings
  have start : task.Suits need scratch { scratch } := fresh
  have bound := start.bindDerived task.pass derived
  have draws {indexed : Recording} (suits : task.Suits need scratch indexed)
      (through : indexed.bound.indices = indices) :
      task.Suits need scratch
        (((indexed.bindOutput settings 0 settings.counterBytes).push
          (.setTopology .points)).push draw) := by
    have streaming : task.Suits need scratch
        (indexed.bindOutput settings 0 settings.counterBytes) :=
      suits.bindOutput roomy inside
    refine (streaming.pushPlain (.setTopology .points) trivial rfl).push draw
      (Command.inside_of_draw isDraw) fun _ => ?_
    obtain ⟨use, same⟩ := suits.scratch_eq
    rw [Recording.bound_push, Recording.bound_bindOutput, same]
    refine ⟨_, rfl, ?_⟩
    rw [isVertex]
    exact ⟨room, fun range set => (uploaded range (through ▸ set)).2⟩
  unfold Work.pointPass
  cases indices with
  | none => exact draws bound (by rw [Recording.bound_bindDerived])
  | some range =>
      refine draws (bound.pushPlain _ (uploaded range rfl).1 rfl) ?_
      rw [Recording.bound_push]
      rfl

theorem measuringPass (isPost : task.stage = .post)
    (roomy : 8 ≤ task.pass.settings.counterBytes.toNat)
    (inside : task.pass.settings.counterBytes.toNat ≤
      scratch.outputSize task.pass.settings)
    (resolved : StreamOut.Statistics.byteSize ≤
      scratch.outputSize task.pass.settings) :
    task.Suits need scratch
      (Work.measuringPass task.pass derived scratch) := by
  let settings := task.pass.settings
  have start : task.Suits need scratch { scratch } := fresh
  have bound := start.zeroOutput.bindDerived task.pass derived
  have streaming : task.Suits need scratch
      (Recording.bindOutput _ settings 0 settings.counterBytes) :=
    bound.bindOutput roomy inside
  let counting : Command :=
    .beginQuery scratch.statisticsHeap Work.statisticsSlot
  have begun := streaming.pushPlain counting trivial rfl
  have drawn := begun.repeatDraw task.pass.draw
    task.pass.draw.instanceCount fun command => by
      refine ⟨scratch.target settings 0 settings.counterBytes, ?_, ?_⟩
      · simp [counting, Command.bind, Scratch.target, Scratch.room, settings]
      · rw [isPost]
        refine .inl ⟨scratch.statisticsHeap, Work.statisticsSlot, ?_⟩
        rw [Recording.push, CommandList.toList_push]
        exact List.mem_append_right _ List.mem_cons_self
  refine (drawn.pushPlain (.endQuery _ _) trivial rfl).pushPlain _ ?_ rfl
  exact ⟨rfl, (Nat.zero_add _).symm ▸ resolved⟩

theorem drawRun {bytes : Nat} {dataOffset : UInt64}
    (isPost : task.stage = .post)
    (suits : task.Suits need scratch recording) (run : List UInt32)
    (slots : ∀ instances ∈ run,
      ((instances - 1).toUInt64 * Work.counterSize).toNat + 8 ≤
        dataOffset.toNat)
    (known : bytes ∈ need)
    (inside : dataOffset.toNat ≤ scratch.outputSize task.pass.settings)
    (enough : bytes ≤ (scratch.room task.pass.settings dataOffset).toNat) :
    task.Suits need scratch
      (Work.drawRun task.pass derived dataOffset recording run) := by
  have folded {bound : Recording} (suits : task.Suits need scratch bound) :
      task.Suits need scratch
        (run.foldl (Work.drawFirst task.pass dataOffset) bound) := by
    induction run generalizing bound with
    | nil => exact suits
    | cons instances rest induction =>
        have slot := slots instances List.mem_cons_self
        refine induction (fun other later => slots other
          (List.mem_cons_of_mem _ later)) ?_
        refine (suits.bindOutput slot inside).repeatDraw _ _ fun command => ?_
        obtain ⟨use, same⟩ := suits.scratch_eq
        refine ⟨_, by rw [Recording.bound_bindOutput], ?_⟩
        rw [isPost, same]
        exact .inr ⟨bytes, known, enough⟩
  exact folded (suits.bindDerived task.pass derived)

end Suits

end StageTask

end MeshCapture
