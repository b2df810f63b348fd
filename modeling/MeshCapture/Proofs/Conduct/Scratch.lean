import MeshCapture.Proofs.Conduct.Ensures

/-! # Conduct of device calls and of the scratch set

A device call is one deed. The scratch set is taken apart and its parts released
one by one, and a new one is put together from parts that were made one after the
other. -/

namespace MeshCapture

variable {σ ε α : Type} {start : Scene} {draws : DrawVisit → Prop}
  {scratch : Option Scratch} {desk : Desk}

/-- The workspace was reached by deeds, with the scratch set and the desk as they
are told. -/
structure EnactedWith (start : Scene) (draws : DrawVisit → Prop)
    (scratch : Option Scratch) (desk : Desk) (workspace : Workspace σ) :
    Prop where
  present : workspace.scratch = scratch
  conduct : Conduct draws start ⟨workspace.history, scratch, desk⟩

def Enacted (start : Scene) (draws : DrawVisit → Prop) (desk : Desk)
    (workspace : Workspace σ) : Prop :=
  EnactedWith start draws workspace.scratch desk workspace

theorem EnactedWith.enacted {workspace : Workspace σ}
    (reached : EnactedWith start draws scratch desk workspace) :
    Enacted start draws desk workspace :=
  ⟨rfl, reached.present ▸ reached.conduct⟩

theorem Workspace.history_cons (workspace : Workspace σ) (device : σ)
    (call : Call) :
    ({ workspace with device, calls := call :: workspace.calls } :
      Workspace σ).history = workspace.history ++ [call] :=
  List.reverse_cons

def Desk.gain (desk : Desk) (resource : Resource) : Desk :=
  { desk with held := resource ::ₘ desk.held }

theorem Desk.erase_gain (desk : Desk) (resource : Resource) :
    { desk.gain resource with
      held := (desk.gain resource).held.erase resource } = desk := by
  simp [gain]

/-! ## Device calls -/

namespace Work.Ensures

theorem of_scratch {work : Work σ α} {after : α → Workspace σ → Prop}
    (each : ∀ scratch,
      Work.Ensures (EnactedWith start draws scratch desk) work after) :
    Work.Ensures (Enacted start draws desk) work after :=
  fun workspace reached => each _ workspace reached

theorem whichever {work : Work σ α} {next : α → Desk}
    (each : ∀ scratch,
      Work.Ensures (EnactedWith start draws scratch desk) work
        fun answer => EnactedWith start draws scratch (next answer)) :
    Work.Ensures (Enacted start draws desk) work
      fun answer => Enacted start draws (next answer) :=
  fun workspace reached => (each _ workspace reached).enacted

theorem enact {operation : StateM σ α} {note : α → Call} {next : α → Desk}
    (deed : ∀ answer history, Deed draws ⟨history, scratch, desk⟩
      ⟨history ++ [note answer], scratch, next answer⟩) :
    Work.Ensures (EnactedWith start draws scratch desk)
      (Work.call operation note)
      fun answer => EnactedWith start draws scratch (next answer) := by
  refine call fun answer device workspace reached => ⟨reached.present, ?_⟩
  rw [Workspace.history_cons]
  exact reached.conduct.tail (deed answer workspace.history)

theorem quiet {operation : StateM σ α} {note : α → Call}
    (quiet : ∀ answer, (note answer).isQuiet = true)
    (allowed : ∀ answer history,
      Scene.Allows draws ⟨history, scratch, desk⟩ (note answer)) :
    Work.Ensures (EnactedWith start draws scratch desk)
      (Work.call operation note)
      fun _ => EnactedWith start draws scratch desk :=
  enact fun answer history => .noted _ (quiet answer) (allowed answer history)

theorem release {operation : StateM σ α} {note : α → Call}
    {resource : Resource}
    (freed : ∀ answer, (note answer).freed? = some resource)
    (memory : resource.isMemory = true) :
    Work.Ensures (EnactedWith start draws scratch (desk.gain resource))
      (Work.call operation note)
      fun _ => EnactedWith start draws scratch desk := by
  refine enact fun answer history => ?_
  have deed : Deed draws ⟨history, scratch, desk.gain resource⟩ _ :=
    .freed (note answer) resource (freed answer) memory
      (Multiset.mem_cons_self _ _)
  rwa [Desk.erase_gain] at deed

theorem count {before : Workspace σ → Prop} {update : Counters → Counters}
    (blind : ∀ workspace counters, before workspace →
      before { workspace with counters }) :
    Work.Ensures before (Work.count update : Work σ Unit) fun _ => before :=
  fun workspace reached => blind workspace _ reached

theorem countWith {update : Counters → Counters} :
    Work.Ensures (EnactedWith start draws scratch desk)
      (Work.count update : Work σ Unit)
      fun _ => EnactedWith start draws scratch desk :=
  count fun _ _ reached => ⟨reached.present, reached.conduct⟩

end Work.Ensures

namespace Attempt.Ensures

theorem enact {operation : StateM σ (Except ε α)} {note : Except ε α → Call}
    {next : α → Desk}
    (deed : ∀ value history, Deed draws ⟨history, scratch, desk⟩
      ⟨history ++ [note (.ok value)], scratch, next value⟩)
    (refusal : ∀ cause history, Deed draws ⟨history, scratch, desk⟩
      ⟨history ++ [note (.error cause)], scratch, desk⟩) :
    Attempt.Ensures (EnactedWith start draws scratch desk)
      (ExceptT.mk (Work.call operation note))
      (fun value => EnactedWith start draws scratch (next value))
      (EnactedWith start draws scratch desk) := by
  refine Work.Ensures.call fun answer device workspace reached => ?_
  cases answer with
  | ok value =>
      refine ⟨reached.present, ?_⟩
      rw [Workspace.history_cons]
      exact reached.conduct.tail (deed value workspace.history)
  | error cause =>
      refine ⟨reached.present, ?_⟩
      rw [Workspace.history_cons]
      exact reached.conduct.tail (refusal cause workspace.history)

theorem quiet {operation : StateM σ (Except ε α)} {note : Except ε α → Call}
    (quiet : ∀ answer, (note answer).isQuiet = true)
    (allowed : ∀ answer history,
      Scene.Allows draws ⟨history, scratch, desk⟩ (note answer)) :
    Attempt.Ensures (EnactedWith start draws scratch desk)
      (ExceptT.mk (Work.call operation note))
      (fun _ => EnactedWith start draws scratch desk)
      (EnactedWith start draws scratch desk) :=
  enact (fun _ history => .noted _ (quiet _) (allowed _ history))
    fun _ history => .noted _ (quiet _) (allowed _ history)

theorem loosely {attempt : Attempt ε σ α} {before : Workspace σ → Prop}
    {success : α → Workspace σ → Prop}
    (ensures : Attempt.Ensures before attempt success
      (EnactedWith start draws scratch desk)) :
    Attempt.Ensures before attempt success (Enacted start draws desk) :=
  ensures.weaken (fun _ holds => holds) (fun _ _ ends => ends)
    fun _ reached => reached.enacted

theorem of_scratch {attempt : Attempt ε σ α}
    {success : α → Workspace σ → Prop} {failure : Workspace σ → Prop}
    (each : ∀ scratch, Attempt.Ensures (EnactedWith start draws scratch desk)
      attempt success failure) :
    Attempt.Ensures (Enacted start draws desk) attempt success failure :=
  Work.Ensures.of_scratch each

theorem whichever {attempt : Attempt ε σ α} {next : α → Desk}
    (each : ∀ scratch, Attempt.Ensures (EnactedWith start draws scratch desk)
      attempt (fun value => EnactedWith start draws scratch (next value))
      (EnactedWith start draws scratch desk)) :
    Attempt.Ensures (Enacted start draws desk) attempt
      (fun value => Enacted start draws (next value))
      (Enacted start draws desk) :=
  of_scratch fun scratch => (each scratch).weaken (fun _ reached => reached)
    (fun _ _ reached => reached.enacted) fun _ reached => reached.enacted

theorem with_scratch {attempt : Attempt ε σ α}
    {success : α → Workspace σ → Prop} {failure : Workspace σ → Prop}
    (ensures : Attempt.Ensures (Enacted start draws desk) attempt success
      failure) :
    Attempt.Ensures (EnactedWith start draws scratch desk) attempt success
      failure :=
  ensures.weaken (fun _ reached => reached.enacted) (fun _ _ ends => ends)
    fun _ stops => stops

end Attempt.Ensures

/-! ## Letting the scratch set go -/

theorem Conduct.lose {history : List Call} {scratch : Scratch} :
    Conduct draws ⟨history, some scratch, desk⟩
      ⟨history ++ scratch.releases, none, desk⟩ := by
  have apart : Conduct draws ⟨history, some scratch, desk⟩ _ :=
    .single (.dismantled scratch rfl)
  have output := apart.tail
    (.freed (.releaseBuffer scratch.output) (.buffer scratch.output) rfl rfl
      (by simp [Scratch.resources]))
  have staging := output.tail
    (.freed (.releaseBuffer scratch.staging) (.buffer scratch.staging) rfl rfl
      (by simp [Scratch.resources]))
  have indexUpload := staging.tail
    (.freed (.releaseBuffer scratch.indexUpload)
      (.buffer scratch.indexUpload) rfl rfl (by simp [Scratch.resources]))
  have heap := indexUpload.tail
    (.freed (.releaseQueryHeap scratch.statisticsHeap)
      (.queryHeap scratch.statisticsHeap) rfl rfl
      (by simp [Scratch.resources]))
  simpa [Conduct, Scene.note, Scratch.releases, Scratch.resources] using heap

variable [Device σ]

theorem Work.Ensures.releaseScratch :
    Work.Ensures (Enacted start draws desk) (Work.releaseScratch : Work σ Unit)
      fun _ => EnactedWith start draws none desk := by
  intro workspace reached
  cases present : workspace.scratch with
  | none =>
      have same := Work.standing_releaseScratch_none present 0 none
      have still : (Work.releaseScratch.run workspace).2.scratch = none :=
        (congrArg Standing.scratch same).trans present
      have history : (Work.releaseScratch.run workspace).2.history =
          workspace.history := congrArg Standing.history same
      refine ⟨still, ?_⟩
      rw [history, ← present]
      exact reached.conduct
  | some scratch =>
      have lost := Work.standing_releaseScratch_some present 0 none
      have history : (Work.releaseScratch.run workspace).2.history =
          workspace.history ++ scratch.releases :=
        congrArg Standing.history lost
      refine ⟨congrArg Standing.scratch lost, ?_⟩
      rw [history]
      have before := reached.conduct
      rw [present] at before
      exact before.trans Conduct.lose

theorem Work.Ensures.retireScratch :
    Work.Ensures (Enacted start draws desk) (Work.retireScratch : Work σ Unit)
      fun _ => EnactedWith start draws none desk := by
  have synced : Work.Ensures (Enacted start draws desk)
      (Work.sync : Work σ Unit) fun _ => Enacted start draws desk :=
    whichever fun _ => enact fun _ _ => .drained
  refine bind synced fun _ => ?_
  exact bind releaseScratch fun _ => countWith

/-! ## Making a scratch set -/

/-- The workspace was reached with an exact history and no scratch set. -/
structure Making (start : Scene) (draws : DrawVisit → Prop)
    (history : List Call) (desk : Desk) (workspace : Workspace σ) : Prop where
  history : workspace.history = history
  reached : EnactedWith start draws none desk workspace

omit [Device σ] in
theorem Attempt.Ensures.makePart {operation : StateM σ (Except ε α)}
    {note : Except ε α → Call} {wrap : α → Resource} {history : List Call}
    (made : ∀ value, (note (.ok value)).made? = some (wrap value))
    (memory : ∀ value, (wrap value).isMemory = true)
    (quiet : ∀ cause, (note (.error cause)).isQuiet = true)
    (unnamed : ∀ answer, (note answer).resources = []) :
    Attempt.Ensures (Making start draws history desk)
      (ExceptT.mk (Work.call operation note))
      (fun value => Making start draws (history ++ [note (.ok value)])
        (desk.gain (wrap value)))
      (EnactedWith start draws none desk) := by
  refine Work.Ensures.call fun answer device workspace making => ?_
  rcases making with ⟨same, present, conduct⟩
  cases answer with
  | ok value =>
      have whole := workspace.history_cons device (note (.ok value))
      refine ⟨by rw [whole, same], present, ?_⟩
      rw [whole]
      exact conduct.tail
        (.made _ _ (made value) (memory value) fun _ => rfl)
  | error cause =>
      refine ⟨present, ?_⟩
      rw [workspace.history_cons device]
      exact conduct.tail
        (.noted _ (quiet cause) (Scene.allows_of_unnamed (unnamed _)))

theorem Attempt.Ensures.keepBuffer {description : BufferDescription}
    {history : List Call} {rest : BufferHandle → Attempt DeviceFailure σ α}
    {success : α → Workspace σ → Prop}
    (next : ∀ buffer, Attempt.Ensures
      (Making start draws
        (history ++ [.createBuffer description (.ok buffer)])
        (desk.gain (.buffer buffer)))
      (rest buffer) success
      (EnactedWith start draws none (desk.gain (.buffer buffer)))) :
    Attempt.Ensures (Making start draws history desk)
      (do
        let buffer ← Work.createBuffer description
        Attempt.onFailure (Work.releaseBuffer buffer) (rest buffer))
      success (EnactedWith start draws none desk) := by
  have made : Attempt.Ensures (Making start draws history desk)
      (Work.createBuffer description : Attempt DeviceFailure σ BufferHandle) _
      _ :=
    makePart (fun _ => rfl) (fun _ => rfl) (fun _ => rfl) fun answer => by
      cases answer <;> rfl
  refine bind made fun buffer => onFailure (next buffer) ?_
  exact Work.Ensures.release (fun _ => rfl) rfl

structure PartsMade (start : Scene) (draws : DrawVisit → Prop) (desk : Desk)
    (scratch : Scratch) (workspace : Workspace σ) : Prop where
  reached : EnactedWith start draws none
    { desk with held := scratch.resources + desk.held } workspace
  unused : scratch.outputUse = .common
  last : MadeLast scratch workspace.history

theorem Attempt.Ensures.makeScratch {settings : Settings}
    {capacity : UInt64} :
    Attempt.Ensures (EnactedWith start draws none desk)
      (Work.makeScratch settings capacity : Attempt DeviceFailure σ Scratch)
      (PartsMade start draws desk)
      (EnactedWith start draws none desk) := by
  intro workspace before
  have making : Making start draws workspace.history desk workspace :=
    ⟨rfl, before⟩
  refine Attempt.Ensures.keepBuffer ?_ workspace making
  intro output
  refine Attempt.Ensures.keepBuffer ?_
  intro staging
  refine Attempt.Ensures.keepBuffer ?_
  intro indexUpload
  refine bind (makePart (fun _ => rfl) (fun _ => rfl) (fun _ => rfl)
    fun answer => by cases answer <;> rfl) ?_
  intro heap
  refine Attempt.Ensures.pure fun after made => ⟨?_, rfl, ?_⟩
  · have parts := made.reached
    simp only [Desk.gain] at parts
    convert parts using 2
    simp only [Scratch.resources, Multiset.insert_eq_cons,
      ← Multiset.singleton_add]
    ac_rfl
  · exact ⟨workspace.history, _, _, _, _, made.history, rfl, rfl, rfl⟩

omit [Device σ] in
theorem Work.Ensures.assemble {scratch : Scratch} :
    Work.Ensures (PartsMade start draws desk scratch)
      (Work.setScratch (some scratch) : Work σ Unit)
      fun _ => EnactedWith start draws (some scratch) desk := by
  intro workspace made
  exact ⟨rfl, made.reached.conduct.tail
    (.assembled scratch desk.held rfl made.unused rfl made.last)⟩

theorem Attempt.Ensures.growScratch {settings : Settings}
    {current required : UInt64} :
    Attempt.Ensures (Enacted start draws desk)
      (Work.growScratch settings current required : Attempt UInt64 σ Scratch)
      (fun scratch => EnactedWith start draws (some scratch) desk)
      (Enacted start draws desk) := by
  have denied (capacity : UInt64) : Work.Ensures
      (EnactedWith start draws none desk)
      (do
        Work.count Counters.countAllocationFailure
        return .error capacity : Work σ (Except UInt64 Scratch))
      (finished (fun scratch => EnactedWith start draws (some scratch) desk)
        fun _ => Enacted start draws desk) :=
    .bind .countWith fun _ => .pure fun _ reached => reached.enacted
  refine Work.Ensures.bind Work.Ensures.retireScratch fun _ => ?_
  split
  · exact denied _
  · refine Work.Ensures.bind makeScratch fun made => ?_
    cases made with
    | ok scratch =>
        exact Work.Ensures.bind Work.Ensures.assemble fun _ =>
          Work.Ensures.pure fun _ reached => reached
    | error cause => exact denied _

theorem Attempt.Ensures.scratchFor {settings : Settings} {required : UInt64} :
    Attempt.Ensures (Enacted start draws desk)
      (Work.scratchFor settings required : Attempt UInt64 σ Scratch)
      (fun scratch => EnactedWith start draws (some scratch) desk)
      (Enacted start draws desk) := by
  have present : Work.Ensures (Enacted start draws desk)
      (Work.scratch? : Work σ (Option Scratch)) fun scratch =>
        EnactedWith start draws scratch desk :=
    Work.Ensures.scratch? fun _ reached => reached
  refine Attempt.Ensures.bind (Attempt.Ensures.lift present) fun scratch => ?_
  cases scratch with
  | none => exact growScratch.with_scratch
  | some scratch =>
      simp only
      split
      · exact Attempt.Ensures.pure fun _ reached => reached
      · exact growScratch.with_scratch

end MeshCapture
