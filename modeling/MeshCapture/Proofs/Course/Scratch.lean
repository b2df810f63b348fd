import MeshCapture.Proofs.Course.Takes

/-! # Courses of device calls and of the scratch set

Every device call is one step, and so is the whole set changing hands. What a
piece of work needs and leaves is said by the scratch set and the resources held
beside it. -/

namespace MeshCapture

structure At (scratch : Option Scratch) (held : Multiset Resource)
    (standing : Standing) : Prop where
  scratch : standing.scratch = scratch
  held : standing.held = held

def Holds (held : Multiset Resource) (standing : Standing) : Prop :=
  standing.held = held

theorem At.holds {scratch : Option Scratch} {held : Multiset Resource}
    {standing : Standing} (now : At scratch held standing) :
    Holds held standing :=
  now.held

def Standing.gain (standing : Standing) (call : Call) (resource : Resource) :
    Standing :=
  { standing.note call with held := resource ::ₘ standing.held }

variable {σ ε α : Type} {scratch : Option Scratch} {held : Multiset Resource}

/-! ## Device calls -/

theorem Work.Takes.quietCall {operation : StateM σ α} {note : α → Call}
    (quiet : ∀ answer, (note answer).isQuiet = true) :
    Work.Takes (At scratch held) (Work.call operation note)
      fun _ => At scratch held := by
  apply Work.Takes.call
  intro answer standing now
  exact ⟨standing.held, .noted _ (quiet answer), now.scratch, now.held⟩

theorem Work.Takes.releaseCall {operation : StateM σ α} {note : α → Call}
    {resource : Resource}
    (freed : ∀ answer, (note answer).freed? = some resource) :
    Work.Takes (At scratch (resource ::ₘ held)) (Work.call operation note)
      fun _ => At scratch held := by
  apply Work.Takes.call
  intro answer standing now
  have mem : resource ∈ standing.held := by simp [now.held]
  refine ⟨_, .freed _ resource (freed answer) mem, now.scratch, ?_⟩
  simp [now.held]

theorem Attempt.Takes.createCall {operation : StateM σ (Except ε α)}
    {note : Except ε α → Call} {wrap : α → Resource} {standing : Standing}
    (now : standing.scratch = scratch)
    (made : ∀ handle, (note (.ok handle)).made? = some (wrap handle))
    (quiet : ∀ cause, (note (.error cause)).isQuiet = true)
    (empty : ∀ handle, (note (.ok handle)).madeOutput?.isSome = true →
      scratch = none) :
    Attempt.Takes (· = standing) (ExceptT.mk (Work.call operation note))
      (fun handle after =>
        after = standing.gain (note (.ok handle)) (wrap handle))
      (At scratch standing.held) := by
  subst now
  apply Work.Takes.call
  intro answer now same
  subst same
  cases answer with
  | ok handle =>
      exact ⟨_, .made _ (wrap handle) (made handle) (empty handle), rfl⟩
  | error cause => exact ⟨_, .noted _ (quiet cause), rfl, rfl⟩

theorem Attempt.Takes.quietCall {operation : StateM σ (Except ε α)}
    {note : Except ε α → Call}
    (quiet : ∀ answer, (note answer).isQuiet = true) :
    Attempt.Takes (At scratch held) (ExceptT.mk (Work.call operation note))
      (fun _ => At scratch held) (Holds held) := by
  apply Work.Takes.weaken (Work.Takes.quietCall quiet) (fun _ now => now)
  intro answer standing now
  cases answer with
  | ok value => exact now
  | error cause => exact now.holds

/-! ## Calls beside the scratch set

Most calls are made without regard to the scratch set. -/

theorem Work.Takes.beside {work : Work σ α} {after : α → Standing → Prop}
    (takes : ∀ scratch, Work.Takes (At scratch held) work after) :
    Work.Takes (Holds held) work after :=
  fun workspace now drawn starts =>
    takes workspace.scratch workspace now drawn ⟨rfl, starts⟩

theorem Attempt.Takes.at {attempt : Attempt ε σ α}
    {success : α → Standing → Prop} {failure : Standing → Prop}
    (takes : Attempt.Takes (Holds held) attempt success failure) :
    Attempt.Takes (At scratch held) attempt success failure :=
  takes.weaken (fun _ now => now.holds) (fun _ _ ends => ends)
    fun _ stops => stops

theorem Work.Takes.quietBeside {operation : StateM σ α} {note : α → Call}
    (quiet : ∀ answer, (note answer).isQuiet = true) :
    Work.Takes (Holds held) (Work.call operation note) fun _ => Holds held :=
  Work.Takes.beside fun _ =>
    (Work.Takes.quietCall quiet).weaken (fun _ now => now)
      fun _ _ now => now.holds

theorem Work.Takes.releaseBeside {operation : StateM σ α} {note : α → Call}
    {resource : Resource}
    (freed : ∀ answer, (note answer).freed? = some resource) :
    Work.Takes (Holds (resource ::ₘ held)) (Work.call operation note)
      fun _ => Holds held :=
  Work.Takes.beside fun _ =>
    (Work.Takes.releaseCall freed).weaken (fun _ now => now)
      fun _ _ now => now.holds

theorem Attempt.Takes.quietBeside {operation : StateM σ (Except ε α)}
    {note : Except ε α → Call}
    (quiet : ∀ answer, (note answer).isQuiet = true) :
    Attempt.Takes (Holds held) (ExceptT.mk (Work.call operation note))
      (fun _ => Holds held) (Holds held) :=
  Work.Takes.beside fun _ =>
    (Attempt.Takes.quietCall quiet).weaken (fun _ now => now)
      (fun _ _ now => now.holds) fun _ now => now

theorem Attempt.Takes.createBeside {operation : StateM σ (Except ε α)}
    {note : Except ε α → Call} {wrap : α → Resource}
    (made : ∀ handle, (note (.ok handle)).made? = some (wrap handle))
    (quiet : ∀ cause, (note (.error cause)).isQuiet = true)
    (other : ∀ handle, (note (.ok handle)).madeOutput? = none) :
    Attempt.Takes (Holds held) (ExceptT.mk (Work.call operation note))
      (fun handle => Holds (wrap handle ::ₘ held)) (Holds held) := by
  apply Work.Takes.of_standing
  intro standing now
  refine (Attempt.Takes.createCall rfl made quiet (by simp [other])).weaken
    (fun _ same => same) ?_ ?_
  · intro handle after same
    subst same
    exact congrArg (wrap handle ::ₘ ·) now
  · intro after back
    exact back.held.trans now

/-! ## Letting the scratch set go -/

def Scratch.releases (scratch : Scratch) : List Call :=
  [.releaseBuffer scratch.output, .releaseBuffer scratch.staging,
    .releaseBuffer scratch.indexUpload,
    .releaseQueryHeap scratch.statisticsHeap]

def Standing.lose (standing : Standing) (scratch : Scratch) : Standing :=
  { standing with
    history := standing.history ++ scratch.releases
    scratch := none
    drawn := none }

theorem Course.lose {standing : Standing} {scratch : Scratch}
    (present : standing.scratch = some scratch) :
    Course standing (standing.lose scratch) := by
  have apart : Course standing _ := .single (.dismantled scratch present)
  have output := apart.tail
    (.freed (.releaseBuffer scratch.output) (.buffer scratch.output) rfl
      (by simp [Scratch.resources]))
  have staging := output.tail
    (.freed (.releaseBuffer scratch.staging) (.buffer scratch.staging) rfl
      (by simp [Scratch.resources]))
  have indexUpload := staging.tail
    (.freed (.releaseBuffer scratch.indexUpload)
      (.buffer scratch.indexUpload) rfl (by simp [Scratch.resources]))
  have heap := indexUpload.tail
    (.freed (.releaseQueryHeap scratch.statisticsHeap)
      (.queryHeap scratch.statisticsHeap) rfl (by simp [Scratch.resources]))
  simpa [Course, Standing.lose, Standing.note, Scratch.releases,
    Scratch.resources] using heap

variable [Device σ]

theorem Work.standing_releaseScratch_none {workspace : Workspace σ}
    (absent : workspace.scratch = none) (held : Multiset Resource)
    (drawn : Option Nat) :
    (Work.releaseScratch.run workspace).2.standing held drawn =
      workspace.standing held drawn := by
  rcases workspace with ⟨device, calls, scratch, counters⟩
  cases absent
  rfl

theorem Work.standing_releaseScratch_some {workspace : Workspace σ}
    {scratch : Scratch} (present : workspace.scratch = some scratch)
    (held : Multiset Resource) (drawn : Option Nat) :
    (Work.releaseScratch.run workspace).2.standing held none =
      (workspace.standing held drawn).lose scratch := by
  rcases workspace with ⟨device, calls, current, counters⟩
  cases present
  change Standing.mk (_ :: _ :: _ :: _ :: calls).reverse none counters held
    none = _
  simp [Standing.lose, Scratch.releases, Workspace.standing]

theorem Work.Takes.releaseScratch :
    Work.Takes (Holds held) (Work.releaseScratch : Work σ Unit)
      fun _ => At none held := by
  intro workspace now drawn starts
  cases present : workspace.scratch with
  | none =>
      refine ⟨now, drawn, ?_⟩
      rw [Work.standing_releaseScratch_none present]
      exact ⟨.refl, present, starts⟩
  | some scratch =>
      refine ⟨now, none, ?_⟩
      rw [Work.standing_releaseScratch_some present now drawn]
      exact ⟨Course.lose present, rfl, starts⟩

/-- The set may as well be released after the drain was counted. -/
theorem Work.run_retireScratch (workspace : Workspace σ) :
    (Work.retireScratch.run workspace).2 =
      (Work.releaseScratch.run
        { (Work.sync.run workspace).2 with
          counters := workspace.counters.countReallocation }).2 := by
  rcases workspace with ⟨device, calls, scratch, counters⟩
  cases scratch with
  | none => rfl
  | some scratch => rfl

theorem Work.Takes.retireScratch :
    Work.Takes (Holds held) (Work.retireScratch : Work σ Unit)
      fun _ => At none held := by
  intro workspace now drawn starts
  let synced : Workspace σ :=
    { (Work.sync.run workspace).2 with
      counters := workspace.counters.countReallocation }
  have standing : synced.standing now none =
      { (workspace.standing now drawn).note .sync with
        counters := workspace.counters.countReallocation } := by
    change Standing.mk (.sync :: workspace.calls).reverse _ _ _ _ = _
    rw [List.reverse_cons]
    rfl
  rcases Work.Takes.releaseScratch synced now none starts with
    ⟨heldAfter, drawnAfter, course, ends⟩
  rw [Work.run_retireScratch]
  refine ⟨heldAfter, drawnAfter, .head ?_ course, ends⟩
  exact standing ▸ .drained

/-! ## Making a scratch set -/

theorem Attempt.Takes.keepBuffer {description : BufferDescription}
    {standing : Standing} {rest : BufferHandle → Attempt DeviceFailure σ α}
    {success : α → Standing → Prop} (empty : standing.scratch = none)
    (next : ∀ buffer,
      Attempt.Takes
        (· = standing.gain (.createBuffer description (.ok buffer))
          (.buffer buffer))
        (rest buffer) success (At none (.buffer buffer ::ₘ standing.held))) :
    Attempt.Takes (· = standing)
      (do
        let buffer ← Work.createBuffer description
        Attempt.onFailure (Work.releaseBuffer buffer) (rest buffer))
      success (At none standing.held) := by
  refine Attempt.Takes.bind
    (Attempt.Takes.createCall empty (fun _ => rfl) (fun _ => rfl)
      fun _ _ => rfl) ?_
  intro buffer
  apply Attempt.Takes.onFailure (next buffer)
  exact Work.Takes.releaseCall fun _ => rfl

theorem Attempt.Takes.makeScratch {settings : Settings} {capacity : UInt64} :
    Attempt.Takes (At none held)
      (Work.makeScratch settings capacity : Attempt DeviceFailure σ Scratch)
      (fun scratch standing =>
        At none (scratch.resources + held) standing ∧
          scratch.outputUse = .common ∧
          MadeLast scratch standing.history)
      (At none held) := by
  apply Work.Takes.of_standing
  intro standing now
  rcases now with ⟨empty, rfl⟩
  refine Attempt.Takes.keepBuffer empty ?_
  intro output
  refine Attempt.Takes.keepBuffer empty ?_
  intro staging
  refine Attempt.Takes.keepBuffer empty ?_
  intro indexUpload
  refine Attempt.Takes.bind
    (Attempt.Takes.createCall empty (fun _ => rfl) (fun _ => rfl)
      fun _ _ => rfl) ?_
  intro heap
  apply Attempt.Takes.pure
  intro after same
  subst same
  refine ⟨⟨empty, ?_⟩, rfl, ?_⟩
  · simp only [Standing.gain, Scratch.resources, Multiset.insert_eq_cons,
      ← Multiset.singleton_add]
    ac_rfl
  · exact ⟨standing.history, _, _, _, _, rfl, rfl, rfl, rfl⟩

omit [Device σ] in
theorem Work.Takes.deny :
    Work.Takes (At none held)
      (Work.count Counters.countAllocationFailure : Work σ Unit)
      fun _ => At none held :=
  Work.Takes.modify fun _ now _ starts =>
    ⟨now, none, .single .denied, starts.scratch, starts.held⟩

omit [Device σ] in
theorem Work.Takes.assemble {scratch : Scratch} :
    Work.Takes
      (fun standing => At none (scratch.resources + held) standing ∧
        scratch.outputUse = .common ∧ MadeLast scratch standing.history)
      (Work.setScratch (some scratch) : Work σ Unit)
      fun _ => At (some scratch) held :=
  Work.Takes.modify fun _ _ _ ⟨starts, unused, last⟩ =>
    ⟨held, none,
      .single (.assembled scratch held starts.scratch unused starts.held last),
      rfl, rfl⟩

theorem Attempt.Takes.growScratch {settings : Settings}
    {current required : UInt64} :
    Attempt.Takes (Holds held)
      (Work.growScratch settings current required : Attempt UInt64 σ Scratch)
      (fun scratch => At (some scratch) held)
      (Holds held) := by
  apply Work.Takes.bind Work.Takes.retireScratch
  intro _
  split
  · exact Work.Takes.bind Work.Takes.deny fun _ =>
      Work.Takes.pure fun _ now => now.holds
  · apply Work.Takes.bind Attempt.Takes.makeScratch
    intro made
    cases made with
    | ok scratch =>
        exact Work.Takes.bind Work.Takes.assemble fun _ =>
          Work.Takes.pure fun _ now => now
    | error cause =>
        exact Work.Takes.bind Work.Takes.deny fun _ =>
          Work.Takes.pure fun _ now => now.holds

theorem Attempt.Takes.scratchFor {settings : Settings} {required : UInt64} :
    Attempt.Takes (Holds held)
      (Work.scratchFor settings required : Attempt UInt64 σ Scratch)
      (fun scratch => At (some scratch) held)
      (Holds held) := by
  have present : Work.Takes (Holds held)
      (Work.scratch? : Work σ (Option Scratch)) fun scratch =>
        At scratch held :=
    Work.Takes.scratch? fun _ now => ⟨rfl, now⟩
  apply Attempt.Takes.bind (Attempt.Takes.lift present)
  intro scratch
  have grown {current : UInt64} : Attempt.Takes (At scratch held)
      (Work.growScratch settings current required : Attempt UInt64 σ Scratch)
      (fun scratch => At (some scratch) held) (Holds held) :=
    Attempt.Takes.growScratch.at
  cases scratch with
  | none => exact grown
  | some scratch =>
      simp only
      split
      · exact Attempt.Takes.pure fun _ now => now
      · exact grown

end MeshCapture
