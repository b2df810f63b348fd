import MeshCapture.Proofs.Contents.Readout
import MeshCapture.Proofs.Sizing.Suits

/-! # Rules of access

What the steps that all stages share do to the state of a stage. A request for
room puts another scratch set in place or none, a list that suits the set may be
handed over, and a read inside the staging buffer fails only where the device
does not serve it. -/

namespace MeshCapture

open StageTask

variable {σ : Type} {task : StageTask} {start before after : Workspace σ}
  {need : Option Nat} {scratch : Scratch}

/-! ## Requests for room -/

theorem Call.isRead_of_upkeep {call : Call} (upkeep : call.isUpkeep = true) :
    call.isRead = false := by
  cases call <;> first | rfl | cases upkeep

theorem StageTask.fits_of_upkeep {call : Call} (upkeep : call.isUpkeep = true)
    (earlier : List Call) : task.Fits earlier call := by
  cases call <;> trivial

theorem Answered.settled {settings : Settings} (sound : settings.Sound)
    {required : UInt64} {outcome : Except UInt64 Scratch}
    (answered : Answered settings required before outcome after)
    (settled : before.Settled settings) : after.Settled settings := by
  intro scratch present
  cases answered with
  | kept => exact settled scratch present
  | @replaced made _ lacking capacity accepted unused history placed =>
      cases placed.symm.trans present
      refine ⟨sound.proportioned capacity accepted,
        before.history ++ before.retirement, [], ?_, List.forall_mem_nil _⟩
      rw [history, List.append_nil]
  | refused _ _ _ absent => cases absent.symm.trans present
  | abandoned _ _ _ _ absent => cases absent.symm.trans present

namespace Attempt.Guarantees

variable [Device σ]

theorem scratchForKnown (sound : task.pass.settings.Sound) {required : UInt64}
    {explain : UInt64 → CaptureFailure}
    (harmless : ∀ bytes, (explain bytes).isUnread = false) :
    Guarantees (fun now => task.Kept start now ∧ task.Knows need now)
      ((Work.scratchFor task.pass.settings required).adapt explain :
        Attempt CaptureFailure σ Scratch)
      (fun scratch now => scratch.Offers task.pass.settings required ∧
        task.Holds start need scratch now)
      (task.Stops start) := by
  refine adapt (of_ends fun now outcome later ⟨kept, knows⟩ ends => ?_)
  have answered := ends.scratchFor
  obtain ⟨growth, grew, upkeep⟩ := answered.upkeep
  have keeps : task.Kept start later := by
    refine kept.behind grew ?_ (answered.settled sound kept.settled)
    intro earlier call _ split
    exact fits_of_upkeep (upkeep call (by simp [split])) _
  cases outcome with
  | error bytes => exact keeps.stops (harmless bytes)
  | ok scratch =>
      obtain ⟨present, enough, -⟩ :=
        (answered.contract sound).granted scratch rfl
      have proportioned := (keeps.settled scratch present).proportioned
      refine ⟨⟨proportioned, UInt64.le_iff_toNat_le.mp enough⟩, keeps, ?_, _,
        present⟩
      exact knows.behind grew fun call inside =>
        Call.isRead_of_upkeep (upkeep call inside)

theorem scratchFor (sound : task.pass.settings.Sound) {required : UInt64}
    {explain : UInt64 → CaptureFailure}
    (harmless : ∀ bytes, (explain bytes).isUnread = false) :
    Guarantees (task.Kept start)
      ((Work.scratchFor task.pass.settings required).adapt explain :
        Attempt CaptureFailure σ Scratch)
      (fun scratch now => scratch.Offers task.pass.settings required ∧
        task.Holds start none scratch now)
      (task.Stops start) :=
  (scratchForKnown sound harmless).of_start fun _ kept => ⟨kept, nofun⟩

/-! ## Lists -/

theorem submit {recording : Recording}
    (suits : task.Suits need scratch recording) :
    Guarantees (task.Holds start need scratch)
      ((Work.submit recording).adapt .submission :
        Attempt CaptureFailure σ Unit)
      (fun _ => task.Holds start need scratch) (task.Stops start) := by
  refine adapt (of_ends fun now outcome later holds ends => ?_)
  obtain ⟨placed, history⟩ := ends.submit
  obtain ⟨use, same⟩ := suits.scratch_eq
  rw [same] at placed
  have fits : task.Fits now.history (.execute recording.list outcome) := by
    refine ⟨scratch, holds.inPlace, suits.inside, fun command bound drawn => ?_⟩
    exact (suits.drawn command bound drawn).mono holds.knows fun _ => id
  have settled {calls : List Call}
      (reached : later.history = now.history ++ calls)
      (others : ∀ call ∈ calls, call.makesReadback = false) :
      later.Settled task.pass.settings := by
    intro other there
    cases placed.symm.trans there
    rw [reached]
    exact (holds.inPlace.behind others).reused use
  cases outcome with
  | error cause =>
      refine (holds.kept.behind history ?_ (settled history ?_)).stops rfl
      · exact Throughout.cons_iff.mpr
          ⟨(List.append_nil now.history).symm ▸ fits, .nil⟩
      · simp [Call.makesReadback]
  | ok _ =>
      refine ⟨holds.kept.behind history ?_ (settled history ?_),
        holds.knows.behind history ?_, _, placed⟩
      · refine Throughout.cons_iff.mpr
          ⟨(List.append_nil now.history).symm ▸ fits, ?_⟩
        exact Throughout.cons_iff.mpr ⟨trivial, .nil⟩
      · simp [Call.makesReadback]
      · simp [Call.isRead]

theorem submit_left {recording : Recording}
    (suits : task.Suits need scratch recording) :
    Guarantees (task.Holds start need scratch)
      ((Work.submit recording).adapt .submission :
        Attempt CaptureFailure σ Unit)
      (fun _ => task.Holds start need recording.scratch)
      (task.Stops start) := by
  obtain ⟨use, same⟩ := suits.scratch_eq
  rw [same]
  exact (submit suits).weaken (fun _ => id) (fun _ _ holds => holds.reused use)
    fun _ _ => id

/-! ## Reads -/

omit [Device σ] in
theorem of_holds {α : Type} {attempt : Attempt CaptureFailure σ α}
    {success : α → Workspace σ → Prop}
    {failure : CaptureFailure → Workspace σ → Prop}
    (guarantees : scratch.Proportioned task.pass.settings →
      Guarantees (task.Holds start need scratch) attempt success failure) :
    Guarantees (task.Holds start need scratch) attempt success failure :=
  fun now holds => guarantees holds.inPlace.proportioned now holds

/-- A read inside the staging buffer fails, or gives less than was asked for,
only where the device does not serve it. -/
theorem readStaging {offset length : UInt64}
    (inside : offset.toNat + length.toNat ≤
      scratch.outputSize task.pass.settings) :
    Guarantees (task.Holds start need scratch)
      (Work.readBuffer scratch.staging offset length :
        Attempt DeviceFailure σ ByteArray)
      (fun bytes now => task.Holds start none scratch now ∧
        LastRead now.history bytes ∧
        (bytes.size ≠ length.toNat →
          ¬ Throughout (Served task.pass.settings) now.history))
      fun _ now => task.Kept start now ∧
        ¬ Throughout (Served task.pass.settings) now.history := by
  refine call fun now outcome later holds adds => ?_
  have fits : task.Fits now.history
      (.readBuffer scratch.staging offset length outcome) :=
    .inl ⟨scratch, holds.inPlace, rfl, inside⟩
  have keeps := holds.kept.adds adds fits rfl
  have full (served : Throughout (Served task.pass.settings) later.history) :
      ∃ bytes, outcome = .ok bytes ∧ bytes.size = length.toNat := by
    rw [adds.history] at served
    exact (Throughout.concat_iff.mp served).2 scratch holds.inPlace rfl inside
  cases outcome with
  | error cause =>
      refine ⟨keeps, fun served => ?_⟩
      obtain ⟨_, impossible, -⟩ := full served
      cases impossible
  | ok bytes =>
      obtain ⟨use, present⟩ := holds.present
      refine ⟨⟨keeps, nofun, use, adds.scratch.trans present⟩,
        ⟨_, _, _, _, [], adds.history, List.forall_mem_nil _⟩,
        fun short served => ?_⟩
      obtain ⟨_, same, enough⟩ := full served
      cases same
      exact short enough

theorem fetchStaged {failure : CaptureFailure} {offset length : UInt64}
    (inside : offset.toNat + length.toNat ≤
      scratch.outputSize task.pass.settings) :
    Guarantees (task.Holds start need scratch)
      (Work.fetchStaged failure scratch offset length :
        Attempt CaptureFailure σ ByteArray)
      (fun _ => task.Holds start none scratch) (task.Stops start) := by
  refine Work.Ensures.bind (readStaging inside) fun answer => ?_
  cases answer with
  | error cause =>
      exact Work.Ensures.pure fun _ unread => ⟨unread.1, fun _ => unread.2⟩
  | ok bytes =>
      refine Work.Ensures.pure fun now ⟨still, _, short⟩ => ?_
      split
      · exact still
      · next less => exact ⟨still.kept, fun _ => short less⟩

theorem filledSizes {failure : CaptureFailure} {number : UInt32}
    (inside : 8 * number.toNat ≤ scratch.outputSize task.pass.settings) :
    Guarantees (task.Holds start need scratch)
      (Work.filledSizes failure scratch number :
        Attempt CaptureFailure σ (List UInt64))
      (fun _ => task.Holds start none scratch) (task.Stops start) := by
  refine bind (fetchStaged ?_) fun bytes => pure fun _ holds => holds
  rw [toNat_countersWidth, UInt64.toNat_zero, Nat.zero_add]
  exact inside

omit [Device σ] in
theorem requireOutput {failure : CaptureFailure} {reported : UInt64}
    (harmless : failure.isUnread = false) :
    Guarantees (task.Holds start need scratch)
      (Work.requireOutput failure reported : Attempt CaptureFailure σ Unit)
      (fun _ => task.Holds start need scratch) (task.Stops start) := by
  rw [Work.requireOutput]
  split
  · exact throw fun _ holds => holds.kept.stops harmless
  · exact pure fun _ holds => holds

/-! ## Stored bytes -/

theorem store {label : String} {data : ByteArray} :
    Guarantees (task.Kept start)
      (Work.store label data : Attempt DeviceFailure σ BufferHandle)
      (fun _ => task.Kept start) fun _ => task.Kept start := by
  let description : BufferDescription :=
    { label, size := UInt64.ofNat data.size, heap := .upload }
  have creates : Guarantees (task.Kept start)
      (Work.createBuffer description : Attempt DeviceFailure σ BufferHandle)
      (fun buffer now => task.Kept start now ∧ ∃ front, now.history =
        front ++ [.createBuffer description (.ok buffer)])
      fun _ => task.Kept start := by
    refine call fun now outcome later kept adds => ?_
    cases outcome with
    | error cause => exact kept.adds adds trivial rfl
    | ok buffer => exact ⟨kept.adds adds trivial rfl, _, adds.history⟩
  have writes (buffer : BufferHandle) : Guarantees
      (fun now : Workspace σ => task.Kept start now ∧ ∃ front, now.history =
        front ++ [.createBuffer description (.ok buffer)])
      (Work.writeBuffer buffer 0 data : Attempt DeviceFailure σ Unit)
      (fun _ => task.Kept start) fun _ => task.Kept start := by
    refine call fun now outcome later ⟨kept, front, made⟩ adds => ?_
    have fits : task.Fits now.history (.writeBuffer buffer 0 data outcome) :=
      .inr ⟨front, label, made, rfl⟩
    have keeps := kept.adds adds fits rfl
    cases outcome with
    | error cause => exact keeps
    | ok _ => exact keeps
  refine bind creates fun buffer => onFailure
    (bind (writes buffer) fun _ => pure fun _ kept => kept) ?_
  exact fun _ now kept =>
    kept.adds (Work.adds_releaseBuffer now buffer) trivial rfl

theorem stored {label : String} {data : ByteArray}
    {explain : DeviceFailure → CaptureFailure}
    (harmless : ∀ cause, (explain cause).isUnread = false) :
    Guarantees (task.Kept start)
      ((Work.store label data).adapt explain :
        Attempt CaptureFailure σ BufferHandle)
      (fun _ => task.Kept start) (task.Stops start) :=
  adapt <| store.weaken (fun _ => id) (fun _ _ => id) fun cause _ kept =>
    kept.stops (harmless cause)

/-! ## Pipelines -/

theorem overPipeline {description : GraphicsPipeline} {α : Type}
    {work : PipelineHandle → Attempt CaptureFailure σ α}
    (guarantees : ∀ derived, Guarantees (task.Kept start) (work derived)
      (fun _ => task.Kept start) (task.Stops start)) :
    Guarantees (task.Kept start)
      ((Work.createPipeline description).adapt .pipelineCreation >>=
        fun derived =>
          (work derived).afterwards (Work.releasePipeline derived))
      (fun _ => task.Kept start) (task.Stops start) := by
  have creates : Guarantees (task.Kept start)
      (Work.createPipeline description :
        Attempt DeviceFailure σ PipelineHandle)
      (fun _ => task.Kept start) fun _ => task.Kept start := by
    refine call fun now outcome later kept adds => ?_
    cases outcome with
    | error cause => exact kept.adds adds trivial rfl
    | ok derived => exact kept.adds adds trivial rfl
  refine bind (adapt <| creates.weaken (fun _ => id) (fun _ _ => id)
    fun _ _ kept => kept.stops rfl) fun derived => ?_
  refine (guarantees derived).afterwards (fun _ now kept => ?_)
    fun cause now stops => ?_
  · exact kept.adds (Work.adds_releasePipeline now derived) trivial rfl
  · exact stops.adds (Work.adds_releasePipeline now derived) trivial rfl

end Attempt.Guarantees

end MeshCapture
