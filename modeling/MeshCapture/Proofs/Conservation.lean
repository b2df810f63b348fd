import MeshCapture.Proofs.Course.Engine
import MeshCapture.Scripted.Session

/-! # Conservation of resources

Whatever the device answers and wherever a replay stops, the live resources are
those that somebody is there to release: the parts of the scratch set and the
buffers of the records. -/

namespace MeshCapture

/-! ## One step -/

theorem liveAfter_of_made {live : Multiset Resource} {call : Call}
    {resource : Resource} (made : call.made? = some resource) :
    liveAfter live call = resource ::ₘ live := by
  simp [liveAfter, made]

theorem liveAfter_of_freed {live : Multiset Resource} {call : Call}
    {resource : Resource} (freed : call.freed? = some resource) :
    liveAfter live call = live.erase resource := by
  simp [liveAfter, freed, Call.made?_of_freed freed]

theorem liveAfter_of_neither {live : Multiset Resource} {call : Call}
    (made : call.made? = none) (freed : call.freed? = none) :
    liveAfter live call = live := by
  simp [liveAfter, made, freed]

namespace Standing

def scratchResources (standing : Standing) : Multiset Resource :=
  standing.scratch.elim 0 Scratch.resources

/-- What is live is held, be it as a part of the scratch set. -/
def Balanced (standing : Standing) : Prop :=
  live standing.history = standing.held + standing.scratchResources

end Standing

theorem Recorded.resources_eq {scratch : Scratch} {before after : Option Nat}
    {recording : Recording}
    (recorded : Recorded scratch before recording after) :
    recording.scratch.resources = scratch.resources := by
  rcases recorded.scratch_eq with ⟨use, same⟩
  rw [same]
  rfl

theorem Step.balanced {now next : Standing} (step : Step now next)
    (balanced : now.Balanced) : next.Balanced := by
  unfold Standing.Balanced Standing.scratchResources at balanced ⊢
  cases step with
  | noted call quiet =>
      have made := Call.made?_of_quiet quiet
      have freed := Call.freed?_of_quiet quiet
      simpa [Standing.note, liveAfter_of_neither made freed] using balanced
  | made call resource made empty =>
      simpa [Standing.note, liveAfter_of_made made] using balanced
  | freed call resource freed mem =>
      simp only [Standing.note, live_concat, liveAfter_of_freed freed]
      rw [balanced]
      exact Multiset.erase_add_left_pos _ mem
  | drained =>
      simpa [Standing.note] using balanced
  | dismantled scratch present =>
      simpa [present, add_comm] using balanced
  | assembled scratch others empty unused parts last =>
      simpa [empty, parts, add_comm] using balanced
  | denied => exact balanced
  | submitted scratch recording after present recorded =>
      simpa [live_append, present, recorded.resources_eq] using balanced
  | rejected scratch recording after cause present recorded =>
      simpa [live_append, present, recorded.resources_eq] using balanced
  | tallied count counted => exact balanced

/-! ## Whole runs -/

namespace Engine

variable {σ : Type}

theorem Leads.live_eq_owned {engine next : Engine σ}
    (leads : Leads engine next) (balanced : live engine.calls = engine.owned) :
    live next.calls = next.owned := by
  rcases leads none with ⟨drawn, course⟩
  exact course.preserves (fun _ _ step => step.balanced) balanced

variable [Device σ]

theorem live_run (device : σ) (settings : Settings)
    (operations : List Operation) :
    live ((new device settings).run operations).calls =
      ((new device settings).run operations).owned :=
  (Leads.run _ operations).live_eq_owned rfl

theorem live_clear {engine : Engine σ}
    (balanced : live engine.calls = engine.owned) :
    live engine.clear.calls = engine.clear.workspace.scratchResources := by
  rw [(Leads.clear engine).live_eq_owned balanced]
  exact zero_add _

theorem live_shutDown {engine : Engine σ}
    (balanced : live engine.calls = engine.owned) :
    live engine.shutDown.calls = 0 := by
  have cleared := (Leads.clear engine).live_eq_owned balanced
  rcases Work.Takes.releaseScratch engine.clear.workspace 0 none rfl with
    ⟨held, drawn, course, ends⟩
  let standing := engine.shutDown.workspace.standing held drawn
  have gone : At none 0 standing := ends
  have last : standing.Balanced :=
    course.preserves (fun _ _ step => step.balanced) cleared
  rw [Standing.Balanced, Standing.scratchResources, gone.held, gone.scratch]
    at last
  exact last

omit [Device σ] in
theorem not_mem_owned (engine : Engine σ) (pipeline : PipelineHandle)
    (signature : RootSignatureHandle) :
    .pipeline pipeline ∉ engine.owned ∧
      .rootSignature signature ∉ engine.owned := by
  unfold owned Workspace.scratchResources RecordStore.resources
  cases engine.workspace.scratch with
  | none => simp
  | some scratch => simp [Scratch.resources]

/-- Behind every operation the live resources are the parts of the scratch set
and the buffers of the records, each the property of one of them alone. Clearing
leaves the scratch set, and shutting down leaves nothing. -/
theorem resources_conserved (device : σ) (settings : Settings)
    (operations : List Operation) :
    let engine := (new device settings).run operations
    live engine.calls = engine.owned ∧
      (FreshHandles engine.calls → engine.owned.Nodup) ∧
      (∀ pipeline, .pipeline pipeline ∉ live engine.calls) ∧
      (∀ signature, .rootSignature signature ∉ live engine.calls) ∧
      live engine.clear.calls = engine.clear.workspace.scratchResources ∧
      live engine.shutDown.calls = 0 := by
  intro engine
  have balanced : live engine.calls = engine.owned :=
    live_run device settings operations
  refine ⟨balanced, ?_, ?_, ?_, live_clear balanced, live_shutDown balanced⟩
  · intro fresh
    exact balanced ▸ nodup_live fresh
  · intro pipeline
    rw [balanced]
    exact (not_mem_owned engine pipeline default).1
  · intro signature
    rw [balanced]
    exact (not_mem_owned engine default signature).2

/-- Two vertex buffers and the scratch set are left of a run with a failure. -/
theorem resources_conserved_interrupted :
    FreshHandles Scripted.interrupted.calls ∧
      Scripted.interrupted.owned.Nodup ∧
      Scripted.interrupted.owned.card = 6 := by
  have fresh : FreshHandles Scripted.interrupted.calls := by decide +kernel
  have conserved := resources_conserved Scripted.interruptedDevice
    Scripted.smallScratch (Scripted.twoDraws true)
  exact ⟨fresh, conserved.2.1 fresh, by decide +kernel⟩

end Engine

end MeshCapture
