import MeshCapture.Proofs.Conduct.Engine
import MeshCapture.Proofs.Conduct.Lists

/-! # Staging of command lists

What a list is recorded with can be told from the calls in front of it: which
pipeline and root signature were made for it, which buffer is the output buffer,
and what that buffer was last prepared for. Every list of a run is staged with
just that, for a draw that the replay has passed. -/

namespace MeshCapture

/-! ## What the calls leave at hand -/

namespace Call

def pipelineAfter (now : Option (GraphicsPipeline × PipelineHandle)) :
    Call → Option (GraphicsPipeline × PipelineHandle)
  | createPipeline description (.ok pipeline) => some (description, pipeline)
  | releasePipeline _ => none
  | _ => now

def signatureAfter (now : Option (RootSignature × RootSignatureHandle)) :
    Call → Option (RootSignature × RootSignatureHandle)
  | createRootSignature description (.ok signature) =>
      some (description, signature)
  | releaseRootSignature _ => none
  | _ => now

def KeepsTools (call : Call) : Prop :=
  (∀ resource ∈ call.made?, resource.isMemory = true) ∧
    ∀ resource ∈ call.freed?, resource.isMemory = true

theorem pipelineAfter_of_keepsTools {call : Call} (keeps : call.KeepsTools)
    (now : Option (GraphicsPipeline × PipelineHandle)) :
    call.pipelineAfter now = now := by
  cases call with
  | createPipeline description outcome =>
      cases outcome with
      | ok pipeline => exact absurd (keeps.1 _ rfl) Bool.false_ne_true
      | error cause => rfl
  | releasePipeline pipeline =>
      exact absurd (keeps.2 _ rfl) Bool.false_ne_true
  | _ => rfl

theorem signatureAfter_of_keepsTools {call : Call} (keeps : call.KeepsTools)
    (now : Option (RootSignature × RootSignatureHandle)) :
    call.signatureAfter now = now := by
  cases call with
  | createRootSignature description outcome =>
      cases outcome with
      | ok signature => exact absurd (keeps.1 _ rfl) Bool.false_ne_true
      | error cause => rfl
  | releaseRootSignature signature =>
      exact absurd (keeps.2 _ rfl) Bool.false_ne_true
  | _ => rfl

end Call

/-- The pipeline made last, with its description, unless it was released. -/
def currentPipeline (calls : List Call) :
    Option (GraphicsPipeline × PipelineHandle) :=
  calls.foldl Call.pipelineAfter none

def currentSignature (calls : List Call) :
    Option (RootSignature × RootSignatureHandle) :=
  calls.foldl Call.signatureAfter none

def currentOutput (calls : List Call) : Option BufferHandle :=
  calls.foldl (fun now call => call.madeOutput?.or now) none

@[simp] theorem currentPipeline_concat (calls : List Call) (call : Call) :
    currentPipeline (calls ++ [call]) =
      call.pipelineAfter (currentPipeline calls) := by
  simp [currentPipeline]

@[simp] theorem currentSignature_concat (calls : List Call) (call : Call) :
    currentSignature (calls ++ [call]) =
      call.signatureAfter (currentSignature calls) := by
  simp [currentSignature]

@[simp] theorem currentOutput_concat (calls : List Call) (call : Call) :
    currentOutput (calls ++ [call]) =
      call.madeOutput?.or (currentOutput calls) := by
  simp [currentOutput]

theorem currentOutput_of_madeLast {scratch : Scratch} {history : List Call}
    (last : MadeLast scratch history) :
    currentOutput history = some scratch.output := by
  rcases last with ⟨earlier, output, staging, indexUpload, slots, rfl,
    outputAccess, stagingAccess, indexAccess⟩
  rw [currentOutput_concat, currentOutput_concat, currentOutput_concat,
    currentOutput_concat]
  simp [Call.madeOutput?, outputAccess, stagingAccess, indexAccess]

/-! ## The law -/

structure Gear.IsFor (gear : Gear) (visit : DrawVisit) (stage : Stage)
    (earlier : List Call) : Prop where
  state : gear.state = visit.state
  /-- A root signature was made just if the state needs one, and that one. -/
  needed : (currentSignature earlier).map Prod.fst =
    visit.state.derivedRootSignature
  signature : gear.signature = (currentSignature earlier).map Prod.snd
  pipeline : ∃ description,
    currentPipeline earlier = some (description, gear.pipeline) ∧
      visit.streaming? gear.signature stage = some description
  output : currentOutput earlier = some gear.output
  indices : visit.draw.Indexes earlier stage gear.indices

def CommandList.IsStagedFor (list : CommandList) (visit : DrawVisit)
    (earlier : List Call) : Prop :=
  ∃ stage gear, gear.IsFor visit stage earlier ∧
    Throughout (Command.Staged gear (recordedUse gear.output earlier))
      list.toList

def Call.Stages (draws : DrawVisit → Prop) (earlier : List Call)
    (call : Call) : Prop :=
  ∀ list outcome, call = .execute list outcome →
    ∃ visit, draws visit ∧ list.IsStagedFor visit earlier

def Scratch.Tracks (scratch : Scratch) (calls : List Call) : Prop :=
  currentOutput calls = some scratch.output ∧
    recordedUse scratch.output calls = scratch.outputUse

/-! ## One deed -/

/-- What is in hand is what the calls left at hand. -/
structure Scene.Tracked (scene : Scene) : Prop where
  pipeline : currentPipeline scene.history = scene.desk.pipeline
  signature : currentSignature scene.history = scene.desk.signature
  scratch : ∀ scratch, scene.scratch = some scratch →
    scratch.Tracks scene.history

namespace Scene.Tracked

variable {scene : Scene}

theorem empty : Tracked {} where
  pipeline := rfl
  signature := rfl
  scratch := nofun

theorem output_of_idle (tracked : scene.Tracked) {call : Call}
    (idle : call.isExecute = false)
    (empty : call.madeOutput?.isSome = true → scene.scratch = none)
    (scratch : Scratch) (present : scene.scratch = some scratch) :
    scratch.Tracks (scene.history ++ [call]) := by
  rcases tracked.scratch scratch present with ⟨output, use⟩
  have other : call.madeOutput? = none := by
    cases made : call.madeOutput? with
    | none => rfl
    | some buffer => simp [made, present] at empty
  constructor
  · rw [currentOutput_concat, other, Option.none_or, output]
  · rw [recordedUse_concat, Call.useAfter_of_idle idle, other]
    simp [use]

theorem idle (tracked : scene.Tracked) {call : Call}
    (idle : call.isExecute = false)
    (empty : call.madeOutput?.isSome = true → scene.scratch = none)
    {desk : Desk}
    (pipeline : call.pipelineAfter scene.desk.pipeline = desk.pipeline)
    (signature : call.signatureAfter scene.desk.signature = desk.signature) :
    Tracked { scene.note call with desk } where
  pipeline := by
    rw [Scene.note, currentPipeline_concat, tracked.pipeline, pipeline]
  signature := by
    rw [Scene.note, currentSignature_concat, tracked.signature, signature]
  scratch := tracked.output_of_idle idle empty

theorem note (tracked : scene.Tracked) {call : Call}
    (idle : call.isExecute = false) (keeps : call.KeepsTools)
    (empty : call.madeOutput?.isSome = true → scene.scratch = none)
    (held : Multiset Resource) :
    Tracked { scene.note call with desk := { scene.desk with held } } :=
  tracked.idle idle empty (Call.pipelineAfter_of_keepsTools keeps _)
    (Call.signatureAfter_of_keepsTools keeps _)

/-- The scratch set knows what the barriers of the recording prepared the output
buffer for, whether or not the device took the list. -/
theorem execute (tracked : scene.Tracked) {scratch : Scratch}
    (present : scene.scratch = some scratch) {gear : Gear}
    {recording : Recording} (proper : recording.Proper gear scratch)
    (outcome : Except DeviceFailure Unit) :
    Tracked { scene with
      history := scene.history ++ [.execute recording.list outcome]
      scratch := some recording.scratch } where
  pipeline := by
    rw [currentPipeline_concat]
    exact tracked.pipeline
  signature := by
    rw [currentSignature_concat]
    exact tracked.signature
  scratch := by
    intro after same
    cases same
    rcases tracked.scratch scratch present with ⟨output, use⟩
    constructor
    · rw [currentOutput_concat, proper.output_eq, proper.output]
      exact output
    · rw [recordedUse_concat, Call.useAfter_of_execute rfl, proper.output_eq,
        ← proper.use_eq, proper.output, use]

end Scene.Tracked

theorem Call.keepsTools_of_neither {call : Call} (made : call.made? = none)
    (freed : call.freed? = none) : call.KeepsTools := by
  simp [KeepsTools, made, freed]

theorem Deed.tracked {draws : DrawVisit → Prop} {now next : Scene}
    (deed : Deed draws now next) (tracked : now.Tracked) : next.Tracked := by
  cases deed with
  | noted call quiet allowed =>
      have made := Call.made?_of_quiet quiet
      refine tracked.note (Call.isExecute_of_quiet quiet)
        (Call.keepsTools_of_neither made (Call.freed?_of_quiet quiet)) ?_ _
      simp [Call.madeOutput?_of_none made]
  | drained =>
      exact tracked.note rfl (Call.keepsTools_of_neither rfl rfl)
        (by simp [Call.madeOutput?]) _
  | made call resource made memory empty =>
      refine tracked.note (Call.isExecute_of_made made) ⟨?_, ?_⟩ empty _
      · simpa [made] using memory
      · intro other freed
        simp [Call.made?_of_freed freed] at made
  | freed call resource freed memory mem =>
      have unmade := Call.made?_of_freed freed
      refine tracked.note (Call.isExecute_of_freed freed) ⟨?_, ?_⟩ ?_ _
      · simp [unmade]
      · simpa [freed] using memory
      · simp [Call.madeOutput?_of_none unmade]
  | signed description signature free =>
      exact tracked.idle rfl (by simp [Call.madeOutput?]) rfl rfl
  | unsigned description signature present =>
      exact tracked.idle rfl (by simp [Call.madeOutput?]) rfl rfl
  | derived description pipeline free allowed =>
      exact tracked.idle rfl (by simp [Call.madeOutput?]) rfl rfl
  | dropped description pipeline present =>
      exact tracked.idle rfl (by simp [Call.madeOutput?]) rfl rfl
  | dismantled scratch present =>
      refine ⟨tracked.pipeline, tracked.signature, ?_⟩
      rintro current ⟨⟩
  | assembled scratch others empty unused parts last =>
      refine ⟨tracked.pipeline, tracked.signature, ?_⟩
      intro current same
      cases same
      refine ⟨currentOutput_of_madeLast last, ?_⟩
      rw [recordedUse_of_madeLast last, unused]
  | handed visit stage settings pipeline derived scratch recording outcome taken
      present equips drafted =>
      rcases drafted.proper with ⟨indices, -, proper⟩
      have executed := tracked.execute present proper outcome
      cases outcome with
      | error cause => exact executed
      | ok value =>
          -- The wait behind the list changes nothing of what is at hand.
          rw [List.append_cons]
          exact executed.note rfl (Call.keepsTools_of_neither rfl rfl)
            (by simp [Call.madeOutput?]) _

theorem Call.stages_of_idle {draws : DrawVisit → Prop} {call : Call}
    (idle : call.isExecute = false) (earlier : List Call) :
    call.Stages draws earlier := by
  rintro list outcome rfl
  cases idle

theorem Deed.stages {draws : DrawVisit → Prop} {now next : Scene}
    (deed : Deed draws now next) (tracked : now.Tracked) :
    ∃ more, next.history = now.history ++ more ∧
      Throughout (fun earlier => Call.Stages draws (now.history ++ earlier))
        more := by
  have single {call : Call} (idle : call.isExecute = false) :
      ∃ more, now.history ++ [call] = now.history ++ more ∧
        Throughout (fun earlier => Call.Stages draws (now.history ++ earlier))
          more :=
    ⟨[call], rfl, Throughout.cons_iff.mpr
      ⟨Call.stages_of_idle idle _, .nil⟩⟩
  cases deed with
  | noted call quiet allowed => exact single (Call.isExecute_of_quiet quiet)
  | drained => exact single rfl
  | made call resource made memory empty =>
      exact single (Call.isExecute_of_made made)
  | freed call resource freed memory mem =>
      exact single (Call.isExecute_of_freed freed)
  | signed description signature free => exact single rfl
  | unsigned description signature present => exact single rfl
  | derived description pipeline free allowed => exact single rfl
  | dropped description pipeline present => exact single rfl
  | dismantled scratch present => exact ⟨[], by simp, .nil⟩
  | assembled scratch others empty unused parts last =>
      exact ⟨[], by simp, .nil⟩
  | handed visit stage settings pipeline derived scratch recording outcome taken
      present equips drafted =>
      rcases drafted.proper with ⟨indices, indexes, proper⟩
      rcases tracked.scratch scratch present with ⟨output, use⟩
      have staged : (Call.execute recording.list outcome).Stages draws
          now.history := by
        intro list answer same
        cases same
        let gear := (visit.pass settings
          (now.desk.signature.map Prod.snd)).gear derived indices scratch.output
        refine ⟨visit, taken, stage, gear,
          ⟨rfl, ?_, ?_, ?_, output, indexes⟩, ?_⟩
        · rw [tracked.signature, equips.signed]
        · rw [tracked.signature]
          rfl
        · exact ⟨pipeline, tracked.pipeline.trans equips.bound,
            equips.streaming⟩
        · have start := proper.staged
          rw [← use] at start
          exact start
      refine ⟨_, rfl, Throughout.cons_iff.mpr ⟨?_, ?_⟩⟩
      · rw [List.append_nil]
        exact staged
      · split
        · exact Throughout.cons_iff.mpr ⟨Call.stages_of_idle rfl _, .nil⟩
        · exact .nil

/-! ## Runs -/

def Scene.StagedFrom (draws : DrawVisit → Prop) (front : List Call)
    (scene : Scene) : Prop :=
  ∃ added, scene.history = front ++ added ∧
    Throughout (fun earlier => Call.Stages draws (front ++ earlier)) added

theorem Conduct.stages {draws : DrawVisit → Prop} {first last : Scene}
    (conduct : Conduct draws first last) (tracked : first.Tracked) :
    last.Tracked ∧ last.StagedFrom draws first.history := by
  have step (now next : Scene) (deed : Deed draws now next)
      (holds : now.Tracked ∧ now.StagedFrom draws first.history) :
      next.Tracked ∧ next.StagedFrom draws first.history := by
    rcases holds with ⟨known, added, split, staged⟩
    rcases deed.stages known with ⟨more, grown, rest⟩
    refine ⟨deed.tracked known, added ++ more, ?_, staged.append ?_⟩
    · rw [grown, split, List.append_assoc]
    · simpa [split] using rest
  exact conduct.keeps step ⟨tracked, [], by simp, .nil⟩

namespace Engine

variable {σ : Type}

def Tracks (engine : Engine σ) : Prop :=
  ∀ scratch, engine.workspace.scratch = some scratch →
    scratch.Tracks engine.calls

variable [Device σ]

/-- Every list that a run hands to the device is staged for a draw that a replay
has passed, and every list that the capture of one more draw hands over is staged
for that. The scratch set always knows what the output buffer was last prepared
for. -/
theorem lists_staged (device : σ) (settings : Settings)
    (operations : List Operation) :
    let engine := (new device settings).run operations
    Throughout (Call.Stages (Passed operations)) engine.calls ∧
      engine.Tracks ∧
      ∀ visit, let next := engine.captureDraw visit
        next.Tracks ∧ ∃ added, next.calls = engine.calls ++ added ∧
          Throughout (fun earlier =>
            Call.Stages (· = visit) (engine.calls ++ earlier)) added := by
  intro engine
  have reached : engine.Conducted {} (Passed operations) :=
    conducted_run device settings operations
  rcases reached.conduct.stages .empty with ⟨tracked, added, whole, staged⟩
  refine ⟨?_, tracked.scratch, fun visit => ?_⟩
  · have same : engine.calls = added := whole
    rw [same]
    exact staged
  · let start : Scene :=
      ⟨engine.calls, engine.workspace.scratch, .holding engine.store.resources⟩
    have here : engine.Conducted start (· = visit) := ⟨rfl, .refl⟩
    have captured : (engine.captureDraw visit).Conducted start (· = visit) :=
      keeps_conducted.captureDraw engine visit rfl here
    rcases captured.conduct.stages tracked with ⟨known, behind⟩
    exact ⟨known.scratch, behind⟩

end Engine

end MeshCapture
