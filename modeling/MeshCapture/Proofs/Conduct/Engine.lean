import MeshCapture.Proofs.Conduct.Vertices
import MeshCapture.Proofs.EngineLaw

/-! # Conduct of an engine

A post-stage capture hands over any number of recordings, all with the same
pipeline. A capture of a draw leaves what it found in hand and the buffers of its
record, so that an engine has the buffers of its records in hand and nothing
else. -/

namespace MeshCapture

variable {σ : Type} {start : Scene} {draws : DrawVisit → Prop}
  {desk : Desk} {visit : DrawVisit} {settings : Settings}
  {derived : PipelineHandle}

section Capture

variable [Device σ]

/-! ## Measuring and drawing -/

theorem Attempt.Ensures.measure {scratch : Scratch}
    (serves : Serves draws desk visit .post derived) :
    Attempt.Ensures (EnactedWith start draws (some scratch) desk)
      (Work.measure (desk.pass visit settings) derived scratch :
        Attempt CaptureFailure σ (StreamOut.Statistics × Scratch))
      (fun measured => EnactedWith start draws (some measured.2) desk)
      (Enacted start draws desk) := by
  refine bind (submitOver settings serves fun _ => .measuring).adapt fun _ => ?_
  have named (length : UInt64) (answer : Except DeviceFailure ByteArray)
      (history : List Call) :
      Scene.Allows draws
        ⟨history, some (Work.measuringPass (desk.pass visit settings) derived
          scratch).scratch, desk⟩
        (.readBuffer scratch.staging 0 length answer) := by
    simp [Scene.Allows, Call.resources, Scene.resources, Scratch.resources,
      Work.measuringPass]
  refine bind (quiet (fun _ => rfl) (named _)).loosely.adapt ?_
  intro bytes
  cases StreamOut.Statistics.decode bytes with
  | some statistics => exact Attempt.Ensures.pure fun _ reached => reached
  | none => exact Attempt.Ensures.throw fun _ reached => reached.enacted

theorem Attempt.Ensures.drawUntilFitting {stride : UInt32}
    {unsettled : UInt64} {scratch : Scratch} {attempts : Nat}
    (serves : Serves draws desk visit .post derived) :
    Attempt.Ensures (EnactedWith start draws (some scratch) desk)
      (Work.drawUntilFitting (desk.pass visit settings) derived stride unsettled
        scratch attempts : Attempt CaptureFailure σ Work.PostOutput)
      (fun output => EnactedWith start draws (some output.scratch) desk)
      (Enacted start draws desk) := by
  induction attempts generalizing unsettled scratch with
  | zero => exact Attempt.Ensures.throw fun _ reached => reached.enacted
  | succ attempts induction =>
      refine bind (measure serves) fun measured => ?_
      simp only
      split
      · exact Attempt.Ensures.pure fun _ reached => reached
      · refine bind scratchFor.with_scratch.adapt ?_
        exact fun grown => induction

theorem Attempt.Ensures.submitRuns {dataOffset : UInt64} {scratch : Scratch}
    {runs : List (List UInt32)}
    (serves : Serves draws desk visit .post derived) :
    Attempt.Ensures (EnactedWith start draws (some scratch) desk)
      (Work.submitRuns (desk.pass visit settings) derived dataOffset { scratch }
        runs : Attempt CaptureFailure σ Scratch)
      (fun scratch => EnactedWith start draws (some scratch) desk)
      (Enacted start draws desk) := by
  induction runs generalizing scratch with
  | nil => exact Attempt.Ensures.pure fun _ reached => reached
  | cons run rest induction =>
      refine bind (submitOver settings serves fun _ =>
        .nextRun dataOffset run).adapt ?_
      exact fun _ => induction

theorem Attempt.Ensures.submitAllRuns {dataOffset : UInt64} {scratch : Scratch}
    {runs : List (List UInt32)} (any : runs ≠ [])
    (serves : Serves draws desk visit .post derived) :
    Attempt.Ensures (EnactedWith start draws (some scratch) desk)
      (Work.submitRuns (desk.pass visit settings) derived dataOffset
        (Recording.zeroOutput { scratch }) runs :
        Attempt CaptureFailure σ Scratch)
      (fun scratch => EnactedWith start draws (some scratch) desk)
      (Enacted start draws desk) := by
  cases runs with
  | nil => exact absurd rfl any
  | cons run rest =>
      refine bind (submitOver settings serves fun _ =>
        .firstRun dataOffset run).adapt ?_
      exact fun _ => submitRuns serves

theorem Attempt.Ensures.drawPrimitives {stride : UInt32} {scratch : Scratch}
    (serves : Serves draws desk visit .post derived) :
    Attempt.Ensures (EnactedWith start draws (some scratch) desk)
      (Work.drawPrimitives (desk.pass visit settings) derived stride scratch :
        Attempt CaptureFailure σ Work.PostOutput)
      (fun output => EnactedWith start draws (some output.scratch) desk)
      (Enacted start draws desk) := by
  rw [Work.drawPrimitives]
  split
  · next several =>
      have many : 0 < (desk.pass visit settings).draw.instanceCount.toNat := by
        have more : 1 < (desk.pass visit settings).draw.instanceCount.toNat :=
          several
        omega
      have positive : 0 < settings.drawsPerList := by
        rw [Settings.drawsPerList]
        omega
      refine bind (measure serves) fun measured => ?_
      refine bind scratchFor.with_scratch.adapt fun grown => ?_
      refine bind (submitAllRuns (instanceRuns_ne_nil positive many) serves) ?_
      exact fun _ => Attempt.Ensures.pure fun _ reached => reached
  · exact drawUntilFitting serves

theorem Attempt.Ensures.streamPrimitives {shader : Shader}
    {layout : StreamOut.VertexLayout}
    (serves : Serves draws desk visit .post derived) :
    Attempt.Ensures (Enacted start draws desk)
      (Work.streamPrimitives (desk.pass visit settings) shader layout derived :
        Attempt CaptureFailure σ StageRecord)
      (fun record => Enacted start draws (desk.hold record.resources))
      (Enacted start draws desk) := by
  refine bind scratchFor.adapt fun scratch => ?_
  refine bind (drawPrimitives serves) fun output => ?_
  refine bind (submitOver settings serves fun _ => .closing).adapt fun _ => ?_
  refine bind filledSizes fun sizes => ?_
  refine bind requireOutput fun _ => ?_
  refine bind fetchStaged fun data => ?_
  refine bind store.loosely.adapt fun vertexBuffer => ?_
  exact Attempt.Ensures.pure fun _ ⟨present, conduct⟩ =>
    ⟨rfl, present ▸ conduct⟩

theorem Attempt.Ensures.capturePrimitives {pipeline : GraphicsPipeline}
    {shader last : Shader} (present : pipeline.postStage? = some last)
    (ahead : StageAhead draws desk visit pipeline shader) :
    Attempt.Ensures (Enacted start draws desk)
      (Work.capturePrimitives (desk.pass visit settings) pipeline last :
        Attempt CaptureFailure σ StageRecord)
      (fun record => Enacted start draws (desk.hold record.resources))
      (Enacted start draws desk) := by
  rw [Work.capturePrimitives]
  simp only
  split
  · exact Attempt.Ensures.throw fun _ reached => reached
  · have streams : visit.streaming? (desk.signature.map Prod.snd) .post =
        some (pipeline.streamingPostStage (.ofOutputs last.outputs (some 0))
          (desk.signature.map Prod.snd)) := by
      simp [DrawVisit.streaming?, ahead.captured, present]
    exact withPipeline ahead rfl streams fun derived serves =>
      streamPrimitives serves

/-! ## The whole draw -/

theorem Work.Ensures.captureStages {pipeline : GraphicsPipeline}
    {shader : Shader} (ahead : StageAhead draws desk visit pipeline shader) :
    Work.Ensures (Enacted start draws desk)
      (Work.captureStages (desk.pass visit settings) pipeline shader :
        Work σ EventRecord)
      fun record => Enacted start draws (desk.hold record.resources) := by
  have skipped := pipeline.resources_skippedPostStage
  refine bind (Attempt.Ensures.captureVertices ahead) fun vertex => ?_
  cases vertex with
  | error failure =>
      refine Work.Ensures.pure fun _ reached => ?_
      simpa [EventRecord.resources_eq, skipped] using reached
  | ok vertex =>
      simp only
      cases present : pipeline.postStage? with
      | none =>
          refine Work.Ensures.pure fun _ reached => ?_
          simpa [EventRecord.resources_eq, skipped] using reached
      | some last =>
          have behind : StageAhead draws (desk.hold vertex.resources) visit
              pipeline shader := { ahead with }
          refine bind (Attempt.Ensures.capturePrimitives present behind) ?_
          intro post
          cases post with
          | error failure =>
              refine Work.Ensures.pure fun _ reached => ?_
              simpa [EventRecord.resources_eq] using reached
          | ok post =>
              refine Work.Ensures.pure fun _ reached => ?_
              rw [EventRecord.resources_eq, Desk.hold_add]
              exact reached

def Desk.holding (held : Multiset Resource) : Desk :=
  { held }

theorem Work.Ensures.captureWithSignature {held : Multiset Resource}
    {pipeline : GraphicsPipeline} {shader : Shader} (taken : draws visit)
    (captured : visit.captured = .ok (pipeline, shader)) :
    Work.Ensures (Enacted start draws (.holding held))
      (Work.captureWithSignature settings visit pipeline shader :
        Work σ EventRecord)
      fun record => Enacted start draws (.holding (record.resources + held)) := by
  rw [Work.captureWithSignature]
  simp only
  cases needed : visit.state.derivedRootSignature with
  | none =>
      have ahead : StageAhead draws (.holding held) visit pipeline shader :=
        ⟨taken, captured, needed.symm, rfl⟩
      exact captureStages ahead
  | some description =>
      let signed (signature : RootSignatureHandle) (held : Multiset Resource) :
          Desk := { held, signature := some (description, signature) }
      have made : Attempt.Ensures (Enacted start draws (.holding held))
          (Work.createRootSignature description :
            Attempt DeviceFailure σ RootSignatureHandle)
          (fun signature => Enacted start draws (signed signature held))
          (Enacted start draws (.holding held)) :=
        .whichever fun scratch => .enact
          (fun signature _ => .signed description signature rfl)
          fun cause _ => .noted _ rfl (Scene.allows_of_unnamed rfl)
      have released (signature : RootSignatureHandle)
          (held : Multiset Resource) : Work.Ensures
            (Enacted start draws (signed signature held))
            (Work.releaseRootSignature signature : Work σ Unit)
            fun _ => Enacted start draws (.holding held) :=
        whichever fun scratch => enact
          fun _ _ => .unsigned description signature rfl
      refine bind made fun created => ?_
      cases created with
      | error cause =>
          refine Work.Ensures.pure fun _ reached => ?_
          simpa [EventRecord.resources_eq,
            pipeline.resources_skippedPostStage] using reached
      | ok signature =>
          have ahead : StageAhead draws (signed signature held) visit pipeline
              shader := ⟨taken, captured, needed.symm, rfl⟩
          refine bind (captureStages ahead) fun record => ?_
          refine bind (released signature (record.resources + held)) ?_
          exact fun _ => Work.Ensures.pure fun _ reached => reached

theorem Work.Ensures.captureDraw {held : Multiset Resource}
    (taken : draws visit) :
    Work.Ensures (Enacted start draws (.holding held))
      (Work.captureDraw settings visit : Work σ EventRecord)
      fun record => Enacted start draws (.holding (record.resources + held)) := by
  have switched (tolerant : Bool) (held : Multiset Resource) : Work.Ensures
      (Enacted start draws (.holding held))
      (Work.setMemoryTolerance tolerant : Work σ Unit)
      fun _ => Enacted start draws (.holding held) :=
    whichever fun _ => quiet (fun _ => rfl)
      fun _ _ => Scene.allows_of_unnamed rfl
  refine bind (switched true held) fun _ => ?_
  have switchOff {work : Work σ EventRecord}
      (ensures : Work.Ensures (Enacted start draws (.holding held)) work
        fun record => Enacted start draws (.holding (record.resources + held))) :
      Work.Ensures (Enacted start draws (.holding held))
        (do
          let record ← work
          Work.setMemoryTolerance false
          return record)
        fun record => Enacted start draws (.holding (record.resources + held)) :=
    bind ensures fun record => bind (switched false _) fun _ =>
      Work.Ensures.pure fun _ reached => reached
  cases captured : visit.captured with
  | error record =>
      refine switchOff (Work.Ensures.pure fun _ reached => ?_)
      rw [DrawVisit.resources_of_not_captured captured, zero_add]
      exact reached
  | ok found => exact switchOff (captureWithSignature taken captured)

theorem Work.Ensures.releaseBuffers {buffers : List BufferHandle} :
    Work.Ensures
      (Enacted start draws (.holding (buffers.map Resource.buffer)))
      (buffers.forM Work.releaseBuffer : Work σ Unit)
      fun _ => Enacted start draws (.holding 0) := by
  induction buffers with
  | nil => exact Work.Ensures.pure fun _ reached => reached
  | cons buffer rest induction =>
      have gained : Desk.holding ↑((buffer :: rest).map Resource.buffer) =
          (Desk.holding ↑(rest.map Resource.buffer)).gain (.buffer buffer) := rfl
      rw [gained]
      refine bind (whichever fun _ => release (fun _ => rfl) rfl) ?_
      exact fun _ => induction

end Capture

/-! ## Engines -/

namespace Engine

variable [Device σ]

/-- The engine was reached by deeds that leave the kept buffers alone, and has
the other buffers of its records in hand. -/
def ConductedBeside (start : Scene) (draws : DrawVisit → Prop)
    (kept : Multiset Resource) (engine : Engine σ) : Prop :=
  ∃ held, engine.store.resources = held + kept ∧
    Enacted start draws (.holding held) engine.workspace

def Conducted (start : Scene) (draws : DrawVisit → Prop) (engine : Engine σ) :
    Prop :=
  Enacted start draws (.holding engine.store.resources)
    engine.workspace

omit [Device σ] in
theorem conductedBeside_zero {engine : Engine σ} :
    engine.ConductedBeside start draws 0 ↔ engine.Conducted start draws := by
  constructor
  · rintro ⟨held, whole, reached⟩
    rw [add_zero] at whole
    rwa [Conducted, whole]
  · exact fun reached => ⟨_, (add_zero _).symm, reached⟩

/-- Whatever an engine does but to clear itself, it needs no more than what it
has made. -/
theorem ConductedBeside.act {kept : Multiset Resource} {engine : Engine σ}
    (reached : engine.ConductedBeside start draws kept) (act : Act)
    (lasting : act ≠ .clear)
    (taken : ∀ visit, act = .captureDraw visit → draws visit) :
    (engine.act act).ConductedBeside start draws kept := by
  rcases reached with ⟨held, whole, reached⟩
  cases act with
  | request frame event =>
      rcases exists_counters_request frame engine event with ⟨counters, asked⟩
      rw [Engine.act, asked]
      exact ⟨held, whole, reached.present, reached.conduct⟩
  | noteReplay first last extent =>
      refine ⟨held, whole, rfl, ?_⟩
      change Conduct draws start ⟨(_ :: engine.workspace.calls).reverse, _, _⟩
      rw [List.reverse_cons]
      exact reached.conduct.tail (.noted (.replay first last extent)
        rfl (Scene.allows_of_unnamed rfl))
  | addAlias primary synonym =>
      refine ⟨held, ?_, reached⟩
      rwa [Engine.act, addAlias, RecordStore.resources_addAlias]
  | captureDraw visit =>
      rw [Engine.act, Engine.captureDraw]
      split
      · exact ⟨held, whole, reached⟩
      · next present =>
          have absent : engine.store.contains visit.event = false := by
            simpa using present
          have captured : Enacted start draws
              (.holding (((Work.captureDraw engine.settings visit).run
                engine.workspace).1.resources + held))
              ((Work.captureDraw engine.settings visit).run
                engine.workspace).2 :=
            Work.Ensures.captureDraw (taken visit rfl) engine.workspace reached
          have stored := RecordStore.resources_insert engine.store visit.event
            ((Work.captureDraw engine.settings visit).run
              engine.workspace).1 absent
          rw [whole, ← add_assoc] at stored
          exact ⟨_, stored, captured.present, captured.conduct⟩
  | clear => exact absurd rfl lasting

theorem ConductedBeside.acts {kept : Multiset Resource} {engine : Engine σ}
    (reached : engine.ConductedBeside start draws kept) (acts : List Act)
    (lasting : .clear ∉ acts)
    (taken : ∀ visit, .captureDraw visit ∈ acts → draws visit) :
    (acts.foldl Engine.act engine).ConductedBeside start draws kept := by
  induction acts generalizing engine with
  | nil => exact reached
  | cons act rest induction =>
      rw [List.mem_cons, not_or] at lasting
      have once := reached.act act (Ne.symm lasting.1)
        fun visit same => taken visit (by simp [same])
      exact induction once lasting.2
        fun visit inside => taken visit (by simp [inside])

theorem Conducted.act {engine : Engine σ}
    (reached : engine.Conducted start draws) (act : Act)
    (lasting : act ≠ .clear)
    (taken : ∀ visit, act = .captureDraw visit → draws visit) :
    (engine.act act).Conducted start draws :=
  conductedBeside_zero.mp <|
    (conductedBeside_zero.mpr reached).act act lasting taken

theorem keeps_conducted :
    Keeps draws (Conducted start draws : Engine σ → Prop) where
  request := by
    intro engine frame event reached
    exact reached.act (.request frame event) (by simp) (by simp)
  noteReplay := by
    intro engine first last extent reached
    exact reached.act (.noteReplay first last extent) (by simp) (by simp)
  addAlias := by
    intro engine primary synonym reached
    exact reached.act (.addAlias primary synonym) (by simp) (by simp)
  captureDraw := by
    intro engine visit taken reached
    refine reached.act (.captureDraw visit) (by simp) ?_
    intro other same
    cases same
    exact taken
  clear := by
    intro engine reached
    exact Work.Ensures.releaseBuffers engine.workspace reached

theorem conducted_run (device : σ) (settings : Settings)
    (operations : List Operation) :
    Conducted {} (Passed operations)
      ((new device settings).run operations) :=
  keeps_conducted.run (fun _ passed => passed) ⟨rfl, .refl⟩

end Engine

end MeshCapture
