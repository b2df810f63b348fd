import MeshCapture.Proofs.Conduct.Scratch
import MeshCapture.Proofs.Records.Capture

/-! # Conduct of a vertex capture

A capture of the vertex stage is deeds only, between which the scratch set may be
replaced. What it records, it records over the set that is there when the
recording is handed to the device. -/

namespace MeshCapture

variable {σ ε α : Type} {start : Scene} {draws : DrawVisit → Prop}
  {scratch : Option Scratch} {desk : Desk} {visit : DrawVisit}
  {settings : Settings} {stage : Stage} {derived : PipelineHandle}

namespace Desk

def hold (desk : Desk) (more : Multiset Resource) : Desk :=
  { desk with held := more + desk.held }

def equip (desk : Desk) (description : GraphicsPipeline)
    (pipeline : PipelineHandle) : Desk :=
  { desk with pipeline := some (description, pipeline) }

def pass (desk : Desk) (visit : DrawVisit) (settings : Settings) : Pass :=
  visit.pass settings (desk.signature.map Prod.snd)

theorem hold_cons (desk : Desk) (resource : Resource)
    (more : Multiset Resource) :
    desk.hold (resource ::ₘ more) = (desk.hold more).gain resource := by
  simp [hold, gain]

theorem hold_add (desk : Desk) (first second : Multiset Resource) :
    desk.hold (first + second) = (desk.hold first).hold second := by
  simp only [hold, add_assoc, add_left_comm]

theorem drop_equip {desk : Desk} (free : desk.pipeline = none)
    (description : GraphicsPipeline) (pipeline : PipelineHandle)
    (more : Multiset Resource) :
    { (desk.equip description pipeline).hold more with pipeline := none } =
      desk.hold more := by
  rcases desk with ⟨held, signature, present⟩
  cases free
  rfl

@[simp] theorem hold_zero (desk : Desk) : desk.hold 0 = desk := by
  simp [hold]

end Desk

structure Serves (draws : DrawVisit → Prop) (desk : Desk) (visit : DrawVisit)
    (stage : Stage) (derived : PipelineHandle) : Prop where
  taken : draws visit
  equips : ∃ pipeline, desk.Equips visit stage pipeline derived

def Drafting (start : Scene) (draws : DrawVisit → Prop) (desk : Desk)
    (visit : DrawVisit) (settings : Settings) (stage : Stage)
    (derived : PipelineHandle) (recording : Recording)
    (workspace : Workspace σ) : Prop :=
  ∃ scratch, EnactedWith start draws (some scratch) desk workspace ∧
    Drafted (desk.pass visit settings) derived scratch workspace.history stage
      recording

variable [Device σ]

/-! ## Submitting and moving bytes -/

theorem Attempt.Ensures.submit (serves : Serves draws desk visit stage derived)
    {recording : Recording} :
    Attempt.Ensures
      (Drafting start draws desk visit settings stage derived recording)
      (Work.submit recording : Attempt DeviceFailure σ Unit)
      (fun _ => EnactedWith start draws (some recording.scratch) desk)
      (Enacted start draws desk) := by
  intro workspace ⟨scratch, ⟨present, conduct⟩, drafted⟩
  rcases serves.equips with ⟨pipeline, equips⟩
  -- The draws count before the device is asked.
  let counted : Workspace σ :=
    { workspace with
      scratch := some recording.scratch
      counters := workspace.counters.countDraws
        (UInt64.ofNat recording.list.drawCount) }
  have run : (Work.submit recording).run.run workspace =
      ((Work.execute recording.list).run >>=
        ExceptT.bindCont fun _ => ExceptT.lift do
          Work.count Counters.countSubmission
          Work.sync).run counted := rfl
  rcases answered : (Device.execute recording.list).run counted.device with
    ⟨outcome, device⟩
  have executed : (Work.execute recording.list).run.run counted = _ :=
    Work.run_call answered
  have deed : Deed draws ⟨workspace.history, some scratch, desk⟩ _ :=
    .handed visit stage settings pipeline derived scratch recording outcome
      serves.taken rfl equips drafted
  rw [run, Work.run_bind executed]
  cases outcome with
  | error cause =>
      refine ⟨rfl, ?_⟩
      change Conduct draws start
        ⟨(.execute recording.list (.error cause) :: workspace.calls).reverse,
          some recording.scratch, desk⟩
      rw [List.reverse_cons]
      exact conduct.tail deed
  | ok value =>
      refine ⟨rfl, ?_⟩
      change Conduct draws start
        ⟨(.sync :: .execute recording.list (.ok ()) ::
          workspace.calls).reverse, some recording.scratch, desk⟩
      rw [List.reverse_cons, List.reverse_cons, List.append_assoc]
      exact conduct.tail deed

theorem Attempt.Ensures.submitOver {scratch : Scratch} (settings : Settings)
    (serves : Serves draws desk visit stage derived) {recording : Recording}
    (drafted : ∀ history, Drafted (desk.pass visit settings) derived scratch
      history stage recording) :
    Attempt.Ensures (EnactedWith start draws (some scratch) desk)
      (Work.submit recording : Attempt DeviceFailure σ Unit)
      (fun _ => EnactedWith start draws (some recording.scratch) desk)
      (Enacted start draws desk) :=
  (submit serves).weaken (fun _ reached => ⟨scratch, reached, drafted _⟩)
    (fun _ _ ends => ends) fun _ stops => stops

theorem Attempt.Ensures.store {label : String} {data : ByteArray} :
    Attempt.Ensures (EnactedWith start draws scratch desk)
      (Work.store label data : Attempt DeviceFailure σ BufferHandle)
      (fun buffer => EnactedWith start draws scratch
        (desk.gain (.buffer buffer)))
      (EnactedWith start draws scratch desk) := by
  have made : Attempt.Ensures (EnactedWith start draws scratch desk)
      (Work.createBuffer
        { label, size := UInt64.ofNat data.size, heap := .upload } :
        Attempt DeviceFailure σ BufferHandle)
      (fun buffer => EnactedWith start draws scratch
        (desk.gain (.buffer buffer)))
      (EnactedWith start draws scratch desk) :=
    enact (fun buffer _ => .made _ _ rfl rfl nofun)
      fun cause _ => .noted _ rfl (Scene.allows_of_unnamed rfl)
  refine bind made fun buffer => onFailure ?_
    (Work.Ensures.release (fun _ => rfl) rfl)
  have named (answer : Except DeviceFailure Unit) (history : List Call) :
      Scene.Allows draws ⟨history, scratch, desk.gain (.buffer buffer)⟩
        (.writeBuffer buffer 0 data answer) := by
    simp [Scene.Allows, Call.resources, Scene.resources, Desk.resources,
      Desk.gain]
  refine bind (quiet (fun _ => rfl) named) ?_
  exact fun _ => Attempt.Ensures.pure fun _ reached => reached

theorem Attempt.Ensures.fetchStaged {failure : CaptureFailure}
    {scratch : Scratch} {offset length : UInt64} :
    Attempt.Ensures (EnactedWith start draws (some scratch) desk)
      (Work.fetchStaged failure scratch offset length :
        Attempt CaptureFailure σ ByteArray)
      (fun _ => EnactedWith start draws (some scratch) desk)
      (Enacted start draws desk) := by
  have read : Work.Ensures (EnactedWith start draws (some scratch) desk)
      (Work.readBuffer scratch.staging offset length :
        Attempt DeviceFailure σ ByteArray).run
      fun _ => EnactedWith start draws (some scratch) desk :=
    .quiet (fun _ => rfl) (by
      simp [Scene.Allows, Call.resources, Scene.resources, Scratch.resources])
  refine Work.Ensures.bind read fun answer => ?_
  cases answer with
  | error cause =>
      exact Work.Ensures.pure fun _ reached => reached.enacted
  | ok bytes =>
      refine Work.Ensures.pure fun _ reached => ?_
      split
      · exact reached
      · exact reached.enacted

theorem Attempt.Ensures.filledSizes {failure : CaptureFailure}
    {scratch : Scratch} {number : UInt32} :
    Attempt.Ensures (EnactedWith start draws (some scratch) desk)
      (Work.filledSizes failure scratch number :
        Attempt CaptureFailure σ (List UInt64))
      (fun _ => EnactedWith start draws (some scratch) desk)
      (Enacted start draws desk) :=
  bind fetchStaged fun _ => .pure fun _ reached => reached

omit [Device σ] in
theorem Attempt.Ensures.requireOutput {failure : CaptureFailure}
    {reported : UInt64} :
    Attempt.Ensures (EnactedWith start draws scratch desk)
      (Work.requireOutput failure reported : Attempt CaptureFailure σ Unit)
      (fun _ => EnactedWith start draws scratch desk)
      (Enacted start draws desk) := by
  rw [Work.requireOutput]
  split
  · exact Attempt.Ensures.throw fun _ reached => reached.enacted
  · exact Attempt.Ensures.pure fun _ reached => reached

/-- The upload is the last call behind which the recording is submitted. -/
theorem Attempt.Ensures.upload {scratch : Scratch} (members : ByteArray) :
    Attempt.Ensures (EnactedWith start draws (some scratch) desk)
      (Work.writeBuffer scratch.indexUpload 0 members :
        Attempt DeviceFailure σ Unit)
      (fun _ workspace => EnactedWith start draws (some scratch) desk workspace ∧
        ∃ earlier, workspace.history = earlier ++
          [.writeBuffer scratch.indexUpload 0 members (.ok ())])
      (Enacted start draws desk) := by
  refine Work.Ensures.call fun answer device workspace reached => ?_
  have named : Scene.Allows draws ⟨workspace.history, some scratch, desk⟩
      (.writeBuffer scratch.indexUpload 0 members answer) := by
    simp [Scene.Allows, Call.resources, Scene.resources, Scratch.resources]
  have whole := workspace.history_cons device
    (.writeBuffer scratch.indexUpload 0 members answer)
  have conduct := reached.conduct.tail (.noted _ rfl named)
  cases answer with
  | ok value =>
      refine ⟨⟨reached.present, ?_⟩, workspace.history, whole⟩
      rw [whole]
      exact conduct
  | error cause =>
      refine EnactedWith.enacted ⟨reached.present, ?_⟩
      rw [whole]
      exact conduct

/-! ## Recording -/

theorem Work.Ensures.fetchIndices (taken : draws visit) :
    Work.Ensures (Enacted start draws desk)
      (Work.fetchIndices (desk.pass visit settings) :
        Work σ (ByteArray × IndexWidth))
      fun _ => Enacted start draws desk := by
  refine of_scratch fun scratch => ?_
  rw [Work.fetchIndices]
  cases bound : (desk.pass visit settings).state.indexBuffer with
  | none => exact Work.Ensures.pure fun _ reached => reached.enacted
  | some range =>
      simp only
      split
      · exact Work.Ensures.pure fun _ reached => reached.enacted
      · have lent : visit.state.indexBuffer = some range := bound
        refine bind (quiet (fun _ => rfl) ?_) fun answer => ?_
        · intro answer history resource named
          refine .inr ⟨rfl, visit, taken, ?_⟩
          have same : resource = .buffer range.buffer := by
            simpa [Call.resources] using named
          simp [BoundState.resources, lent, same]
        · cases answer <;>
            exact Work.Ensures.pure fun _ reached => reached.enacted

theorem Attempt.Ensures.recordPlainDraw {stride : UInt32}
    (plain : visit.draw.flags.indexed = false) :
    Attempt.Ensures (Enacted start draws desk)
      (Work.recordPlainDraw (desk.pass visit settings) stride derived :
        Attempt CaptureFailure σ Work.VertexDraw)
      (fun drawn => Drafting start draws desk visit settings .vertex derived
        drawn.recording.copyOut)
      (Enacted start draws desk) := by
  refine bind scratchFor.adapt fun scratch => ?_
  refine Attempt.Ensures.pure fun _ reached => ⟨scratch, reached, ?_⟩
  exact .plain _ rfl plain

theorem Attempt.Ensures.recordSelectedDraw {stripCut : StripCut}
    {stride : UInt32} (taken : draws visit)
    (indexed : visit.draw.flags.indexed = true) :
    Attempt.Ensures (Enacted start draws desk)
      (Work.recordSelectedDraw (desk.pass visit settings) stripCut stride
        derived : Attempt CaptureFailure σ Work.VertexDraw)
      (fun drawn => Drafting start draws desk visit settings .vertex derived
        drawn.recording.copyOut)
      (Enacted start draws desk) := by
  refine bind (lift (Work.Ensures.fetchIndices taken)) fun fetched => ?_
  refine bind scratchFor.adapt fun scratch => ?_
  refine bind (upload _).adapt fun _ => ?_
  refine Attempt.Ensures.pure ?_
  rintro workspace ⟨reached, earlier, last⟩
  refine ⟨scratch, reached, ?_⟩
  exact .selected _ _ rfl indexed rfl ⟨earlier, _, last, rfl⟩

theorem Attempt.Ensures.recordVertices {stripCut : StripCut}
    {stride : UInt32} (taken : draws visit) :
    Attempt.Ensures (Enacted start draws desk)
      (Work.recordVertices (desk.pass visit settings) stripCut stride derived :
        Attempt CaptureFailure σ Work.VertexDraw)
      (fun drawn => Drafting start draws desk visit settings .vertex derived
        drawn.recording.copyOut)
      (Enacted start draws desk) := by
  rw [Work.recordVertices]
  split
  · next indexed => exact recordSelectedDraw taken indexed
  · next plain => exact recordPlainDraw (Bool.eq_false_iff.mpr plain)

/-! ## The whole stage -/

theorem Attempt.Ensures.attachIndices {event : EventId} {record : StageRecord}
    {indices : Option (ByteArray × IndexWidth)}
    (unindexed : record.indexBuffer = none) :
    Attempt.Ensures (Enacted start draws (desk.hold record.resources))
      (Work.attachIndices event record indices :
        Attempt CaptureFailure σ StageRecord)
      (fun attached => Enacted start draws (desk.hold attached.resources))
      (Enacted start draws (desk.hold record.resources)) := by
  unfold Work.attachIndices
  cases indices with
  | none => exact Attempt.Ensures.pure fun _ reached => reached
  | some indices =>
      refine of_scratch fun scratch => ?_
      refine bind store.loosely.adapt fun buffer => ?_
      refine Attempt.Ensures.pure fun _ reached => ?_
      rw [StageRecord.resources_attach record buffer _ unindexed,
        Desk.hold_cons]
      exact reached.enacted

theorem Attempt.Ensures.streamVertices {pipeline : GraphicsPipeline}
    {layout : StreamOut.VertexLayout}
    (serves : Serves draws desk visit .vertex derived) :
    Attempt.Ensures (Enacted start draws desk)
      (Work.streamVertices (desk.pass visit settings) pipeline layout derived :
        Attempt CaptureFailure σ StageRecord)
      (fun record => Enacted start draws (desk.hold record.resources))
      (Enacted start draws desk) := by
  refine bind (recordVertices serves.taken) fun drawn => ?_
  refine bind (submit serves).adapt fun _ => ?_
  refine bind filledSizes fun sizes => ?_
  refine bind requireOutput fun _ => ?_
  refine bind fetchStaged fun data => ?_
  refine bind store.loosely.adapt fun vertexBuffer => ?_
  have released : Work.Ensures
      (Enacted start draws (desk.gain (.buffer vertexBuffer)))
      (Work.releaseBuffer vertexBuffer : Work σ Unit)
      fun _ => Enacted start draws desk :=
    .whichever fun _ => Work.Ensures.release (fun _ => rfl) rfl
  refine onFailure ?_ released
  refine (attachIndices ?_).weaken ?_ (fun _ _ ends => ends) ?_
  · rfl
  · exact fun _ ⟨present, conduct⟩ => ⟨rfl, present ▸ conduct⟩
  · exact fun _ reached => reached

/-! ## Derived pipelines -/

/-- A stage of the draw is captured next. There is a root signature at hand if
the draw needs one, and there is no pipeline yet. -/
structure StageAhead (draws : DrawVisit → Prop) (desk : Desk)
    (visit : DrawVisit) (pipeline : GraphicsPipeline) (shader : Shader) :
    Prop where
  taken : draws visit
  captured : visit.captured = .ok (pipeline, shader)
  signed : desk.signature.map Prod.fst = visit.state.derivedRootSignature
  free : desk.pipeline = none

theorem StageAhead.allows {pipeline : GraphicsPipeline} {shader : Shader}
    (ahead : StageAhead draws desk visit pipeline shader)
    {streaming : GraphicsPipeline}
    (derives : streaming.rootSignature =
      (desk.signature.map Prod.snd <|> pipeline.rootSignature))
    (answer : Except DeviceFailure PipelineHandle) (history : List Call) :
    Scene.Allows draws ⟨history, scratch, desk⟩
      (.createPipeline streaming answer) := by
  intro resource named
  cases made : desk.signature with
  | some entry =>
      have same : resource = .rootSignature entry.2 := by
        simpa [Call.resources, derives, made] using named
      refine .inl ?_
      simp [Scene.resources, Desk.resources, made, same]
  | none =>
      rcases DrawVisit.captured_eq_ok_iff.mp ahead.captured with
        ⟨⟨id, bound⟩, -⟩
      refine .inr ⟨rfl, visit, ahead.taken, ?_⟩
      have lent : resource ∈
          pipeline.rootSignature.toList.map Resource.rootSignature := by
        simpa [Call.resources, derives, made] using named
      rw [BoundState.resources, bound]
      refine List.mem_append_right _ ?_
      simpa [PipelineDescription.rootSignature?] using lent

theorem Attempt.Ensures.withPipeline {pipeline streaming : GraphicsPipeline}
    {shader : Shader} (ahead : StageAhead draws desk visit pipeline shader)
    (derives : streaming.rootSignature =
      (desk.signature.map Prod.snd <|> pipeline.rootSignature))
    (streams : visit.streaming? (desk.signature.map Prod.snd) stage =
      some streaming)
    {stream : PipelineHandle → Attempt CaptureFailure σ StageRecord}
    (ensures : ∀ derived,
      Serves draws (desk.equip streaming derived) visit stage derived →
        Attempt.Ensures
          (Enacted start draws (desk.equip streaming derived))
          (stream derived)
          (fun record => Enacted start draws
            ((desk.equip streaming derived).hold record.resources))
          (Enacted start draws (desk.equip streaming derived))) :
    Attempt.Ensures (Enacted start draws desk)
      (do
        let derived ←
          (Work.createPipeline streaming).adapt CaptureFailure.pipelineCreation
        Attempt.afterwards (Work.releasePipeline derived) (stream derived))
      (fun record => Enacted start draws (desk.hold record.resources))
      (Enacted start draws desk) := by
  have made : Attempt.Ensures (Enacted start draws desk)
      (Work.createPipeline streaming : Attempt DeviceFailure σ PipelineHandle)
      (fun derived => Enacted start draws (desk.equip streaming derived))
      (Enacted start draws desk) :=
    whichever fun scratch => enact
      (fun derived history => .derived streaming derived ahead.free
        (ahead.allows derives _ history))
      fun cause history => .noted _ rfl (ahead.allows derives _ history)
  have dropped (derived : PipelineHandle) (more : Multiset Resource) :
      Work.Ensures
        (Enacted start draws ((desk.equip streaming derived).hold more))
        (Work.releasePipeline derived : Work σ Unit)
        fun _ => Enacted start draws (desk.hold more) := by
    refine .whichever fun scratch => Work.Ensures.enact fun _ history => ?_
    have deed : Deed draws
        ⟨history, scratch, (desk.equip streaming derived).hold more⟩ _ :=
      .dropped streaming derived rfl
    rwa [Desk.drop_equip ahead.free] at deed
  refine bind made.adapt fun derived => ?_
  refine afterwards (ensures derived ⟨ahead.taken, streaming, ?_⟩)
    (fun record => dropped derived record.resources) ?_
  · exact ⟨ahead.signed, rfl, streams⟩
  -- Where the stage failed, there is no record to hold buffers of.
  · have back := dropped derived 0
    rwa [Desk.hold_zero, Desk.hold_zero] at back

theorem Attempt.Ensures.captureVertices {pipeline : GraphicsPipeline}
    {shader : Shader} (ahead : StageAhead draws desk visit pipeline shader) :
    Attempt.Ensures (Enacted start draws desk)
      (Work.captureVertices (desk.pass visit settings) pipeline shader :
        Attempt CaptureFailure σ StageRecord)
      (fun record => Enacted start draws (desk.hold record.resources))
      (Enacted start draws desk) := by
  rw [Work.captureVertices]
  simp only
  split
  · refine Attempt.Ensures.pure fun _ reached => ?_
    simpa [StageRecord.resources, StageRecord.buffers] using reached
  · have streams : visit.streaming? (desk.signature.map Prod.snd) .vertex =
        some (pipeline.streamingVertices (.ofOutputs shader.outputs none)
          (desk.signature.map Prod.snd)) := by
      simp [DrawVisit.streaming?, ahead.captured]
    exact withPipeline ahead rfl streams fun derived serves =>
      streamVertices serves

end MeshCapture
