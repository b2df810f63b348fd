import MeshCapture.Proofs.Contents.StageCapture

/-! # Deeds

What an engine does over any device, told together with what it has in hand while
it does it: the scratch set, the root signature and the pipeline made for the
stage that is captured, and buffers. That an engine does nothing else is shown in
the modules behind this one. -/

namespace MeshCapture

/-! ## Named resources -/

def Command.resources : Command → List Resource
  | setPipeline pipeline => [.pipeline pipeline]
  | setRootSignature signature => [.rootSignature signature]
  | setIndexBuffer range => [.buffer range.buffer]
  | setOutputTarget target => [.buffer target.buffer]
  | beginQuery heap _ | endQuery heap _ => [.queryHeap heap]
  | resolveQuery heap _ target _ => [.queryHeap heap, .buffer target]
  | barrier buffer .. | discard buffer | clear buffer => [.buffer buffer]
  | copyBuffer target source => [.buffer target, .buffer source]
  | applyState _ | applyRootParameters | setTopology _ | draw .. |
    drawIndexed .. => []

def Call.resources : Call → List Resource
  | execute list _ => list.toList.flatMap Command.resources
  | createPipeline description _ =>
      description.rootSignature.toList.map Resource.rootSignature
  | readBuffer buffer .. | writeBuffer buffer .. => [.buffer buffer]
  | call => call.freed?.toList

def PipelineDescription.rootSignature? :
    PipelineDescription → Option RootSignatureHandle
  | graphics pipeline => pipeline.rootSignature
  | compute => none

def BoundState.resources (state : BoundState) : List Resource :=
  (state.indexBuffer.map fun range => .buffer range.buffer).toList ++
    ((state.pipeline.bind (·.description.rootSignature?)).map
      Resource.rootSignature).toList

/-- The call reads a buffer or makes a pipeline, which may be a buffer and a root
signature of the replay. -/
def Call.mayBorrow : Call → Bool
  | readBuffer .. | createPipeline .. => true
  | _ => false

def Call.Borrows (draws : DrawVisit → Prop) (call : Call)
    (resource : Resource) : Prop :=
  call.mayBorrow ∧ ∃ visit, draws visit ∧ resource ∈ visit.state.resources

/-! ## Scenes -/

structure Desk where
  /-- Buffers and query heaps. -/
  held : Multiset Resource := 0
  signature : Option (RootSignature × RootSignatureHandle) := none
  pipeline : Option (GraphicsPipeline × PipelineHandle) := none

def Desk.resources (desk : Desk) : Multiset Resource :=
  desk.held + desk.signature.elim 0 (fun entry => {.rootSignature entry.2}) +
    desk.pipeline.elim 0 fun entry => {.pipeline entry.2}

structure Scene where
  history : List Call := []
  scratch : Option Scratch := none
  desk : Desk := {}

namespace Scene

def resources (scene : Scene) : Multiset Resource :=
  scene.desk.resources + scene.scratch.elim 0 Scratch.resources

def note (scene : Scene) (call : Call) : Scene :=
  { scene with history := scene.history ++ [call] }

/-- The call names nothing but what is in hand or borrowed. -/
def Allows (draws : DrawVisit → Prop) (scene : Scene) (call : Call) : Prop :=
  ∀ resource ∈ call.resources,
    resource ∈ scene.resources ∨ call.Borrows draws resource

theorem allows_of_unnamed {draws : DrawVisit → Prop} {scene : Scene}
    {call : Call} (unnamed : call.resources = []) :
    scene.Allows draws call := by
  simp [Allows, unnamed]

end Scene

def Resource.isMemory : Resource → Bool
  | buffer _ | queryHeap _ => true
  | rootSignature _ | pipeline _ => false

/-! ## Drafts -/

/-- The pipeline that the capture of a stage derives from the bound one. -/
def DrawVisit.streaming? (visit : DrawVisit)
    (signature : Option RootSignatureHandle) :
    Stage → Option GraphicsPipeline
  | .vertex =>
      match visit.captured with
      | .ok (pipeline, shader) =>
          some <| pipeline.streamingVertices (.ofOutputs shader.outputs none)
            signature
      | .error _ => none
  | .post =>
      match visit.captured with
      | .ok (pipeline, _) =>
          pipeline.postStage?.map fun last =>
            pipeline.streamingPostStage (.ofOutputs last.outputs (some 0))
              signature
      | .error _ => none

structure Desk.Equips (desk : Desk) (visit : DrawVisit) (stage : Stage)
    (pipeline : GraphicsPipeline) (derived : PipelineHandle) : Prop where
  signed : desk.signature.map Prod.fst = visit.state.derivedRootSignature
  bound : desk.pipeline = some (pipeline, derived)
  streaming : visit.streaming? (desk.signature.map Prod.snd) stage =
    some pipeline

def IndexBufferRange.WrittenLast (range : IndexBufferRange)
    (history : List Call) : Prop :=
  ∃ earlier members,
    history = earlier ++ [.writeBuffer range.buffer 0 members (.ok ())] ∧
      range = ⟨range.buffer, 0, UInt64.ofNat members.size, .bits32⟩

/-- A recording that is made over `scratch` to capture a stage. -/
inductive Drafted (pass : Pass) (derived : PipelineHandle) (scratch : Scratch)
    (history : List Call) : Stage → Recording → Prop where
  | plain (draw : Command) (isDraw : draw.isDraw = true)
      (plain : pass.draw.flags.indexed = false) :
      Drafted pass derived scratch history .vertex
        (Work.pointPass pass derived scratch none draw).copyOut
  | selected (range : IndexBufferRange) (draw : Command)
      (isDraw : draw.isDraw = true)
      (indexed : pass.draw.flags.indexed = true)
      (uploaded : range.buffer = scratch.indexUpload)
      (written : range.WrittenLast history) :
      Drafted pass derived scratch history .vertex
        (Work.pointPass pass derived scratch (some range) draw).copyOut
  | measuring :
      Drafted pass derived scratch history .post
        (Work.measuringPass pass derived scratch)
  | firstRun (dataOffset : UInt64) (run : List UInt32) :
      Drafted pass derived scratch history .post
        (Work.drawRun pass derived dataOffset
          (Recording.zeroOutput { scratch }) run)
  | nextRun (dataOffset : UInt64) (run : List UInt32) :
      Drafted pass derived scratch history .post
        (Work.drawRun pass derived dataOffset { scratch } run)
  | closing :
      Drafted pass derived scratch history .post
        (Recording.copyOut { scratch })

/-! ## What is done -/

inductive Deed (draws : DrawVisit → Prop) (now : Scene) : Scene → Prop where
  | noted (call : Call) (quiet : call.isQuiet = true)
      (allowed : now.Allows draws call) :
      Deed draws now (now.note call)
  | drained : Deed draws now (now.note .sync)
  /-- A buffer or a query heap was made; a buffer for stream output only while
  there is no scratch set. -/
  | made (call : Call) (resource : Resource)
      (made : call.made? = some resource) (memory : resource.isMemory = true)
      (empty : call.madeOutput?.isSome = true → now.scratch = none) :
      Deed draws now { now.note call with
        desk := { now.desk with held := resource ::ₘ now.desk.held } }
  | freed (call : Call) (resource : Resource)
      (freed : call.freed? = some resource) (memory : resource.isMemory = true)
      (mem : resource ∈ now.desk.held) :
      Deed draws now { now.note call with
        desk := { now.desk with held := now.desk.held.erase resource } }
  | signed (description : RootSignature) (signature : RootSignatureHandle)
      (free : now.desk.signature = none) :
      Deed draws now
        { now.note (.createRootSignature description (.ok signature)) with
          desk := { now.desk with signature := some (description, signature) } }
  | unsigned (description : RootSignature) (signature : RootSignatureHandle)
      (present : now.desk.signature = some (description, signature)) :
      Deed draws now { now.note (.releaseRootSignature signature) with
        desk := { now.desk with signature := none } }
  | derived (description : GraphicsPipeline) (pipeline : PipelineHandle)
      (free : now.desk.pipeline = none)
      (allowed : now.Allows draws (.createPipeline description (.ok pipeline))) :
      Deed draws now
        { now.note (.createPipeline description (.ok pipeline)) with
          desk := { now.desk with pipeline := some (description, pipeline) } }
  | dropped (description : GraphicsPipeline) (pipeline : PipelineHandle)
      (present : now.desk.pipeline = some (description, pipeline)) :
      Deed draws now { now.note (.releasePipeline pipeline) with
        desk := { now.desk with pipeline := none } }
  /-- The parts of the scratch set are on their own. -/
  | dismantled (scratch : Scratch) (present : now.scratch = some scratch) :
      Deed draws now { now with
        scratch := none
        desk := { now.desk with
          held := scratch.resources + now.desk.held } }
  /-- Newly made parts became the scratch set. -/
  | assembled (scratch : Scratch) (others : Multiset Resource)
      (empty : now.scratch = none) (unused : scratch.outputUse = .common)
      (parts : now.desk.held = scratch.resources + others)
      (last : MadeLast scratch now.history) :
      Deed draws now { now with
        scratch := some scratch, desk := { now.desk with held := others } }
  /-- A recording was handed to the device, which was waited for unless it
  refused the list. -/
  | handed (visit : DrawVisit) (stage : Stage) (settings : Settings)
      (pipeline : GraphicsPipeline) (derived : PipelineHandle)
      (scratch : Scratch) (recording : Recording)
      (outcome : Except DeviceFailure Unit) (taken : draws visit)
      (present : now.scratch = some scratch)
      (equips : now.desk.Equips visit stage pipeline derived)
      (drafted : Drafted
        (visit.pass settings (now.desk.signature.map Prod.snd)) derived scratch
        now.history stage recording) :
      Deed draws now { now with
        history := now.history ++ .execute recording.list outcome ::
          if outcome.isOk then [.sync] else []
        scratch := some recording.scratch }

def Conduct (draws : DrawVisit → Prop) : Scene → Scene → Prop :=
  Relation.ReflTransGen (Deed draws)

theorem Conduct.keeps {draws : DrawVisit → Prop} {law : Scene → Prop}
    (deed : ∀ now next, Deed draws now next → law now → law next)
    {first last : Scene} (conduct : Conduct draws first last)
    (holds : law first) : law last := by
  induction conduct with
  | refl => exact holds
  | tail _ done induction => exact deed _ _ done induction

end MeshCapture
