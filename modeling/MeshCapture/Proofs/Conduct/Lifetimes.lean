import MeshCapture.Proofs.Conduct.Engine
import MeshCapture.Proofs.Conduct.Lists

/-! # Lifetimes

The engine names what it made only while that is live, in calls as well as in the
commands of a list, and releases it once. Nothing happens between the execution
of a list and the wait for its end. -/

namespace MeshCapture

/-! ## Work in flight -/

def Call.inFlightAfter (flying : Bool) : Call → Bool
  | .execute _ (.ok ()) => true
  | .sync => false
  | _ => flying

def inFlight (calls : List Call) : Bool :=
  calls.foldl Call.inFlightAfter false

@[simp] theorem inFlight_concat (calls : List Call) (call : Call) :
    inFlight (calls ++ [call]) = call.inFlightAfter (inFlight calls) := by
  simp [inFlight]

theorem Call.inFlightAfter_of_idle {call : Call}
    (idle : call.isExecute = false) : call.inFlightAfter false = false := by
  cases call <;> first | rfl | cases idle

/-! ## The law -/

namespace Call

/-- Whatever the call names is live behind the earlier ones, but for what the
replay lends to it. -/
def NamesLive (draws : DrawVisit → Prop) (earlier : List Call) (call : Call) :
    Prop :=
  ∀ resource ∈ call.resources,
    resource ∈ live earlier ∨ call.Borrows draws resource

/-- While there is work in flight, nothing is done but to wait for its end. -/
def Waits (earlier : List Call) (call : Call) : Prop :=
  inFlight earlier = true → call = .sync

end Call

structure KeepsLifetimes (draws : DrawVisit → Prop) (calls : List Call) :
    Prop where
  named : Throughout (Call.NamesLive draws) calls
  /-- Nothing is released more often than it was made. -/
  once : ∀ resource, (calls.filterMap Call.freed?).count resource ≤
    (calls.filterMap Call.made?).count resource
  waited : Throughout Call.Waits calls
  landed : inFlight calls = false

theorem count_made_eq {calls : List Call}
    (released : Throughout (fun earlier call =>
      ∀ resource ∈ call.freed?, resource ∈ live earlier) calls)
    (resource : Resource) :
    (calls.filterMap Call.made?).count resource =
      (live calls).count resource +
        (calls.filterMap Call.freed?).count resource := by
  -- The last call makes something, releases something live, or does neither.
  induction calls using List.reverseRecOn with
  | nil => rfl
  | append_singleton calls call induction =>
      rcases Throughout.concat_iff.mp released with ⟨before, last⟩
      have counted := induction before
      rw [live_concat, List.filterMap_append, List.filterMap_append,
        List.count_append, List.count_append, counted]
      cases made : call.made? with
      | some other =>
          have unfreed : call.freed? = none := by
            cases freed : call.freed? with
            | none => rfl
            | some gone => simp [Call.made?_of_freed freed] at made
          rw [liveAfter_of_made made, Multiset.count_cons]
          simp only [List.filterMap_cons, made, unfreed, List.filterMap_nil,
            List.count_nil, List.count_singleton, beq_iff_eq]
          simp only [eq_comm (a := other)]
          omega
      | none =>
          cases freed : call.freed? with
          | some other =>
              have present : other ∈ live calls := last other freed
              rw [liveAfter_of_freed freed]
              simp only [List.filterMap_cons, made, freed, List.filterMap_nil,
                List.count_nil, List.count_singleton, beq_iff_eq]
              by_cases same : resource = other
              · subst same
                have positive := Multiset.count_pos.mpr present
                rw [Multiset.count_erase_self, if_pos rfl]
                omega
              · rw [Multiset.count_erase_of_ne same, if_neg (Ne.symm same)]
                omega
          | none =>
              rw [liveAfter_of_neither made freed]
              simp [made, freed]

/-! ## Resources in hand -/

theorem Call.resources_of_freed {call : Call} {resource : Resource}
    (freed : call.freed? = some resource) : call.resources = [resource] := by
  cases call <;> cases freed <;> rfl

theorem Call.resources_of_made {call : Call} {resource : Resource}
    (made : call.made? = some resource) (memory : resource.isMemory = true) :
    call.resources = [] := by
  cases call with
  | createPipeline description outcome =>
      cases outcome with
      | ok pipeline =>
          cases made
          cases memory
      | error cause => cases made
  | _ => first | rfl | cases made

namespace Scene

variable {scene : Scene}

theorem resources_of_signature {description : RootSignature}
    {signature : RootSignatureHandle}
    (present : scene.desk.signature = some (description, signature)) :
    scene.resources = .rootSignature signature ::ₘ
      { scene with desk := { scene.desk with signature := none } }.resources := by
  simp only [resources, Desk.resources, present, Option.elim_some,
    Option.elim_none, ← Multiset.singleton_add]
  ac_rfl

theorem resources_of_pipeline {description : GraphicsPipeline}
    {pipeline : PipelineHandle}
    (present : scene.desk.pipeline = some (description, pipeline)) :
    scene.resources = .pipeline pipeline ::ₘ
      { scene with desk := { scene.desk with pipeline := none } }.resources := by
  simp only [resources, Desk.resources, present, Option.elim_some,
    Option.elim_none, ← Multiset.singleton_add]
  ac_rfl

end Scene

/-! ## One deed -/

/-- So far resources were named while they were live, and what is live is in
hand. -/
structure Scene.Sound (draws : DrawVisit → Prop) (scene : Scene) : Prop where
  live : live scene.history = scene.resources
  named : Throughout (Call.NamesLive draws) scene.history
  waited : Throughout Call.Waits scene.history
  landed : inFlight scene.history = false

namespace Scene.Sound

variable {draws : DrawVisit → Prop} {scene : Scene}

theorem empty : Sound draws {} where
  live := rfl
  named := .nil
  waited := .nil
  landed := rfl

theorem namesLive (sound : scene.Sound draws) {call : Call}
    (allowed : scene.Allows draws call) : call.NamesLive draws scene.history := by
  rw [Call.NamesLive, sound.live]
  exact allowed

theorem waits (sound : scene.Sound draws) (call : Call) :
    call.Waits scene.history :=
  fun flying => absurd flying (by simp [sound.landed])

theorem idle (sound : scene.Sound draws) {call : Call}
    (idle : call.isExecute = false) (allowed : scene.Allows draws call)
    (scratch : Option Scratch) {desk : Desk}
    (kept : liveAfter scene.resources call =
      (Scene.mk (scene.history ++ [call]) scratch desk).resources) :
    Sound draws ⟨scene.history ++ [call], scratch, desk⟩ where
  live := by rw [live_concat, sound.live, kept]
  named := Throughout.concat_iff.mpr ⟨sound.named, sound.namesLive allowed⟩
  waited := Throughout.concat_iff.mpr ⟨sound.waited, sound.waits call⟩
  landed := by
    rw [inFlight_concat, sound.landed]
    exact Call.inFlightAfter_of_idle idle

theorem execute (sound : scene.Sound draws) {list : CommandList}
    {outcome : Except DeviceFailure Unit}
    (allowed : scene.Allows draws (.execute list outcome))
    {scratch : Option Scratch}
    (kept : scene.resources =
      ({ scene with scratch } : Scene).resources) :
    Sound draws { scene with
      history := scene.history ++ .execute list outcome ::
        if outcome.isOk then [.sync] else []
      scratch } := by
  have named := Throughout.concat_iff.mpr
    ⟨sound.named, sound.namesLive allowed⟩
  have waited := Throughout.concat_iff.mpr
    ⟨sound.waited, sound.waits (.execute list outcome)⟩
  rw [List.append_cons]
  cases outcome with
  | error cause =>
      simp only [Except.isOk, Except.toBool, Bool.false_eq_true, ite_false,
        List.append_nil]
      refine ⟨?_, named, waited, ?_⟩
      · rw [live_concat, liveAfter_execute, sound.live, kept]
        rfl
      · rw [inFlight_concat, sound.landed]
        rfl
  | ok value =>
      simp only [Except.isOk, Except.toBool, ite_true]
      refine ⟨?_, Throughout.concat_iff.mpr ⟨named, ?_⟩,
        Throughout.concat_iff.mpr ⟨waited, fun _ => rfl⟩, ?_⟩
      · rw [live_concat, live_concat, liveAfter_execute, liveAfter_sync,
          sound.live, kept]
        rfl
      · exact fun _ inside => absurd inside List.not_mem_nil
      · rw [inFlight_concat]
        rfl

end Scene.Sound

theorem Drafted.allows {draws : DrawVisit → Prop} {now : Scene}
    {visit : DrawVisit} {stage : Stage} {settings : Settings}
    {pipeline : GraphicsPipeline} {derived : PipelineHandle}
    {scratch : Scratch} {recording : Recording}
    (present : now.scratch = some scratch)
    (equips : now.desk.Equips visit stage pipeline derived)
    (drafted : Drafted
      (visit.pass settings (now.desk.signature.map Prod.snd)) derived scratch
      now.history stage recording)
    (outcome : Except DeviceFailure Unit) :
    now.Allows draws (.execute recording.list outcome) := by
  intro resource named
  rcases List.mem_flatMap.mp named with ⟨command, inside, uses⟩
  rcases drafted.proper with ⟨indices, -, proper⟩
  refine .inl ?_
  rw [Scene.resources, Desk.resources, present, equips.bound]
  rcases proper.named command inside resource uses with part | same | signed
  · exact Multiset.mem_add.mpr (.inr part)
  · simp [same, Pass.gear]
  · cases made : now.desk.signature with
    | none => simp [Pass.gear, DrawVisit.pass, made] at signed
    | some entry =>
        have same : resource = .rootSignature entry.2 := by
          simpa [Pass.gear, DrawVisit.pass, made] using signed
        simp [same]

theorem Deed.sound {draws : DrawVisit → Prop} {now next : Scene}
    (deed : Deed draws now next) (sound : now.Sound draws) :
    next.Sound draws := by
  cases deed with
  | noted call quiet allowed =>
      refine sound.idle (Call.isExecute_of_quiet quiet) allowed _ ?_
      rw [liveAfter_of_neither (Call.made?_of_quiet quiet)
        (Call.freed?_of_quiet quiet)]
      rfl
  | drained =>
      refine sound.idle rfl (Scene.allows_of_unnamed rfl) _ ?_
      rw [liveAfter_sync]
      rfl
  | made call resource made memory empty =>
      refine sound.idle (Call.isExecute_of_made made)
        (Scene.allows_of_unnamed (Call.resources_of_made made memory)) _ ?_
      rw [liveAfter_of_made made]
      simp [Scene.resources, Desk.resources, Scene.note]
  | freed call resource freed memory mem =>
      refine sound.idle (Call.isExecute_of_freed freed) ?_ _ ?_
      · intro other named
        rw [Call.resources_of_freed freed, List.mem_singleton] at named
        simp [named, Scene.resources, Desk.resources, mem]
      · rw [liveAfter_of_freed freed]
        simp only [Scene.resources, Desk.resources, Scene.note, add_assoc]
        exact Multiset.erase_add_left_pos _ mem
  | signed description signature free =>
      refine sound.idle rfl (Scene.allows_of_unnamed rfl) _ ?_
      rw [liveAfter_of_made rfl]
      simp only [Scene.resources, Desk.resources, Scene.note, free,
        Option.elim_none, Option.elim_some, ← Multiset.singleton_add, add_zero]
      ac_rfl
  | unsigned description signature present =>
      have held := Scene.resources_of_signature present
      refine sound.idle rfl ?_ _ ?_
      · simp [Scene.Allows, Call.resources, Call.freed?, held]
      · rw [liveAfter_of_freed rfl, held, Multiset.erase_cons_head]
        rfl
  | derived description pipeline free allowed =>
      refine sound.idle rfl allowed _ ?_
      rw [liveAfter_of_made rfl]
      simp only [Scene.resources, Desk.resources, Scene.note, free,
        Option.elim_none, Option.elim_some, ← Multiset.singleton_add, add_zero]
      ac_rfl
  | dropped description pipeline present =>
      have held := Scene.resources_of_pipeline present
      refine sound.idle rfl ?_ _ ?_
      · simp [Scene.Allows, Call.resources, Call.freed?, held]
      · rw [liveAfter_of_freed rfl, held, Multiset.erase_cons_head]
        rfl
  | dismantled scratch present =>
      refine ⟨sound.live.trans ?_, sound.named, sound.waited, sound.landed⟩
      simp only [Scene.resources, Desk.resources, present, Option.elim_some,
        Option.elim_none, add_zero]
      ac_rfl
  | assembled scratch others empty unused parts last =>
      refine ⟨sound.live.trans ?_, sound.named, sound.waited, sound.landed⟩
      simp only [Scene.resources, Desk.resources, parts, empty,
        Option.elim_some, Option.elim_none, add_zero]
      ac_rfl
  | handed visit stage settings pipeline derived scratch recording outcome taken
      present equips drafted =>
      rcases drafted.proper with ⟨indices, -, proper⟩
      refine sound.execute (drafted.allows present equips outcome) ?_
      simp only [Scene.resources, present, Option.elim_some, proper.resources_eq]

/-! ## Runs -/

theorem Scene.Sound.keepsLifetimes {draws : DrawVisit → Prop} {scene : Scene}
    (sound : scene.Sound draws) : KeepsLifetimes draws scene.history where
  named := sound.named
  once := by
    intro resource
    have released : Throughout (fun earlier call =>
        ∀ resource ∈ call.freed?, resource ∈ MeshCapture.live earlier)
          scene.history := by
      refine sound.named.imp fun earlier call allowed other freed => ?_
      -- A release borrows nothing, so that what it names is live.
      have named := allowed other (by simp [Call.resources_of_freed freed])
      refine named.resolve_right fun borrows => ?_
      have lent := borrows.1
      cases call <;> cases freed <;> cases lent
    rw [count_made_eq released]
    omega
  waited := sound.waited
  landed := sound.landed

variable {σ : Type}

theorem Enacted.keepsLifetimes {draws : DrawVisit → Prop} {desk : Desk}
    {workspace : Workspace σ} (reached : Enacted {} draws desk workspace) :
    KeepsLifetimes draws workspace.history :=
  (reached.conduct.keeps (fun _ _ deed => deed.sound)
    Scene.Sound.empty).keepsLifetimes

/-- In every run, and while the engine shuts down behind it, a resource that the
engine made is named only while it is live, be it by a release, by a read or a
write, in the description of a pipeline or by a command of a list. It is released
at most once for every time it was made. Behind a list that was executed the next
call waits for its end. -/
theorem Engine.lifetimes_kept [Device σ] (device : σ) (settings : Settings)
    (operations : List Operation) :
    let engine := (Engine.new device settings).run operations
    KeepsLifetimes (Passed operations) engine.calls ∧
      KeepsLifetimes (Passed operations) engine.shutDown.calls := by
  intro engine
  have reached : engine.Conducted {} (Passed operations) :=
    conducted_run device settings operations
  have cleared := keeps_conducted.clear engine reached
  have gone := Work.Ensures.releaseScratch engine.clear.workspace cleared
  exact ⟨Enacted.keepsLifetimes reached, Enacted.keepsLifetimes gone.enacted⟩

end MeshCapture
