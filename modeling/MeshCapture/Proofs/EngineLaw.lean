import MeshCapture.Engine

/-! # Acts of an engine

Whatever an engine is asked for, it does in acts of five kinds. A run of
operations is a list of acts, and a law that all acts keep holds behind every
run, wherever its replays stop. -/

namespace MeshCapture

inductive Act where
  | request (frame : Frame) (event : EventId)
  | noteReplay (first last : EventId) (extent : ReplayExtent)
  | addAlias (primary synonym : EventId)
  | captureDraw (visit : DrawVisit)
  | clear

def Act.isReplayed : Act → Bool
  | .request .. | .clear => false
  | .noteReplay .. | .addAlias .. | .captureDraw _ => true

def Visit.acts (wanted : List EventId) : (visit : Visit) → List Act
  | .draw visit =>
      if wanted.contains visit.event then [.captureDraw visit] else []
  | .dispatch _ => []
  | .synonym primary other =>
      if wanted.contains primary then [.addAlias primary other] else []

def Frame.replayActs (frame : Frame) (wanted : List EventId)
    (first last : EventId) (extent : ReplayExtent) : List Act :=
  .noteReplay first last extent ::
    (frame.replay first last extent).visits.flatMap (Visit.acts wanted)

/-- What is done to capture the wanted events: a replay up to the first of them
and, unless that stopped early, another one through the last. -/
def Frame.captureActs (frame : Frame) (wanted : List EventId) : List Act :=
  match wanted.head?, wanted.getLast? with
  | some first, some last =>
      frame.replayActs wanted 0 first .beforeLast ++
        if (frame.replay 0 first .beforeLast).failure.isSome then
          []
        else
          frame.replayActs wanted first last .full
  | _, _ => []

namespace Engine

variable {σ : Type}

def wanted (frame : Frame) (engine : Engine σ) (events : List EventId) :
    List EventId :=
  Ascending.ofList (engine.requestAll frame events).1

def operationActs (engine : Engine σ) : Operation → List Act
  | .captureAll frame events =>
      events.map (.request frame) ++
        frame.captureActs (engine.wanted frame events)
  | .addAlias primary synonym => [.addAlias primary synonym]
  | .clear => [.clear]

variable [Device σ]

def act (engine : Engine σ) : Act → Engine σ
  | .request frame event => (engine.request frame event).2
  | .noteReplay first last extent =>
      (engine.perform (Work.noteReplay first last extent)).2
  | .addAlias primary synonym => engine.addAlias primary synonym
  | .captureDraw visit => engine.captureDraw visit
  | .clear => engine.clear

def acts (engine : Engine σ) : (operations : List Operation) → List Act
  | [] => []
  | operation :: rest =>
      engine.operationActs operation ++ (engine.apply operation).acts rest

/-! ## Runs as lists of acts -/

theorem requestAll_eq_foldl_act (frame : Frame) (engine : Engine σ)
    (events : List EventId) :
    (engine.requestAll frame events).2 =
      (events.map (.request frame)).foldl act engine := by
  induction events generalizing engine with
  | nil => rfl
  | cons event rest induction => exact induction _

theorem follow_eq_foldl_act (wanted : List EventId) (engine : Engine σ)
    (visit : Visit) :
    engine.follow wanted visit = (visit.acts wanted).foldl act engine := by
  cases visit with
  | draw visit =>
      simp only [follow, Visit.acts]
      split <;> rfl
  | dispatch event => rfl
  | synonym primary other =>
      simp only [follow, Visit.acts]
      split <;> rfl

theorem foldl_follow_eq_foldl_act (wanted : List EventId) (engine : Engine σ)
    (visits : List Visit) :
    visits.foldl (follow wanted) engine =
      (visits.flatMap (Visit.acts wanted)).foldl act engine := by
  induction visits generalizing engine with
  | nil => rfl
  | cons visit rest induction =>
      rw [List.foldl_cons, induction, follow_eq_foldl_act, List.flatMap_cons,
        List.foldl_append]

theorem replay_eq_foldl_act (frame : Frame) (wanted : List EventId)
    (engine : Engine σ) (first last : EventId) (extent : ReplayExtent) :
    engine.replay frame wanted first last extent =
      ((frame.replay first last extent).failure,
        (frame.replayActs wanted first last extent).foldl act engine) := by
  rw [replay]
  simp only [foldl_follow_eq_foldl_act]
  rfl

theorem captureAll_eq_foldl_act (frame : Frame) (engine : Engine σ)
    (events : List EventId) :
    (engine.captureAll frame events).2 =
      (engine.operationActs (.captureAll frame events)).foldl act engine := by
  have requested := requestAll_eq_foldl_act frame engine events
  rw [captureAll, operationActs, wanted, Frame.captureActs, List.foldl_append,
    ← requested]
  generalize engine.requestAll frame events = answer
  rcases answer with ⟨pending, asked⟩
  simp only [replay_eq_foldl_act]
  cases (Ascending.ofList pending).head? with
  | none => rfl
  | some first =>
      cases (Ascending.ofList pending).getLast? with
      | none => rfl
      | some last =>
          simp only
          cases (frame.replay 0 first .beforeLast).failure with
          | some cause => simp
          | none =>
              simp only [Option.isSome_none, Bool.false_eq_true, ite_false,
                List.foldl_append]
              cases (frame.replay first last .full).failure <;> rfl

theorem apply_eq_foldl_act (engine : Engine σ) (operation : Operation) :
    engine.apply operation =
      (engine.operationActs operation).foldl act engine := by
  cases operation with
  | captureAll frame events => exact captureAll_eq_foldl_act frame engine events
  | addAlias primary synonym => rfl
  | clear => rfl

theorem run_eq_foldl_act (engine : Engine σ) (operations : List Operation) :
    engine.run operations = (engine.acts operations).foldl act engine := by
  induction operations generalizing engine with
  | nil => rfl
  | cons operation rest induction =>
      rw [acts, List.foldl_append, ← apply_eq_foldl_act]
      exact induction _

/-! ## Acts of a capture -/

theorem cases_of_mem_visit_acts {wanted : List EventId} {visit : Visit}
    {act : Act} (made : act ∈ visit.acts wanted) :
    (∃ drawn, visit = .draw drawn ∧ drawn.event ∈ wanted ∧
        act = .captureDraw drawn) ∨
      ∃ primary other, act = .addAlias primary other := by
  cases visit with
  | draw drawn =>
      rw [Visit.acts] at made
      split at made
      · next asked =>
          exact .inl ⟨drawn, rfl, List.contains_iff_mem.mp asked,
            List.mem_singleton.mp made⟩
      · cases made
  | dispatch event => cases made
  | synonym primary other =>
      rw [Visit.acts] at made
      split at made
      · exact .inr ⟨primary, other, List.mem_singleton.mp made⟩
      · cases made

theorem isReplayed_of_mem_replayActs {frame : Frame} {wanted : List EventId}
    {first last : EventId} {extent : ReplayExtent} {act : Act}
    (inside : act ∈ frame.replayActs wanted first last extent) :
    act.isReplayed = true := by
  rcases List.mem_cons.mp inside with noted | followed
  · rw [noted]
    rfl
  · obtain ⟨visit, -, made⟩ := List.mem_flatMap.mp followed
    rcases cases_of_mem_visit_acts made with ⟨drawn, -, -, rfl⟩ | ⟨_, _, rfl⟩
    · rfl
    · rfl

theorem exists_replayActs_of_mem_captureActs {frame : Frame}
    {wanted : List EventId} {act : Act}
    (inside : act ∈ frame.captureActs wanted) :
    ∃ first last extent, act ∈ frame.replayActs wanted first last extent := by
  rw [Frame.captureActs] at inside
  split at inside
  · rcases List.mem_append.mp inside with upTo | among
    · exact ⟨_, _, _, upTo⟩
    · split at among
      · cases among
      · exact ⟨_, _, _, among⟩
  · cases inside

def Operation.Passes (operation : Operation) (visit : DrawVisit) : Prop :=
  ∃ frame events first last extent,
    operation = .captureAll frame events ∧
      .draw visit ∈ (frame.replay first last extent).visits

def Passed (operations : List Operation) (visit : DrawVisit) : Prop :=
  ∃ operation ∈ operations, operation.Passes visit

theorem captureDraw_mem_replayActs {frame : Frame} {wanted : List EventId}
    {first last : EventId} {extent : ReplayExtent} {visit : DrawVisit} :
    .captureDraw visit ∈ frame.replayActs wanted first last extent ↔
      .draw visit ∈ (frame.replay first last extent).visits ∧
        visit.event ∈ wanted := by
  rw [Frame.replayActs, List.mem_cons, List.mem_flatMap]
  constructor
  · rintro (impossible | ⟨passed, inside, made⟩)
    · cases impossible
    · rcases cases_of_mem_visit_acts made with
        ⟨drawn, rfl, asked, same⟩ | ⟨_, _, impossible⟩
      · cases same
        exact ⟨inside, asked⟩
      · cases impossible
  · rintro ⟨inside, asked⟩
    exact .inr ⟨_, inside, by simp [Visit.acts, asked]⟩

omit [Device σ] in
theorem passes_of_captureDraw_mem {engine : Engine σ} {operation : Operation}
    {visit : DrawVisit}
    (inside : .captureDraw visit ∈ engine.operationActs operation) :
    operation.Passes visit := by
  cases operation with
  | captureAll frame events =>
      rcases List.mem_append.mp inside with requested | followed
      · obtain ⟨event, -, impossible⟩ := List.mem_map.mp requested
        cases impossible
      · obtain ⟨first, last, extent, replayed⟩ :=
          exists_replayActs_of_mem_captureActs followed
        exact ⟨frame, events, first, last, extent, rfl,
          (captureDraw_mem_replayActs.mp replayed).1⟩
  | addAlias primary synonym => cases List.mem_singleton.mp inside
  | clear => cases List.mem_singleton.mp inside

theorem passed_of_captureDraw_mem {engine : Engine σ}
    {operations : List Operation} {visit : DrawVisit}
    (inside : .captureDraw visit ∈ engine.acts operations) :
    Passed operations visit := by
  induction operations generalizing engine with
  | nil => cases inside
  | cons operation rest induction =>
      rcases List.mem_append.mp inside with now | later
      · exact ⟨operation, by simp, passes_of_captureDraw_mem now⟩
      · obtain ⟨other, listed, passed⟩ := induction later
        exact ⟨other, by simp [listed], passed⟩

/-! ## Laws -/

/-- Every act of an engine that captures none but the given draws keeps the
law. -/
structure Keeps (draws : DrawVisit → Prop) (law : Engine σ → Prop) : Prop where
  request : ∀ engine frame event, law engine →
    law (engine.request frame event).2
  noteReplay : ∀ engine first last extent, law engine →
    law (engine.perform (Work.noteReplay first last extent)).2
  addAlias : ∀ engine primary synonym, law engine →
    law (engine.addAlias primary synonym)
  captureDraw : ∀ engine visit, draws visit → law engine →
    law (engine.captureDraw visit)
  clear : ∀ engine, law engine → law engine.clear

namespace Keeps

variable {draws : DrawVisit → Prop} {law : Engine σ → Prop}
  {engine : Engine σ}

theorem act (keeps : Keeps draws law) {act : Act}
    (passes : ∀ visit, act = .captureDraw visit → draws visit)
    (holds : law engine) : law (engine.act act) := by
  cases act with
  | request frame event => exact keeps.request engine frame event holds
  | noteReplay first last extent =>
      exact keeps.noteReplay engine first last extent holds
  | addAlias primary synonym =>
      exact keeps.addAlias engine primary synonym holds
  | captureDraw visit =>
      exact keeps.captureDraw engine visit (passes visit rfl) holds
  | clear => exact keeps.clear engine holds

theorem acts (keeps : Keeps draws law) {acts : List Act}
    (passes : ∀ visit, .captureDraw visit ∈ acts → draws visit)
    (holds : law engine) : law (acts.foldl Engine.act engine) := by
  induction acts generalizing engine with
  | nil => exact holds
  | cons act rest induction =>
      refine induction (fun visit inside => passes visit (by simp [inside])) ?_
      exact keeps.act (fun visit same => passes visit (by simp [same])) holds

theorem run (keeps : Keeps draws law) {operations : List Operation}
    (passes : ∀ visit, Passed operations visit → draws visit)
    (holds : law engine) : law (engine.run operations) := by
  rw [run_eq_foldl_act]
  exact keeps.acts
    (fun visit inside => passes visit (passed_of_captureDraw_mem inside)) holds

end Keeps

/-! ## What a request changes -/

omit [Device σ] in
theorem exists_counters_request (frame : Frame) (engine : Engine σ)
    (event : EventId) :
    ∃ counters, (engine.request frame event).2 =
      { engine with workspace := { engine.workspace with counters } } := by
  rw [request]
  simp only
  split
  · exact ⟨_, rfl⟩
  · exact ⟨_, rfl⟩

end Engine

end MeshCapture
