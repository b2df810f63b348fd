import MeshCapture.Engine
import MeshCapture.Proofs.Index.Position
import MeshCapture.Scripted.Session

/-! # Requests for one event

A request for an event is answered by the record of the event it stands for. A
capture makes that record, whatever the device answers, once a replay passes the
draw, and aliases reported on the way do not change what the request stands for.
From then on a request finds the record and does nothing else. -/

namespace MeshCapture

theorem Ascending.ofList_singleton (value : UInt32) :
    ofList [value] = [value] :=
  ofList_eq_self (List.pairwise_singleton _ value)

/-- The event is a listed draw, and every replay of a range that it lies in runs
to its end and passes the draw. -/
structure Frame.Passes (frame : Frame) (event : EventId) : Prop where
  listed : (frame.draw? event).isSome
  succeeds : ∀ first last extent,
    (frame.replay first last extent).failure = none
  passed : ∀ first last, first ≤ event → event ≤ last →
    ∃ visit, .draw visit ∈ (frame.replay first last .full).visits ∧
      visit.event = event

theorem Scripted.replay_frameOf {actions : List Action}
    (succeed : ∀ action ∈ actions, action.failure = none)
    (first last : EventId) (extent : ReplayExtent) :
    (frameOf actions).replay first last extent =
      { visits := (actions.filter
          (Action.isReached first last extent)).flatMap Action.visits } := by
  have course (reached : List Action)
      (among : ∀ action ∈ reached, action.failure = none) :
      Action.course reached = { visits := reached.flatMap Action.visits } := by
    induction reached with
    | nil => rfl
    | cons first rest induction =>
        have others := induction fun action inside =>
          among action (List.mem_cons_of_mem _ inside)
        simp [Action.course, among first List.mem_cons_self, others]
  exact course _ fun action inside => succeed action (List.mem_filter.mp inside).1

theorem Scripted.passes_frameOf {actions : List Action} {action : Action}
    (succeed : ∀ action ∈ actions, action.failure = none)
    (member : action ∈ actions) (draws : action.dispatch = false)
    (listed : action.listed) (drawn : action.drawn) :
    (frameOf actions).Passes action.event := by
  refine ⟨?listed, ?succeeds, ?passed⟩
  case listed =>
    rw [frameOf]
    simp only [Option.isSome_map, List.find?_isSome]
    exact ⟨action, member, by simp [draws, listed]⟩
  case succeeds =>
    intro first last extent
    rw [replay_frameOf succeed]
  case passed =>
    intro first last least most
    refine ⟨⟨action.event, action.draw, action.state⟩, ?_, rfl⟩
    rw [replay_frameOf succeed, List.mem_flatMap]
    refine ⟨action, List.mem_filter.mpr ⟨member, ?_⟩, ?_⟩
    · simp [Action.isReached, least, most]
    · simp [Action.visits, draws, drawn]

/-! ## What an event stands for -/

namespace RecordStore

/-- The event stands for `primary`, which stands for itself. -/
def StandsFor (store : RecordStore) (event primary : EventId) : Prop :=
  store.resolve event = primary ∧ store.resolve primary = primary

variable {store : RecordStore} {event primary : EventId}

theorem StandsFor.insert (stands : store.StandsFor event primary)
    (other : EventId) (record : EventRecord) :
    (store.insert other record).StandsFor event primary := by
  rw [StandsFor, resolve_insert, resolve_insert]
  exact stands

theorem StandsFor.addAlias (stands : store.StandsFor event primary)
    (synonym : EventId) :
    (store.addAlias primary synonym).StandsFor event primary := by
  rw [StandsFor, resolve_addAlias, resolve_addAlias, stands.1, stands.2]
  simp

theorem StandsFor.find?_eq (stands : store.StandsFor event primary) :
    store.find? event = store.own? primary := by
  rw [find?, stands.1]

theorem StandsFor.contains_eq (stands : store.StandsFor event primary) :
    store.contains event = (store.own? primary).isSome := by
  rw [contains, stands.find?_eq]

theorem isSome_own?_insert (held : (store.own? primary).isSome)
    (other : EventId) (record : EventRecord) :
    ((store.insert other record).own? primary).isSome := by
  rw [own?_insert, Option.isSome_or, held, Bool.true_or]

end RecordStore

/-! ## Following a replay -/

namespace Engine

variable {σ : Type}

def hit (engine : Engine σ) : Engine σ :=
  { engine with
    workspace := { engine.workspace with
      counters := { engine.counters with
        captureRequests := engine.counters.captureRequests + 1
        cacheHits := engine.counters.cacheHits + 1 } } }

variable [Device σ] {engine : Engine σ} {event primary : EventId}

theorem standsFor_follow (stands : engine.store.StandsFor event primary)
    (visit : Visit) :
    (engine.follow [primary] visit).store.StandsFor event primary := by
  cases visit with
  | draw visit =>
      simp only [follow]
      split
      · rw [captureDraw]
        split
        · exact stands
        · exact stands.insert _ _
      · exact stands
  | dispatch other => exact stands
  | synonym other synonym =>
      simp only [follow]
      split
      · next wanted =>
          have same : other = primary := by simpa using wanted
          rw [same]
          exact stands.addAlias synonym
      · exact stands

theorem isSome_own?_follow (held : (engine.store.own? primary).isSome)
    (wanted : List EventId) (visit : Visit) :
    ((engine.follow wanted visit).store.own? primary).isSome := by
  cases visit with
  | draw visit =>
      simp only [follow]
      split
      · rw [captureDraw]
        split
        · exact held
        · exact RecordStore.isSome_own?_insert held _ _
      · exact held
  | dispatch other => exact held
  | synonym other synonym =>
      simp only [follow]
      split
      · simpa [addAlias] using held
      · exact held

theorem isSome_own?_captureDraw {visit : DrawVisit}
    (stands : engine.store.StandsFor event visit.event) :
    ((engine.captureDraw visit).store.own? visit.event).isSome := by
  rw [captureDraw]
  split
  · next present =>
      rwa [RecordStore.contains, RecordStore.find?, stands.2] at present
  · have stored := RecordStore.find?_insert_self engine.store visit.event
      (engine.perform (Work.captureDraw engine.settings visit)).1
    rw [RecordStore.find?, RecordStore.resolve_insert, stands.2] at stored
    exact Option.isSome_of_eq_some stored

theorem standsFor_foldl_follow (stands : engine.store.StandsFor event primary)
    (visits : List Visit) :
    (visits.foldl (follow [primary]) engine).store.StandsFor event
      primary := by
  induction visits generalizing engine with
  | nil => exact stands
  | cons visit rest induction => exact induction (standsFor_follow stands visit)

theorem isSome_own?_foldl_follow (held : (engine.store.own? primary).isSome)
    (wanted : List EventId) (visits : List Visit) :
    ((visits.foldl (follow wanted) engine).store.own? primary).isSome := by
  induction visits generalizing engine with
  | nil => exact held
  | cons visit rest induction =>
      exact induction (isSome_own?_follow held wanted visit)

theorem isSome_own?_of_passed (stands : engine.store.StandsFor event primary)
    {visits : List Visit} {visit : DrawVisit} (passed : .draw visit ∈ visits)
    (drawn : visit.event = primary) :
    ((visits.foldl (follow [primary]) engine).store.own? primary).isSome := by
  rcases List.append_of_mem passed with ⟨before, behind, split⟩
  rw [split, List.foldl_append, List.foldl_cons]
  apply isSome_own?_foldl_follow
  have there := standsFor_foldl_follow stands before
  rw [← drawn] at there
  rw [follow, if_pos (by simp [drawn]), ← drawn]
  exact isSome_own?_captureDraw there

/-! ## A request and the next one -/

omit [Device σ] in
theorem store_count (engine : Engine σ) (update : Counters → Counters) :
    (engine.count update).store = engine.store :=
  rfl

theorem capture_of_contains (frame : Frame)
    (present : engine.store.contains event) :
    engine.capture frame event = (.ok (), engine.hit) := by
  have answered : engine.requestAll frame [event] = ([], engine.hit) := by
    rw [requestAll, request]
    simp only [store_count, present, if_pos]
    rfl
  rw [capture, captureAll, answered]
  rfl

theorem capture_of_absent {frame : Frame}
    (stands : engine.store.StandsFor event primary)
    (absent : engine.store.contains event = false)
    (passes : frame.Passes primary) :
    ∃ noted : Engine σ, noted.store.StandsFor event primary ∧
      engine.capture frame event =
        (.ok (), (frame.replay primary primary .full).visits.foldl
          (follow [primary]) noted) := by
  have answered : engine.requestAll frame [event] =
      ([primary], engine.count Counters.countCaptureRequest) := by
    rw [requestAll, request]
    simp only [store_count, absent, stands.1, passes.listed]
    rfl
  rw [capture, captureAll, answered]
  simp only [Ascending.ofList_singleton, List.head?_cons,
    List.getLast?_singleton, replay, passes.succeeds]
  refine ⟨_, ?_, rfl⟩
  let asked := engine.count Counters.countCaptureRequest
  let noted := (asked.perform (Work.noteReplay 0 primary .beforeLast)).2
  have there : noted.store.StandsFor event primary := stands
  exact standsFor_foldl_follow there _

/-- A capture of an event always leaves it with a record, the one of the event
it stands for, and still standing for that. Another request changes nothing but
the counts of requests and of hits. -/
theorem capture_idempotent (frame : Frame) (engine : Engine σ)
    (event : EventId)
    (canonical : engine.store.resolve (engine.store.resolve event) =
      engine.store.resolve event)
    (passes : frame.Passes (engine.store.resolve event)) :
    let primary := engine.store.resolve event
    let next := (engine.capture frame event).2
    (engine.capture frame event).1 = .ok () ∧
      next.store.StandsFor event primary ∧
      (∃ record, next.record? event = some record ∧
        next.store.own? primary = some record) ∧
      ∀ again : Frame, next.capture again event = (.ok (), next.hit) := by
  intro primary next
  have stands : engine.store.StandsFor event primary := ⟨rfl, canonical⟩
  have captured : (engine.capture frame event).1 = .ok () ∧
      next.store.StandsFor event primary ∧
      (next.store.own? primary).isSome := by
    cases present : engine.store.contains event with
    | true =>
        have done := capture_of_contains frame present
        refine ⟨congrArg Prod.fst done, ?_⟩
        simp only [next, done]
        exact ⟨stands, stands.contains_eq ▸ present⟩
    | false =>
        rcases capture_of_absent stands present passes with
          ⟨noted, there, done⟩
        rcases passes.passed primary primary (UInt32.le_refl _)
          (UInt32.le_refl _) with ⟨visit, passed, drawn⟩
        refine ⟨congrArg Prod.fst done, ?_⟩
        simp only [next, done]
        exact ⟨standsFor_foldl_follow there _,
          isSome_own?_of_passed there passed drawn⟩
  rcases captured with ⟨succeeded, still, held⟩
  rcases Option.isSome_iff_exists.mp held with ⟨record, stored⟩
  refine ⟨succeeded, still, ⟨record, still.find?_eq.trans stored, stored⟩, ?_⟩
  intro again
  exact capture_of_contains again (still.contains_eq.trans held)

/-- An alias is captured through its primary, whose list the device refuses,
while the replay reports another alias. -/
theorem capture_idempotent_refused :
    let engine := (new Scripted.refusingDevice Scripted.smallScratch).run
      [.addAlias 1 2]
    let frame := Scripted.frameOf
      [{ Scripted.triangle 1 false with aliasesAfter := [(1, 3)] }]
    let next := (engine.capture frame 2).2
    engine.store.resolve 2 = 1 ∧ engine.store.resolve 1 = 1 ∧
      frame.Passes 1 ∧ next.store.resolve 3 = 1 ∧
      next.store.StandsFor 2 1 ∧ (next.record? 2).isSome ∧
      next.capture frame 2 = (.ok (), next.hit) := by
  intro engine frame next
  have stands : engine.store.resolve 2 = 1 := by decide +kernel
  have itself : engine.store.resolve 1 = 1 := by decide +kernel
  have passes : frame.Passes 1 :=
    Scripted.passes_frameOf (by decide +kernel) List.mem_cons_self rfl rfl rfl
  rcases capture_idempotent frame engine 2 (by rw [stands, itself])
    (by rwa [stands]) with ⟨-, still, ⟨record, recorded, -⟩, again⟩
  rw [stands] at still
  exact ⟨stands, itself, passes, by decide +kernel, still,
    Option.isSome_of_eq_some recorded, again frame⟩

end Engine

end MeshCapture
