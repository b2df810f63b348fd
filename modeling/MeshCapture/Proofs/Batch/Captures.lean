import MeshCapture.Proofs.Batch.Blind
import MeshCapture.Proofs.Aliases
import MeshCapture.Proofs.EngineLaw
import MeshCapture.Proofs.Requests

/-! # Many captures in one replay

A request for several events has one replay pass all their draws, where requests
for the events one by one have a replay each. A replay that tells of no aliases
adds nothing but the records of the wanted draws, in the order of the frame, so
that both ways make the same calls to the device and keep the same records. -/

namespace MeshCapture

def ReplayExtent.reaches (extent : ReplayExtent) (first last event : EventId) :
    Bool :=
  first ≤ event && event ≤ last && !(extent == .beforeLast && event == last)

def Visit.draw? : Visit → Option DrawVisit
  | .draw visit => some visit
  | .dispatch _ | .synonym .. => none

/-- Every replay of a range runs to its end, passes those of the given draws that
lie in the range, each once and in ascending order, and tells of no alias. -/
structure Frame.Replays (frame : Frame) (draws : List DrawVisit) : Prop where
  ascending : draws.Pairwise fun earlier later => earlier.event < later.event
  succeeds : ∀ first last extent, first ≤ last →
    (frame.replay first last extent).failure = none
  noSynonyms : ∀ first last extent, first ≤ last → ∀ primary synonym,
    .synonym primary synonym ∉ (frame.replay first last extent).visits
  passes : ∀ first last extent, first ≤ last →
    (frame.replay first last extent).visits.filterMap Visit.draw? =
      draws.filter fun visit => extent.reaches first last visit.event

namespace Scripted

def Action.visit? (action : Action) : Option DrawVisit :=
  if !action.dispatch && action.drawn then
    some ⟨action.event, action.draw, action.state⟩
  else
    none

theorem Action.visits_of_no_aliases {action : Action}
    (before : action.aliasesBefore = []) (after : action.aliasesAfter = []) :
    (∀ primary synonym, .synonym primary synonym ∉ action.visits) ∧
      action.visits.filterMap Visit.draw? = action.visit?.toList := by
  rw [visits, before, after, visit?]
  cases action.dispatch <;> cases action.drawn <;> simp [Visit.draw?]

theorem replays_frameOf {actions : List Action}
    (succeed : ∀ action ∈ actions, action.failure = none)
    (noAliases : ∀ action ∈ actions,
      action.aliasesBefore = [] ∧ action.aliasesAfter = [])
    (ascending : actions.Pairwise fun earlier later =>
      earlier.event < later.event) :
    (frameOf actions).Replays (actions.filterMap Action.visit?) := by
  have drawn {action : Action} {visit : DrawVisit}
      (draws : action.visit? = some visit) : visit.event = action.event := by
    rw [Action.visit?] at draws
    split at draws
    · exact (Option.some.inj draws) ▸ rfl
    · simp at draws
  refine ⟨?ascending, ?succeeds, ?noSynonyms, ?passes⟩
  case ascending =>
    refine List.pairwise_filterMap.mpr (ascending.imp ?_)
    intro earlier later less first draws second follows
    rwa [drawn draws, drawn follows]
  case succeeds =>
    intro first last extent _
    rw [replay_frameOf succeed]
  case noSynonyms =>
    intro first last extent _ primary synonym inside
    rw [replay_frameOf succeed] at inside
    rcases List.mem_flatMap.mp inside with ⟨action, reached, told⟩
    rcases noAliases action (List.mem_filter.mp reached).1 with ⟨before, after⟩
    exact (Action.visits_of_no_aliases before after).1 primary synonym told
  case passes =>
    intro first last extent _
    rw [replay_frameOf succeed]
    simp only
    clear succeed ascending
    induction actions with
    | nil => rfl
    | cons action rest induction =>
        rcases noAliases action List.mem_cons_self with ⟨before, after⟩
        have later := induction fun other inside =>
          noAliases other (List.mem_cons_of_mem _ inside)
        have own := (Action.visits_of_no_aliases before after).2
        have place : action.isReached first last extent =
            extent.reaches first last action.event := rfl
        rw [List.filter_cons, place]
        cases draws : action.visit? with
        | none =>
            rw [List.filterMap_cons_none draws, ← later]
            split <;> simp [own, draws]
        | some visit =>
            rw [List.filterMap_cons_some draws, List.filter_cons, ← later,
              drawn draws]
            split <;> simp [own, draws]

end Scripted

theorem RecordStore.contains_insert {store : RecordStore} {event : EventId}
    (held : store.contains event) (other : EventId) (record : EventRecord) :
    (store.insert other record).contains event := by
  rw [contains, find?, resolve_insert]
  exact isSome_own?_insert held other record

/-! ## Ascending lists -/

theorem bounds_of_ascending {events : List EventId}
    (sorted : events.Pairwise (· < ·)) {first last : EventId}
    (starts : events.head? = some first) (ends : events.getLast? = some last) :
    ∀ event ∈ events, first ≤ event ∧ event ≤ last := by
  intro event inside
  constructor
  · rcases List.head?_eq_some_iff.mp starts with ⟨rest, whole⟩
    subst whole
    rcases List.mem_cons.mp inside with same | later
    · exact same ▸ UInt32.le_refl _
    · exact UInt32.le_of_lt (List.rel_of_pairwise_cons sorted later)
  · rcases List.getLast?_eq_some_iff.mp ends with ⟨front, whole⟩
    subst whole
    rcases List.mem_append.mp inside with earlier | same
    · exact UInt32.le_of_lt
        ((List.pairwise_append.mp sorted).2.2 event earlier last (by simp))
    · exact List.mem_singleton.mp same ▸ UInt32.le_refl _

theorem filter_or_of_ascending {draws : List DrawVisit} {low high : EventId → Bool}
    (ascending : draws.Pairwise fun earlier later => earlier.event < later.event)
    (apart : ∀ first second, low first → high second → first < second) :
    (draws.filter fun visit => low visit.event || high visit.event) =
      (draws.filter fun visit => low visit.event) ++
        draws.filter fun visit => high visit.event := by
  induction draws with
  | nil => rfl
  | cons visit rest induction =>
      rcases List.pairwise_cons.mp ascending with ⟨least, others⟩
      have parts := induction others
      by_cases lower : low visit.event
      · have single : high visit.event = false := by
          by_contra higher
          have less := apart _ _ lower (by simpa using higher)
          exact UInt32.lt_irrefl _ less
        simp [lower, single, parts]
      · by_cases higher : high visit.event
        · have none : (rest.filter fun visit => low visit.event) = [] := by
            rw [List.filter_eq_nil_iff]
            intro other inside below
            have less := apart _ _ below higher
            exact UInt32.lt_irrefl _ (UInt32.lt_trans less (least other inside))
          simp [lower, higher, parts, none]
        · simp [lower, higher, parts]

theorem filter_contains_eq_flatMap {draws : List DrawVisit}
    {events : List EventId}
    (ascending : draws.Pairwise fun earlier later => earlier.event < later.event)
    (sorted : events.Pairwise (· < ·)) :
    (draws.filter fun visit => events.contains visit.event) =
      events.flatMap fun event => draws.filter (·.event == event) := by
  induction events with
  | nil => simp
  | cons event rest induction =>
      rcases List.pairwise_cons.mp sorted with ⟨least, others⟩
      have apart (first second : EventId) (same : first == event)
          (inside : rest.contains second) : first < second := by
        rw [eq_of_beq same]
        exact least second (by simpa using inside)
      have split := filter_or_of_ascending ascending apart
      rw [List.flatMap_cons, ← induction others, ← split]
      simp only [List.contains_cons]

/-! ## Ranges -/

section Ranges

variable {draws : List DrawVisit} {wanted : List EventId} {first last : EventId}

theorem filter_beforeLast (least : ∀ event ∈ wanted, first ≤ event) :
    (draws.filter fun visit =>
      ReplayExtent.beforeLast.reaches 0 first visit.event &&
        wanted.contains visit.event) = [] := by
  rw [List.filter_eq_nil_iff]
  intro visit _ both
  simp only [ReplayExtent.reaches, Bool.and_eq_true, Bool.not_eq_true',
    decide_eq_true_eq, beq_self_eq_true, Bool.true_and, beq_eq_false_iff_ne,
    List.contains_iff_mem] at both
  exact both.1.2 (UInt32.le_antisymm both.1.1.2 (least _ both.2))

theorem filter_full
    (bounds : ∀ event ∈ wanted, first ≤ event ∧ event ≤ last) :
    (draws.filter fun visit =>
      ReplayExtent.full.reaches first last visit.event &&
        wanted.contains visit.event) =
      draws.filter fun visit => wanted.contains visit.event := by
  refine List.filter_congr fun visit _ => ?_
  rw [Bool.eq_iff_iff]
  simp only [ReplayExtent.reaches, Bool.and_eq_true, decide_eq_true_eq,
    List.contains_iff_mem]
  constructor
  · exact fun both => both.2
  · exact fun inside => ⟨⟨bounds _ inside, rfl⟩, inside⟩

end Ranges

namespace Engine

variable {σ : Type}

structure Agrees (left right : Engine σ) : Prop where
  settings : left.settings = right.settings
  store : left.store = right.store
  workspace : left.workspace.Agrees right.workspace

namespace Agrees

variable {left middle right : Engine σ}

theorem refl (engine : Engine σ) : engine.Agrees engine :=
  ⟨rfl, rfl, .refl _⟩

theorem symm (agrees : left.Agrees right) : right.Agrees left :=
  ⟨agrees.settings.symm, agrees.store.symm, agrees.workspace.symm⟩

theorem trans (first : left.Agrees middle) (second : middle.Agrees right) :
    left.Agrees right :=
  ⟨first.settings.trans second.settings, first.store.trans second.store,
    first.workspace.trans second.workspace⟩

theorem noteReplay (engine : Engine σ) (first last : EventId)
    (extent : ReplayExtent) :
    (engine.perform (Work.noteReplay first last extent)).2.Agrees engine := by
  refine ⟨rfl, rfl, rfl, rfl, ?_⟩
  have noted := engine.workspace.deviceCalls_cons (.replay first last extent)
    engine.workspace.device
  exact noted.trans (List.append_nil _)

variable [Device σ]

theorem captureDraw (agrees : left.Agrees right) (visit : DrawVisit) :
    (left.captureDraw visit).Agrees (right.captureDraw visit) := by
  rw [Engine.captureDraw, Engine.captureDraw, agrees.store, agrees.settings]
  split
  · exact agrees
  · rcases Work.Blind.captureDraw right.settings visit _ _ agrees.workspace with
      ⟨same, device, scratch, calls⟩
    have stored : left.store.insert visit.event
        ((Work.captureDraw right.settings visit).run left.workspace).1 =
          right.store.insert visit.event
            ((Work.captureDraw right.settings visit).run right.workspace).1 := by
      rw [agrees.store, same]
    exact ⟨agrees.settings, stored, device, scratch, calls⟩

theorem captureDraws (agrees : left.Agrees right) (draws : List DrawVisit) :
    (draws.foldl Engine.captureDraw left).Agrees
      (draws.foldl Engine.captureDraw right) := by
  induction draws generalizing left right with
  | nil => exact agrees
  | cons visit rest induction => exact induction (agrees.captureDraw visit)

end Agrees

/-! ## Requests -/

theorem agrees_requestAll (frame : Frame) (engine : Engine σ)
    (events : List EventId) :
    (engine.requestAll frame events).2.Agrees engine := by
  induction events generalizing engine with
  | nil => exact .refl engine
  | cons event rest induction =>
      rcases exists_counters_request frame engine event with ⟨counters, asked⟩
      have first : (engine.request frame event).2.Agrees engine := by
        rw [asked]
        exact ⟨rfl, rfl, rfl, rfl, rfl⟩
      exact (induction _).trans first

theorem mem_requestAll (frame : Frame) (engine : Engine σ)
    (events : List EventId) (noAliases : engine.store.aliases = [])
    (event : EventId) :
    event ∈ (engine.requestAll frame events).1 ↔
      event ∈ events ∧ (frame.draw? event).isSome ∧
        engine.store.contains event = false := by
  induction events generalizing engine with
  | nil => simp [requestAll]
  | cons first rest induction =>
      have itself : engine.store.resolve first = first := by
        simp [RecordStore.resolve, noAliases]
      have kept : (engine.request frame first).2.store = engine.store := by
        rcases exists_counters_request frame engine first with ⟨_, asked⟩
        rw [asked]
      have pending : event ∈ (engine.request frame first).1.toList ↔
          event = first ∧ (frame.draw? event).isSome ∧
            engine.store.contains event = false := by
        rw [request]
        simp only [store_count, itself]
        split
        · next present =>
            have absurdity : ¬ (event = first ∧
                engine.store.contains event = false) := by
              rintro ⟨rfl, absent⟩
              simp [absent] at present
            simp only [Option.toList_none, List.not_mem_nil, false_iff]
            exact fun both => absurdity ⟨both.1, both.2.2⟩
        · next absent =>
            split
            · next listed =>
                simp only [Option.toList_some, List.mem_singleton]
                constructor
                · rintro rfl
                  exact ⟨rfl, listed, by simpa using absent⟩
                · exact fun both => both.1
            · next unlisted =>
                simp only [Option.toList_none, List.not_mem_nil, false_iff]
                rintro ⟨rfl, listed, -⟩
                exact unlisted listed
      have others := induction (engine.request frame first).2
        (kept ▸ noAliases)
      rw [requestAll]
      simp only [List.mem_append, List.mem_cons, pending, others, kept]
      tauto

/-! ## Replays -/

variable [Device σ] {frame : Frame} {draws : List DrawVisit}
  {engine : Engine σ}

theorem foldl_follow_eq (wanted : List EventId) (engine : Engine σ)
    {visits : List Visit}
    (noSynonyms : ∀ primary synonym, .synonym primary synonym ∉ visits) :
    visits.foldl (follow wanted) engine =
      ((visits.filterMap Visit.draw?).filter fun visit =>
        wanted.contains visit.event).foldl captureDraw engine := by
  induction visits generalizing engine with
  | nil => rfl
  | cons visit rest induction =>
      have later := induction (engine.follow wanted visit)
        fun primary synonym inside =>
          noSynonyms primary synonym (List.mem_cons_of_mem _ inside)
      rw [List.foldl_cons, later]
      cases visit with
      | draw visit =>
          have drawn : Visit.draw? (.draw visit) = some visit := rfl
          rw [follow, List.filterMap_cons_some drawn, List.filter_cons]
          split <;> rfl
      | dispatch event => rw [follow, List.filterMap_cons_none rfl]
      | synonym primary synonym =>
          exact absurd List.mem_cons_self (noSynonyms primary synonym)

theorem agrees_replay (replays : frame.Replays draws) (wanted : List EventId)
    (engine : Engine σ) (first last : EventId) (ordered : first ≤ last)
    (extent : ReplayExtent) :
    (engine.replay frame wanted first last extent).1 = none ∧
      (engine.replay frame wanted first last extent).2.Agrees
        ((draws.filter fun visit =>
            extent.reaches first last visit.event &&
              wanted.contains visit.event).foldl captureDraw engine) := by
  refine ⟨replays.succeeds first last extent ordered, ?_⟩
  rw [replay]
  simp only
  rw [foldl_follow_eq _ _ (replays.noSynonyms first last extent ordered),
    replays.passes first last extent ordered, List.filter_filter]
  simp only [Bool.and_comm]
  exact (Agrees.noteReplay engine first last extent).captureDraws _

theorem foldl_captureDraw_filter (kept : EventId → Bool) (engine : Engine σ)
    (rest : ∀ event, kept event = false → engine.store.contains event)
    (draws : List DrawVisit) :
    (draws.filter fun visit => kept visit.event).foldl captureDraw engine =
      draws.foldl captureDraw engine := by
  have grows (engine : Engine σ) (visit : DrawVisit) (event : EventId)
      (held : engine.store.contains event) :
      (engine.captureDraw visit).store.contains event := by
    rw [captureDraw]
    split
    · exact held
    · exact RecordStore.contains_insert held _ _
  induction draws generalizing engine with
  | nil => rfl
  | cons visit others induction =>
      cases keeps : kept visit.event with
      | true =>
          have later := induction (engine.captureDraw visit)
            fun event dropped => grows engine visit event (rest event dropped)
          simpa [keeps] using later
      | false =>
          have same : engine.captureDraw visit = engine := by
            rw [captureDraw, if_pos (rest _ keeps)]
          simpa [keeps, same] using induction engine rest

def requested (frame : Frame) (draws : List DrawVisit) (events : List EventId) :
    List DrawVisit :=
  draws.filter fun visit =>
    events.contains visit.event && (frame.draw? visit.event).isSome

/-- That the draws among the events which have a record are left out makes no
difference. -/
theorem foldl_captureDraw_requested (draws : List DrawVisit)
    {events wanted : List EventId}
    (wantedIff : ∀ event, event ∈ wanted ↔
      event ∈ events ∧ (frame.draw? event).isSome ∧
        engine.store.contains event = false) :
    (draws.filter fun visit => wanted.contains visit.event).foldl captureDraw
        engine =
      (requested frame draws events).foldl captureDraw engine := by
  have passed := foldl_captureDraw_filter
    (fun event => !engine.store.contains event) engine (by simp)
    (requested frame draws events)
  rw [← passed, requested, List.filter_filter]
  refine congrArg (List.foldl captureDraw engine)
    (List.filter_congr fun visit _ => ?_)
  rw [Bool.eq_iff_iff]
  simp only [List.contains_iff_mem, wantedIff, Bool.and_eq_true,
    Bool.not_eq_true']
  tauto

theorem agrees_captureAll (replays : frame.Replays draws)
    (noAliases : engine.store.aliases = []) (events : List EventId) :
    (engine.captureAll frame events).1 = .ok () ∧
      (engine.captureAll frame events).2.Agrees
        ((requested frame draws events).foldl captureDraw engine) := by
  have asked := agrees_requestAll frame engine events
  have pending (event : EventId) :=
    mem_requestAll frame engine events noAliases event
  rw [captureAll]
  generalize engine.requestAll frame events = answer at asked pending
  rcases answer with ⟨found, noted⟩
  simp only at asked pending ⊢
  have sorted := Ascending.pairwise_ofList found
  have wantedIff (event : EventId) := (Ascending.mem_ofList found event).trans
    (pending event)
  generalize Ascending.ofList found = wanted at sorted wantedIff
  have whole := foldl_captureDraw_requested draws wantedIff
  split
  · next first last starts ends =>
      have bounds := bounds_of_ascending sorted starts ends
      have least : first ∈ wanted := List.mem_of_head? starts
      -- The first replay comes to none of the wanted draws, the second to all.
      have upTo := agrees_replay replays wanted noted 0 first (by simp)
        .beforeLast
      rw [filter_beforeLast fun event inside => (bounds event inside).1] at upTo
      generalize noted.replay frame wanted 0 first .beforeLast = answer at upTo
      rcases answer with ⟨cause, reached⟩
      rcases upTo with ⟨rfl, upTo⟩
      have through := agrees_replay replays wanted reached first last
        (bounds first least).2 .full
      rw [filter_full bounds] at through
      simp only
      generalize reached.replay frame wanted first last .full = answer at through
      rcases answer with ⟨cause, done⟩
      rcases through with ⟨rfl, through⟩
      refine ⟨rfl, ?_⟩
      rw [← whole]
      exact through.trans ((upTo.trans asked).captureDraws _)
  · next missing =>
      have empty : wanted = [] := by
        cases wanted with
        | nil => rfl
        | cons first rest =>
            exact (missing first _ rfl List.getLast?_cons).elim
      refine ⟨rfl, ?_⟩
      rw [← whole, empty]
      simpa using asked

theorem aliases_captureDraws (draws : List DrawVisit) :
    (draws.foldl captureDraw engine).store.aliases = engine.store.aliases := by
  induction draws generalizing engine with
  | nil => rfl
  | cons visit rest induction =>
      exact induction.trans (aliases_captureDraw engine visit)

theorem agrees_captures (replays : frame.Replays draws)
    (noAliases : engine.store.aliases = []) (events : List EventId) :
    (events.foldl (fun engine event => (engine.capture frame event).2)
        engine).Agrees
      ((events.flatMap fun event => requested frame draws [event]).foldl
        captureDraw engine) := by
  induction events generalizing engine with
  | nil => exact .refl engine
  | cons event rest induction =>
      have first := (agrees_captureAll replays noAliases [event]).2
      have still : (engine.capture frame event).2.store.aliases = [] :=
        (congrArg RecordStore.aliases first.store).trans
          ((aliases_captureDraws _).trans noAliases)
      rw [List.foldl_cons, List.flatMap_cons, List.foldl_append]
      exact (induction still).trans (first.captureDraws _)

omit [Device σ] in
theorem requested_eq_flatMap (replays : frame.Replays draws)
    (events : List EventId) :
    requested frame draws events =
      (Ascending.ofList events).flatMap fun event =>
        requested frame draws [event] := by
  have among (events : List EventId) : requested frame draws events =
      (draws.filter fun visit => (frame.draw? visit.event).isSome).filter
        fun visit => events.contains visit.event := by
    rw [requested, List.filter_filter]
  have members (visit : DrawVisit) : events.contains visit.event =
      (Ascending.ofList events).contains visit.event := by
    rw [Bool.eq_iff_iff, List.contains_iff_mem, List.contains_iff_mem,
      Ascending.mem_ofList]
  simp only [among, members, List.contains_cons, List.contains_nil,
    Bool.or_false]
  exact filter_contains_eq_flatMap (replays.ascending.filter _)
    (Ascending.pairwise_ofList events)

/-- Captures of several events at once and of each of them in ascending order
make the same calls to the device and leave the same records and the same
scratch set, and it does not matter in what order and how often the events are
named. -/
theorem captureAll_agrees (replays : frame.Replays draws)
    (noAliases : engine.store.aliases = []) (events : List EventId) :
    let batch := engine.captureAll frame events
    batch.1 = .ok () ∧
      batch.2.Agrees ((Ascending.ofList events).foldl
        (fun engine event => (engine.capture frame event).2) engine) ∧
      ∀ others : List EventId, (∀ event, event ∈ others ↔ event ∈ events) →
        (engine.captureAll frame others).1 = .ok () ∧
          (engine.captureAll frame others).2.Agrees batch.2 := by
  intro batch
  rcases agrees_captureAll replays noAliases events with ⟨succeeds, made⟩
  refine ⟨succeeds, ?_, ?_⟩
  · rw [requested_eq_flatMap replays] at made
    exact made.trans (agrees_captures replays noAliases _).symm
  · intro others same
    rcases agrees_captureAll replays noAliases others with ⟨succeedsToo, again⟩
    have wanted : requested frame draws others = requested frame draws events := by
      have members (visit : DrawVisit) :
          others.contains visit.event = events.contains visit.event := by
        rw [Bool.eq_iff_iff, List.contains_iff_mem, List.contains_iff_mem, same]
      simp only [requested, members]
    rw [wanted] at again
    exact ⟨succeedsToo, again.trans made.symm⟩

/-- One of the draws has a record already, which is that of a refused list, one of
the events is a dispatch, and some are named twice. -/
theorem captureAll_agrees_refused :
    let frame := Scripted.frameOf
      [Scripted.triangle 1 false, { event := 2, dispatch := true },
        Scripted.triangle 3 true, Scripted.triangle 4 false]
    let engine := (new Scripted.refusingDevice Scripted.smallScratch).run
      [.captureAll frame [1]]
    let batch := engine.captureAll frame [4, 2, 1, 4, 3]
    let each := [1, 2, 3, 4].foldl
      (fun engine event => (engine.capture frame event).2) engine
    batch.1 = .ok () ∧ batch.2.Agrees each ∧
      (engine.captureAll frame [4, 2, 1, 4, 3].reverse).2.Agrees batch.2 ∧
      batch.2.store.records.map Prod.fst = [1, 3, 4] := by
  intro frame engine batch each
  have replays : frame.Replays _ :=
    Scripted.replays_frameOf (by decide +kernel) (by decide +kernel)
      (by decide +kernel)
  have noAliases : engine.store.aliases = [] := by decide +kernel
  have sorted : Ascending.ofList [4, 2, 1, 4, 3] = [1, 2, 3, 4] := by
    decide +kernel
  rcases captureAll_agrees replays noAliases [4, 2, 1, 4, 3] with
    ⟨succeeds, agrees, others⟩
  rw [sorted] at agrees
  have again := others [4, 2, 1, 4, 3].reverse fun event => List.mem_reverse
  exact ⟨succeeds, agrees, again.2, by decide +kernel⟩

end Engine

end MeshCapture
