import MeshCapture.Engine
import MeshCapture.Proofs.History
import MeshCapture.Scripted.Device
import MeshCapture.Scripted.Frame
import Mathlib.Data.List.Induction

/-! # Alias tables

An alias is looked up once, and so it has to stand for an event that is no alias
itself. A registration looks its primary event up and sees to that for the new
alias. It does not see to the events that stand for the new alias already, and
the table stays flat just as long as there are none. -/

namespace MeshCapture

namespace RecordStore

/-- No event stands for one that stands for another. -/
def Flat (store : RecordStore) : Prop :=
  ∀ event, store.resolve (store.resolve event) = store.resolve event

def addAliases (store : RecordStore)
    (registrations : List (EventId × EventId)) : RecordStore :=
  registrations.foldl (fun store pair => store.addAlias pair.1 pair.2) store

/-- A registration changes nothing, or makes an alias of an event that no other
one stands for. -/
def Admits (store : RecordStore) (registration : EventId × EventId) : Prop :=
  store.resolve registration.1 = registration.2 ∨
    ∀ event, store.resolve event = registration.2 → event = registration.2

theorem flat_empty : ({} : RecordStore).Flat :=
  fun _ => rfl

@[simp] theorem addAliases_concat (store : RecordStore)
    (registrations : List (EventId × EventId))
    (registration : EventId × EventId) :
    store.addAliases (registrations ++ [registration]) =
      (store.addAliases registrations).addAlias registration.1
        registration.2 := by
  simp [addAliases]

theorem addAliases_append (store : RecordStore)
    (registrations more : List (EventId × EventId)) :
    store.addAliases (registrations ++ more) =
      (store.addAliases registrations).addAliases more := by
  simp [addAliases]

/-! ## Flat tables -/

theorem flat_addAlias_iff {store : RecordStore} (flat : store.Flat)
    (primary synonym : EventId) :
    (store.addAlias primary synonym).Flat ↔
      store.Admits (primary, synonym) := by
  by_cases vacuous : store.resolve primary = synonym
  · have same : store.addAlias primary synonym = store := by
      simp [addAlias, vacuous]
    rw [same]
    exact iff_of_true flat (.inl vacuous)
  · have resolves (event : EventId) :
        (store.addAlias primary synonym).resolve event =
          if event = synonym then store.resolve primary
          else store.resolve event := by
      simp [resolve_addAlias, vacuous]
    constructor
    · intro flatAfter
      refine .inr fun event stands => ?_
      by_contra other
      have twice := flatAfter event
      rw [resolves event, if_neg other, stands, resolves, if_pos rfl] at twice
      exact vacuous twice
    · rintro (same | alone) event
      · exact absurd same vacuous
      · rw [resolves event]
        split
        · rw [resolves, if_neg vacuous]
          exact flat primary
        · next other =>
            rw [resolves, if_neg fun stands => other (alone event stands)]
            exact flat event

/-- A table is flat behind every registration exactly when each of them is
admitted. -/
theorem flat_prefixes_iff {store : RecordStore} (flat : store.Flat)
    (registrations : List (EventId × EventId)) :
    (∀ front, front <+: registrations → (store.addAliases front).Flat) ↔
      Throughout (fun earlier registration =>
        (store.addAliases earlier).Admits registration) registrations :=
  Throughout.foldl_prefixes_iff Flat flat
    (fun _ registration flatBefore =>
      flat_addAlias_iff flatBefore registration.1 registration.2)
    registrations

theorem resolve_addAlias_self {store : RecordStore} (flat : store.Flat)
    (primary synonym : EventId) :
    (store.addAlias primary synonym).resolve synonym =
      store.resolve primary := by
  rw [resolve_addAlias]
  split
  · rfl
  · next vacuous =>
      have same : store.resolve primary = synonym := by simpa using vacuous
      rw [← same]
      exact flat primary

theorem resolve_addAliases_of_forall_ne (store : RecordStore)
    {registrations : List (EventId × EventId)} {event : EventId}
    (others : ∀ registration ∈ registrations, registration.2 ≠ event) :
    (store.addAliases registrations).resolve event = store.resolve event := by
  induction registrations using List.reverseRecOn with
  | nil => rfl
  | append_singleton registrations registration induction =>
      have last : event ≠ registration.2 :=
        (others registration (by simp)).symm
      rw [addAliases_concat, resolve_addAlias, if_neg fun both => last both.1]
      exact induction fun earlier inside => others earlier (by simp [inside])

/-! ## The same aliases -/

@[simp] theorem aliases_insert (store : RecordStore) (event : EventId)
    (record : EventRecord) :
    (store.insert event record).aliases = store.aliases := by
  unfold insert
  split <;> rfl

theorem resolve_congr {left right : RecordStore}
    (same : left.aliases = right.aliases) (event : EventId) :
    left.resolve event = right.resolve event := by
  rw [resolve, resolve, same]

theorem aliases_addAlias_congr {left right : RecordStore}
    (same : left.aliases = right.aliases) (primary synonym : EventId) :
    (left.addAlias primary synonym).aliases =
      (right.addAlias primary synonym).aliases := by
  simp only [addAlias, resolve_congr same]
  split
  · exact same
  · rw [same]

theorem aliases_addAliases_congr {left right : RecordStore}
    (same : left.aliases = right.aliases)
    (registrations : List (EventId × EventId)) :
    (left.addAliases registrations).aliases =
      (right.addAliases registrations).aliases := by
  induction registrations using List.reverseRecOn with
  | nil => exact same
  | append_singleton registrations registration induction =>
      rw [addAliases_concat, addAliases_concat]
      exact aliases_addAlias_congr induction _ _

end RecordStore

/-! ## Registrations of a run -/

def Visit.registered (wanted : List EventId) :
    (visit : Visit) → List (EventId × EventId)
  | .draw _ | .dispatch _ => []
  | .synonym primary other =>
      if wanted.contains primary then [(primary, other)] else []

/-- All visits made to capture the wanted events: up to the first of them and,
unless the replay stopped there, from the first through the last. -/
def Frame.followed (frame : Frame) (wanted : List EventId) : List Visit :=
  match wanted.head?, wanted.getLast? with
  | some first, some last =>
      let before := frame.replay 0 first .beforeLast
      if before.failure.isSome then
        before.visits
      else
        before.visits ++ (frame.replay first last .full).visits
  | _, _ => []

namespace Engine

variable {σ : Type}

def registered (engine : Engine σ) (before : List (EventId × EventId)) :
    Operation → List (EventId × EventId)
  | .captureAll frame events =>
      let wanted := Ascending.ofList (engine.requestAll frame events).1
      before ++ (frame.followed wanted).flatMap (Visit.registered wanted)
  | .addAlias primary synonym => before ++ [(primary, synonym)]
  | .clear => []

def registrations [Device σ] (engine : Engine σ)
    (before : List (EventId × EventId)) :
    (operations : List Operation) → List (EventId × EventId)
  | [] => before
  | operation :: rest =>
      (engine.apply operation).registrations
        (engine.registered before operation) rest

theorem store_requestAll (frame : Frame) (engine : Engine σ)
    (events : List EventId) :
    (engine.requestAll frame events).2.store = engine.store := by
  induction events generalizing engine with
  | nil => rfl
  | cons event rest induction =>
      have first : (engine.request frame event).2.store = engine.store := by
        rw [request]
        simp only
        split <;> rfl
      exact (induction _).trans first

variable [Device σ]

@[simp] theorem aliases_captureDraw (engine : Engine σ) (visit : DrawVisit) :
    (engine.captureDraw visit).store.aliases = engine.store.aliases := by
  rw [captureDraw]
  split
  · rfl
  · exact RecordStore.aliases_insert _ _ _

theorem aliases_follow (wanted : List EventId) (engine : Engine σ)
    (visit : Visit) :
    (engine.follow wanted visit).store.aliases =
      (engine.store.addAliases (visit.registered wanted)).aliases := by
  cases visit with
  | draw visit =>
      simp only [follow]
      split
      · exact aliases_captureDraw engine visit
      · rfl
  | dispatch event => rfl
  | synonym primary synonym =>
      simp only [follow, Visit.registered]
      split <;> rfl

theorem aliases_foldl_follow (wanted : List EventId) (engine : Engine σ)
    (visits : List Visit) :
    (visits.foldl (follow wanted) engine).store.aliases =
      (engine.store.addAliases
        (visits.flatMap (Visit.registered wanted))).aliases := by
  induction visits generalizing engine with
  | nil => rfl
  | cons visit rest induction =>
      rw [List.foldl_cons, induction, List.flatMap_cons,
        RecordStore.addAliases_append]
      exact RecordStore.aliases_addAliases_congr
        (aliases_follow wanted engine visit) _

theorem aliases_replay (frame : Frame) (wanted : List EventId)
    (engine : Engine σ) (first last : EventId) (extent : ReplayExtent) :
    (engine.replay frame wanted first last extent).2.store.aliases =
      (engine.store.addAliases
        ((frame.replay first last extent).visits.flatMap
          (Visit.registered wanted))).aliases :=
  aliases_foldl_follow wanted _ _

theorem aliases_captureAll (frame : Frame) (engine : Engine σ)
    (events : List EventId) :
    (engine.captureAll frame events).2.store.aliases =
      (engine.store.addAliases
        (engine.registered [] (.captureAll frame events))).aliases := by
  have requested := congrArg RecordStore.aliases
    (store_requestAll frame engine events)
  rw [captureAll, registered, List.nil_append]
  generalize engine.requestAll frame events = answer at requested ⊢
  rcases answer with ⟨pending, asked⟩
  simp only [Frame.followed] at requested ⊢
  cases (Ascending.ofList pending).head? with
  | none => exact requested
  | some first =>
      cases (Ascending.ofList pending).getLast? with
      | none => exact requested
      | some last =>
          simp only
          generalize Ascending.ofList pending = wanted
          have upTo := (aliases_replay frame wanted asked 0 first
            .beforeLast).trans
              (RecordStore.aliases_addAliases_congr requested _)
          have stopped : (asked.replay frame wanted 0 first .beforeLast).1 =
            (frame.replay 0 first .beforeLast).failure := rfl
          generalize asked.replay frame wanted 0 first .beforeLast = reached
            at upTo stopped ⊢
          rcases reached with ⟨failure, there⟩
          simp only at upTo stopped ⊢
          cases failure with
          | some cause => simpa [← stopped] using upTo
          | none =>
              have through := (aliases_replay frame wanted there first last
                .full).trans (RecordStore.aliases_addAliases_congr upTo _)
              rw [← stopped]
              simp only [Option.isSome_none, Bool.false_eq_true, ite_false,
                List.flatMap_append, RecordStore.addAliases_append]
              rw [← through]
              split <;> rename_i reached <;> rw [reached]

theorem aliases_apply (engine : Engine σ)
    {before : List (EventId × EventId)}
    (known : engine.store.aliases =
      (({} : RecordStore).addAliases before).aliases)
    (operation : Operation) :
    (engine.apply operation).store.aliases =
      (({} : RecordStore).addAliases
        (engine.registered before operation)).aliases := by
  cases operation with
  | captureAll frame events =>
      have captured := (aliases_captureAll frame engine events).trans
        (RecordStore.aliases_addAliases_congr known _)
      rwa [← RecordStore.addAliases_append] at captured
  | addAlias primary synonym =>
      rw [registered, RecordStore.addAliases_concat]
      exact RecordStore.aliases_addAlias_congr known primary synonym
  | clear => rfl

theorem aliases_run (engine : Engine σ) {before : List (EventId × EventId)}
    (known : engine.store.aliases =
      (({} : RecordStore).addAliases before).aliases)
    (operations : List Operation) :
    (engine.run operations).store.aliases =
      (({} : RecordStore).addAliases
        (engine.registrations before operations)).aliases := by
  induction operations generalizing engine before with
  | nil => exact known
  | cons operation rest induction =>
      exact induction _ (aliases_apply engine known operation)

/-- The alias table of a run is made of the registrations alone. It is flat
behind each of them exactly when none of them makes an alias of an event that
others stand for. Then the last registration of an alias holds: its event is an
alias of none, and the alias shares what is recorded for it. -/
theorem aliases_flat_iff (device : σ) (settings : Settings)
    (operations : List Operation) :
    let engine := (new device settings).run operations
    let registrations := (new device settings).registrations [] operations
    let table (earlier : List (EventId × EventId)) : RecordStore :=
      ({} : RecordStore).addAliases earlier
    let admitted := Throughout (fun earlier registration =>
      (table earlier).Admits registration) registrations
    (∀ event, engine.store.resolve event =
        (table registrations).resolve event) ∧
      ((∀ front, front <+: registrations → (table front).Flat) ↔ admitted) ∧
      (admitted → engine.store.Flat ∧
        ∀ earlier primary synonym later,
          registrations = earlier ++ (primary, synonym) :: later →
          (∀ registration ∈ later, registration.2 ≠ synonym) →
          let canonical := (table earlier).resolve primary
          engine.store.resolve synonym = canonical ∧
            engine.store.resolve canonical = canonical ∧
            engine.record? synonym = engine.record? canonical) := by
  intro engine registrations table admitted
  have resolves (event : EventId) : engine.store.resolve event =
      (table registrations).resolve event :=
    RecordStore.resolve_congr
      (aliases_run (new device settings) rfl operations) event
  have flats : (∀ front, front <+: registrations → (table front).Flat) ↔
      admitted :=
    RecordStore.flat_prefixes_iff RecordStore.flat_empty registrations
  refine ⟨resolves, flats, fun admits => ?_⟩
  have flat : engine.store.Flat := by
    intro event
    simp only [resolves]
    exact flats.mpr admits _ List.prefix_rfl event
  refine ⟨flat, fun earlier primary synonym later split others => ?_⟩
  intro canonical
  have early : (table earlier).Flat :=
    flats.mpr admits _ (split ▸ List.prefix_append _ _)
  have stands : engine.store.resolve synonym = canonical := by
    rw [resolves, split]
    have whole : table (earlier ++ (primary, synonym) :: later) =
        ((table earlier).addAlias primary synonym).addAliases later :=
      RecordStore.addAliases_append _ _ _
    rw [whole, RecordStore.resolve_addAliases_of_forall_ne _ others]
    exact RecordStore.resolve_addAlias_self early primary synonym
  have itself : engine.store.resolve canonical = canonical :=
    stands ▸ flat synonym
  refine ⟨stands, itself, ?_⟩
  rw [record?, record?, RecordStore.find?, RecordStore.find?, stands, itself]

/-- Event 2 stands for event 1 when that becomes an alias of event 3. It is left
without a record, while events 1 and 3 share one. -/
theorem aliases_chained :
    let engine := (new ({} : Scripted.Device) {}).run
      [.addAlias 1 2, .addAlias 3 1,
        .captureAll (Scripted.frameOf [Scripted.triangle 3 false]) [3]]
    ¬ engine.store.Flat ∧
      (engine.record? 3).isSome ∧ engine.record? 1 = engine.record? 3 ∧
      engine.record? 2 = none := by
  intro engine
  have second : engine.store.resolve 2 = 1 := by decide +kernel
  have first : engine.store.resolve 1 = 3 := by decide +kernel
  have third : engine.store.resolve 3 = 3 := by decide +kernel
  refine ⟨fun flat => ?_, by decide +kernel, ?_, by decide +kernel⟩
  · have twice := flat 2
    rw [second, first] at twice
    exact absurd twice (by decide)
  · rw [record?, record?, RecordStore.find?, RecordStore.find?, first, third]

end Engine

end MeshCapture
