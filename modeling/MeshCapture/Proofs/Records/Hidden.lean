import MeshCapture.Proofs.Aliases
import MeshCapture.Proofs.EngineLaw
import MeshCapture.Scripted.Session

/-! # Hidden records

A record is found under the event that the asked one stands for. An event that
has a record of its own shows it only while it stands for itself. A registration
does not look whether its alias has a record, and so it may hide one. -/

namespace MeshCapture

namespace RecordStore

def ShowsOwn (store : RecordStore) : Prop :=
  ∀ event, (store.own? event).isSome = true → store.resolve event = event

theorem showsOwn_empty : ({} : RecordStore).ShowsOwn :=
  fun _ _ => rfl

theorem ShowsOwn.find?_eq {store : RecordStore} (shows : store.ShowsOwn)
    {event : EventId} {record : EventRecord}
    (stored : store.own? event = some record) :
    store.find? event = some record := by
  have itself : store.resolve event = event := shows event (by simp [stored])
  rw [find?, itself, stored]

theorem showsOwn_addAlias_iff {store : RecordStore} (shows : store.ShowsOwn)
    (primary synonym : EventId) :
    (store.addAlias primary synonym).ShowsOwn ↔
      store.resolve primary = synonym ∨ store.own? synonym = none := by
  by_cases vacuous : store.resolve primary = synonym
  · refine iff_of_true ?_ (.inl vacuous)
    intro event stored
    rw [own?_addAlias] at stored
    simpa [resolve_addAlias, vacuous] using shows event stored
  · constructor
    · intro showsAfter
      refine .inr (Option.not_isSome_iff_eq_none.mp fun stored => ?_)
      have itself := showsAfter synonym (by simpa using stored)
      rw [resolve_addAlias, if_pos ⟨rfl, vacuous⟩] at itself
      exact vacuous itself
    · rintro (same | unrecorded) event stored
      · exact absurd same vacuous
      · rw [own?_addAlias] at stored
        have other : event ≠ synonym := by
          rintro rfl
          simp [unrecorded] at stored
        rw [resolve_addAlias, if_neg fun both => other both.1]
        exact shows event stored

theorem showsOwn_insert_iff {store : RecordStore} (shows : store.ShowsOwn)
    (event : EventId) (record : EventRecord) :
    (store.insert event record).ShowsOwn ↔
      store.resolve (store.resolve event) = store.resolve event := by
  have stored (other : EventId) : (store.insert event record).own? other =
      (store.own? other).or
        (if other = store.resolve event then some record else none) :=
    own?_insert store event other record
  constructor
  · intro showsAfter
    have itself := showsAfter (store.resolve event) (by simp [stored])
    rwa [resolve_insert] at itself
  · intro flat other present
    rw [resolve_insert]
    by_cases same : other = store.resolve event
    · rw [same, flat]
    · exact shows other (by simpa [stored, same] using present)

theorem find?_addAlias (store : RecordStore)
    (primary synonym event : EventId) :
    (store.addAlias primary synonym).find? event =
      if event = synonym ∧ store.resolve primary ≠ synonym then
        store.find? primary
      else
        store.find? event := by
  rw [find?, own?_addAlias, resolve_addAlias]
  split <;> rfl

end RecordStore

namespace Engine

variable {σ : Type}

/-- The act makes no alias of an event that has a record of its own, and
captures no draw whose event stands for an alias. -/
def Permits (engine : Engine σ) : Act → Prop
  | .addAlias primary synonym =>
      engine.store.resolve primary = synonym ∨
        engine.store.own? synonym = none
  | .captureDraw visit =>
      let canonical := engine.store.resolve visit.event
      engine.store.resolve canonical = canonical
  | .request .. | .noteReplay .. | .clear => True

variable [Device σ]

theorem showsOwn_act_iff (engine : Engine σ) (act : Act)
    (shows : engine.store.ShowsOwn) :
    (engine.act act).store.ShowsOwn ↔ engine.Permits act := by
  cases act with
  | request frame event =>
      rcases exists_counters_request frame engine event with ⟨counters, asked⟩
      rw [Engine.act, asked]
      exact iff_of_true shows trivial
  | noteReplay first last extent => exact iff_of_true shows trivial
  | addAlias primary synonym =>
      exact RecordStore.showsOwn_addAlias_iff shows primary synonym
  | captureDraw visit =>
      rw [Engine.act, captureDraw]
      split
      · next present => exact iff_of_true shows (shows _ present)
      · exact RecordStore.showsOwn_insert_iff shows visit.event _
  | clear => exact iff_of_true RecordStore.showsOwn_empty trivial

/-- Behind every act of a run each event with a record of its own finds it,
exactly when every act is permitted: a registration makes no alias of an event
with a record, and no draw is captured whose event stands for an alias. An event
that finds a record goes on to find one behind a registration unless it becomes
an alias of an event that finds none. -/
theorem records_shown_iff (device : σ) (settings : Settings)
    (operations : List Operation) :
    let start := new device settings
    let acts := start.acts operations
    let behind (front : List Act) := front.foldl act start
    ((∀ front, front <+: acts → (behind front).store.ShowsOwn) ↔
      Throughout (fun earlier => (behind earlier).Permits) acts) ∧
    ∀ front, front <+: acts →
      ((behind front).store.ShowsOwn → ∀ event record,
        (behind front).store.own? event = some record →
          (behind front).record? event = some record) ∧
      ∀ primary synonym event,
        ((behind front).record? event).isSome = true →
        ((((behind front).addAlias primary synonym).record? event).isSome =
            true ↔
          event ≠ synonym ∨ (behind front).store.resolve primary = synonym ∨
            ((behind front).record? primary).isSome = true) := by
  intro start acts behind
  refine ⟨?_, fun front inside => ⟨fun shows event record stored => ?_, ?_⟩⟩
  · exact Throughout.foldl_prefixes_iff
      (fun engine : Engine σ => engine.store.ShowsOwn)
      RecordStore.showsOwn_empty showsOwn_act_iff acts
  · exact shows.find?_eq stored
  · intro primary synonym event found
    have finds : ((behind front).addAlias primary synonym).record? event = _ :=
      RecordStore.find?_addAlias _ primary synonym event
    rw [finds]
    split
    · next hidden => simp [hidden.1, hidden.2, record?]
    · next other =>
        refine iff_of_true found ?_
        rcases not_and_or.mp other with different | vacuous
        · exact .inl different
        · exact .inr (.inl (not_not.mp vacuous))

/-- The first draw has a record when its event becomes an alias of the second
draw, which has none. -/
theorem records_hidden :
    let engine := (new Scripted.interruptedDevice Scripted.smallScratch).run
      [.captureAll (Scripted.frameOf [Scripted.triangle 1 false]) [1]]
    let next := engine.apply (.addAlias 2 1)
    (engine.record? 1).isSome ∧ (next.store.own? 1).isSome ∧
      next.store.resolve 1 ≠ 1 ∧ next.record? 1 = none := by
  decide +kernel

end Engine

end MeshCapture
