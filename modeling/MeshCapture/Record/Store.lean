import MeshCapture.Record.Basic

/-! # The record store

Records are kept under the event they were captured for. An event may be an
alias of another one, whose record it then shares. `own?_insert` says what
storing a record changes, and `resolve_addAlias` what an alias does. -/

namespace MeshCapture

structure RecordStore where
  /-- Records in the order they were made, at most one for an event. -/
  records : List (EventId × EventRecord) := []
  /-- Aliases and the events they stand for, the newest first. -/
  aliases : List (EventId × EventId) := []
deriving DecidableEq, Inhabited

namespace RecordStore

def resolve (store : RecordStore) (event : EventId) : EventId :=
  (store.aliases.lookup event).getD event

def own? (store : RecordStore) (event : EventId) : Option EventRecord :=
  store.records.lookup event

def find? (store : RecordStore) (event : EventId) : Option EventRecord :=
  store.own? (store.resolve event)

def contains (store : RecordStore) (event : EventId) : Bool :=
  (store.find? event).isSome

def size (store : RecordStore) : Nat :=
  store.records.length

/-- Stores `record` under the event that `event` stands for. A record that is
there already stays. -/
def insert (store : RecordStore) (event : EventId) (record : EventRecord) :
    RecordStore :=
  if store.contains event then
    store
  else
    { store with
      records := store.records ++ [(store.resolve event, record)] }

/-- Makes `synonym` stand for what `primary` stands for. An event never becomes
an alias of itself. -/
def addAlias (store : RecordStore) (primary synonym : EventId) : RecordStore :=
  let canonical := store.resolve primary
  if canonical = synonym then
    store
  else
    { store with aliases := (synonym, canonical) :: store.aliases }

def buffers (store : RecordStore) : List BufferHandle :=
  store.records.flatMap fun entry => entry.2.buffers

/-! ## What the operations change -/

private theorem lookup_append_single {β : Type} (entries : List (EventId × β))
    (key event : EventId) (value : β) :
    (entries ++ [(key, value)]).lookup event =
      (entries.lookup event).or (if event = key then some value else none) := by
  induction entries with
  | nil =>
      rw [List.nil_append, List.lookup_cons, List.lookup_nil]
      by_cases equal : event = key
      · simp [equal]
      · simp [equal, beq_false_of_ne equal]
  | cons head tail induction =>
      rw [List.cons_append, List.lookup_cons, List.lookup_cons, induction]
      by_cases equal : event = head.1
      · simp [equal]
      · simp [beq_false_of_ne equal]

@[simp] theorem resolve_insert (store : RecordStore) (event other : EventId)
    (record : EventRecord) :
    (store.insert event record).resolve other = store.resolve other := by
  unfold insert
  split <;> rfl

theorem own?_insert (store : RecordStore) (event other : EventId)
    (record : EventRecord) :
    (store.insert event record).own? other =
      (store.own? other).or
        (if other = store.resolve event then some record else none) := by
  unfold insert
  split
  · next present =>
      split
      · next equal =>
          subst equal
          have held : (store.own? (store.resolve event)).isSome = true :=
            present
          cases stored : store.own? (store.resolve event) with
          | none => simp [stored] at held
          | some _ => rfl
      · cases store.own? other <;> rfl
  · exact lookup_append_single store.records _ _ _

theorem find?_insert_self (store : RecordStore) (event : EventId)
    (record : EventRecord) :
    (store.insert event record).find? event =
      some ((store.find? event).getD record) := by
  rw [find?, resolve_insert, own?_insert, find?]
  cases store.own? (store.resolve event) <;> simp

theorem resolve_addAlias (store : RecordStore)
    (primary synonym event : EventId) :
    (store.addAlias primary synonym).resolve event =
      if event = synonym ∧ store.resolve primary ≠ synonym then
        store.resolve primary
      else
        store.resolve event := by
  unfold addAlias
  simp only
  split
  · next same => simp [same]
  · next different =>
      rw [resolve, List.lookup_cons]
      by_cases equal : event = synonym
      · simp [equal, different]
      · simp [equal, beq_false_of_ne equal, resolve]

@[simp] theorem own?_addAlias (store : RecordStore)
    (primary synonym event : EventId) :
    (store.addAlias primary synonym).own? event = store.own? event := by
  unfold addAlias
  simp only
  split <;> rfl

end RecordStore

end MeshCapture
