import MeshCapture.Device.Call
import Mathlib.Data.List.Induction

/-! # Histories

Laws about the course of a run speak of every point of it: of a call and the
calls before it, or of a command and all that was executed before it.
`throughout_concat` is how such a law grows with the run. -/

namespace MeshCapture

/-- `check` holds of every event of a history and the events before it. -/
def Throughout {α : Type} (check : List α → α → Prop) (history : List α) :
    Prop :=
  ∀ earlier event later,
    history = earlier ++ event :: later → check earlier event

namespace Throughout

variable {α : Type} {check weaker : List α → α → Prop}

theorem nil : Throughout check [] := by
  intro earlier event later split
  simp at split

theorem concat_iff {history : List α} {event : α} :
    Throughout check (history ++ [event]) ↔
      Throughout check history ∧ check history event := by
  constructor
  · intro holds
    refine ⟨?_, holds history event [] rfl⟩
    intro earlier inner later split
    exact holds earlier inner (later ++ [event]) (by simp [split])
  · intro ⟨before, last⟩ earlier inner later split
    rcases List.eq_nil_or_concat later with empty | ⟨front, final, ends⟩
    · subst empty
      have parts := List.append_inj' split rfl
      have same : event = inner := by simpa using parts.2
      exact parts.1 ▸ same ▸ last
    · have whole :
          history ++ [event] = (earlier ++ inner :: front) ++ [final] := by
        simpa [ends] using split
      exact before earlier inner front (List.append_inj' whole rfl).1

theorem cons_iff {history : List α} {event : α} :
    Throughout check (event :: history) ↔
      check [] event ∧ Throughout (fun earlier => check (event :: earlier))
        history := by
  constructor
  · intro holds
    refine ⟨holds [] event history rfl, ?_⟩
    intro earlier inner later split
    exact holds (event :: earlier) inner later (by simp [split])
  · intro ⟨first, rest⟩ earlier inner later split
    cases earlier with
    | nil =>
        have parts : event = inner ∧ history = later := by simpa using split
        exact parts.1 ▸ first
    | cons head earlier =>
        have parts : event = head ∧ history = earlier ++ inner :: later := by
          simpa using split
        exact parts.1 ▸ rest earlier inner later parts.2

theorem append {front behind : List α} (before : Throughout check front)
    (after : Throughout (fun earlier => check (front ++ earlier)) behind) :
    Throughout check (front ++ behind) := by
  induction front generalizing check with
  | nil => exact after
  | cons event front induction =>
      rcases cons_iff.mp before with ⟨first, rest⟩
      exact cons_iff.mpr ⟨first, induction rest after⟩

theorem imp {history : List α} (holds : Throughout check history)
    (implies : ∀ earlier event, check earlier event → weaker earlier event) :
    Throughout weaker history :=
  fun earlier event later split =>
    implies earlier event (holds earlier event later split)

/-- Steps of which each keeps a law just if it is permitted keep the law all
along just if all of them are. -/
theorem foldl_prefixes_iff {β : Type} (law : β → Prop) {step : β → α → β}
    {permits : β → α → Prop} {start : β} (holds : law start)
    (keeps : ∀ state event, law state →
      (law (step state event) ↔ permits state event)) (events : List α) :
    (∀ front, front <+: events → law (front.foldl step start)) ↔
      Throughout (fun earlier => permits (earlier.foldl step start))
        events := by
  induction events using List.reverseRecOn with
  | nil =>
      refine iff_of_true ?_ .nil
      intro front nothing
      rwa [List.prefix_nil.mp nothing]
  | append_singleton events event induction =>
      have last : (events ++ [event]).foldl step start =
          step (events.foldl step start) event := by
        simp
      rw [concat_iff, ← induction]
      constructor
      · intro lawful
        have before : ∀ front, front <+: events →
            law (front.foldl step start) := fun front inside =>
          lawful front (inside.trans (List.prefix_append _ _))
        refine ⟨before, (keeps _ _ (before _ List.prefix_rfl)).mp ?_⟩
        exact last ▸ lawful _ List.prefix_rfl
      · intro ⟨before, permitted⟩ front inside
        rcases List.prefix_concat_iff.mp inside with whole | early
        · rw [whole, last]
          exact (keeps _ _ (before _ List.prefix_rfl)).mpr permitted
        · exact before front early

instance decidable : (check : List α → α → Prop) →
    [∀ earlier event, Decidable (check earlier event)] →
    (history : List α) → Decidable (Throughout check history)
  | _, _, [] => isTrue .nil
  | check, _, event :: history =>
      have := decidable (fun earlier => check (event :: earlier)) history
      decidable_of_iff _ cons_iff.symm

end Throughout

/-! ## Commands -/

def Call.executed? : Call → Option CommandList
  | .execute list (.ok ()) => some list
  | _ => none

/-- `check` holds of every executed command, of the calls before its list, the
list, and the commands before it in the list. -/
def EveryCommand
    (check : List Call → CommandList → List Command → Command → Prop)
    (calls : List Call) : Prop :=
  Throughout (fun earlier call =>
    ∀ list ∈ call.executed?, Throughout (check earlier list) list.toList) calls

namespace EveryCommand

variable {check : List Call → CommandList → List Command → Command → Prop}
  {calls : List Call}

theorem nil : EveryCommand check [] :=
  Throughout.nil

theorem concat_of_not_executed {call : Call} (none : call.executed? = none)
    (holds : EveryCommand check calls) :
    EveryCommand check (calls ++ [call]) := by
  refine Throughout.concat_iff.mpr ⟨holds, ?_⟩
  intro list executed
  simp [none] at executed

theorem concat_executed {list : CommandList}
    (holds : EveryCommand check calls)
    (inside : Throughout (check calls list) list.toList) :
    EveryCommand check (calls ++ [.execute list (.ok ())]) := by
  refine Throughout.concat_iff.mpr ⟨holds, ?_⟩
  intro other executed
  have same : list = other := by simpa [Call.executed?] using executed
  exact same ▸ inside

theorem imp
    {weaker : List Call → CommandList → List Command → Command → Prop}
    (holds : EveryCommand check calls)
    (implies : ∀ earlier list front command,
      check earlier list front command → weaker earlier list front command) :
    EveryCommand weaker calls :=
  Throughout.imp holds fun earlier _ inside list executed =>
    (inside list executed).imp (implies earlier list)

instance decidable
    [∀ earlier list front command,
      Decidable (check earlier list front command)] :
    Decidable (EveryCommand check calls) :=
  inferInstanceAs (Decidable (Throughout _ _))

end EveryCommand

end MeshCapture
