import MeshCapture.Proofs.EngineLaw
import MeshCapture.Proofs.StageWork

/-! # Tolerance of memory failures

An engine has the device tolerate that memory runs out while it makes a record,
and at no other time. All that could run out of memory is done meanwhile. -/

namespace MeshCapture

namespace Call

/-- The call takes memory of the device, or has it do work that does. -/
def needsTolerance : Call → Bool
  | createBuffer .. | createQueryHeap .. | createRootSignature ..
  | createPipeline .. | execute .. => true
  | _ => false

def isSwitch : Call → Bool
  | setMemoryTolerance _ => true
  | _ => false

def toleranceAfter (tolerant : Bool) : Call → Bool
  | setMemoryTolerance next => next
  | _ => tolerant

def isIndifferent (call : Call) : Bool :=
  !call.needsTolerance && !call.isSwitch

theorem toleranceAfter_of_not_switch {call : Call}
    (leaves : call.isSwitch = false) (tolerant : Bool) :
    call.toleranceAfter tolerant = tolerant := by
  cases call <;> first | rfl | cases leaves

end Call

def tolerates (calls : List Call) : Bool :=
  calls.foldl Call.toleranceAfter false

@[simp] theorem tolerates_concat (calls : List Call) (call : Call) :
    tolerates (calls ++ [call]) = call.toleranceAfter (tolerates calls) := by
  simp [tolerates]

theorem tolerates_append {more : List Call}
    (leaves : ∀ call ∈ more, call.isSwitch = false) (calls : List Call) :
    tolerates (calls ++ more) = tolerates calls := by
  induction more using List.reverseRecOn with
  | nil => rw [List.append_nil]
  | append_singleton front last induction =>
      rw [List.forall_mem_append, List.forall_mem_singleton] at leaves
      rw [← List.append_assoc, tolerates_concat, induction leaves.1,
        Call.toleranceAfter_of_not_switch leaves.2]

/-! ## Calls under tolerance -/

/-- Tolerance is switched on first and off last, and not between. -/
def Scoped (calls : List Call) : Prop :=
  ∃ served, calls =
      .setMemoryTolerance true :: served ++ [.setMemoryTolerance false] ∧
    ∀ call ∈ served, call.isSwitch = false

structure Sheltered (calls : List Call) : Prop where
  covered : Throughout
    (fun earlier call =>
      call.needsTolerance = true → tolerates earlier = true)
    calls
  off : tolerates calls = false

namespace Sheltered

variable {calls more : List Call}

theorem append_indifferent (sheltered : Sheltered calls)
    (indifferent : ∀ call ∈ more, call.isIndifferent = true) :
    Sheltered (calls ++ more) := by
  simp only [Call.isIndifferent, Bool.and_eq_true, Bool.not_eq_true']
    at indifferent
  refine ⟨sheltered.covered.append ?_, ?_⟩
  · intro earlier call later split needs
    have free := (indifferent call (by simp [split])).1
    exact absurd (free.symm.trans needs) Bool.false_ne_true
  · rw [tolerates_append fun call inside => (indifferent call inside).2]
    exact sheltered.off

theorem append_scoped (sheltered : Sheltered calls) (encloses : Scoped more) :
    Sheltered (calls ++ more) := by
  obtain ⟨served, rfl, leaves⟩ := encloses
  refine ⟨sheltered.covered.append ?_, ?_⟩
  · have unneeded (tolerant : Bool) :
        (Call.setMemoryTolerance tolerant).needsTolerance ≠ true :=
      Bool.false_ne_true
    refine Throughout.cons_iff.mpr ⟨fun needs => absurd needs (unneeded _), ?_⟩
    refine Throughout.concat_iff.mpr
      ⟨?_, fun needs => absurd needs (unneeded _)⟩
    intro earlier call later split _
    have before : ∀ call ∈ earlier, call.isSwitch = false :=
      fun call inside => leaves call (by simp [split, inside])
    rw [List.append_cons, tolerates_append before, tolerates_concat]
    rfl
  · rw [← List.append_assoc, tolerates_concat]
    rfl

end Sheltered

/-! ## Runs -/

namespace Engine

variable {σ : Type} [Device σ]

def makesRecord (engine : Engine σ) : Act → Bool
  | .captureDraw visit => !engine.store.contains visit.event
  | _ => false

theorem indifferent_releaseBuffer (start : Workspace σ)
    (buffer : BufferHandle) :
    Work.Keeps (start.AddsOnly Call.isIndifferent)
      (Work.releaseBuffer buffer : Work σ Unit) :=
  Workspace.AddsOnly.call fun _ => rfl

/-- An act makes a record under tolerance, or does nothing that needs it. -/
theorem exists_made_act (engine : Engine σ) (act : Act) :
    ∃ made, (engine.act act).calls = engine.calls ++ made ∧
      if engine.makesRecord act then
        Scoped made
      else
        ∀ call ∈ made, call.isIndifferent = true := by
  cases act with
  | request frame event =>
      obtain ⟨counters, asked⟩ := exists_counters_request frame engine event
      refine ⟨[], ?_, List.forall_mem_nil _⟩
      rw [Engine.act, asked, List.append_nil]
      rfl
  | noteReplay first last extent =>
      exact ⟨[.replay first last extent], List.reverse_cons,
        List.forall_mem_singleton.mpr rfl⟩
  | addAlias primary synonym =>
      exact ⟨[], (List.append_nil _).symm, List.forall_mem_nil _⟩
  | captureDraw visit =>
      rw [Engine.act, captureDraw, makesRecord]
      cases engine.store.contains visit.event with
      | true => exact ⟨[], (List.append_nil _).symm, List.forall_mem_nil _⟩
      | false =>
          obtain ⟨served, serving, history, -⟩ :=
            Work.exists_served_captureDraw engine.settings visit
              engine.workspace
          rw [List.append_assoc] at history
          refine ⟨_, history, served, rfl, fun call inside => ?_⟩
          have serves := serving call inside
          cases call <;> first | rfl | cases serves
  | clear =>
      exact Work.Keeps.releaseBuffers (indifferent_releaseBuffer _) _
        engine.workspace (.refl _)

theorem sheltered_act {engine : Engine σ} (sheltered : Sheltered engine.calls)
    (act : Act) : Sheltered (engine.act act).calls := by
  obtain ⟨made, calls, kind⟩ := engine.exists_made_act act
  rw [calls]
  split at kind
  · exact sheltered.append_scoped kind
  · exact sheltered.append_indifferent kind

theorem sheltered_run (device : σ) (settings : Settings)
    (operations : List Operation) :
    Sheltered ((new device settings).run operations).calls := by
  have keeps (acts : List Act) (engine : Engine σ)
      (sheltered : Sheltered engine.calls) :
      Sheltered (acts.foldl act engine).calls := by
    induction acts generalizing engine with
    | nil => exact sheltered
    | cons act rest induction => exact induction _ (sheltered_act sheltered act)
  rw [run_eq_foldl_act]
  exact keeps _ _ ⟨.nil, rfl⟩

theorem sheltered_shutDown {engine : Engine σ}
    (sheltered : Sheltered engine.calls) : Sheltered engine.shutDown.calls := by
  have cleared := sheltered_act sheltered .clear
  have releases : Work.Keeps
      (engine.clear.workspace.AddsOnly Call.isIndifferent)
      (Work.releaseScratch : Work σ Unit) :=
    Work.Keeps.releaseScratch (indifferent_releaseBuffer _)
      (fun _ => Workspace.AddsOnly.call fun _ => rfl) fun _ adds => adds
  obtain ⟨made, calls, indifferent⟩ :=
    releases engine.clear.workspace (.refl _)
  have whole : engine.shutDown.calls = engine.clear.calls ++ made := calls
  rw [whole]
  exact cleared.append_indifferent indifferent

/-- In every run, memory failures are tolerated from the first to the last call
for a record, whatever becomes of its stages, and at no other time. What needs
tolerance is done then, and behind every operation tolerance is off, as it is
behind the end of the engine. -/
theorem tolerance_scoped (device : σ) (settings : Settings)
    (operations : List Operation) :
    let start := new device settings
    let engine := start.run operations
    Throughout
        (fun earlier act =>
          let reached := earlier.foldl Engine.act start
          ∃ made, (reached.act act).calls = reached.calls ++ made ∧
            if reached.makesRecord act then
              Scoped made
            else
              ∀ call ∈ made, call.isIndifferent = true)
        (start.acts operations) ∧
      Sheltered engine.calls ∧ Sheltered engine.shutDown.calls := by
  intro start engine
  have sheltered : Sheltered engine.calls :=
    sheltered_run device settings operations
  refine ⟨?_, sheltered, sheltered_shutDown sheltered⟩
  intro earlier act later split
  exact exists_made_act _ act

end Engine

end MeshCapture
