import MeshCapture.Proofs.Conduct.Beside
import MeshCapture.Proofs.StageWork

/-! # Kept records

Until the engine is cleared, a record stays as it was stored, and so do the
buffers it owns. A replay that fails takes nothing back, and nothing but a
replay that fails makes a capture fail. -/

namespace MeshCapture

variable {σ : Type}

/-- What the first engine recorded, the second one still has, and meanwhile the
buffers of these records were at most read. -/
structure Engine.KeepsRecords (engine next : Engine σ) : Prop where
  own : ∀ event record, engine.store.own? event = some record →
    next.store.own? event = some record
  live : ∀ buffer ∈ engine.store.buffers, .buffer buffer ∈ live next.calls
  spared : FreshHandles next.calls → ∃ made, next.calls = engine.calls ++ made ∧
    ∀ call ∈ made, ∀ buffer ∈ engine.store.buffers, call.Spares buffer

namespace Engine

variable [Device σ]

/-! ## Acts that keep records -/

theorem records_prefix_act (engine : Engine σ) {act : Act}
    (lasting : act ≠ .clear) :
    engine.store.records <+: (engine.act act).store.records := by
  cases act with
  | request frame event =>
      rcases exists_counters_request frame engine event with ⟨counters, asked⟩
      have same : (engine.act (.request frame event)).store = engine.store := by
        rw [Engine.act, asked]
      exact same ▸ List.prefix_rfl
  | noteReplay first last extent => exact List.prefix_rfl
  | addAlias primary synonym =>
      rw [Engine.act, addAlias, RecordStore.addAlias]
      simp only
      split <;> exact List.prefix_rfl
  | captureDraw visit =>
      rw [Engine.act, captureDraw]
      split
      · exact List.prefix_rfl
      · change _ <+: (engine.store.insert _ _).records
        rw [RecordStore.insert]
        split
        · exact List.prefix_rfl
        · exact List.prefix_append _ _
  | clear => exact absurd rfl lasting

theorem records_prefix_acts (engine : Engine σ) {acts : List Act}
    (lasting : .clear ∉ acts) :
    engine.store.records <+: (acts.foldl act engine).store.records := by
  induction acts generalizing engine with
  | nil => exact List.prefix_rfl
  | cons act rest induction =>
      rw [List.mem_cons, not_or] at lasting
      exact (engine.records_prefix_act (Ne.symm lasting.1)).trans
        (induction _ lasting.2)

theorem keepsRecords_acts {engine : Engine σ}
    (reached : engine.Conducted {} fun _ => True) {acts : List Act}
    (lasting : .clear ∉ acts) :
    engine.KeepsRecords (acts.foldl act engine) := by
  have inside := engine.records_prefix_acts lasting
  have sound := reached.conduct.keeps (fun _ _ deed => deed.sound)
    Scene.Sound.empty
  let start : Scene := ⟨engine.calls, engine.workspace.scratch, .holding 0⟩
  have starts : engine.ConductedBeside start (fun _ => True)
      engine.store.resources := ⟨0, (zero_add _).symm, rfl, .refl⟩
  rcases starts.acts acts lasting fun _ _ => trivial with
    ⟨held, whole, ends⟩
  have apart : (start.beside engine.store.resources).Sound fun _ => True := by
    simp only [start, Scene.beside, Desk.holding, zero_add]
    exact sound
  rcases ends.conduct.spares apart with ⟨made, history, spared⟩
  have kept {buffer : BufferHandle} (owned : buffer ∈ engine.store.buffers) :
      .buffer buffer ∈ engine.store.resources :=
    Multiset.mem_coe.mpr (List.mem_map_of_mem owned)
  refine ⟨?_, ?_, ?_⟩
  · intro event record found
    exact inside.lookup_eq_some found
  · intro buffer owned
    have reached := (Conduct.beside ends.conduct engine.store.resources).keeps
      (fun _ _ deed => deed.sound) apart
    have present : live (acts.foldl act engine).calls = _ :=
      reached.live.trans (Scene.resources_beside _ _)
    rw [present]
    exact Multiset.mem_add.mpr (.inr (kept owned))
  · intro fresh
    exact ⟨made, history, fun call added buffer owned =>
      spared fresh call added buffer (kept owned)⟩

/-! ## Replays -/

theorem exists_history_act (engine : Engine σ) {act : Act}
    (lasting : act ≠ .clear) :
    ∃ added, (engine.act act).calls = engine.calls ++ added ∧
      ∀ first last extent, .replay first last extent ∈ added ↔
        .noteReplay first last extent = act := by
  cases act with
  | request frame event =>
      rcases exists_counters_request frame engine event with ⟨counters, asked⟩
      refine ⟨[], ?_, by simp⟩
      rw [Engine.act, asked, List.append_nil]
      rfl
  | noteReplay first last extent =>
      exact ⟨[.replay first last extent], List.reverse_cons, by simp⟩
  | addAlias primary synonym =>
      exact ⟨[], (List.append_nil _).symm, by simp⟩
  | captureDraw visit =>
      rw [Engine.act, captureDraw]
      split
      · exact ⟨[], (List.append_nil _).symm, by simp⟩
      · rcases Work.exists_served_captureDraw engine.settings visit
          engine.workspace with ⟨served, serving, history, -⟩
        refine ⟨.setMemoryTolerance true :: served ++
          [.setMemoryTolerance false], ?_, ?_⟩
        · exact history.trans (List.append_assoc _ _ _)
        · intro first last extent
          have unserved : .replay first last extent ∉ served := fun inside =>
            absurd (serving _ inside) (by simp [Call.isForStage])
          simp [unserved]
  | clear => exact absurd rfl lasting

theorem exists_history_acts (engine : Engine σ) {acts : List Act}
    (lasting : .clear ∉ acts) :
    ∃ added, (acts.foldl act engine).calls = engine.calls ++ added ∧
      ∀ first last extent, .replay first last extent ∈ added ↔
        .noteReplay first last extent ∈ acts := by
  induction acts generalizing engine with
  | nil => exact ⟨[], (List.append_nil _).symm, by simp⟩
  | cons act rest induction =>
      rw [List.mem_cons, not_or] at lasting
      rcases engine.exists_history_act (Ne.symm lasting.1) with
        ⟨added, once, asked⟩
      rcases induction (engine.act act) lasting.2 with ⟨more, behind, others⟩
      refine ⟨added ++ more, ?_, ?_⟩
      · rw [List.foldl_cons, behind, once, List.append_assoc]
      · intro first last extent
        rw [List.mem_append, List.mem_cons, asked, others]

theorem noteReplay_mem_replayActs {frame : Frame} {wanted : List EventId}
    {first last start stop : EventId} {extent other : ReplayExtent} :
    .noteReplay start stop other ∈ frame.replayActs wanted first last extent ↔
      Act.noteReplay start stop other = .noteReplay first last extent := by
  rw [Frame.replayActs, List.mem_cons, List.mem_flatMap]
  constructor
  · rintro (same | ⟨visit, -, made⟩)
    · exact same
    · rcases cases_of_mem_visit_acts made with
        ⟨_, -, -, impossible⟩ | ⟨_, _, impossible⟩
      · cases impossible
      · cases impossible
  · exact .inl

omit [Device σ] in
theorem clear_not_mem_operationActs {engine : Engine σ}
    {operation : Operation} (lasting : operation ≠ .clear) :
    .clear ∉ engine.operationActs operation := by
  intro inside
  cases operation with
  | captureAll frame events =>
      rcases List.mem_append.mp inside with requested | followed
      · obtain ⟨event, -, impossible⟩ := List.mem_map.mp requested
        cases impossible
      · obtain ⟨first, last, extent, replayed⟩ :=
          exists_replayActs_of_mem_captureActs followed
        cases isReplayed_of_mem_replayActs replayed
  | addAlias primary synonym => cases List.mem_singleton.mp inside
  | clear => exact lasting rfl

theorem captureAll_failed_iff (frame : Frame) (engine : Engine σ)
    (events : List EventId) :
    (engine.captureAll frame events).1.isOk = false ↔
      ∃ first last extent,
        .noteReplay first last extent ∈
          engine.operationActs (.captureAll frame events) ∧
        (frame.replay first last extent).failure.isSome = true := by
  have asked : ∀ first last extent,
      .noteReplay first last extent ∈
          engine.operationActs (.captureAll frame events) ↔
        .noteReplay first last extent ∈
          frame.captureActs (engine.wanted frame events) := by
    simp [operationActs]
  simp only [asked, captureAll, wanted, Frame.captureActs]
  generalize engine.requestAll frame events = answer
  rcases answer with ⟨pending, requested⟩
  simp only [replay_eq_foldl_act]
  cases (Ascending.ofList pending).head? with
  | none => simp [Except.isOk, Except.toBool]
  | some first =>
      cases (Ascending.ofList pending).getLast? with
      | none => simp [Except.isOk, Except.toBool]
      | some last =>
          simp only [List.mem_append, noteReplay_mem_replayActs]
          cases upTo : (frame.replay 0 first .beforeLast).failure with
          | some cause =>
              refine iff_of_true rfl ⟨0, first, .beforeLast, .inl rfl, ?_⟩
              simp [upTo]
          | none =>
              simp only [Option.isSome_none, Bool.false_eq_true, ite_false,
                noteReplay_mem_replayActs]
              cases among : (frame.replay first last .full).failure with
              | some cause =>
                  refine iff_of_true rfl ⟨first, last, .full, .inr rfl, ?_⟩
                  simp [among]
              | none =>
                  refine iff_of_false Bool.true_eq_false.mp ?_
                  rintro ⟨_, _, _, same | same, failed⟩
                  · cases same
                    simp [upTo] at failed
                  · cases same
                    simp [among] at failed

/-! ## Every operation -/

theorem isSome_record?_captureDraw (engine : Engine σ) (visit : DrawVisit) :
    ((engine.captureDraw visit).record? visit.event).isSome = true := by
  rw [captureDraw]
  split
  · next present => exact present
  · change (RecordStore.find? (engine.store.insert _ _) _).isSome = true
    rw [RecordStore.find?_insert_self]
    rfl

/-- Whatever is asked of an engine but to clear itself, at every point on the
way it keeps what it has recorded until then: each record under the event it
was stored for, and its buffers live and at most read. A draw that was captured
has its record from then on, though the replay may stop right behind it.
Captures fail because a replay did and for no other reason. -/
theorem records_kept (device : σ) (settings : Settings)
    (operations : List Operation) (operation : Operation)
    (lasting : operation ≠ .clear) :
    let engine := (new device settings).run operations
    let next := engine.apply operation
    let acts := engine.operationActs operation
    engine.KeepsRecords next ∧
      (∀ front, front <+: acts →
        (front.foldl act engine).KeepsRecords next) ∧
      (∀ front visit, front ++ [.captureDraw visit] <+: acts →
        (((front ++ [.captureDraw visit]).foldl act engine).record?
          visit.event).isSome = true) ∧
      ∀ frame events, operation = .captureAll frame events →
        ((engine.captureAll frame events).1.isOk = false ↔
          ∃ made first last extent, next.calls = engine.calls ++ made ∧
            .replay first last extent ∈ made ∧
            (frame.replay first last extent).failure.isSome = true) := by
  intro engine next acts
  have whole : next = acts.foldl act engine :=
    apply_eq_foldl_act engine operation
  have uncleared : .clear ∉ acts := clear_not_mem_operationActs lasting
  have reached : engine.Conducted {} fun _ => True :=
    keeps_conducted.run (fun _ _ => trivial) ⟨rfl, .refl⟩
  have kept (front : List Act) (inside : front <+: acts) :
      (front.foldl act engine).KeepsRecords next := by
    rcases inside with ⟨rest, joined⟩
    rw [whole, ← joined, List.foldl_append]
    apply keepsRecords_acts
    · exact keeps_conducted.acts (fun _ _ => trivial) reached
    · exact fun later => uncleared (joined ▸ List.mem_append_right _ later)
  refine ⟨kept [] List.nil_prefix, kept, ?_, ?_⟩
  · intro front visit inside
    rw [List.foldl_append]
    exact isSome_record?_captureDraw _ visit
  · rintro frame events rfl
    rcases engine.exists_history_acts uncleared with ⟨made, history, asked⟩
    rw [← whole] at history
    rw [captureAll_failed_iff]
    constructor
    · rintro ⟨first, last, extent, noted, failed⟩
      exact ⟨made, first, last, extent, history,
        (asked first last extent).mpr noted, failed⟩
    · rintro ⟨others, first, last, extent, same, replayed, failed⟩
      cases List.append_cancel_left (history.symm.trans same)
      exact ⟨first, last, extent, (asked first last extent).mp replayed, failed⟩

def endingFrame : Frame :=
  Scripted.frameOf [Scripted.triangle 1 false, Scripted.triangle 2 false,
    { event := 3, failure := some "lost" }]

def faultless : Scripted.Device :=
  { Scripted.interruptedDevice with faults := [] }

/-- The capture of the second draw outlasts the failure, as does the record of
the first one. -/
theorem records_kept_stopped :
    let engine := (new faultless Scripted.smallScratch).run
      [.captureAll endingFrame [1]]
    let next := engine.apply (.captureAll endingFrame [2, 3])
    FreshHandles next.calls ∧ engine.KeepsRecords next ∧
      (engine.captureAll endingFrame [2, 3]).1.isOk = false ∧
      engine.store.resources.card = 1 ∧ next.store.resources.card = 2 := by
  have kept := records_kept faultless Scripted.smallScratch
    [.captureAll endingFrame [1]] (.captureAll endingFrame [2, 3]) (by simp)
  exact ⟨by decide +kernel, kept.1, by decide +kernel, by decide +kernel,
    by decide +kernel⟩

end Engine

end MeshCapture
