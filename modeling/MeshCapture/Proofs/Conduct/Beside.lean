import MeshCapture.Proofs.Conduct.Lifetimes

/-! # Deeds beside kept resources

Deeds that do without some resources may as well be done while these are kept in
hand. If no handle is given out twice, none of the calls then does anything to
them but to read them, be it because the replay lends them. -/

namespace MeshCapture

variable {draws : DrawVisit → Prop} {now next first last : Scene}

def Call.Spares (call : Call) (buffer : BufferHandle) : Prop :=
  .buffer buffer ∈ call.resources → call.isRead = true

namespace Scene

def beside (scene : Scene) (kept : Multiset Resource) : Scene :=
  { scene with desk := { scene.desk with held := scene.desk.held + kept } }

theorem resources_beside (scene : Scene) (kept : Multiset Resource) :
    (scene.beside kept).resources = scene.resources + kept := by
  simp only [resources, Desk.resources, beside]
  ac_rfl

theorem Allows.beside {call : Call} (allows : now.Allows draws call)
    (kept : Multiset Resource) : (now.beside kept).Allows draws call := by
  intro resource named
  rw [resources_beside]
  refine (allows resource named).imp_left fun present => ?_
  exact Multiset.mem_add.mpr (.inl present)

end Scene

theorem Deed.beside (deed : Deed draws now next) (kept : Multiset Resource) :
    Deed draws (now.beside kept) (next.beside kept) := by
  cases deed with
  | noted call quiet allowed => exact .noted call quiet (allowed.beside kept)
  | drained => exact .drained
  | made call resource made memory empty =>
      have deed : Deed draws (now.beside kept) _ :=
        .made call resource made memory empty
      simpa [Scene.beside, Scene.note] using deed
  | freed call resource freed memory mem =>
      have deed : Deed draws (now.beside kept) _ :=
        .freed call resource freed memory (Multiset.mem_add.mpr (.inl mem))
      simpa [Scene.beside, Scene.note, Multiset.erase_add_left_pos _ mem]
        using deed
  | signed description signature free =>
      exact .signed description signature free
  | unsigned description signature present =>
      exact .unsigned description signature present
  | derived description pipeline free allowed =>
      exact .derived description pipeline free (allowed.beside kept)
  | dropped description pipeline present =>
      exact .dropped description pipeline present
  | dismantled scratch present =>
      have deed : Deed draws (now.beside kept) _ := .dismantled scratch present
      simpa [Scene.beside, add_assoc] using deed
  | assembled scratch others empty unused parts last =>
      have whole : (now.beside kept).desk.held =
          scratch.resources + (others + kept) := by
        rw [← add_assoc, ← parts]
        rfl
      exact .assembled scratch (others + kept) empty unused whole last
  | handed visit stage settings pipeline derived scratch recording outcome taken
      present equips drafted =>
      exact .handed visit stage settings pipeline derived scratch recording
        outcome taken present { equips with } drafted

/-- A deed adds calls that name nothing but what was in hand or borrowed. -/
theorem Deed.exists_allowed (deed : Deed draws now next) :
    ∃ added, next.history = now.history ++ added ∧
      ∀ call ∈ added, now.Allows draws call := by
  have single {call : Call} (allowed : now.Allows draws call) :
      ∀ other ∈ [call], now.Allows draws other := by
    simpa using allowed
  cases deed with
  | noted call quiet allowed => exact ⟨[call], rfl, single allowed⟩
  | drained => exact ⟨_, rfl, single (Scene.allows_of_unnamed rfl)⟩
  | made call resource made memory empty =>
      have unnamed := Call.resources_of_made made memory
      exact ⟨_, rfl, single (Scene.allows_of_unnamed unnamed)⟩
  | freed call resource freed memory mem =>
      refine ⟨_, rfl, single ?_⟩
      intro other named
      rw [Call.resources_of_freed freed, List.mem_singleton] at named
      simp [named, Scene.resources, Desk.resources, mem]
  | signed description signature free =>
      exact ⟨_, rfl, single (Scene.allows_of_unnamed rfl)⟩
  | unsigned description signature present =>
      refine ⟨_, rfl, single ?_⟩
      simp [Scene.Allows, Call.resources, Call.freed?,
        Scene.resources_of_signature present]
  | derived description pipeline free allowed =>
      exact ⟨_, rfl, single allowed⟩
  | dropped description pipeline present =>
      refine ⟨_, rfl, single ?_⟩
      simp [Scene.Allows, Call.resources, Call.freed?,
        Scene.resources_of_pipeline present]
  | dismantled scratch present => exact ⟨[], by simp, by simp⟩
  | assembled scratch others empty unused parts last =>
      exact ⟨[], by simp, by simp⟩
  | handed visit stage settings pipeline derived scratch recording outcome taken
      present equips drafted =>
      refine ⟨_, rfl, ?_⟩
      intro call inside
      rcases List.mem_cons.mp inside with same | waits
      · exact same ▸ drafted.allows present equips outcome
      · split at waits
        · cases List.mem_singleton.mp waits
          exact Scene.allows_of_unnamed rfl
        · cases waits

/-! ## Kept buffers -/

variable {kept : Multiset Resource}

theorem Scene.Sound.spares (sound : (now.beside kept).Sound draws)
    (fresh : FreshHandles now.history) {call : Call}
    (allowed : now.Allows draws call) {buffer : BufferHandle}
    (inside : .buffer buffer ∈ kept) : call.Spares buffer := by
  intro named
  have distinct : (now.resources + kept).Nodup := by
    rw [← Scene.resources_beside, ← sound.live]
    exact nodup_live fresh
  have disjoint := (Multiset.nodup_add.mp distinct).2.2
  have apart : .buffer buffer ∉ now.resources := fun present =>
    Multiset.disjoint_left.mp disjoint present inside
  rcases (allowed _ named).resolve_left apart with ⟨borrows, -⟩
  cases call with
  | readBuffer => rfl
  | createPipeline => simp [Call.resources] at named
  | _ => cases borrows

theorem Conduct.beside (conduct : Conduct draws first last)
    (kept : Multiset Resource) :
    Conduct draws (first.beside kept) (last.beside kept) := by
  induction conduct with
  | refl => exact .refl
  | tail _ deed induction => exact induction.tail (deed.beside kept)

theorem Conduct.spares (conduct : Conduct draws first last)
    (sound : (first.beside kept).Sound draws) :
    ∃ added, last.history = first.history ++ added ∧
      (FreshHandles last.history → ∀ call ∈ added, ∀ buffer,
        .buffer buffer ∈ kept → call.Spares buffer) := by
  induction conduct with
  | refl => exact ⟨[], by simp, by simp⟩
  | tail conduct deed induction =>
      rcases induction with ⟨added, before, spared⟩
      rcases deed.exists_allowed with ⟨more, after, allowed⟩
      refine ⟨added ++ more, by rw [after, before, List.append_assoc], ?_⟩
      intro fresh call inside buffer mem
      rw [after] at fresh
      have earlier := fresh.of_append
      rcases List.mem_append.mp inside with among | last
      · exact spared earlier call among buffer mem
      · have reached := (Conduct.beside conduct kept).keeps
          (fun _ _ deed => deed.sound) sound
        exact reached.spares earlier (allowed call last) mem

end MeshCapture
