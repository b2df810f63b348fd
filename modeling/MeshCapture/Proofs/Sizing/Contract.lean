import MeshCapture.Proofs.Sizing.Capacity
import MeshCapture.Scripted.Device

/-! # The contract of the scratch set

Under sound settings a scratch set has the sizes that its capacity tells, and
whoever asks for room gets a set with that much of it or learns which size could
not be had. This is a matter of each request, and so it holds behind every
sequence of them. -/

namespace MeshCapture

variable {σ : Type}

structure Scratch.Proportioned (settings : Settings) (scratch : Scratch) :
    Prop where
  positive : 0 < scratch.capacity.toNat
  accepted : scratch.capacity < settings.maxScratchBytes

theorem Settings.Sound.proportioned {settings : Settings}
    (sound : settings.Sound) {current required : UInt64} {scratch : Scratch}
    (capacity : scratch.capacity = settings.grownCapacity current required)
    (accepted : scratch.capacity < settings.maxScratchBytes) :
    scratch.Proportioned settings := by
  refine ⟨?_, accepted⟩
  rw [capacity] at accepted ⊢
  exact (sound.current_le accepted).2

structure Contract (settings : Settings) (required : UInt64)
    (before : Workspace σ) (outcome : Except UInt64 Scratch)
    (after : Workspace σ) : Prop where
  /-- A set with room enough stays, and nothing happens. -/
  kept : ∀ scratch, before.scratch = some scratch →
    required ≤ scratch.capacity → outcome = .ok scratch ∧ after = before
  granted : ∀ scratch, outcome = .ok scratch →
    after.scratch = some scratch ∧ required ≤ scratch.capacity ∧
      before.capacity ≤ scratch.capacity
  denied : ∀ bytes, outcome = .error bytes → after.scratch = none ∧
    bytes = settings.grownCapacity before.capacity required
  /-- The device is drained, the parts of the old set are released, and only
  then is another one made: in full, not at all where the size is refused, or up
  to a part that cannot be had, and then nothing of it stays. -/
  grown : before.Lacks required → ∃ made,
    after.history = before.history ++
        .sync :: before.scratch.elim [] Scratch.releases ++ made ∧
      (∀ scratch, outcome = .ok scratch → made = scratch.creations settings) ∧
      ∀ bytes, outcome = .error bytes → live made = 0 ∧
        if settings.maxScratchBytes ≤ bytes then made = []
        else Abandoned settings bytes made

namespace Answered

variable {settings : Settings} {required : UInt64}
  {before after : Workspace σ} {outcome : Except UInt64 Scratch}

theorem not_lacks {scratch : Scratch} (present : before.scratch = some scratch)
    (enough : required ≤ scratch.capacity) : ¬ before.Lacks required :=
  fun lacking => UInt64.not_lt.mpr enough (lacking scratch present)

theorem contract (sound : settings.Sound)
    (answered : Answered settings required before outcome after) :
    Contract settings required before outcome after := by
  cases answered with
  | @kept scratch present enough =>
      refine ⟨?_, ?_, ?_, fun lacking =>
        (not_lacks present enough lacking).elim⟩
      · intro other same _
        cases present.symm.trans same
        exact ⟨rfl, rfl⟩
      · intro other same
        cases same
        refine ⟨present, enough, ?_⟩
        rw [Workspace.capacity, present]
        exact UInt64.le_refl _
      · intro bytes same
        cases same
  | @replaced scratch _ lacking capacity accepted unused history present =>
      rw [capacity] at accepted
      refine ⟨fun other same enough =>
        (not_lacks same enough lacking).elim, ?_, ?_, fun _ => ?_⟩
      · intro other same
        cases same
        rw [capacity, UInt64.le_iff_toNat_le, UInt64.le_iff_toNat_le]
        exact ⟨present, sound.required_le accepted,
          (sound.current_le accepted).1⟩
      · intro bytes same
        cases same
      · refine ⟨_, history, ?_, ?_⟩
        · intro other same
          cases same
          rfl
        · intro bytes same
          cases same
  | refused lacking large history absent =>
      refine ⟨fun other same enough =>
        (not_lacks same enough lacking).elim, ?_, ?_, fun _ => ?_⟩
      · intro scratch same
        cases same
      · intro bytes same
        cases same
        exact ⟨absent, rfl⟩
      · refine ⟨[], (List.append_nil _).symm ▸ history, ?_, ?_⟩
        · intro scratch same
          cases same
        · intro bytes same
          cases same
          rw [if_pos large]
          exact ⟨live_nil, rfl⟩
  | @abandoned _ made lacking accepted abandons history absent =>
      refine ⟨fun other same enough =>
        (not_lacks same enough lacking).elim, ?_, ?_, fun _ => ?_⟩
      · intro scratch same
        cases same
      · intro bytes same
        cases same
        exact ⟨absent, rfl⟩
      · refine ⟨made, history, ?_, ?_⟩
        · intro scratch same
          cases same
        · intro bytes same
          cases same
          rw [if_neg (UInt64.not_le.mpr accepted)]
          exact ⟨abandons.live_eq_zero, abandons⟩

theorem standing (sound : settings.Sound)
    (answered : Answered settings required before outcome after)
    (stands : ∀ scratch, before.scratch = some scratch →
      scratch.Proportioned settings ∧
        scratch.creations settings <:+ before.history)
    {scratch : Scratch} (present : after.scratch = some scratch) :
    scratch.Proportioned settings ∧
      scratch.creations settings <:+ after.history := by
  cases answered with
  | kept => exact stands scratch present
  | @replaced made _ lacking capacity accepted unused history placed =>
      cases placed.symm.trans present
      rw [history]
      exact ⟨sound.proportioned capacity accepted, List.suffix_append _ _⟩
  | refused _ _ _ absent => cases absent.symm.trans present
  | abandoned _ _ _ _ absent => cases absent.symm.trans present

end Answered

/-! ## Sequences of requests -/

section

variable [Device σ]

def Workspace.requesting (settings : Settings) (start : Workspace σ)
    (requests : List UInt64) : Workspace σ :=
  requests.foldl
    (fun workspace required =>
      ((Work.scratchFor settings required).run.run workspace).2)
    start

theorem Workspace.standing_requesting {settings : Settings}
    (sound : settings.Sound) {start : Workspace σ}
    (empty : start.scratch = none) (requests : List UInt64) {scratch : Scratch}
    (present : (start.requesting settings requests).scratch = some scratch) :
    scratch.Proportioned settings ∧
      scratch.creations settings <:+
        (start.requesting settings requests).history := by
  induction requests using List.reverseRecOn generalizing scratch with
  | nil => cases empty.symm.trans present
  | append_singleton requests required induction =>
      rcases Attempt.exists_ends (Work.scratchFor settings required)
        (start.requesting settings requests) with ⟨outcome, after, ends⟩
      have reached : start.requesting settings (requests ++ [required]) =
          after := by
        rw [requesting, List.foldl_append]
        exact congrArg Prod.snd ends
      rw [reached] at present ⊢
      exact ends.scratchFor.standing sound (fun _ => induction) present

/-- Behind any requests there are buffers just if there is capacity, they have
the sizes that it tells, and the next request is answered by the contract. -/
theorem Workspace.requests_contract {settings : Settings}
    (sound : settings.Sound) {start : Workspace σ}
    (empty : start.scratch = none) (requests : List UInt64)
    (required : UInt64) :
    let before := start.requesting settings requests
    (before.scratch.isSome = true ↔ before.capacity ≠ 0) ∧
      (∀ scratch, before.scratch = some scratch →
        scratch.capacity < settings.maxScratchBytes ∧
          scratch.creations settings <:+ before.history ∧
          (Scratch.outputBytes settings scratch.capacity).toNat =
            scratch.capacity.toNat + settings.counterBytes.toNat ∧
          (Scratch.indexBytes scratch.capacity).toNat =
            scratch.capacity.toNat / 16) ∧
      ∃ outcome after,
        (Work.scratchFor settings required).run.run before =
            (outcome, after) ∧
          Contract settings required before outcome after := by
  intro before
  have stands {scratch : Scratch} (present : before.scratch = some scratch) :=
    standing_requesting sound empty requests present
  refine ⟨?_, ?_, ?_⟩
  · rw [capacity]
    cases present : before.scratch with
    | none => simp
    | some scratch =>
        have positive := (stands present).1.positive
        refine iff_of_true rfl fun zero => ?_
        have zero : scratch.capacity = 0 := zero
        rw [zero] at positive
        exact Nat.lt_irrefl 0 positive
  · intro scratch present
    rcases stands present with ⟨⟨-, accepted⟩, last⟩
    exact ⟨accepted, last, sound.toNat_outputBytes accepted,
      Scratch.toNat_indexBytes _⟩
  · rcases Attempt.exists_ends (Work.scratchFor settings required) before with
      ⟨outcome, after, ends⟩
    exact ⟨outcome, after, ends, ends.scratchFor.contract sound⟩

end

/-- Fifty bytes are given 64. For a request whose next multiple of the
granularity is too large they go, and nothing comes in their place. -/
theorem Workspace.requests_contract_refused :
    let settings : Settings := { initialScratchBytes := 32 }
    let start : Workspace Scripted.Device := { device := {} }
    let before := start.requesting settings [50]
    settings.Sound ∧ start.scratch = none ∧ before.capacity = 64 ∧
      (∀ scratch, before.scratch = some scratch →
        scratch.creations settings <:+ before.history) ∧
      ∃ after,
        (Work.scratchFor settings 0xFFFE0000).run.run before =
            (.error 0x100000000, after) ∧
          after.scratch = none ∧
          ∃ scratch, before.scratch = some scratch ∧
            after.history =
              before.history ++ .sync :: scratch.releases := by
  intro settings start before
  have sound : settings.Sound := by decide
  have empty : start.scratch = none := rfl
  rcases requests_contract sound empty [50] 0xFFFE0000 with
    ⟨-, sized, outcome, after, ran, contract⟩
  have asked : before.scratch = some ⟨64, ⟨1⟩, ⟨2⟩, ⟨3⟩, ⟨4⟩, .common⟩ := by
    decide +kernel
  have capacity : before.capacity = 64 := by
    rw [Workspace.capacity, asked]
    rfl
  have denied : outcome = .error 0x100000000 := by
    have first : ((Work.scratchFor settings 0xFFFE0000).run.run before).1 =
        outcome := congrArg Prod.fst ran
    rw [← first]
    decide +kernel
  subst denied
  rcases contract.grown (by rw [Workspace.Lacks, asked]; rintro _ ⟨⟩; decide)
    with ⟨made, history, -, nothing⟩
  have none_made : made = [] := (nothing _ rfl).2
  refine ⟨sound, empty, capacity,
    fun scratch present => (sized scratch present).2.1, after, ran,
    (contract.denied _ rfl).1, _, asked, ?_⟩
  rw [history, none_made, asked, List.append_nil]
  rfl

end MeshCapture
