import MeshCapture.Proofs.Records.Law
import MeshCapture.Scripted.Session

/-! # What views tell

A view shows vertices, or it says why there are none. Only the vertex stage of a
shader without outputs has neither. -/

namespace MeshCapture

structure MeshView.Lawful (view : MeshView) (stage : Stage) : Prop where
  failed : view.status ≠ "" → view = { status := view.status }
  shown : view.status = "" →
    view.vertexBuffer.isSome ∧ 0 < view.vertexByteStride ∧
        view.vertexByteSize = maxWord ∨
      stage = .vertex ∧ view = { topology := view.topology }
  post : stage = .post → view.status = "" → view.indexBuffer = none

namespace MeshView

theorem ofRecord_eq_of_eq {record : EventRecord} {stage : Stage}
    {status : String} {topology : Topology}
    (only : record.stage stage = { status, topology })
    (instanceIndex : UInt32) :
    ofRecord (some record) instanceIndex stage = { status, topology } := by
  rw [ofRecord]
  simp only [only, ofStage]
  simp

theorem ofRecord_some (record : EventRecord) (instanceIndex : UInt32)
    (stage : Stage) :
    let view := ofRecord (some record) instanceIndex stage
    let captured := record.stage stage
    view.status = captured.status ∧
      view.vertexBuffer = captured.vertexBuffer ∧
      view.vertexByteStride = captured.vertexStride ∧
      (captured.vertexBuffer.isSome → view.vertexByteSize = maxWord) ∧
      (captured.indexBuffer = none → view.indexBuffer = none) := by
  intro view captured
  have same : ∃ offset count, view =
      { ofStage captured instanceIndex with
        vertexByteOffset := offset, elementCount := count } := by
    simp only [view, ofRecord]
    split <;> exact ⟨_, _, rfl⟩
  rcases same with ⟨offset, count, same⟩
  rw [same, ofStage]
  cases captured.usesIndices <;> cases captured.indexBuffer <;>
    exact ⟨rfl, rfl, rfl, fun any => if_pos any, by simp⟩

theorem lawful_ofRecord {σ : Type} [Device σ] {record : EventRecord}
    {engine : Engine σ} {visit : DrawVisit} {finish : Workspace σ}
    (lawful : record.Lawful engine visit finish) (instanceIndex : UInt32)
    (stage : Stage) :
    (ofRecord (some record) instanceIndex stage).Lawful stage := by
  rcases ofRecord_some record instanceIndex stage with
    ⟨status, vertices, stride, whole, indices⟩
  have shows (holds : (record.stage stage).Holds) :
      (ofRecord (some record) instanceIndex stage).vertexBuffer.isSome ∧
        0 < (ofRecord (some record) instanceIndex stage).vertexByteStride ∧
        (ofRecord (some record) instanceIndex stage).vertexByteSize =
          maxWord := by
    rw [vertices, stride]
    exact ⟨holds.vertices, holds.stride, whole holds.vertices⟩
  constructor
  case failed =>
    intro failed
    rw [status] at failed ⊢
    exact ofRecord_eq_of_eq (lawful.failures stage failed) instanceIndex
  case shown =>
    intro succeeded
    rw [status] at succeeded
    cases stage with
    | post => exact .inl (shows (lawful.post succeeded).1)
    | vertex =>
        rcases lawful.vertex succeeded with ⟨pipeline, shader, -, told⟩
        split at told
        · have empty : record.stage .vertex = _ := told
          have only := ofRecord_eq_of_eq empty instanceIndex
          exact .inr ⟨rfl, by rw [only]⟩
        · exact .inl (shows told)
  case post =>
    rintro rfl succeeded
    rw [status] at succeeded
    exact indices (lawful.post succeeded).2.1

end MeshView

/-! ## Runs -/

theorem RecordStore.mem_of_own?_eq_some {store : RecordStore} {event : EventId}
    {record : EventRecord} (stored : store.own? event = some record) :
    (event, record) ∈ store.records := by
  rcases List.lookup_eq_some_iff.mp stored with ⟨front, behind, split, -⟩
  rw [split]
  exact List.mem_append_right _ List.mem_cons_self

namespace Engine

variable {σ : Type} [Device σ]

/-- Every record of a run was made by a capture of a draw that a replay passed,
and tells by its statuses what the capture did: on failure nothing else is set,
on success there are vertices. Behind a failed vertex stage the post stage was
not tried, and for a draw that meets no preconditions the device did nothing. So
every view of a run shows vertices, or says why there are none, unless it is one
of a vertex shader without outputs. -/
theorem records_lawful (device : σ) (settings : Settings)
    (operations : List Operation) :
    let engine := (new device settings).run operations
    (∀ event record, engine.store.own? event = some record →
      ∃ there visit finish,
        Made (σ := σ) (Passed operations) settings engine.calls event record
            there visit finish ∧
          record.Lawful there visit finish) ∧
      ∀ event instanceIndex stage,
        (engine.meshView event instanceIndex stage).Lawful stage := by
  intro engine
  have starts : (new device settings).HasMade (Passed operations) settings :=
    ⟨rfl, fun _ inside => absurd inside List.not_mem_nil⟩
  have made : engine.HasMade (Passed operations) settings :=
    keeps_hasMade.run (fun _ passed => passed) starts
  have records : ∀ event record, engine.store.own? event = some record →
      ∃ there visit finish,
        Made (σ := σ) (Passed operations) settings engine.calls event record
            there visit finish ∧
          record.Lawful there visit finish := by
    intro event record stored
    rcases made.2 _ (RecordStore.mem_of_own?_eq_some stored) with
      ⟨there, visit, finish, origin⟩
    exact ⟨there, visit, finish, origin,
      (DrawCapture.of_captureDraw origin.captured).lawful⟩
  refine ⟨records, fun event instanceIndex stage => ?_⟩
  rw [meshView]
  cases stored : engine.record? event with
  | none =>
      exact
        { failed _ := rfl
          shown succeeded :=
            absurd succeeded CaptureFailure.notCaptured.message_ne_empty
          post _ _ := rfl }
  | some record =>
      rcases records _ record stored with ⟨there, visit, finish, -, lawful⟩
      exact MeshView.lawful_ofRecord lawful instanceIndex stage

-- The list of the first draw is refused, that of the second one is not.
example :
    (Scripted.refused.meshView 1 0 .vertex).vertexBuffer = none ∧
      (Scripted.refused.meshView 1 0 .vertex).status ≠ "" ∧
      (Scripted.refused.meshView 2 0 .vertex).vertexBuffer.isSome := by
  decide +kernel

end Engine

end MeshCapture
