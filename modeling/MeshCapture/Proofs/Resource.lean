import MeshCapture.Engine
import MeshCapture.Proofs.History
import Mathlib.Algebra.Order.Group.Multiset
import Mathlib.Data.List.Induction

/-! # Resources

What a device holds for the engine, counted over the calls of a run: a creation
that succeeds adds to it, and a release takes away. Which resources ought to be
there follows from the scratch set and from the records. -/

namespace MeshCapture

inductive Resource where
  | buffer (handle : BufferHandle)
  | queryHeap (handle : QueryHeapHandle)
  | rootSignature (handle : RootSignatureHandle)
  | pipeline (handle : PipelineHandle)
deriving DecidableEq

namespace Call

def made? : Call → Option Resource
  | createBuffer _ (.ok handle) => some (.buffer handle)
  | createQueryHeap _ (.ok handle) => some (.queryHeap handle)
  | createRootSignature _ (.ok handle) => some (.rootSignature handle)
  | createPipeline _ (.ok handle) => some (.pipeline handle)
  | _ => none

def freed? : Call → Option Resource
  | releaseBuffer handle => some (.buffer handle)
  | releaseQueryHeap handle => some (.queryHeap handle)
  | releaseRootSignature handle => some (.rootSignature handle)
  | releasePipeline handle => some (.pipeline handle)
  | _ => none

end Call

/-! ## Live resources -/

def liveAfter (live : Multiset Resource) (call : Call) : Multiset Resource :=
  match call.made?, call.freed? with
  | some resource, _ => resource ::ₘ live
  | none, some resource => live.erase resource
  | none, none => live

@[simp] theorem liveAfter_sync (live : Multiset Resource) :
    liveAfter live .sync = live := rfl

@[simp] theorem liveAfter_execute (live : Multiset Resource)
    (list : CommandList) (outcome : Except DeviceFailure Unit) :
    liveAfter live (.execute list outcome) = live := rfl

def live (calls : List Call) : Multiset Resource :=
  calls.foldl liveAfter 0

@[simp] theorem live_nil : live [] = 0 := rfl

theorem live_append (calls more : List Call) :
    live (calls ++ more) = more.foldl liveAfter (live calls) := by
  simp [live]

@[simp] theorem live_concat (calls : List Call) (call : Call) :
    live (calls ++ [call]) = liveAfter (live calls) call := by
  simp [live]

/-- A creation never answers with a handle that is still in use. -/
def FreshHandles (calls : List Call) : Prop :=
  Throughout (fun earlier call =>
    ∀ resource ∈ call.made?, resource ∉ live earlier) calls

instance (calls : List Call) : Decidable (FreshHandles calls) :=
  inferInstanceAs (Decidable (Throughout _ _))

theorem nodup_live {calls : List Call} (fresh : FreshHandles calls) :
    (live calls).Nodup := by
  induction calls using List.reverseRecOn with
  | nil => simp
  | append_singleton calls call induction =>
      have parts := Throughout.concat_iff.mp fresh
      have before := induction parts.1
      rw [live_concat, liveAfter]
      split
      · next resource made =>
          exact Multiset.nodup_cons.mpr ⟨parts.2 resource made, before⟩
      · exact before.erase _
      · exact before

/-! ## Owned resources -/

namespace StageRecord

def resources (record : StageRecord) : Multiset Resource :=
  record.buffers.map Resource.buffer

theorem resources_attach (record : StageRecord) (buffer : BufferHandle)
    (width : IndexWidth) (unindexed : record.indexBuffer = none) :
    ({ record with
        indexBuffer := some buffer
        indexWidth := width } : StageRecord).resources =
      .buffer buffer ::ₘ record.resources := by
  rw [resources, resources, buffers, buffers, unindexed]
  simp only [Option.toList_none, Option.toList_some, List.append_nil,
    List.map_append, List.map_singleton, ← Multiset.coe_add,
    Multiset.coe_singleton]
  rw [add_comm, Multiset.singleton_add]

end StageRecord

namespace EventRecord

def resources (record : EventRecord) : Multiset Resource :=
  record.buffers.map Resource.buffer

theorem resources_eq (record : EventRecord) :
    record.resources = record.vertex.resources + record.post.resources := by
  simp [resources, StageRecord.resources, buffers]

end EventRecord

namespace RecordStore

def resources (store : RecordStore) : Multiset Resource :=
  store.buffers.map Resource.buffer

@[simp] theorem resources_empty : resources {} = 0 := rfl

@[simp] theorem resources_addAlias (store : RecordStore)
    (primary synonym : EventId) :
    (store.addAlias primary synonym).resources = store.resources := by
  unfold addAlias
  simp only
  split <;> rfl

theorem resources_insert (store : RecordStore) (event : EventId)
    (record : EventRecord) (absent : store.contains event = false) :
    (store.insert event record).resources =
      record.resources + store.resources := by
  rw [add_comm]
  simp [insert, absent, resources, buffers, EventRecord.resources]

end RecordStore

def Scratch.resources (scratch : Scratch) : Multiset Resource :=
  {.buffer scratch.output, .buffer scratch.staging,
    .buffer scratch.indexUpload, .queryHeap scratch.statisticsHeap}

def Workspace.scratchResources {σ : Type} (workspace : Workspace σ) :
    Multiset Resource :=
  workspace.scratch.elim 0 Scratch.resources

def Engine.owned {σ : Type} (engine : Engine σ) : Multiset Resource :=
  engine.store.resources + engine.workspace.scratchResources

end MeshCapture
