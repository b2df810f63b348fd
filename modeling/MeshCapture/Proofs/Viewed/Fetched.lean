import MeshCapture.Proofs.Viewed.Basic

/-! # Fetched indices

The indices read for a draw are the ones it fetches, as far as the index buffer
gives any. -/

namespace MeshCapture

theorem IndexWidth.toNat_bytes_mul (width : IndexWidth) (count : UInt32) :
    (count.toUInt64 * width.bytes.toUInt64).toNat =
      IndexStream.indexBytes width * count.toNat := by
  have small := count.toNat_lt
  have few : IndexStream.indexBytes width ≤ 4 := by cases width <;> decide
  have fits := Nat.mul_le_mul few (Nat.le_of_lt small)
  have bytes : width.bytes.toNat = IndexStream.indexBytes width := rfl
  rw [UInt64.toNat_mul, UInt32.toNat_toUInt64, UInt32.toNat_toUInt64, bytes,
    Nat.mul_comm]
  exact Nat.mod_eq_of_lt (by omega)

namespace IndexBufferRange

variable (range : IndexBufferRange) (memory : BufferHandle → ByteArray)

theorem fetch_eq (place : Nat) :
    let bytes := IndexStream.indexBytes range.width
    range.fetch memory place =
      if bytes * place + bytes ≤ range.size.toNat then
        IndexStream.indexAt range.width (memory range.buffer)
          (range.offset.toNat + bytes * place)
      else
        0 := by
  intro bytes
  rw [fetch, IndexStream.fetch_eq_indexAt, IndexStream.indexAt_extract]
  congr 1
  simp only [eq_iff_iff, bytes]
  omega

def skipping (first declared : UInt32) : ByteArray :=
  let width := range.width.bytes.toUInt64
  let skip := first.toUInt64 * width
  let length := min (declared.toUInt64 * width) (saturatingSub range.size skip)
  let offset := saturatingAdd range.offset skip
  (memory range.buffer).extract offset.toNat (offset.toNat + length.toNat)

theorem skipping_eq (first declared : UInt32) :
    let bytes := IndexStream.indexBytes range.width
    let offset :=
      min (range.offset.toNat + bytes * first.toNat) (UInt64.size - 1)
    range.skipping memory first declared =
      (memory range.buffer).extract offset
        (offset + min (bytes * declared.toNat)
          (range.size.toNat - bytes * first.toNat)) := by
  intro bytes offset
  have skipped := range.width.toNat_bytes_mul first
  simp only [skipping]
  rw [UInt64.toNat_min, toNat_saturatingSub, toNat_saturatingAdd, skipped,
    range.width.toNat_bytes_mul declared]

variable {range memory}

theorem fetch_skipping {first declared : UInt32}
    (sized : (memory range.buffer).size < UInt64.size) {place : Nat}
    (less : place < declared.toNat) :
    IndexStream.fetch range.width (range.skipping memory first declared) place =
      range.fetch memory (first.toNat + place) := by
  rw [skipping_eq, fetch_eq, IndexStream.fetch_eq_indexAt,
    IndexStream.indexAt_extract]
  obtain ⟨bytes, same⟩ : ∃ bytes, IndexStream.indexBytes range.width = bytes :=
    ⟨_, rfl⟩
  have positive : 0 < bytes := same ▸ IndexStream.indexBytes_pos range.width
  have inside : bytes * place + bytes ≤ bytes * declared.toNat :=
    Nat.mul_le_mul_left bytes less
  have places : bytes * (first.toNat + place) =
      bytes * first.toNat + bytes * place := Nat.mul_add _ _ _
  rw [same, places]
  by_cases wraps : UInt64.size ≤ range.offset.toNat + bytes * first.toNat
  · -- Neither side finds anything behind the end of the word range.
    have beyond (offset : Nat) (far : UInt64.size - 1 ≤ offset) :
        IndexStream.indexAt range.width (memory range.buffer) offset = 0 :=
      IndexStream.indexAt_eq_zero (by omega)
    rw [beyond _ (by omega), beyond _ (by omega)]
    simp only [ite_self]
  · rw [Nat.min_eq_left (by omega), Nat.add_assoc range.offset.toNat]
    congr 1
    simp only [eq_iff_iff]
    omega

theorem isEmpty_skipping_iff {first declared : UInt32}
    (sized : (memory range.buffer).size < UInt64.size)
    (elements : 0 < declared.toNat) :
    (range.skipping memory first declared).isEmpty = false ↔
      range.Reaches memory first.toNat := by
  have positive := IndexStream.indexBytes_pos range.width
  have room := Nat.mul_pos positive elements
  rw [ByteArray.isEmpty, skipping_eq, ByteArray.size_extract, Reaches,
    beq_eq_false_iff_ne]
  omega

end IndexBufferRange

theorem DrawVisit.fetched_eq {visit : DrawVisit} {range : IndexBufferRange}
    (bound : visit.state.indexBuffer = some range)
    (memory : BufferHandle → ByteArray) (place : Nat) :
    visit.fetched memory place =
      range.fetch memory (visit.draw.firstIndex.toNat + place) := by
  rw [fetched, bound]
  rfl

/-- What some calls read of the indices of a draw: nothing, or what it fetches.
If the draw has indices, only a refused read gives nothing. -/
structure ReadsIndices (visit : DrawVisit) (memory : BufferHandle → ByteArray)
    (calls : List Call) (bytes : ByteArray) (width : IndexWidth) : Prop where
  small : bytes.size < UInt64.size
  fetched : bytes.isEmpty = false → ∀ place < visit.draw.elementCount.toNat,
    IndexStream.fetch width bytes place = visit.fetched memory place
  has : bytes.isEmpty = false → visit.HasIndices memory
  gives : visit.HasIndices memory → bytes.isEmpty = false ∨
    ∃ call ∈ calls, call.isRefusedRead = true

namespace ReadsIndices

variable {visit : DrawVisit} {memory : BufferHandle → ByteArray}
  {calls more : List Call} {bytes : ByteArray} {width : IndexWidth}

theorem of_empty
    (why : visit.HasIndices memory →
      ∃ call ∈ calls, call.isRefusedRead = true) :
    ReadsIndices visit memory calls .empty width :=
  ⟨by decide, nofun, nofun, fun has => .inr (why has)⟩

theorem of_skipping {range : IndexBufferRange}
    (bound : visit.state.indexBuffer = some range)
    (elements : 0 < visit.draw.elementCount.toNat)
    (sized : (memory range.buffer).size < UInt64.size) :
    ReadsIndices visit memory calls
      (range.skipping memory visit.draw.firstIndex visit.draw.elementCount)
      range.width where
  small := by
    rw [IndexBufferRange.skipping, ByteArray.size_extract]
    omega
  fetched := fun _ place less => by
    rw [DrawVisit.fetched_eq bound]
    exact IndexBufferRange.fetch_skipping sized less
  has := fun present =>
    ⟨range, bound,
      (IndexBufferRange.isEmpty_skipping_iff sized elements).mp present⟩
  gives := by
    rintro ⟨other, same, reaches⟩
    cases bound.symm.trans same
    exact .inl
      ((IndexBufferRange.isEmpty_skipping_iff sized elements).mpr reaches)

theorem mono (reads : ReadsIndices visit memory calls bytes width)
    (inside : calls ⊆ more) : ReadsIndices visit memory more bytes width where
  small := reads.small
  fetched := reads.fetched
  has := reads.has
  gives := fun has => (reads.gives has).imp_right
    fun ⟨call, made, refused⟩ => ⟨call, inside made, refused⟩

end ReadsIndices

variable {σ : Type} [Device σ] {before after : Workspace σ}
  {contents : Contents} {visit : DrawVisit} {settings : Settings}
  {signature : Option RootSignatureHandle}

theorem Work.readsIndices_of_fetchIndices {bytes : ByteArray}
    {width : IndexWidth}
    (ran : (fetchIndices (visit.pass settings signature)).run before =
      ((bytes, width), after))
    (elements : 0 < visit.draw.elementCount.toNat)
    (faithful : contents.Faithful after.history)
    (sized : ∀ buffer,
      (contents before.history [] buffer).size < UInt64.size) :
    ∃ calls, after.history = before.history ++ calls ∧
      ReadsIndices visit (contents before.history []) calls bytes width := by
  unfold fetchIndices at ran
  split at ran
  · next absent =>
      cases ran
      refine ⟨[], (List.append_nil _).symm, .of_empty ?_⟩
      rintro ⟨range, bound, -⟩
      cases (show visit.state.indexBuffer = none from absent).symm.trans bound
  · next range bound =>
      replace bound : visit.state.indexBuffer = some range := bound
      split at ran
      · next none =>
          cases ran
          refine ⟨[], (List.append_nil _).symm, .of_empty ?_⟩
          rintro ⟨other, same, reaches⟩
          cases bound.symm.trans same
          exact absurd reaches.1 (by simp [none])
      · let skip := visit.draw.firstIndex.toUInt64 *
          range.width.bytes.toUInt64
        let length := min
          (visit.draw.elementCount.toUInt64 * range.width.bytes.toUInt64)
          (saturatingSub range.size skip)
        let offset := saturatingAdd range.offset skip
        rcases answered : (readBuffer range.buffer offset
          length).run.run before with ⟨outcome, there⟩
        have adds := adds_call answered
        have rest := (run_bind answered).symm.trans ran
        cases outcome with
        | error cause =>
            cases rest
            exact ⟨_, adds.history, .of_empty fun _ =>
              ⟨_, List.mem_singleton_self _, rfl⟩⟩
        | ok held =>
            cases rest
            obtain rfl : bytes = range.skipping (contents before.history [])
                visit.draw.firstIndex visit.draw.elementCount :=
              adds.read_eq faithful
            exact ⟨_, adds.history,
              .of_skipping bound elements (sized range.buffer)⟩

end MeshCapture
