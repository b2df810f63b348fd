import MeshCapture.ClipPlanes
import MeshCapture.Proofs.LittleEndian
import Mathlib.Data.List.TakeWhile

/-! # What the clip planes are estimated from

Of captured vertices the estimate of the clip planes looks at the depths alone,
up to the one that solves them. `planes_eq_of_depths` says so of any two
captures, whatever else is in their vertices and however these lie. -/

namespace MeshCapture

def Depth.ofBits (bits : UInt32 × UInt32) : Depth :=
  ⟨.ofBits bits.1, .ofBits bits.2⟩

/-- The planes that depths tell: those of the first one that has a solution with
the depth in front, or what that one says alone. -/
def ClipPlanes.ofDepths (epsilon : Float32) : (depths : List Depth) → ClipPlanes
  | [] => fallback
  | first :: others =>
      (others.findSome? (solve epsilon first)).getD (ofSingle first)

structure VertexData where
  data : ByteArray
  stride : UInt32
  count : UInt64

namespace VertexData

def start (vertices : VertexData) (index : Nat) : Nat :=
  index * vertices.stride.toNat

def Holds (vertices : VertexData) (index : Nat) : Prop :=
  vertices.start index + 16 ≤ vertices.data.size

instance (vertices : VertexData) (index : Nat) :
    Decidable (vertices.Holds index) :=
  inferInstanceAs (Decidable (_ ≤ _))

def depthBytes (vertices : VertexData) (index : Nat) : ByteArray :=
  vertices.data.extract (vertices.start index + 8) (vertices.start index + 16)

def depthBits (vertices : VertexData) (index : Nat) : UInt32 × UInt32 :=
  ((LittleEndian.word32At (vertices.depthBytes index) 0).getD 0,
    (LittleEndian.word32At (vertices.depthBytes index) 4).getD 0)

/-- The depths of the first vertex and of those below the count, up to the first
vertex that runs past the data. -/
def depthSequence (vertices : VertexData) : List (UInt32 × UInt32) :=
  ((List.range (max vertices.count.toNat 1)).takeWhile
    fun index => decide (vertices.Holds index)).map vertices.depthBits

def planes (vertices : VertexData) (epsilon : Float32) : ClipPlanes :=
  .estimate vertices.data vertices.stride vertices.count epsilon

/-! ## Reading depths -/

section

variable (vertices : VertexData) (index : Nat)

theorem word32At_depthBytes {offset : Nat} (inside : offset + 4 ≤ 8) :
    LittleEndian.word32At (vertices.depthBytes index) offset =
      LittleEndian.word32At vertices.data
        (vertices.start index + 8 + offset) := by
  rw [depthBytes, LittleEndian.word32At,
    LittleEndian.digitsAt_extract _ _ _ _ (by decide), if_pos (by omega)]
  rfl

theorem ofVertex?_of_holds (holds : vertices.Holds index) :
    ∃ position,
      Position.ofVertex? vertices.data vertices.stride index = some position ∧
        position.depth = Depth.ofBits (vertices.depthBits index) := by
  rw [Holds, start] at holds
  have words (offset : Nat) (inside : offset + 4 ≤ 16) :
      ∃ word, LittleEndian.word32At vertices.data
        (index * vertices.stride.toNat + offset) = some word := by
    rw [LittleEndian.word32At, LittleEndian.digitsAt, if_pos (by omega)]
    exact ⟨_, rfl⟩
  rcases words 0 (by decide) with ⟨x, atX⟩
  rcases words 4 (by decide) with ⟨y, atY⟩
  rcases words 8 (by decide) with ⟨z, atZ⟩
  rcases words 12 (by decide) with ⟨w, atW⟩
  rw [Nat.add_zero] at atX
  rw [depthBits, word32At_depthBytes _ _ (by decide),
    word32At_depthBytes _ _ (by decide), start, Nat.add_zero, Nat.add_assoc,
    Position.ofVertex?, atX, atY, atZ, atW]
  exact ⟨_, rfl, rfl⟩

theorem ofVertex?_of_past (past : ¬ vertices.Holds index) :
    Position.ofVertex? vertices.data vertices.stride index = none := by
  rw [Holds, start] at past
  have none_past : LittleEndian.word32At vertices.data
      (index * vertices.stride.toNat + 12) = none := by
    rw [LittleEndian.word32At, LittleEndian.digitsAt, if_neg (by omega)]
    rfl
  simp only [Position.ofVertex?, none_past, Option.bind_eq_bind,
    Option.bind_none, Option.bind_fun_none]

end

/-! ## Searching depths -/

section

variable (vertices : VertexData) (epsilon : Float32)

/-- A search looks at the depths of the vertices in order and ends in front of
the first vertex that is not there. -/
theorem search_eq_findSome? (first : Depth) (index remaining : Nat) :
    ClipPlanes.search vertices.data vertices.stride epsilon first index
        remaining =
      ((((List.range' index remaining).takeWhile
        fun index => decide (vertices.Holds index)).map
          vertices.depthBits).map Depth.ofBits).findSome?
            (ClipPlanes.solve epsilon first) := by
  induction remaining generalizing index with
  | zero => rfl
  | succ remaining induction =>
      rw [ClipPlanes.search, List.range'_succ]
      by_cases holds : vertices.Holds index
      · rcases vertices.ofVertex?_of_holds index holds with
          ⟨position, found, depth⟩
        rw [found, List.takeWhile_cons_of_pos (by rwa [decide_eq_true_eq]),
          List.map_cons, List.map_cons, List.findSome?_cons, ← depth,
          ← induction]
        simp only
        cases ClipPlanes.solve epsilon first position.depth <;> rfl
      · rw [vertices.ofVertex?_of_past index holds,
          List.takeWhile_cons_of_neg (by rwa [decide_eq_true_eq])]
        rfl

theorem planes_eq_ofDepths :
    vertices.planes epsilon =
      .ofDepths epsilon (vertices.depthSequence.map Depth.ofBits) := by
  have indices : List.range (max vertices.count.toNat 1) =
      0 :: List.range' 1 (vertices.count.toNat - 1) := by
    rw [show max vertices.count.toNat 1 = vertices.count.toNat - 1 + 1 by omega,
      List.range_eq_range', List.range'_succ]
  rw [planes, ClipPlanes.estimate, depthSequence, indices]
  by_cases holds : vertices.Holds 0
  · rcases vertices.ofVertex?_of_holds 0 holds with ⟨position, found, depth⟩
    rw [found, List.takeWhile_cons_of_pos (by rwa [decide_eq_true_eq]),
      List.map_cons, List.map_cons, ClipPlanes.ofDepths, ← depth,
      ← vertices.search_eq_findSome?]
    simp only
    cases ClipPlanes.search vertices.data vertices.stride epsilon
      position.depth 1 (vertices.count.toNat - 1) <;> rfl
  · rw [vertices.ofVertex?_of_past 0 holds,
      List.takeWhile_cons_of_neg (by rwa [decide_eq_true_eq])]
    rfl

end

/-! ## Vertices in reach -/

theorem takeWhile_eq_filter {α : Type} {check : α → Bool} {values : List α}
    (closed : values.Pairwise fun before after => check after → check before) :
    values.takeWhile check = values.filter check := by
  induction values with
  | nil => rfl
  | cons value rest induction =>
      rcases List.pairwise_cons.mp closed with ⟨first, later⟩
      by_cases passes : check value
      · rw [List.takeWhile_cons_of_pos passes, List.filter_cons_of_pos passes,
          induction later]
      · rw [List.takeWhile_cons_of_neg passes, List.filter_cons_of_neg passes]
        symm
        apply List.filter_eq_nil_iff.mpr
        intro other inside passes_later
        exact passes (first other inside passes_later)

def Reaches (vertices : VertexData) (index : Nat) : Prop :=
  (index = 0 ∨ index < vertices.count.toNat) ∧ vertices.Holds index

theorem Holds.of_le {vertices : VertexData} {lower upper : Nat}
    (holds : vertices.Holds upper) (le : lower ≤ upper) :
    vertices.Holds lower := by
  have before : vertices.start lower ≤ vertices.start upper :=
    Nat.mul_le_mul_right _ le
  rw [Holds] at holds ⊢
  omega

theorem exists_depthSequence_eq (vertices : VertexData) :
    ∃ number, vertices.depthSequence =
        (List.range number).map vertices.depthBits ∧
      ∀ index, index < number ↔ vertices.Reaches index := by
  let indices := List.range (max vertices.count.toNat 1)
  let check (index : Nat) : Bool := decide (vertices.Holds index)
  have taken := List.prefix_iff_eq_take.mp
    (List.takeWhile_prefix check (l := indices))
  rw [List.take_range] at taken
  refine ⟨_, congrArg (List.map vertices.depthBits) taken, fun index => ?_⟩
  rw [← List.mem_range, ← taken, takeWhile_eq_filter, List.mem_filter,
    List.mem_range, decide_eq_true_eq, Reaches]
  · apply and_congr_left'
    omega
  · apply List.pairwise_lt_range.imp
    intro lower upper less holds
    rw [decide_eq_true_eq] at holds ⊢
    exact holds.of_le (Nat.le_of_lt less)

structure SharesDepths (left right : VertexData) : Prop where
  reaches_iff : ∀ index, left.Reaches index ↔ right.Reaches index
  bytes_eq : ∀ index, left.Reaches index →
    left.depthBytes index = right.depthBytes index

theorem SharesDepths.depthSequence_eq {left right : VertexData}
    (shares : left.SharesDepths right) :
    left.depthSequence = right.depthSequence := by
  rcases left.exists_depthSequence_eq with ⟨number, depths, below_iff⟩
  rcases right.exists_depthSequence_eq with ⟨other, others, other_iff⟩
  have same (index : Nat) : index < number ↔ index < other := by
    rw [below_iff, other_iff, shares.reaches_iff]
  have numbers : number = other := by
    have upper := same number
    have lower := same other
    omega
  rw [depths, others, ← numbers]
  apply List.map_congr_left
  intro index inside
  rw [List.mem_range, below_iff] at inside
  rw [depthBits, depthBits, shares.bytes_eq index inside]

/-! ## Solved depths -/

def Solves (vertices : VertexData) (epsilon : Float32) : Prop :=
  ∃ first others, vertices.depthSequence = first :: others ∧
    ∃ other ∈ others,
      (ClipPlanes.solve epsilon (.ofBits first) (.ofBits other)).isSome

theorem Solves.planes_eq {left right : VertexData} {epsilon : Float32}
    (solves : left.Solves epsilon)
    (extends_left : left.depthSequence <+: right.depthSequence) :
    left.planes epsilon = right.planes epsilon := by
  rcases solves with ⟨first, others, depths, other, inside, solved⟩
  rcases extends_left with ⟨further, extended⟩
  have found : ((others.map Depth.ofBits).findSome?
      (ClipPlanes.solve epsilon (.ofBits first))).isSome := by
    apply List.findSome?_isSome_iff.mpr
    exact ⟨.ofBits other, List.mem_map_of_mem inside, solved⟩
  rw [left.planes_eq_ofDepths, right.planes_eq_ofDepths, ← extended, depths,
    List.cons_append, List.map_cons, List.map_cons, List.map_append,
    ClipPlanes.ofDepths, ClipPlanes.ofDepths, List.findSome?_append,
    Option.or_of_isSome found]

def extended (vertices : VertexData) (more : ByteArray) (count : UInt64) :
    VertexData where
  data := vertices.data ++ more
  stride := vertices.stride
  count := count

section

variable {vertices : VertexData} {more : ByteArray} {count : UInt64}
  {index : Nat}

theorem Reaches.extended (reaches : vertices.Reaches index)
    (enough : vertices.count ≤ count) :
    (vertices.extended more count).Reaches index := by
  rcases reaches with ⟨below, holds⟩
  have counted := UInt64.le_iff_toNat_le.mp enough
  have size : (vertices.extended more count).data.size =
      vertices.data.size + more.size := ByteArray.size_append
  constructor
  · exact below.imp_right fun below => Nat.lt_of_lt_of_le below counted
  · rw [Holds] at holds ⊢
    rw [size]
    exact holds.trans (Nat.le_add_right _ _)

theorem depthBytes_extended (holds : vertices.Holds index) :
    (vertices.extended more count).depthBytes index =
      vertices.depthBytes index := by
  rw [Holds] at holds
  have nothing_more : more.extract
      (vertices.start index + 8 - vertices.data.size)
      (vertices.start index + 16 - vertices.data.size) = ByteArray.empty := by
    apply ByteArray.extract_eq_empty_iff.mpr
    omega
  change (vertices.data ++ more).extract (vertices.start index + 8)
    (vertices.start index + 16) = vertices.depthBytes index
  rw [ByteArray.extract_append, nothing_more, ByteArray.append_empty,
    depthBytes]

theorem depthSequence_prefix_extended (enough : vertices.count ≤ count) :
    vertices.depthSequence <+:
      (vertices.extended more count).depthSequence := by
  rcases vertices.exists_depthSequence_eq with ⟨number, depths, below_iff⟩
  rcases (vertices.extended more count).exists_depthSequence_eq with
    ⟨other, others, other_iff⟩
  have larger : number ≤ other := by
    by_contra fewer
    have reaches := (below_iff other).mp (Nat.lt_of_not_le fewer)
    exact Nat.lt_irrefl other ((other_iff other).mpr (reaches.extended enough))
  have same : (List.range number).map vertices.depthBits =
      (List.range number).map (vertices.extended more count).depthBits := by
    apply List.map_congr_left
    intro index inside
    rw [List.mem_range, below_iff] at inside
    rw [depthBits, depthBits, depthBytes_extended inside.2]
  have front : List.range number = (List.range other).take number := by
    rw [List.take_range, Nat.min_eq_left larger]
  rw [depths, others, same, front]
  exact (List.take_prefix number _).map _

end

/-- The planes are a function of the depths, so of captures whose vertices
share these bytes they are the same; and they stay what they are when vertices
follow on those that have a solution. -/
theorem planes_eq_of_depths (epsilon : Float32) (left right : VertexData) :
    (left.depthSequence = right.depthSequence →
      left.planes epsilon = right.planes epsilon) ∧
    (left.SharesDepths right →
      left.planes epsilon = right.planes epsilon) ∧
    (left.Solves epsilon → left.depthSequence <+: right.depthSequence →
      left.planes epsilon = right.planes epsilon) ∧
    (left.Solves epsilon → ∀ more count, left.count ≤ count →
      left.planes epsilon = (left.extended more count).planes epsilon) := by
  have told (same : left.depthSequence = right.depthSequence) :
      left.planes epsilon = right.planes epsilon := by
    rw [left.planes_eq_ofDepths, right.planes_eq_ofDepths, same]
  refine ⟨told, ?_, ?_, ?_⟩
  · intro shares
    exact told shares.depthSequence_eq
  · intro solves
    exact solves.planes_eq
  · intro solves more count enough
    exact solves.planes_eq (depthSequence_prefix_extended enough)

/-! ### Two depths -/

def twoDepths : VertexData where
  data := ⟨#[0, 0, 0, 0, 0, 0, 0, 0, 0, 0, 0x80, 0x3F, 0, 0, 0, 0x40,
    0, 0, 0, 0, 0, 0, 0, 0, 0, 0, 0x40, 0x40, 0, 0, 0xA0, 0x40]⟩
  stride := 16
  count := 2

/-- The same depths in front of an attribute, at other places, with a part of a
vertex behind them and more vertices to look at than there are. -/
def twoDepthsApart : VertexData where
  data := ⟨#[1, 2, 3, 4, 5, 6, 7, 8, 0, 0, 0x80, 0x3F, 0, 0, 0, 0x40,
    9, 9, 9, 9,
    0, 0, 0xC0, 0x7F, 0, 0, 0x80, 0xFF, 0, 0, 0x40, 0x40, 0, 0, 0xA0, 0x40,
    9, 9, 9]⟩
  stride := 20
  count := 100

theorem sharesDepths_twoDepths : twoDepths.SharesDepths twoDepthsApart := by
  have left (index : Nat) : twoDepths.Reaches index ↔ index < 2 := by
    change (index = 0 ∨ index < 2) ∧ index * 16 + 16 ≤ 32 ↔ index < 2
    omega
  have right (index : Nat) : twoDepthsApart.Reaches index ↔ index < 2 := by
    change (index = 0 ∨ index < 100) ∧ index * 20 + 16 ≤ 39 ↔ index < 2
    omega
  constructor
  · intro index
    rw [left, right]
  · intro index reaches
    have bytes : ∀ index < 2,
        twoDepths.depthBytes index = twoDepthsApart.depthBytes index := by
      decide +kernel
    exact bytes index ((left index).mp reaches)

/-- All that leaves the planes alone does so for two depths: other bytes beside
them, and a third vertex behind them. -/
theorem planes_eq_of_depths_two :
    let third : ByteArray :=
      ⟨#[0, 0, 0, 0, 0, 0, 0, 0, 0, 0, 0x80, 0x40, 0, 0, 0, 0x41]⟩
    let longer := twoDepths.extended third 7
    twoDepths.SharesDepths twoDepthsApart ∧
      twoDepths.depthSequence = twoDepthsApart.depthSequence ∧
      twoDepths.planes 0.01 = twoDepthsApart.planes 0.01 ∧
      twoDepths.Solves 0.01 ∧
      twoDepths.depthSequence <+: longer.depthSequence ∧
      twoDepths.planes 0.01 = longer.planes 0.01 := by
  intro third longer
  have shares := sharesDepths_twoDepths
  have solves : twoDepths.Solves 0.01 :=
    ⟨(0x3F800000, 0x40000000), [(0x40400000, 0x40A00000)], by decide +kernel,
      (0x40400000, 0x40A00000), List.mem_singleton_self _, by decide +kernel⟩
  have longer_depths : twoDepths.depthSequence <+: longer.depthSequence :=
    depthSequence_prefix_extended (by decide)
  have apart := planes_eq_of_depths 0.01 twoDepths twoDepthsApart
  have behind := planes_eq_of_depths 0.01 twoDepths longer
  exact ⟨shares, shares.depthSequence_eq, apart.2.1 shares, solves,
    longer_depths, behind.2.2.1 solves longer_depths⟩

end VertexData

end MeshCapture
