import MeshCapture.Proofs.ClipPlanes.Depths
import MeshCapture.Proofs.ClipPlanes.SinglePrecision

/-! # The near plane

An estimated near plane lies beyond the eye or is no number: the checks of a
solution reject what they find wrong with it, and in what is no number they find
nothing wrong. `near_pos_iff` tells which captures end there. -/

namespace MeshCapture

namespace Depth

/-! ## Lines through two depths -/

section

variable (first other : Depth)

def slope : Float32 :=
  (other.z - first.z) / (other.w - first.w)

def intercept : Float32 :=
  other.z - other.w * first.slope other

def solution : ClipPlanes :=
  ⟨-first.intercept other / first.slope other,
    first.intercept other / (1 - first.slope other)⟩

def Determined : Prop :=
  (first.slope other).isFinite ∧ other.w.isFinite

end

section

variable {first other : Depth}

theorem isFinite_z (slope : (first.slope other).isFinite) :
    other.z.isFinite :=
  (Single.isFinite_of_sub (Single.isFinite_of_div slope)).1

/-- The intercept of a determined line may be infinite, but it is a number, and
so is its quotient by the slope unless both are zero. -/
theorem Determined.not_isNaN_near (determined : first.Determined other)
    (nonzero : ¬ first.intercept other == 0) :
    ¬ (first.solution other).near.isNaN := by
  rcases determined with ⟨slope, w⟩
  have z := isFinite_z slope
  rw [Single.isFinite_iff] at slope w
  have product : (other.w * first.slope other).isNaN = false := by
    rw [Single.isNaN_mul, slope.1, slope.2, w.1, w.2]
    simp
  have intercept : (first.intercept other).isNaN = false := by
    rw [Depth.intercept, Single.isNaN_sub z, product]
  have negated : (-first.intercept other == 0) = false :=
    Bool.eq_false_iff.mpr fun zero => nonzero (Single.beq_zero_of_neg zero)
  rw [solution, Single.isNaN_div, Single.isNaN_neg, intercept, slope.1, slope.2,
    negated]
  simp

/-- A line that is not determined has no finite slope, and then no finite
intercept, or is level, and then its intercept is no number. -/
theorem slope_of_not_determined (undetermined : ¬ first.Determined other) :
    (¬ (first.slope other).isFinite ∧ ¬ (first.intercept other).isFinite) ∨
      (first.slope other == 0 ∧ (first.intercept other).isNaN) := by
  by_cases slope : (first.slope other).isFinite
  · have w : ¬ other.w.isFinite := fun w => undetermined ⟨slope, w⟩
    have level : first.slope other == 0 :=
      Single.div_beq_zero slope fun finite =>
        w (Single.isFinite_of_sub finite).1
    refine .inr ⟨level, ?_⟩
    rw [intercept, Single.isNaN_sub (isFinite_z slope), Single.isNaN_mul, level]
    rcases Single.not_isFinite_iff.mp w with none | infinite
    · rw [none, Bool.true_or, Bool.true_or, Bool.true_or]
    · rw [infinite, Bool.true_and, Bool.or_true, Bool.true_or]
  · refine .inl ⟨slope, fun finite => slope ?_⟩
    exact (Single.isFinite_of_mul (Single.isFinite_of_sub finite).2).2

theorem isNaN_near_of_not_determined
    (undetermined : ¬ first.Determined other) :
    (first.solution other).near.isNaN := by
  rw [solution, Single.isNaN_div]
  rcases slope_of_not_determined undetermined with ⟨slope, intercept⟩ | level
  · have negated : ¬ (-first.intercept other).isFinite := fun finite =>
      intercept (Single.isFinite_of_neg finite)
    rcases Single.not_isFinite_iff.mp slope with none | infinite
    · rw [none, Bool.or_true, Bool.true_or, Bool.true_or]
    · rcases Single.not_isFinite_iff.mp negated with none | both
      · rw [none, Bool.true_or, Bool.true_or, Bool.true_or]
      · rw [infinite, both, Bool.true_and, Bool.or_true, Bool.true_or]
  · rw [Single.isNaN_neg, level.2, Bool.true_or, Bool.true_or, Bool.true_or]

theorem passes_of_not_determined (undetermined : ¬ first.Determined other) :
    ¬ first.slope other == 1 ∧ ¬ first.intercept other == 0 ∧
      ¬ (first.solution other).near ≤ ClipPlanes.minimumNear := by
  have near := isNaN_near_of_not_determined undetermined
  refine ⟨fun one => ?_, fun zero => ?_, Single.not_le_of_isNaN near⟩
  · have steep := Single.isFinite_of_beq_one one
    rcases slope_of_not_determined undetermined with ⟨slope, -⟩ | ⟨level, -⟩
    · exact slope steep.1
    · exact steep.2 level
  · have finite := Single.isFinite_of_beq_zero zero
    rcases slope_of_not_determined undetermined with ⟨-, intercept⟩ | ⟨-, none⟩
    · exact intercept finite
    · exact Single.not_isFinite_iff.mpr (.inl none) finite

end

/-! ## Depths of use -/

section

variable (epsilon : Float32) (first other : Depth)

def Apart : Prop :=
  ¬ ((other.w - first.w).abs ≤ epsilon ∨ (other.z - first.z).abs ≤ epsilon)

instance : Decidable (first.Apart epsilon other) :=
  inferInstanceAs (Decidable (¬ (_ ∨ _)))

def Usable : Prop :=
  first.Apart epsilon other ∧ ¬ first.slope other == 1 ∧
    ¬ first.intercept other == 0 ∧
      ClipPlanes.minimumNear < (first.solution other).near

instance : Decidable (first.Usable epsilon other) :=
  inferInstanceAs (Decidable (_ ∧ _))

def Undetermined : Prop :=
  first.Apart epsilon other ∧ ¬ first.Determined other

end

section

variable {epsilon : Float32} {first other : Depth}

theorem solve_eq : ClipPlanes.solve epsilon first other =
    if first.Apart epsilon other then
      if first.slope other == 1 || first.intercept other == 0 then
        none
      else if (first.solution other).near ≤ ClipPlanes.minimumNear then
        none
      else
        some (first.solution other)
    else
      none :=
  (ite_not ..).symm

theorem solve_of_passes (apart : first.Apart epsilon other)
    (passes : ¬ first.slope other == 1 ∧ ¬ first.intercept other == 0 ∧
      ¬ (first.solution other).near ≤ ClipPlanes.minimumNear) :
    ClipPlanes.solve epsilon first other = some (first.solution other) := by
  rw [solve_eq, if_pos apart, if_neg, if_neg passes.2.2]
  rw [Bool.or_eq_true, not_or]
  exact ⟨passes.1, passes.2.1⟩

theorem solve_of_usable (usable : first.Usable epsilon other) :
    ClipPlanes.solve epsilon first other = some (first.solution other) :=
  solve_of_passes usable.1
    ⟨usable.2.1, usable.2.2.1, Single.not_le_of_lt usable.2.2.2⟩

theorem solve_of_undetermined
    (undetermined : first.Undetermined epsilon other) :
    ClipPlanes.solve epsilon first other = some (first.solution other) :=
  solve_of_passes undetermined.1 (passes_of_not_determined undetermined.2)

/-- Nothing else is solved: of a determined line the checks reject whatever is
of no use. -/
theorem solve_eq_none (unusable : ¬ first.Usable epsilon other)
    (determined : ¬ first.Undetermined epsilon other) :
    ClipPlanes.solve epsilon first other = none := by
  rw [solve_eq]
  split
  · next apart =>
      have line : first.Determined other := by
        by_contra undetermined
        exact determined ⟨apart, undetermined⟩
      split
      · rfl
      · next passes =>
          rw [Bool.or_eq_true, not_or] at passes
          split
          · rfl
          · next above =>
              have near := Single.lt_of_not_le (line.not_isNaN_near passes.2)
                (by decide) above
              exact absurd ⟨apart, passes.1, passes.2, near⟩ unusable
  · rfl

end

end Depth

/-! ## Searching for a depth of use -/

namespace ClipPlanes

def ofUsable (epsilon : Float32) : (depths : List Depth) → ClipPlanes
  | [] => fallback
  | first :: others =>
      ((others.find? fun other => first.Usable epsilon other).map
        first.solution).getD (ofSingle first)

/-- Behind nothing but depths of no use comes one whose line is not
determined. -/
inductive MeetsUndetermined (epsilon : Float32) (first : Depth) :
    (others : List Depth) → Prop where
  | here {other : Depth} {rest : List Depth}
      (undetermined : first.Undetermined epsilon other) :
      MeetsUndetermined epsilon first (other :: rest)
  | behind {other : Depth} {rest : List Depth}
      (unusable : ¬ first.Usable epsilon other)
      (meets : MeetsUndetermined epsilon first rest) :
      MeetsUndetermined epsilon first (other :: rest)

variable {epsilon : Float32} {first : Depth} {others : List Depth}

theorem MeetsUndetermined.findSome?_solve
    (meets : MeetsUndetermined epsilon first others) :
    ∃ planes, others.findSome? (solve epsilon first) = some planes ∧
      planes.near.isNaN := by
  induction meets with
  | here undetermined =>
      rw [List.findSome?_cons, Depth.solve_of_undetermined undetermined]
      exact ⟨_, rfl, Depth.isNaN_near_of_not_determined undetermined.2⟩
  | @behind other _ unusable _ induction =>
      rw [List.findSome?_cons]
      by_cases undetermined : first.Undetermined epsilon other
      · rw [Depth.solve_of_undetermined undetermined]
        exact ⟨_, rfl, Depth.isNaN_near_of_not_determined undetermined.2⟩
      · rw [Depth.solve_eq_none unusable undetermined]
        exact induction

theorem findSome?_solve_eq
    (never : ¬ MeetsUndetermined epsilon first others) :
    others.findSome? (solve epsilon first) =
      (others.find? fun other => first.Usable epsilon other).map
        first.solution := by
  induction others with
  | nil => rfl
  | cons other rest induction =>
      rw [List.findSome?_cons]
      by_cases usable : first.Usable epsilon other
      · rw [Depth.solve_of_usable usable,
          List.find?_cons_of_pos (by rwa [decide_eq_true_eq])]
        rfl
      · have determined : ¬ first.Undetermined epsilon other :=
          fun undetermined => never (.here undetermined)
        rw [Depth.solve_eq_none usable determined,
          List.find?_cons_of_neg (by rwa [decide_eq_true_eq])]
        exact induction fun meets => never (.behind usable meets)

theorem near_ofSingle_pos : 0 < (ofSingle first).near := by
  unfold ofSingle
  split
  · next inside => exact inside.1
  · decide

theorem near_ofUsable_pos (depths : List Depth) :
    0 < (ofUsable epsilon depths).near := by
  cases depths with
  | nil => exact (by decide : 0 < fallback.near)
  | cons first others =>
      rw [ofUsable]
      cases found : others.find? fun other => first.Usable epsilon other with
      | none => exact near_ofSingle_pos
      | some other =>
          have usable := List.find?_some found
          rw [decide_eq_true_eq] at usable
          exact Single.pos_of_lt (by decide) usable.2.2.2

end ClipPlanes

/-! ## Estimating the near plane -/

namespace VertexData

variable (vertices : VertexData) (epsilon : Float32)

def depths : List Depth :=
  vertices.depthSequence.map Depth.ofBits

def usablePlanes : ClipPlanes :=
  .ofUsable epsilon vertices.depths

def MeetsUndetermined : Prop :=
  ∃ first others, vertices.depths = first :: others ∧
    ClipPlanes.MeetsUndetermined epsilon first others

variable {vertices epsilon}

theorem isNaN_near_planes (meets : vertices.MeetsUndetermined epsilon) :
    (vertices.planes epsilon).near.isNaN := by
  rcases meets with ⟨first, others, depths, meets⟩
  rcases meets.findSome?_solve with ⟨planes, solved, none⟩
  rw [planes_eq_ofDepths, ← VertexData.depths, depths, ClipPlanes.ofDepths,
    solved]
  exact none

theorem planes_eq_usablePlanes
    (never : ¬ vertices.MeetsUndetermined epsilon) :
    vertices.planes epsilon = vertices.usablePlanes epsilon := by
  rw [planes_eq_ofDepths, usablePlanes, ← VertexData.depths]
  cases depths : vertices.depths with
  | nil => rfl
  | cons first others =>
      rw [ClipPlanes.ofDepths, ClipPlanes.findSome?_solve_eq fun meets =>
        never ⟨first, others, depths, meets⟩, ClipPlanes.ofUsable]

/-- The near plane lies beyond the eye, and vertices whose solution is
degenerate are passed over, exactly as long as the search for a vertex of use
does not meet one whose line through the first vertex is not determined. There
it ends with a near plane that is no number. -/
theorem near_pos_iff (epsilon : Float32) (vertices : VertexData) :
    (0 < (vertices.planes epsilon).near ↔
      ¬ vertices.MeetsUndetermined epsilon) ∧
    (vertices.planes epsilon = vertices.usablePlanes epsilon ↔
      ¬ vertices.MeetsUndetermined epsilon) ∧
    ((vertices.planes epsilon).near.isNaN ↔
      vertices.MeetsUndetermined epsilon) := by
  have usable : 0 < (vertices.usablePlanes epsilon).near :=
    ClipPlanes.near_ofUsable_pos vertices.depths
  by_cases meets : vertices.MeetsUndetermined epsilon
  · have none := isNaN_near_planes meets
    have not_pos : ¬ 0 < (vertices.planes epsilon).near := fun positive =>
      Single.not_isNaN_of_lt positive none
    exact ⟨iff_of_false not_pos fun never => never meets,
      iff_of_false (fun same => not_pos (same ▸ usable))
        fun never => never meets,
      iff_of_true none meets⟩
  · have same := planes_eq_usablePlanes meets
    have positive := same ▸ usable
    exact ⟨iff_of_true positive meets, iff_of_true same meets,
      iff_of_false (Single.not_isNaN_of_lt positive) meets⟩

/-- Three vertices on the line with the planes 1 and 2, but for the second one,
whose `z` is no number. -/
def interruptedLine : VertexData where
  data := ⟨#[0, 0, 0, 0, 0, 0, 0, 0, 0, 0, 0x80, 0x3F, 0, 0, 0xC0, 0x3F,
    0, 0, 0, 0, 0, 0, 0, 0, 0, 0, 0xC0, 0x7F, 0, 0, 0xA0, 0x40,
    0, 0, 0, 0, 0, 0, 0, 0, 0, 0, 0, 0x40, 0, 0, 0, 0x40]⟩
  stride := 16
  count := 3

/-- The second vertex gives the near plane away that the third one tells. -/
theorem near_interruptedLine :
    let epsilon : Float32 := 0.01
    0 ≤ epsilon ∧ epsilon.isFinite ∧
      interruptedLine.usablePlanes epsilon = ⟨1, 2⟩ ∧
      (interruptedLine.planes epsilon).near.isNaN ∧
      ¬ 0 < (interruptedLine.planes epsilon).near := by
  decide +kernel

end VertexData

end MeshCapture
