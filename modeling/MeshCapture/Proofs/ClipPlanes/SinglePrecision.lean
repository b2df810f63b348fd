import MeshCapture.ClipPlanes

/-! # Single precision

A float need not be a finite number: it can be infinite or no number at all.
This is what the operations and comparisons that solve clip planes make of such
values and of zero. An operation takes its operands apart and stores its result
as a float again, which can make it infinite but not turn a number into none. -/

namespace MeshCapture.Single

open Float.Model (Format UnpackedFloat)
open Float.Model.UnpackedFloat

/-- Sign, mantissa and exponent of a float, or what it is in their place. -/
def parts (number : Float32) : UnpackedFloat :=
  number.toModel.unpack

/-- What is left of a result that is stored as a float. -/
def stored (result : UnpackedFloat) : UnpackedFloat :=
  unpack .binary32 (pack .binary32 result)

def isZero : UnpackedFloat → Bool
  | .zero _ => true
  | _ => false

inductive Positive : UnpackedFloat → Prop where
  | infinity : Positive (.infinity .positive)
  | finite {mantissa : Nat} {exponent : Int} (nonzero : 0 < mantissa) :
      Positive (.finite .positive mantissa exponent nonzero)

/-! ## Words -/

inductive Unpacked (bits : BitVec Format.binary32.numBits) :
    UnpackedFloat → Prop where
  | infinity (sign : Sign) (top : unpackExponent bits = -1#8)
      (empty : unpackMantissa bits = 0#23) :
      Unpacked bits (.infinity sign)
  | notANumber (top : unpackExponent bits = -1#8)
      (filled : unpackMantissa bits ≠ 0#23) :
      Unpacked bits .notANumber
  | zero (sign : Sign) (bottom : unpackExponent bits = 0#8)
      (empty : unpackMantissa bits = 0#23) :
      Unpacked bits (.zero sign)
  | finite (sign : Sign) {mantissa : Nat} {exponent : Int}
      (below : unpackExponent bits ≠ -1#8)
      (filled : ¬ (unpackExponent bits = 0#8 ∧ unpackMantissa bits = 0#23))
      (nonzero : 0 < mantissa) (short : mantissa < 0x1000000)
      (large : -149 ≤ exponent) :
      Unpacked bits (.finite sign mantissa exponent nonzero)

theorem of_dite {condition : Prop} [Decidable condition]
    {motive : UnpackedFloat → Prop} {yes : condition → UnpackedFloat}
    {no : ¬ condition → UnpackedFloat} (first : ∀ holds, motive (yes holds))
    (second : ∀ fails, motive (no fails)) : motive (dite condition yes no) := by
  split
  · exact first _
  · exact second _

theorem unpacked (bits : BitVec Format.binary32.numBits) :
    Unpacked bits (unpack .binary32 bits) := by
  have mantissa : (unpackMantissa bits).toNat < 0x800000 :=
    (unpackMantissa bits).isLt
  unfold unpack
  apply iteInduction (motive := Unpacked bits)
  · intro top
    apply iteInduction (motive := Unpacked bits)
    · intro empty
      exact .infinity _ top empty
    · intro filled
      exact .notANumber top filled
  · intro below
    apply iteInduction (motive := Unpacked bits)
    · intro bottom
      apply of_dite (motive := Unpacked bits)
      · intro empty
        exact .zero _ bottom empty
      · intro filled
        refine .finite _ below (fun both => filled both.2) _ ?_ ?_
        · exact Nat.lt_trans mantissa (by decide)
        · rw [bottom]
          decide
    · intro normal
      refine .finite _ below (fun both => normal both.1) _ ?_ ?_
      · exact (1#1 ++ unpackMantissa bits).isLt
      · have positive : (unpackExponent bits).toNat ≠ 0 := fun zero =>
          normal (BitVec.eq_of_toNat_eq zero)
        change -149 ≤ ((unpackExponent bits).toNat : Int) - 150
        omega

theorem isNaN_unpack (bits : BitVec Format.binary32.numBits) :
    (unpack .binary32 bits).isNaN ↔
      unpackExponent bits = -1#8 ∧ unpackMantissa bits ≠ 0#23 := by
  have told := unpacked bits
  generalize unpack .binary32 bits = result at told
  cases told with
  | infinity _ _ empty =>
      exact iff_of_false Bool.false_ne_true fun both => both.2 empty
  | notANumber top filled => exact iff_of_true rfl ⟨top, filled⟩
  | zero _ _ empty =>
      exact iff_of_false Bool.false_ne_true fun both => both.2 empty
  | finite _ below =>
      exact iff_of_false Bool.false_ne_true fun both => below both.1

theorem isZero_unpack (bits : BitVec Format.binary32.numBits) :
    isZero (unpack .binary32 bits) ↔
      unpackExponent bits = 0#8 ∧ unpackMantissa bits = 0#23 := by
  have top_ne_bottom : -1#8 ≠ 0#8 := by decide
  have told := unpacked bits
  generalize unpack .binary32 bits = result at told
  cases told with
  | infinity _ top =>
      exact iff_of_false Bool.false_ne_true fun both =>
        top_ne_bottom (top.symm.trans both.1)
  | notANumber top =>
      exact iff_of_false Bool.false_ne_true fun both =>
        top_ne_bottom (top.symm.trans both.1)
  | zero _ bottom empty => exact iff_of_true rfl ⟨bottom, empty⟩
  | finite _ _ filled => exact iff_of_false Bool.false_ne_true filled

/-! ## Stored results -/

theorem stored_infinity (sign : Sign) :
    stored (.infinity sign) = .infinity sign := by
  cases sign <;> rfl

theorem stored_zero (sign : Sign) : stored (.zero sign) = .zero sign := by
  cases sign <;> rfl

theorem pack_finite (sign : Sign) {mantissa : Nat} (exponent : Int)
    (nonzero : 0 < mantissa) :
    pack .binary32 (.finite sign mantissa exponent nonzero) =
      if 256 ≤ (exponent + 127 + 23).toNat + 1 then
        packedInfinity .binary32 sign
      else if mantissa.log2 + 1 = 24 then
        packComponents .binary32 sign
          (BitVec.ofNat 8 (exponent + 127 + 23).toNat)
          (BitVec.ofNat 23 mantissa)
      else
        packComponents .binary32 sign 0#8 (BitVec.ofNat 23 mantissa) := rfl

theorem isNaN_stored_finite (sign : Sign) {mantissa : Nat} (exponent : Int)
    (nonzero : 0 < mantissa) :
    (stored (.finite sign mantissa exponent nonzero)).isNaN = false := by
  rw [← Bool.not_eq_true, stored, isNaN_unpack, pack_finite]
  split
  · rw [packedInfinity, unpackMantissa_packComponents]
    exact fun both => both.2 rfl
  · next fits =>
      split
      · rw [unpackExponent_packComponents]
        rintro ⟨top, -⟩
        have field : (exponent + 127 + 23).toNat % 256 = 255 :=
          congrArg BitVec.toNat top
        omega
      · rw [unpackExponent_packComponents]
        rintro ⟨top, -⟩
        exact absurd top (by decide)

/-- What is a nonzero part of one float is not stored as zero. -/
theorem isZero_stored_finite (sign : Sign) {mantissa : Nat} {exponent : Int}
    (nonzero : 0 < mantissa) (short : mantissa < 0x1000000)
    (large : -149 ≤ exponent) :
    isZero (stored (.finite sign mantissa exponent nonzero)) = false := by
  rw [← Bool.not_eq_true, stored, isZero_unpack, pack_finite]
  split
  · rw [packedInfinity, unpackExponent_packComponents]
    rintro ⟨bottom, -⟩
    exact absurd bottom (by decide)
  · next fits =>
      split
      · rw [unpackExponent_packComponents]
        rintro ⟨bottom, -⟩
        have field : (exponent + 127 + 23).toNat % 256 = 0 :=
          congrArg BitVec.toNat bottom
        omega
      · next subnormal =>
          have log : mantissa.log2 < 24 :=
            (Nat.log2_lt (Nat.ne_of_gt nonzero)).mpr short
          have tiny : mantissa < 0x800000 :=
            (Nat.log2_lt (Nat.ne_of_gt nonzero)).mp
              (show mantissa.log2 < 23 by omega)
          rw [unpackMantissa_packComponents]
          rintro ⟨-, empty⟩
          have field : mantissa % 0x800000 = 0 := congrArg BitVec.toNat empty
          omega

theorem isNaN_stored (result : UnpackedFloat) :
    (stored result).isNaN = result.isNaN := by
  cases result with
  | infinity sign => rw [stored_infinity]
  | notANumber => rfl
  | zero sign => rw [stored_zero]
  | finite sign mantissa exponent nonzero =>
      exact isNaN_stored_finite sign exponent nonzero

theorem isFinite_of_stored {result : UnpackedFloat}
    (finite : (stored result).isFinite) : result.isFinite := by
  cases result with
  | infinity sign => rwa [stored_infinity] at finite
  | notANumber => exact finite
  | zero | finite => rfl

theorem isNaN_roundWithAccuracy (sign : Sign) (mantissa : Nat) (exponent : Int)
    (accuracy : Accuracy) :
    (roundWithAccuracy .binary32 sign mantissa exponent accuracy).isNaN =
      false := by
  unfold roundWithAccuracy
  apply of_dite (motive := fun result => result.isNaN = false)
  · exact fun _ => rfl
  · exact fun _ => rfl

theorem isNaN_normalize (mantissa exponent : Int) (zeroSign : Sign) :
    (UnpackedFloat.normalize .binary32 mantissa exponent zeroSign).isNaN =
      false := by
  unfold UnpackedFloat.normalize
  split
  · exact isNaN_roundWithAccuracy ..
  · rfl
  · exact isNaN_roundWithAccuracy ..

/-! ## Kinds of floats -/

section

variable {left right number : Float32}

theorem isFinite_eq : number.isFinite = (parts number).isFinite := rfl

theorem isInf_eq : number.isInf = (parts number).isInf := rfl

theorem isNaN_eq : number.isNaN = (parts number).isNaN := rfl

theorem beq_eq : (left == right) = (parts left).beq (parts right) := rfl

theorem parts_zero : parts 0 = .zero .positive := rfl

theorem parts_one :
    parts 1 = .finite .positive 0x800000 (-23) (by decide) := rfl

theorem isFinite_iff :
    number.isFinite ↔ number.isNaN = false ∧ number.isInf = false := by
  rw [isFinite_eq, isNaN_eq, isInf_eq]
  cases parts number with
  | infinity =>
      exact iff_of_false Bool.false_ne_true fun both => Bool.noConfusion both.2
  | notANumber =>
      exact iff_of_false Bool.false_ne_true fun both => Bool.noConfusion both.1
  | zero | finite => exact iff_of_true rfl ⟨rfl, rfl⟩

theorem not_isFinite_iff :
    ¬ number.isFinite ↔ number.isNaN ∨ number.isInf := by
  rw [isFinite_iff]
  cases number.isNaN <;> cases number.isInf <;> decide

theorem beq_zero : (number == 0) = isZero (parts number) := by
  rw [beq_eq, parts_zero]
  cases parts number with
  | infinity sign | finite sign => cases sign <;> rfl
  | notANumber | zero => rfl

theorem isFinite_of_beq_zero (zero : number == 0) : number.isFinite := by
  rw [beq_zero] at zero
  rw [isFinite_eq]
  generalize parts number = number at zero
  cases number with
  | infinity | notANumber => cases zero
  | zero | finite => rfl

theorem isFinite_of_beq_one (one : number == 1) :
    number.isFinite ∧ ¬ number == 0 := by
  rw [beq_eq, parts_one] at one
  rw [isFinite_eq, beq_zero]
  generalize parts number = number at one
  cases number with
  | infinity sign => cases sign <;> cases one
  | notANumber | zero => cases one
  | finite => exact ⟨rfl, Bool.false_ne_true⟩

end

/-! ## Operations -/

section

variable {left right number : Float32}

theorem parts_sub : parts (left - right) =
    stored (.sub .binary32 (parts left) (parts right)) := rfl

theorem parts_mul : parts (left * right) =
    stored (.mul .binary32 (parts left) (parts right)) := rfl

theorem parts_div : parts (left / right) =
    stored (.div .binary32 (parts left) (parts right)) := rfl

theorem parts_neg : parts (-number) = stored (parts number).neg := rfl

theorem isFinite_of_sub (finite : (left - right).isFinite) :
    left.isFinite ∧ right.isFinite := by
  rw [isFinite_eq, parts_sub] at finite
  replace finite := isFinite_of_stored finite
  rw [isFinite_eq, isFinite_eq]
  generalize parts left = left, parts right = right at finite
  cases left with
  | infinity sign =>
      cases right with
      | infinity other => cases sign <;> cases other <;> cases finite
      | _ => cases finite
  | notANumber => cases right <;> cases finite
  | zero | finite =>
      cases right with
      | infinity | notANumber => cases finite
      | zero | finite => exact ⟨rfl, rfl⟩

theorem isNaN_sub (finite : left.isFinite) :
    (left - right).isNaN = right.isNaN := by
  rw [isFinite_eq] at finite
  rw [isNaN_eq, isNaN_eq, parts_sub, isNaN_stored]
  generalize parts left = left, parts right = right at finite
  cases left with
  | infinity | notANumber => cases finite
  | zero sign =>
      cases right with
      | zero other => cases sign <;> cases other <;> rfl
      | _ => rfl
  | finite =>
      cases right with
      | finite => exact isNaN_normalize ..
      | _ => rfl

theorem isFinite_of_mul (finite : (left * right).isFinite) :
    left.isFinite ∧ right.isFinite := by
  rw [isFinite_eq, parts_mul] at finite
  replace finite := isFinite_of_stored finite
  rw [isFinite_eq, isFinite_eq]
  generalize parts left = left, parts right = right at finite
  cases left with
  | infinity | notANumber => cases right <;> cases finite
  | zero | finite =>
      cases right with
      | infinity | notANumber => cases finite
      | zero | finite => exact ⟨rfl, rfl⟩

theorem isNaN_mul : (left * right).isNaN =
    (left.isNaN || right.isNaN || (left.isInf && right == 0) ||
      (left == 0 && right.isInf)) := by
  simp only [isNaN_eq, isInf_eq, beq_zero, parts_mul, isNaN_stored]
  generalize parts left = left, parts right = right
  cases left with
  | infinity | notANumber | zero => cases right <;> rfl
  | finite =>
      cases right with
      | finite => exact isNaN_roundWithAccuracy ..
      | _ => rfl

theorem isFinite_of_div (finite : (left / right).isFinite) :
    left.isFinite := by
  rw [isFinite_eq, parts_div] at finite
  replace finite := isFinite_of_stored finite
  rw [isFinite_eq]
  generalize parts left = left, parts right = right at finite
  cases left with
  | infinity | notANumber => cases right <;> cases finite
  | zero | finite => rfl

theorem isNaN_div : (left / right).isNaN =
    (left.isNaN || right.isNaN || (left.isInf && right.isInf) ||
      (left == 0 && right == 0)) := by
  simp only [isNaN_eq, isInf_eq, beq_zero, parts_div, isNaN_stored]
  generalize parts left = left, parts right = right
  cases left with
  | infinity | notANumber | zero => cases right <;> rfl
  | finite =>
      cases right with
      | finite => exact isNaN_roundWithAccuracy ..
      | _ => rfl

theorem div_beq_zero (finite : (left / right).isFinite)
    (infinite : ¬ right.isFinite) : left / right == 0 := by
  rw [isFinite_eq, parts_div] at finite
  replace finite := isFinite_of_stored finite
  rw [isFinite_eq] at infinite
  rw [beq_zero, parts_div]
  generalize parts left = left, parts right = right at finite infinite
  cases right with
  | infinity =>
      cases left with
      | infinity | notANumber => cases finite
      | zero | finite =>
          change isZero (stored (.zero _))
          rw [stored_zero]
          rfl
  | notANumber => cases left <;> cases finite
  | zero | finite => exact absurd rfl infinite

theorem isNaN_neg : (-number).isNaN = number.isNaN := by
  rw [isNaN_eq, parts_neg, isNaN_stored, isNaN_eq]
  cases parts number <;> rfl

theorem isFinite_of_neg (finite : (-number).isFinite) : number.isFinite := by
  rw [isFinite_eq, parts_neg] at finite
  replace finite := isFinite_of_stored finite
  rw [isFinite_eq]
  generalize parts number = number at finite
  cases number with
  | infinity | notANumber => cases finite
  | zero | finite => rfl

theorem beq_zero_of_neg (zero : -number == 0) : number == 0 := by
  have told : Unpacked _ (parts number) := unpacked _
  rw [beq_zero, parts_neg] at zero
  rw [beq_zero]
  generalize parts number = number at zero told
  cases told with
  | infinity sign =>
      change isZero (stored (.infinity _)) at zero
      rw [stored_infinity] at zero
      cases zero
  | notANumber => cases zero
  | zero => rfl
  | finite sign _ _ nonzero short large =>
      change isZero (stored (.finite (-sign) _ _ nonzero)) at zero
      rw [isZero_stored_finite _ nonzero short large] at zero
      cases zero

end

/-! ## Order -/

theorem compare_swap (left right : UnpackedFloat) :
    (left.compare right).map Ordering.swap = right.compare left := by
  cases left with
  | infinity sign =>
      cases right with
      | infinity other => cases sign <;> cases other <;> rfl
      | _ => cases sign <;> rfl
  | notANumber => cases right <;> rfl
  | zero =>
      cases right with
      | infinity other | finite other => cases other <;> rfl
      | notANumber | zero => rfl
  | finite sign mantissa exponent =>
      cases right with
      | infinity other => cases other <;> rfl
      | notANumber => rfl
      | zero => cases sign <;> rfl
      | finite other further last =>
          let order := (compare exponent last).then (compare mantissa further)
          have swapped : order.swap =
              (compare last exponent).then (compare further mantissa) := by
            rw [Ordering.swap_then, Int.compare_swap, Nat.compare_swap]
          cases sign with
          | positive =>
              cases other with
              | positive => exact congrArg some swapped
              | negative => rfl
          | negative =>
              cases other with
              | positive => rfl
              | negative => exact congrArg (some ·.swap) swapped

theorem isNaN_of_compare {left right : UnpackedFloat}
    (unordered : left.compare right = none) : left.isNaN ∨ right.isNaN := by
  cases right with
  | notANumber => exact .inr rfl
  | infinity other =>
      cases left with
      | notANumber => exact .inl rfl
      | infinity sign => cases sign <;> cases other <;> cases unordered
      | zero | finite => cases other <;> cases unordered
  | zero =>
      cases left with
      | notANumber => exact .inl rfl
      | infinity sign | finite sign => cases sign <;> cases unordered
      | zero => cases unordered
  | finite other =>
      cases left with
      | notANumber => exact .inl rfl
      | infinity sign => cases sign <;> cases unordered
      | zero => cases other <;> cases unordered
      | finite sign => cases sign <;> cases other <;> cases unordered

theorem compare_notANumber (number : UnpackedFloat) :
    number.compare .notANumber = none := by
  cases number <;> rfl

section

variable {left right number : Float32}

theorem lt_iff :
    left < right ↔ (parts left).compare (parts right) = some .lt := by
  change decide (left.toModel < right.toModel) = true ↔ _
  rw [decide_eq_true_iff]
  exact beq_iff_eq

theorem le_iff : left ≤ right ↔
    ∃ order, (parts left).compare (parts right) = some order ∧ order.isLE := by
  change decide (left.toModel ≤ right.toModel) = true ↔ _
  rw [decide_eq_true_iff]
  exact Option.any_eq_true _ _

theorem not_le_of_lt (below : left < right) : ¬ right ≤ left := by
  rw [lt_iff] at below
  rw [le_iff, ← compare_swap, below]
  rintro ⟨order, same, le⟩
  cases same
  cases le

theorem lt_of_not_le (first : ¬ left.isNaN) (second : ¬ right.isNaN)
    (above : ¬ left ≤ right) : right < left := by
  rw [le_iff] at above
  rw [lt_iff, ← compare_swap]
  cases compared : (parts left).compare (parts right) with
  | none => exact ((isNaN_of_compare compared).elim first second).elim
  | some order =>
      cases order with
      | gt => rfl
      | lt | eq => exact absurd ⟨_, compared, rfl⟩ above

theorem not_le_of_isNaN (none : left.isNaN) : ¬ left ≤ right := by
  rw [isNaN_eq] at none
  rw [le_iff]
  generalize parts left = left, parts right = right at none
  cases left with
  | notANumber =>
      rintro ⟨order, same, -⟩
      cases same
  | infinity | zero | finite => cases none

theorem not_isNaN_of_lt (below : left < right) : ¬ right.isNaN := by
  rw [lt_iff] at below
  rw [isNaN_eq]
  generalize parts left = left, parts right = right at below
  cases right with
  | notANumber =>
      rw [compare_notANumber] at below
      cases below
  | infinity | zero | finite => exact Bool.false_ne_true

theorem pos_iff : 0 < number ↔ Positive (parts number) := by
  rw [lt_iff, parts_zero]
  generalize parts number = number
  constructor
  · intro above
    cases number with
    | infinity sign =>
        cases sign with
        | positive => exact .infinity
        | negative => cases above
    | notANumber | zero => cases above
    | finite sign =>
        cases sign with
        | positive => exact .finite _
        | negative => cases above
  · intro positive
    cases positive <;> rfl

theorem pos_of_lt (positive : 0 < left) (below : left < right) :
    0 < right := by
  rw [pos_iff] at positive ⊢
  rw [lt_iff] at below
  generalize parts left = left, parts right = right at positive below
  cases right with
  | infinity sign =>
      cases sign with
      | positive => exact .infinity
      | negative => cases positive <;> cases below
  | notANumber =>
      rw [compare_notANumber] at below
      cases below
  | zero => cases positive <;> cases below
  | finite sign =>
      cases sign with
      | positive => exact .finite _
      | negative => cases positive <;> cases below

end

end MeshCapture.Single
