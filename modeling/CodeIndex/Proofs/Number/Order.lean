import Mathlib.Data.Prod.Lex

/-!
# Numbers in order

Similarities may have either sign.  As long as none of them is NaN, they are compared like numbers:
each has a position in a linear order, and one is less than another if and only if its position is.
The two zeros share a position.

## Main definitions

* `Single.IsNumber`: everything but NaN.
* `Single.position`: what numbers are compared by.

## Main statements

* `Single.lt_iff_position`
* `Single.IsNumber.not_le_zero_iff`: the test for what is positive.
-/

namespace CodeIndex

open Float.Model (UnpackedFloat)

namespace Unpacked

/-- What numbers are compared by: their kind, and their exponent and mantissa, counted downwards
below zero. -/
def position : UnpackedFloat → Int ×ₗ Int ×ₗ Int
  | .infinity .negative => toLex (-2, toLex (0, 0))
  | .finite .negative m e _ => toLex (-1, toLex (-e, -m))
  | .zero _ => toLex (0, toLex (0, 0))
  | .finite .positive m e _ => toLex (1, toLex (e, m))
  | .infinity .positive => toLex (2, toLex (0, 0))
  | .notANumber => toLex (3, toLex (0, 0))

variable {a b : UnpackedFloat}

theorem lt_iff_position (number : a ≠ .notANumber) (number' : b ≠ .notANumber) :
    a.lt b = true ↔ position a < position b := by
  cases a with
  | notANumber => exact absurd rfl number
  | infinity sign =>
      cases b with
      | notANumber => exact absurd rfl number'
      | infinity sign' => cases sign <;> cases sign' <;> decide
      | zero sign' => cases sign <;> cases sign' <;> decide
      | finite sign' m e pos =>
          cases sign <;> cases sign' <;>
            dsimp only [UnpackedFloat.lt, UnpackedFloat.compare, position] <;>
            simp [Prod.Lex.lt_iff]
  | zero sign =>
      cases b with
      | notANumber => exact absurd rfl number'
      | infinity sign' => cases sign <;> cases sign' <;> decide
      | zero sign' => cases sign <;> cases sign' <;> decide
      | finite sign' m e pos =>
          cases sign' <;> dsimp only [UnpackedFloat.lt, UnpackedFloat.compare, position] <;>
            simp [Prod.Lex.lt_iff]
  | finite sign m e pos =>
      cases b with
      | notANumber => exact absurd rfl number'
      | infinity sign' =>
          cases sign <;> cases sign' <;>
            dsimp only [UnpackedFloat.lt, UnpackedFloat.compare, position] <;>
            simp [Prod.Lex.lt_iff]
      | zero sign' =>
          cases sign <;> dsimp only [UnpackedFloat.lt, UnpackedFloat.compare, position] <;>
            simp [Prod.Lex.lt_iff]
      | finite sign' m' e' pos' =>
          -- below zero, larger exponents and mantissas come first
          cases sign <;> cases sign' <;>
            dsimp only [UnpackedFloat.lt, UnpackedFloat.compare, position] <;>
            simp [Prod.Lex.lt_iff, Ordering.then_eq_lt, Ordering.then_eq_gt, Int.compare_eq_lt,
              Int.compare_eq_gt, Nat.compare_eq_lt, Nat.compare_eq_gt]

theorem le_zero_iff_position (number : a ≠ .notANumber) :
    a.le (.zero .positive) = true ↔ position a ≤ position (.zero .positive) := by
  cases a with
  | notANumber => exact absurd rfl number
  | infinity sign => cases sign <;> decide
  | zero sign => cases sign <;> decide
  | finite sign m e pos =>
      cases sign <;> dsimp only [UnpackedFloat.le, UnpackedFloat.compare, position] <;>
        simp [Prod.Lex.le_iff]

end Unpacked

namespace Single

/-- Whether something in single precision is a number. -/
def IsNumber (x : Float32) : Prop := x.isNaN = false

instance (x : Float32) : Decidable (IsNumber x) := inferInstanceAs (Decidable (x.isNaN = false))

/-- What numbers in single precision are compared by. -/
def position (x : Float32) : Int ×ₗ Int ×ₗ Int := Unpacked.position x.toModel.unpack

variable {x y : Float32}

theorem IsNumber.unpack_ne (number : IsNumber x) : x.toModel.unpack ≠ .notANumber := by
  intro nan
  have isNaN : UnpackedFloat.isNaN x.toModel.unpack = false := number
  rw [nan] at isNaN
  cases isNaN

theorem isNumber_zero : IsNumber 0 := by decide

/-- **Numbers are compared by their positions.** -/
theorem lt_iff_position (number : IsNumber x) (number' : IsNumber y) :
    x < y ↔ position x < position y :=
  decide_eq_true_iff.trans (Unpacked.lt_iff_position number.unpack_ne number'.unpack_ne)

/-- What is not at most zero is positive, unless it is NaN. -/
theorem IsNumber.not_le_zero_iff (number : IsNumber x) : ¬x ≤ 0 ↔ 0 < x := by
  have at_most : x ≤ 0 ↔ position x ≤ position 0 :=
    decide_eq_true_iff.trans (Unpacked.le_zero_iff_position number.unpack_ne)
  rw [at_most, lt_iff_position isNumber_zero number, not_le]

end Single

end CodeIndex
