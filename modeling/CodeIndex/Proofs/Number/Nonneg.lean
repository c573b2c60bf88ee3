import Mathlib.Data.Prod.Lex

/-!
# Numbers that are not negative

Scores are sums of reciprocals in single precision, and they are rounded at every step.  What
ranking needs of them is little: a score is a number at all, and larger scores come first.  Both
follow from one invariant, which every step keeps.  A number is not negative (`IsNonneg`) if it is
zero, finite or infinite with a positive sign, and so never NaN.  Rounding keeps signs, and nothing
is ever subtracted, so that neither the size of a sum nor an overflow matters.

Among such numbers the comparisons of floating-point numbers are those of a linear order
(`Single.le_iff`), which they are not in general.

## Main definitions

* `Unpacked.IsNonneg`, `Single.IsNonneg`
* `Unpacked.magnitude`: what numbers that are not negative are compared by.

## Main statements

* `Unpacked.IsNonneg.unpack_pack`: storing a number keeps its sign.
* `Single.IsNonneg.add`, `Single.IsNonneg.one_div`, `Single.isNonneg_ofNat`
* `Single.lt_iff`, `Single.le_iff`
-/

namespace CodeIndex

open Float.Model (Format UnpackedFloat)
open Float.Model.UnpackedFloat (Accuracy Sign packComponents unpackSign roundWithAccuracy
  unpackExponent_packComponents unpackMantissa_packComponents)

namespace Unpacked

/-- **Whether a number is not negative.**  NaN is not such a number, and neither is the zero with a
sign. -/
inductive IsNonneg : UnpackedFloat → Prop
  | zero : IsNonneg (.zero .positive)
  | finite (m : Nat) (e : Int) (pos : 0 < m) : IsNonneg (.finite .positive m e pos)
  | infinity : IsNonneg (.infinity .positive)

/-! ## Comparisons -/

/-- What numbers that are not negative are compared by: their kind, exponent and mantissa. -/
def magnitude : UnpackedFloat → Nat ×ₗ Int ×ₗ Nat
  | .zero _ => toLex (0, toLex (0, 0))
  | .finite _ m e _ => toLex (1, toLex (e, m))
  | .infinity _ => toLex (2, toLex (0, 0))
  | .notANumber => toLex (3, toLex (0, 0))

namespace IsNonneg

variable {a b : UnpackedFloat}

theorem lt_iff (nonneg : IsNonneg a) (nonneg' : IsNonneg b) :
    a.lt b = true ↔ magnitude a < magnitude b := by
  cases nonneg <;> cases nonneg' <;>
    dsimp only [UnpackedFloat.lt, UnpackedFloat.compare, magnitude] <;>
    simp [Prod.Lex.lt_iff, Ordering.then_eq_lt, Int.compare_eq_lt, Nat.compare_eq_lt]

theorem le_iff (nonneg : IsNonneg a) (nonneg' : IsNonneg b) :
    a.le b = true ↔ magnitude a ≤ magnitude b := by
  have same : compare Sign.positive .positive = .eq := rfl
  cases nonneg <;> cases nonneg' <;>
    dsimp only [UnpackedFloat.le, UnpackedFloat.compare, magnitude] <;>
    simp [Prod.Lex.le_iff, same, Ordering.isLE_then_iff_or, Int.compare_eq_lt, Nat.isLE_compare]

end IsNonneg

/-! ## Rounding -/

variable {spec : Format}

theorem isNonneg_dite {p : Prop} [Decidable p] {t : p → UnpackedFloat} {e : ¬p → UnpackedFloat}
    (yes : ∀ h, IsNonneg (t h)) (no : ∀ h, IsNonneg (e h)) : IsNonneg (dite p t e) := by
  by_cases h : p
  · rw [dif_pos h]
    exact yes h
  · rw [dif_neg h]
    exact no h

theorem isNonneg_roundWithAccuracy (m : Nat) (e : Int) (accuracy : Accuracy) :
    IsNonneg (roundWithAccuracy spec .positive m e accuracy) := by
  unfold roundWithAccuracy
  exact isNonneg_dite (fun _ => .zero) fun _ => .finite ..

theorem isNonneg_normalize {m : Int} (nonneg : 0 ≤ m) (e : Int) :
    IsNonneg (UnpackedFloat.normalize spec m e .positive) := by
  unfold UnpackedFloat.normalize
  split
  · rename_i negative
    exact absurd (Int.compare_eq_lt.1 negative) (Int.not_lt.2 nonneg)
  · exact .zero
  · exact isNonneg_roundWithAccuracy ..

namespace IsNonneg

variable {a b : UnpackedFloat}

theorem add (nonneg : IsNonneg a) (nonneg' : IsNonneg b) :
    IsNonneg (UnpackedFloat.add spec a b) := by
  cases nonneg with
  | zero => cases nonneg' <;> constructor
  | infinity => cases nonneg' <;> constructor
  | finite m e pos =>
      cases nonneg' with
      | zero => exact .finite m e pos
      | infinity => exact .infinity
      | finite m' e' pos' =>
          exact isNonneg_normalize (Int.add_nonneg (Int.natCast_nonneg _) (Int.natCast_nonneg _)) _

/-- A product is not negative if one of its factors is finite. -/
theorem mul_finite (nonneg : IsNonneg a) (m : Nat) (e : Int) (pos : 0 < m) :
    IsNonneg (UnpackedFloat.mul spec a (.finite .positive m e pos)) := by
  cases nonneg with
  | zero => exact .zero
  | infinity => exact .infinity
  | finite m' e' pos' => exact isNonneg_roundWithAccuracy ..

/-- A quotient is not negative if its dividend is finite, even if its divisor is zero. -/
theorem div_finite (m : Nat) (e : Int) (pos : 0 < m) (nonneg : IsNonneg a) :
    IsNonneg (UnpackedFloat.div spec (.finite .positive m e pos) a) := by
  cases nonneg with
  | zero => exact .infinity
  | infinity => exact .zero
  | finite m' e' pos' => exact isNonneg_roundWithAccuracy ..

end IsNonneg

theorem isNonneg_ofScientific (m : Nat) {e : Int} (nonneg : 0 ≤ e) :
    IsNonneg (UnpackedFloat.ofScientific spec m e) := by
  unfold UnpackedFloat.ofScientific
  refine isNonneg_dite (fun _ => .zero) fun _ => ?_
  refine iteInduction (fun _ => .infinity) fun _ => ?_
  refine iteInduction (fun _ => .zero) fun _ => ?_
  rw [if_pos nonneg]
  exact (IsNonneg.finite ..).mul_finite ..

/-! ## Storing -/

theorem unpackSign_packComponents {sign : Sign} {exponent : BitVec spec.exponentBits}
    {mantissa : BitVec spec.mantissaBitsWithoutImplicit} :
    unpackSign (packComponents spec sign exponent mantissa) = sign.toBitVec := by
  delta unpackSign packComponents
  ext i bound
  obtain rfl : i = 0 := by omega
  simp [BitVec.getLsbD_append, ← BitVec.getLsbD_eq_getElem]

/-- What is stored with a positive sign is read as a number that is not negative, unless it is
NaN. -/
theorem isNonneg_unpack_packComponents {exponent : BitVec spec.exponentBits}
    {mantissa : BitVec spec.mantissaBitsWithoutImplicit}
    (number : exponent = -1#_ → mantissa = 0#_) :
    IsNonneg (UnpackedFloat.unpack spec (packComponents spec .positive exponent mantissa)) := by
  have sign : Sign.ofBitVec (unpackSign (packComponents spec .positive exponent mantissa)) =
      .positive := by
    rw [unpackSign_packComponents]
    rfl
  unfold UnpackedFloat.unpack
  dsimp only
  rw [unpackExponent_packComponents, sign]
  refine iteInduction (fun all => ?_) fun _ => ?_
  · rw [unpackMantissa_packComponents, if_pos (number all)]
    exact .infinity
  · refine iteInduction (fun _ => ?_) fun _ => .finite ..
    exact isNonneg_dite (fun _ => .zero) fun _ => .finite ..

/-- **Storing a number keeps it from being negative.**  Exponents that are too large become
infinite, and no other exponent is that of NaN. -/
theorem IsNonneg.unpack_pack {a : UnpackedFloat} (nonneg : IsNonneg a) :
    IsNonneg (UnpackedFloat.unpack spec (UnpackedFloat.pack spec a)) := by
  cases nonneg with
  | zero => exact isNonneg_unpack_packComponents fun _ => rfl
  | infinity => exact isNonneg_unpack_packComponents fun _ => rfl
  | finite m e pos =>
      unfold UnpackedFloat.pack
      dsimp only
      split
      · exact isNonneg_unpack_packComponents fun _ => rfl
      · rename_i small
        split
        · refine isNonneg_unpack_packComponents fun all => absurd (congrArg BitVec.toNat all) ?_
          simp [BitVec.neg_one_eq_allOnes]
          rw [Nat.mod_eq_of_lt (by omega)]
          omega
        · refine isNonneg_unpack_packComponents fun all => absurd (congrArg BitVec.toNat all) ?_
          have := spec.he
          simp [BitVec.neg_one_eq_allOnes]
          omega

end Unpacked

namespace Single

/-- Whether a number in single precision is not negative. -/
def IsNonneg (x : Float32) : Prop := Unpacked.IsNonneg x.toModel.unpack

/-- What numbers in single precision that are not negative are compared by. -/
def magnitude (x : Float32) : Nat ×ₗ Int ×ₗ Nat := Unpacked.magnitude x.toModel.unpack

theorem isNonneg_pack {a : UnpackedFloat} (nonneg : Unpacked.IsNonneg a) :
    IsNonneg (.ofModel (.pack a)) :=
  nonneg.unpack_pack

variable {x y : Float32}

theorem lt_iff (nonneg : IsNonneg x) (nonneg' : IsNonneg y) :
    x < y ↔ magnitude x < magnitude y :=
  decide_eq_true_iff.trans (Unpacked.IsNonneg.lt_iff nonneg nonneg')

theorem le_iff (nonneg : IsNonneg x) (nonneg' : IsNonneg y) :
    x ≤ y ↔ magnitude x ≤ magnitude y :=
  decide_eq_true_iff.trans (Unpacked.IsNonneg.le_iff nonneg nonneg')

theorem IsNonneg.add (nonneg : IsNonneg x) (nonneg' : IsNonneg y) : IsNonneg (x + y) :=
  isNonneg_pack (Unpacked.IsNonneg.add nonneg nonneg')

/-- The bits of the number one. -/
theorem unpack_one :
    ∃ pos, (Float32.ofBits 0x3F800000).toModel.unpack = .finite .positive 8388608 (-23) pos :=
  ⟨by decide, rfl⟩

/-- Reciprocals of numbers that are not negative are not negative. -/
theorem IsNonneg.one_div (nonneg : IsNonneg x) : IsNonneg (1 / x) := by
  have same : (1 : Float32) = .ofBits 0x3F800000 := rfl
  obtain ⟨pos, one⟩ := unpack_one
  have divided : Unpacked.IsNonneg (.div .binary32 (Float32.ofBits 0x3F800000).toModel.unpack
      x.toModel.unpack) := by
    rw [one]
    exact .div_finite _ _ pos nonneg
  rw [same]
  exact isNonneg_pack divided

theorem isNonneg_ofNat (n : Nat) : IsNonneg (Float32.ofNat n) := by
  show IsNonneg (Float32.ofScientific n false 0)
  unfold Float32.ofScientific
  split
  · -- small numbers are scaled by the power of ten that is one
    have whole : IsNonneg n.toUInt64.toFloat32 :=
      isNonneg_pack (Unpacked.isNonneg_normalize (Int.natCast_nonneg _) 0)
    obtain ⟨pos, one⟩ := unpack_one
    have scaled : Unpacked.IsNonneg (.mul .binary32 n.toUInt64.toFloat32.toModel.unpack
        (Float32.ofBits 0x3F800000).toModel.unpack) := by
      rw [one]
      exact whole.mul_finite _ _ pos
    exact isNonneg_pack scaled
  · exact isNonneg_pack (Unpacked.isNonneg_ofScientific n le_rfl)

end Single

end CodeIndex
