import CodeIndex.Proofs.Number.Nonneg
import Mathlib.Algebra.Order.Field.Power
import Mathlib.Algebra.Order.Field.Rat
import Mathlib.Tactic.Ring

/-!
# Whole numbers in single precision

Counts are kept in single precision, and their products are added up.  A whole number below
`2 ^ 24` has room in a mantissa, and nothing is lost as long as sums and products stay below: adding
and multiplying such numbers is adding and multiplying (`Single.ofNat_add`, `Single.ofNat_mul`).

Beyond that, numbers are rounded and may become infinite.  One thing that is still known of them is
that they are at least one (`Single.IsLarge`), since rounding never loses the first bit.  In
particular they are positive, which is all that a test for overlap asks for.

Both come from one description of rounding (`Unpacked.roundWithAccuracy_eq`): a mantissa with more
than twenty-four bits is cut off to twenty-four, rounded, and cut off once more if it has become
longer.

## Main definitions

* `Unpacked.whole`: a whole number with its bits put in front.
* `Unpacked.IsLarge`, `Single.IsLarge`
* `Unpacked.value?`, `Single.value?`: the exact value of a finite number.

## Main statements

* `Single.value?_ofNat`, `Single.ofNat_add`, `Single.ofNat_mul`, `Single.foldl_ofNat_add`
* `Single.isLarge_ofNat`, `Single.IsLarge.add`, `Single.IsLarge.mul`, `Single.IsLarge.pos`
-/

namespace CodeIndex

open Float.Model (Format UnpackedFloat totalExponent)
open Float.Model.UnpackedFloat (Accuracy ExtendedMantissa Sign packComponents unpackSign
  decreaseExponent roundWithAccuracy shiftToTargetExponent shiftToExponent
  unpackExponent_packComponents unpackMantissa_packComponents)
open Float.Model.UnpackedFloat.ExtendedMantissa (ofMantissaAndAccuracy)

namespace Unpacked

variable {m s : ℕ} {e : ℤ}

/-! ## Shifts -/

theorem shiftRight_succ (em : ExtendedMantissa) (s : ℕ) :
    em >>> (s + 1) = (em >>> s).shiftRightOne := rfl

theorem mantissa_shiftRight (em : ExtendedMantissa) (s : ℕ) :
    (em >>> s).mantissa = em.mantissa >>> s := by
  induction s with
  | zero => rfl
  | succ s ih =>
      rw [shiftRight_succ]
      show (em >>> s).mantissa / 2 = _
      rw [ih, Nat.shiftRight_succ]

/-- Nothing is lost when zeros are shifted out. -/
theorem shiftRight_shiftLeft (m s : ℕ) :
    ofMantissaAndAccuracy (m <<< s) .exact >>> s = ofMantissaAndAccuracy m .exact := by
  induction s generalizing m with
  | zero => rfl
  | succ s ih =>
      rw [shiftRight_succ, Nat.shiftLeft_succ_inside, ih]
      simp [ExtendedMantissa.shiftRightOne, ofMantissaAndAccuracy]

theorem shiftLeft_pos (pos : 0 < m) (s : ℕ) : 0 < m <<< s := by
  rw [Nat.shiftLeft_eq]
  exact Nat.mul_pos pos (Nat.two_pow_pos s)

theorem log2_shiftLeft (pos : 0 < m) (s : ℕ) : (m <<< s).log2 = m.log2 + s := by
  induction s with
  | zero => rfl
  | succ s ih =>
      rw [Nat.shiftLeft_succ, Nat.log2_two_mul (shiftLeft_pos pos s).ne', ih]
      rfl

theorem log2_le_log2_add (pos : 0 < m) (n : ℕ) : m.log2 ≤ (m + n).log2 :=
  (Nat.le_log2 (by omega)).2 (Nat.le_trans (Nat.log2_self_le pos.ne') (Nat.le_add_right m n))

theorem log2_add_log2_le {n : ℕ} (pos : 0 < m) (pos' : 0 < n) : m.log2 + n.log2 ≤ (m * n).log2 := by
  refine (Nat.le_log2 (Nat.mul_pos pos pos').ne').2 ?_
  rw [Nat.pow_add]
  exact Nat.mul_le_mul (Nat.log2_self_le pos.ne') (Nat.log2_self_le pos'.ne')

theorem log2_eq_of_bounds (lower : 2 ^ 23 ≤ m) (upper : m < 2 ^ 24) : m.log2 = 23 :=
  (Nat.log2_eq_iff (by omega)).2 ⟨lower, upper⟩

theorem bounds_of_log2_eq (full : m.log2 = 23) : 2 ^ 23 ≤ m ∧ m < 2 ^ 24 := by
  have nonzero : m ≠ 0 := by
    rintro rfl
    cases full
  exact (Nat.log2_eq_iff nonzero).1 full

/-- Rounding goes up by one at most. -/
theorem roundedMantissa_bounds (em : ExtendedMantissa) :
    em.mantissa ≤ em.roundedMantissa ∧ em.roundedMantissa ≤ em.mantissa + 1 := by
  obtain ⟨mantissa, roundBit, stickyBit⟩ := em
  cases roundBit <;> cases stickyBit <;>
    simp only [ExtendedMantissa.roundedMantissa, ExtendedMantissa.accuracy,
      Accuracy.roundToNearestEven]
  all_goals omega

/-! ## Rounding -/

/-- A mantissa of more than twenty-four bits is shifted to twenty-four. -/
theorem shiftToTargetExponent_eq (bits : m.log2 = 23 + s) (range : -149 ≤ e + s) :
    shiftToTargetExponent .binary32 m e .exact =
      (ofMantissaAndAccuracy m .exact >>> s, e + s) := by
  have target : Format.binary32.targetExponent (totalExponent m e) = e + s := by
    unfold Format.targetExponent totalExponent Format.minExponent Format.mantissaBits
    rw [bits]
    dsimp only
    omega
  have distance : (e + s - e).toNat = s := by omega
  simp only [shiftToTargetExponent, target, shiftToExponent, distance]

/-- The second half of rounding: what was rounded up to twenty-five bits is shifted once more. -/
theorem roundWithAccuracy_eq (s' : ℕ) (bits : m.log2 = 23 + s) (range : -149 ≤ e + s) {rounded : ℕ}
    (same : (ofMantissaAndAccuracy m .exact >>> s).roundedMantissa = rounded)
    (bits' : rounded.log2 = 23 + s') (pos : 0 < rounded >>> s') :
    roundWithAccuracy .binary32 .positive m e .exact =
      .finite .positive (rounded >>> s') (e + s + s') pos := by
  have shifted : (ofMantissaAndAccuracy rounded .exact >>> s').mantissa = rounded >>> s' :=
    mantissa_shiftRight _ _
  unfold roundWithAccuracy
  rw [shiftToTargetExponent_eq bits range]
  dsimp only
  rw [same, shiftToTargetExponent_eq bits' (by omega)]
  dsimp only
  rw [dif_neg (shifted ▸ pos.ne'), UnpackedFloat.finite.injEq]
  exact ⟨rfl, shifted, rfl⟩

/-- **Rounding to twenty-four bits gives twenty-four bits,** and no smaller exponent. -/
theorem exists_roundWithAccuracy (bits : m.log2 = 23 + s) (range : -149 ≤ e + s) :
    ∃ m' e' pos, roundWithAccuracy .binary32 .positive m e .exact = .finite .positive m' e' pos ∧
      m'.log2 = 23 ∧ e + s ≤ e' := by
  obtain ⟨rounded, same⟩ : ∃ rounded,
      (ofMantissaAndAccuracy m .exact >>> s).roundedMantissa = rounded := ⟨_, rfl⟩
  have full : 2 ^ 23 ≤ m >>> s ∧ m >>> s < 2 ^ 24 := by
    have nonzero : m ≠ 0 := by
      rintro rfl
      rw [Nat.log2_zero] at bits
      omega
    obtain ⟨lower, upper⟩ := (Nat.log2_eq_iff nonzero).1 bits
    rw [Nat.shiftRight_eq_div_pow, Nat.le_div_iff_mul_le (Nat.two_pow_pos s),
      Nat.div_lt_iff_lt_mul (Nat.two_pow_pos s), ← Nat.pow_add, ← Nat.pow_add]
    exact ⟨lower, by rwa [show 24 + s = 23 + s + 1 by omega]⟩
  have near := roundedMantissa_bounds (ofMantissaAndAccuracy m .exact >>> s)
  rw [mantissa_shiftRight, same] at near
  change m >>> s ≤ rounded ∧ rounded ≤ m >>> s + 1 at near
  rcases Nat.lt_or_ge rounded (2 ^ 24) with small | large
  · have rest := roundWithAccuracy_eq 0 bits range same
      (log2_eq_of_bounds (by omega) small) (by show 0 < rounded; omega)
    exact ⟨_, _, _, rest, log2_eq_of_bounds (by show _ ≤ rounded; omega) small, by omega⟩
  · -- rounding up has carried into a twenty-fifth bit
    obtain rfl : rounded = 2 ^ 24 := by omega
    have rest := roundWithAccuracy_eq 1 bits range same (by decide) (by decide)
    exact ⟨_, _, _, rest, by decide, by omega⟩

/-- **Rounding keeps what has twenty-four bits.** -/
theorem roundWithAccuracy_shiftLeft (full : m.log2 = 23) (pos : 0 < m) (range : -149 ≤ e + s) :
    roundWithAccuracy .binary32 .positive (m <<< s) e .exact = .finite .positive m (e + s) pos := by
  have same : (ofMantissaAndAccuracy (m <<< s) .exact >>> s).roundedMantissa = m := by
    rw [shiftRight_shiftLeft]
    rfl
  have bits : (m <<< s).log2 = 23 + s := by rw [log2_shiftLeft pos, full]
  have rest := roundWithAccuracy_eq 0 bits range same full pos
  rw [rest, UnpackedFloat.finite.injEq]
  exact ⟨rfl, rfl, by simp⟩

/-- How far a mantissa is shifted to have twenty-four bits. -/
def margin (m : ℕ) : ℕ := 23 - m.log2

/-- Before it is rounded, a short mantissa is made longer. -/
theorem normalize_eq (pos : 0 < m) (range : -126 ≤ m.log2 + e) :
    UnpackedFloat.normalize .binary32 m e .positive =
      roundWithAccuracy .binary32 .positive (m <<< margin m) (e - margin m) .exact := by
  have positive : compare (m : ℤ) 0 = .gt := Int.compare_eq_gt.2 (by exact_mod_cast pos)
  have target : Format.binary32.targetExponent (totalExponent m e) = m.log2 + e - 23 := by
    unfold Format.targetExponent totalExponent Format.minExponent Format.mantissaBits
    dsimp only
    omega
  have distance : (e - (m.log2 + e - 23)).toNat = margin m := by
    unfold margin
    omega
  simp only [UnpackedFloat.normalize, positive, Int.toNat_natCast, UnpackedFloat.round, target,
    decreaseExponent, distance]

/-- Products do not depend on the order of their factors. -/
theorem mul_comm (spec : Format) (x y : UnpackedFloat) :
    UnpackedFloat.mul spec x y = UnpackedFloat.mul spec y x := by
  have signs (s s' : Sign) : s * s' = s' * s := by cases s <;> cases s' <;> rfl
  cases x with
  | notANumber => cases y <;> rfl
  | infinity s =>
      cases y with
      | notANumber => rfl
      | zero s' => rfl
      | infinity s' => exact congrArg UnpackedFloat.infinity (signs s s')
      | finite s' m' e' pos' => exact congrArg UnpackedFloat.infinity (signs s s')
  | zero s =>
      cases y with
      | notANumber => rfl
      | infinity s' => rfl
      | zero s' => exact congrArg UnpackedFloat.zero (signs s s')
      | finite s' m' e' pos' => exact congrArg UnpackedFloat.zero (signs s s')
  | finite s m e pos =>
      cases y with
      | notANumber => rfl
      | infinity s' => exact congrArg UnpackedFloat.infinity (signs s s')
      | zero s' => exact congrArg UnpackedFloat.zero (signs s s')
      | finite s' m' e' pos' =>
          show roundWithAccuracy spec (s * s') (m * m') (e + e') .exact =
            roundWithAccuracy spec (s' * s) (m' * m) (e' + e) .exact
          rw [signs s s', Nat.mul_comm m m', Int.add_comm e e']

/-! ## Whole numbers -/

/-- **A whole number with its bits put in front,** as far as it has at most twenty-four. -/
def whole (n : ℕ) : UnpackedFloat :=
  if pos : 0 < n then .finite .positive (n <<< margin n) (-margin n) (shiftLeft_pos pos _)
  else .zero .positive

variable {n a b : ℕ}

theorem whole_zero : whole 0 = .zero .positive := rfl

theorem whole_of_pos (pos : 0 < n) :
    whole n = .finite .positive (n <<< margin n) (-margin n) (shiftLeft_pos pos _) :=
  dif_pos pos

theorem log2_add_margin (pos : 0 < n) (small : n < 2 ^ 24) : n.log2 + margin n = 23 := by
  have short : n.log2 < 24 := (Nat.log2_lt pos.ne').2 small
  unfold margin
  omega

/-- **Whole numbers are not rounded,** however many zeros they carry. -/
theorem roundWithAccuracy_whole (pos : 0 < n) (small : n < 2 ^ 24) {j : ℕ} (wide : margin n ≤ j) :
    roundWithAccuracy .binary32 .positive (n <<< j) (-j) .exact = whole n := by
  obtain ⟨s, rfl⟩ := Nat.exists_eq_add_of_le wide
  have fit := log2_add_margin pos small
  have full : (n <<< margin n).log2 = 23 := by rw [log2_shiftLeft pos, fit]
  have rest := roundWithAccuracy_shiftLeft (s := s) (e := -(margin n + s : ℕ)) full
    (shiftLeft_pos pos _) (by omega)
  rw [Nat.shiftLeft_add, rest, whole_of_pos pos, UnpackedFloat.finite.injEq]
  exact ⟨rfl, rfl, by omega⟩

theorem normalize_whole (small : n < 2 ^ 24) (j : ℕ) :
    UnpackedFloat.normalize .binary32 (n <<< j : ℕ) (-j) .positive = whole n := by
  rcases Nat.eq_zero_or_pos n with rfl | pos
  · rw [Nat.zero_shiftLeft]
    rfl
  · have fit := log2_add_margin pos small
    have bits := log2_shiftLeft pos j
    have exponent : -(j : ℤ) - margin (n <<< j) = -(j + margin (n <<< j) : ℕ) := by omega
    rw [normalize_eq (shiftLeft_pos pos j) (by omega), ← Nat.shiftLeft_add, exponent]
    refine roundWithAccuracy_whole pos small ?_
    unfold margin at *
    omega

theorem add_whole (small : a + b < 2 ^ 24) :
    UnpackedFloat.add .binary32 (whole a) (whole b) = whole (a + b) := by
  rcases Nat.eq_zero_or_pos a with rfl | pos
  · rw [Nat.zero_add, whole_zero]
    rcases Nat.eq_zero_or_pos b with rfl | pos'
    · rfl
    · rw [whole_of_pos pos']
      rfl
  · rcases Nat.eq_zero_or_pos b with rfl | pos'
    · rw [Nat.add_zero, whole_zero, whole_of_pos pos]
      rfl
    · -- both are shifted to the smaller exponent
      obtain ⟨j, wider⟩ : ∃ j, j = max (margin a) (margin b) := ⟨_, rfl⟩
      have smaller : min (-(margin a : ℤ)) (-margin b) = -j := by omega
      have distance : (-(margin a : ℤ) - -j).toNat = j - margin a := by omega
      have distance' : (-(margin b : ℤ) - -j).toNat = j - margin b := by omega
      rw [whole_of_pos pos, whole_of_pos pos']
      show UnpackedFloat.normalize .binary32
        (↑(a <<< margin a <<< (-(margin a : ℤ) - min (-(margin a : ℤ)) (-margin b)).toNat) +
          ↑(b <<< margin b <<< (-(margin b : ℤ) - min (-(margin a : ℤ)) (-margin b)).toNat))
        (min (-(margin a : ℤ)) (-margin b)) .positive = whole (a + b)
      rw [smaller, distance, distance', ← Nat.shiftLeft_add, ← Nat.shiftLeft_add,
        Nat.add_sub_cancel' (by omega), Nat.add_sub_cancel' (by omega), ← Nat.cast_add,
        ← normalize_whole small j, Nat.shiftLeft_eq, Nat.shiftLeft_eq, Nat.shiftLeft_eq,
        Nat.add_mul]

theorem mul_whole (small : a * b < 2 ^ 24) :
    UnpackedFloat.mul .binary32 (whole a) (whole b) = whole (a * b) := by
  rcases Nat.eq_zero_or_pos a with rfl | pos
  · rw [Nat.zero_mul, whole_zero]
    rcases Nat.eq_zero_or_pos b with rfl | pos'
    · rfl
    · rw [whole_of_pos pos']
      rfl
  · rcases Nat.eq_zero_or_pos b with rfl | pos'
    · rw [Nat.mul_zero, whole_zero, whole_of_pos pos]
      rfl
    · have fit := log2_add_margin pos
        (Nat.lt_of_le_of_lt (Nat.le_mul_of_pos_right a pos') small)
      have longer := log2_add_log2_le pos pos'
      have wide : margin (a * b) ≤ margin a + margin b := by
        unfold margin at *
        omega
      have product : a <<< margin a * b <<< margin b = (a * b) <<< (margin a + margin b) := by
        simp only [Nat.shiftLeft_eq, Nat.pow_add]
        ring
      have exponent : -(margin a : ℤ) + -margin b = -(margin a + margin b : ℕ) := by omega
      rw [whole_of_pos pos, whole_of_pos pos']
      show roundWithAccuracy .binary32 .positive (a <<< margin a * b <<< margin b)
        (-margin a + -margin b) .exact = whole (a * b)
      rw [product, exponent]
      exact roundWithAccuracy_whole (Nat.mul_pos pos pos') small wide

/-! ## Storing -/

theorem exponentBias_eq : (Format.binary32.exponentBias : ℤ) = 127 := by decide

/-- The bit that is not stored comes back in front. -/
theorem toNat_leading_append (full : m.log2 = 23) : (1#1 ++ BitVec.ofNat 23 m).toNat = m := by
  obtain ⟨atLeast, below⟩ := bounds_of_log2_eq full
  rw [BitVec.toNat_append, BitVec.toNat_ofNat]
  show 1 <<< 23 ||| m % 2 ^ 23 = m
  rw [Nat.or_comm, Nat.one_shiftLeft, Nat.or_two_pow_eq_add_of_lt (Nat.mod_lt _ (by decide))]
  omega

/-- An exponent that is neither too small nor too large is not one of those for other numbers. -/
theorem ofNat_ne_ofNat {n k : ℕ} (small : n < 2 ^ 8) (small' : k < 2 ^ 8) (other : n ≠ k) :
    BitVec.ofNat 8 n ≠ BitVec.ofNat 8 k := by
  intro same
  have toNat_eq := congrArg BitVec.toNat same
  rw [BitVec.toNat_ofNat, BitVec.toNat_ofNat, Nat.mod_eq_of_lt small, Nat.mod_eq_of_lt small']
    at toNat_eq
  exact other toNat_eq

/-- A number with twenty-four bits is stored as it is, or it is too large. -/
theorem unpack_pack_of_log2 (full : m.log2 = 23) (pos : 0 < m) (lower : -149 ≤ e) :
    UnpackedFloat.unpack .binary32 (UnpackedFloat.pack .binary32 (.finite .positive m e pos)) =
      if e ≤ 104 then .finite .positive m e pos else .infinity .positive := by
  have biased : (e + Format.binary32.exponentBias +
      Format.binary32.mantissaBitsWithoutImplicit).toNat = (e + 150).toNat := by
    rw [exponentBias_eq]
    dsimp only
    omega
  delta UnpackedFloat.pack
  dsimp only
  rw [full, biased]
  by_cases fits : e ≤ 104
  · have small : (e + 150).toNat < 255 := by omega
    have notAll : BitVec.ofNat 8 (e + 150).toNat ≠ -1#8 :=
      ofNat_ne_ofNat (k := 255) (by omega) (by decide) (by omega)
    have notNone : BitVec.ofNat 8 (e + 150).toNat ≠ 0#8 :=
      ofNat_ne_ofNat (by omega) (by decide) (by omega)
    rw [if_neg (by omega), if_pos fits, if_pos (by decide)]
    delta UnpackedFloat.unpack
    dsimp only
    rw [unpackExponent_packComponents, if_neg notAll, if_neg notNone, UnpackedFloat.finite.injEq,
      unpackSign_packComponents, unpackMantissa_packComponents, BitVec.toNat_ofNat,
      Nat.mod_eq_of_lt (by omega), exponentBias_eq]
    exact ⟨rfl, toNat_leading_append full, by omega⟩
  · have large : 2 ^ 8 ≤ (e + 150).toNat + 1 := by omega
    rw [if_pos large, if_neg fits]
    rfl

theorem unpack_pack_whole (small : n < 2 ^ 24) :
    UnpackedFloat.unpack .binary32 (UnpackedFloat.pack .binary32 (whole n)) = whole n := by
  rcases Nat.eq_zero_or_pos n with rfl | pos
  · rfl
  · have fit := log2_add_margin pos small
    have full : (n <<< margin n).log2 = 23 := by rw [log2_shiftLeft pos, fit]
    rw [whole_of_pos pos, unpack_pack_of_log2 full _ (by omega), if_pos (by omega)]

/-! ## Exact values -/

/-- **The exact value of a finite number.** -/
def value? : UnpackedFloat → Option ℚ
  | .zero _ => some 0
  | .finite .positive m e _ => some (m * 2 ^ e)
  | .finite .negative m e _ => some (-(m * 2 ^ e))
  | .infinity _ | .notANumber => none

theorem value?_whole (n : ℕ) : value? (whole n) = some (n : ℚ) := by
  rcases Nat.eq_zero_or_pos n with rfl | pos
  · rfl
  · rw [whole_of_pos pos]
    show some (((n <<< margin n : ℕ) : ℚ) * 2 ^ (-(margin n : ℤ))) = _
    rw [Nat.shiftLeft_eq, Nat.cast_mul, Nat.cast_pow, Nat.cast_two, mul_assoc, ← zpow_natCast,
      ← zpow_add₀ two_ne_zero, add_neg_cancel, zpow_zero, mul_one]

/-! ## Numbers that are at least one -/

/-- **Whether a number is at least one,** with all its bits. -/
inductive IsLarge : UnpackedFloat → Prop
  | finite (m : ℕ) (e : ℤ) (pos : 0 < m) (full : m.log2 = 23) (lower : -23 ≤ e) :
      IsLarge (.finite .positive m e pos)
  | infinity : IsLarge (.infinity .positive)

theorem isLarge_roundWithAccuracy (bits : 23 ≤ m.log2) (lower : 0 ≤ m.log2 + e) :
    IsLarge (roundWithAccuracy .binary32 .positive m e .exact) := by
  obtain ⟨s, longer⟩ := Nat.exists_eq_add_of_le bits
  obtain ⟨m', e', pos, rounded, full, above⟩ := exists_roundWithAccuracy (e := e) longer (by omega)
  rw [rounded]
  exact .finite m' e' pos full (by omega)

theorem isLarge_normalize (pos : 0 < m) (lower : 0 ≤ m.log2 + e) :
    IsLarge (UnpackedFloat.normalize .binary32 m e .positive) := by
  have bits := log2_shiftLeft pos (margin m)
  rw [normalize_eq pos (by omega)]
  apply isLarge_roundWithAccuracy
  · unfold margin at *
    omega
  · omega

theorem isLarge_whole (pos : 0 < n) (small : n < 2 ^ 24) : IsLarge (whole n) := by
  have fit := log2_add_margin pos small
  rw [whole_of_pos pos]
  exact .finite _ _ _ (by rw [log2_shiftLeft pos, fit]) (by omega)

namespace IsLarge

variable {x y : UnpackedFloat}

theorem isNonneg (large : IsLarge x) : IsNonneg x := by
  cases large with
  | finite m e pos => exact .finite m e pos
  | infinity => exact .infinity

theorem magnitude_pos (large : IsLarge x) : magnitude (.zero .positive) < magnitude x := by
  cases large with
  | finite m e pos => exact Prod.Lex.lt_iff.2 (.inl Nat.zero_lt_one)
  | infinity => exact Prod.Lex.lt_iff.2 (.inl Nat.zero_lt_two)

theorem mul (large : IsLarge x) (large' : IsLarge y) :
    IsLarge (UnpackedFloat.mul .binary32 x y) := by
  cases large with
  | infinity => cases large' <;> exact .infinity
  | finite m e pos full lower =>
      cases large' with
      | infinity => exact .infinity
      | finite m' e' pos' full' lower' =>
          have longer := log2_add_log2_le pos pos'
          exact isLarge_roundWithAccuracy (by omega) (by omega)

theorem zero_add (large : IsLarge x) :
    IsLarge (UnpackedFloat.add .binary32 (.zero .positive) x) := by
  cases large with
  | infinity => exact .infinity
  | finite m e pos full lower => exact .finite m e pos full lower

theorem add (large : IsLarge x) (large' : IsLarge y) :
    IsLarge (UnpackedFloat.add .binary32 x y) := by
  cases large with
  | infinity => cases large' <;> exact .infinity
  | finite m e pos full lower =>
      cases large' with
      | infinity => exact .infinity
      | finite m' e' pos' full' lower' =>
          -- the first summand keeps its first bit where it is
          have kept : 0 < m <<< (e - min e e').toNat := shiftLeft_pos pos _
          have bits := log2_shiftLeft pos (e - min e e').toNat
          have longer := log2_le_log2_add kept (m' <<< (e' - min e e').toNat)
          have lower'' : (0 : ℤ) ≤ (m <<< (e - min e e').toNat).log2 + min e e' := by
            rw [bits]
            omega
          have rest := isLarge_normalize (Nat.add_pos_left kept (m' <<< (e' - min e e').toNat))
            (le_trans lower'' (Int.add_le_add_right (Int.ofNat_le.2 longer) _))
          rw [Nat.cast_add] at rest
          exact rest

theorem unpack_pack (large : IsLarge x) :
    IsLarge (UnpackedFloat.unpack .binary32 (UnpackedFloat.pack .binary32 x)) := by
  cases large with
  | infinity => exact .infinity
  | finite m e pos full lower =>
      rw [unpack_pack_of_log2 full pos (by omega)]
      exact iteInduction (fun _ => .finite m e pos full lower) fun _ => .infinity

end IsLarge

end Unpacked

namespace Single

open Unpacked (whole)

variable {a b n : ℕ} {x y : Float32}

theorem mul_comm (x y : Float32) : x * y = y * x :=
  congrArg (fun x => Float32.ofModel (.pack x)) (Unpacked.mul_comm _ _ _)

theorem unpack_pack_whole (small : n < 2 ^ 24) :
    (Float32.ofModel (.pack (whole n))).toModel.unpack = whole n :=
  Unpacked.unpack_pack_whole small

/-- How a whole number that may be too long is stored. -/
theorem ofNat_eq_round (many : 2 ^ 23 ≤ n) : Float32.ofNat n =
    .ofModel (.pack (roundWithAccuracy .binary32 .positive (n <<< 24) (-(24 : ℕ)) .exact)) := by
  have pos : 0 < n := by omega
  have within : ¬(0 : ℤ) > 2 ^ Format.binary32.exponentBits := by decide
  have within' : ¬(0 : ℤ) < -(2 ^ Format.binary32.exponentBits + n.log2) := by
    dsimp only
    omega
  have one : 10 ^ Int.toNat 0 = 1 := rfl
  have exponent : -(Format.binary32.mantissaBits : ℤ) + 0 = -(24 : ℕ) := by decide
  show Float32.ofScientific n false 0 = _
  unfold Float32.ofScientific
  rw [dif_neg fun few => by omega]
  show Float32.ofModel (.pack (.ofScientific .binary32 n 0)) = _
  refine congrArg (fun x => Float32.ofModel (.pack x)) ?_
  unfold UnpackedFloat.ofScientific
  rw [dif_neg pos.ne', if_neg within, if_neg within', if_pos le_rfl]
  show roundWithAccuracy .binary32 .positive (n <<< 24 * 10 ^ Int.toNat 0)
    (-(Format.binary32.mantissaBits : ℤ) + 0) .exact = _
  rw [one, Nat.mul_one, exponent]

/-- **How a whole number is stored.** -/
theorem ofNat_eq (small : n < 2 ^ 24) : Float32.ofNat n = .ofModel (.pack (whole n)) := by
  rcases Nat.lt_or_ge n (2 ^ 23) with few | many
  · -- small numbers are scaled by the power of ten that is one
    have converted : n.toUInt64.toFloat32 = .ofModel (.pack (whole n)) := by
      have same : n.toUInt64.toNat = n := by
        rw [UInt64.toNat_ofNat']
        omega
      show Float32.ofModel (.pack (.normalize .binary32 n.toUInt64.toNat 0 .positive)) = _
      rw [same]
      exact congrArg (fun x => Float32.ofModel (.pack x)) (Unpacked.normalize_whole small 0)
    have scaled : (Float32.exactlyRepresentablePowersOfTen[0]).toModel.unpack = whole 1 := rfl
    show Float32.ofScientific n false 0 = _
    unfold Float32.ofScientific
    rw [dif_pos ⟨few, Nat.zero_le _⟩]
    show Float32.ofModel (.pack (.mul .binary32 n.toUInt64.toFloat32.toModel.unpack
      (Float32.exactlyRepresentablePowersOfTen[0]).toModel.unpack)) = _
    rw [converted, scaled, unpack_pack_whole small, Unpacked.mul_whole (by omega), Nat.mul_one]
  · have pos : 0 < n := by omega
    rw [ofNat_eq_round many,
      Unpacked.roundWithAccuracy_whole pos small (by unfold Unpacked.margin; omega)]

theorem ofNat_add (small : a + b < 2 ^ 24) :
    Float32.ofNat a + Float32.ofNat b = Float32.ofNat (a + b) := by
  rw [ofNat_eq (n := a) (by omega), ofNat_eq (n := b) (by omega), ofNat_eq small]
  show Float32.ofModel (.pack (.add .binary32 (Float32.ofModel (.pack (whole a))).toModel.unpack
    (Float32.ofModel (.pack (whole b))).toModel.unpack)) = _
  rw [unpack_pack_whole (by omega), unpack_pack_whole (by omega), Unpacked.add_whole small]

theorem ofNat_mul (small : a * b < 2 ^ 24) (one : 0 < a) (one' : 0 < b) :
    Float32.ofNat a * Float32.ofNat b = Float32.ofNat (a * b) := by
  have below : a < 2 ^ 24 := Nat.lt_of_le_of_lt (Nat.le_mul_of_pos_right a one') small
  have below' : b < 2 ^ 24 := Nat.lt_of_le_of_lt (Nat.le_mul_of_pos_left b one) small
  rw [ofNat_eq below, ofNat_eq below', ofNat_eq small]
  show Float32.ofModel (.pack (.mul .binary32 (Float32.ofModel (.pack (whole a))).toModel.unpack
    (Float32.ofModel (.pack (whole b))).toModel.unpack)) = _
  rw [unpack_pack_whole below, unpack_pack_whole below', Unpacked.mul_whole small]

/-- Whole numbers are added up without rounding. -/
theorem foldl_ofNat_add (numbers : List ℕ) {start : ℕ} (small : start + numbers.sum < 2 ^ 24) :
    (numbers.map Float32.ofNat).foldl (· + ·) (Float32.ofNat start) =
      Float32.ofNat (start + numbers.sum) := by
  induction numbers generalizing start with
  | nil => rfl
  | cons n numbers ih =>
      rw [List.sum_cons, ← Nat.add_assoc] at small ⊢
      rw [List.map_cons, List.foldl_cons, ofNat_add (by omega), ih small]

/-- **The exact value of a number in single precision,** if it is finite. -/
def value? (x : Float32) : Option ℚ := Unpacked.value? x.toModel.unpack

/-- **Small counts are exact.** -/
theorem value?_ofNat (small : n < 2 ^ 24) : value? (Float32.ofNat n) = some (n : ℚ) := by
  unfold value?
  rw [ofNat_eq small, unpack_pack_whole small, Unpacked.value?_whole]

/-! ## Numbers that are at least one -/

/-- **Whether a number in single precision is at least one,** infinity included. -/
def IsLarge (x : Float32) : Prop := Unpacked.IsLarge x.toModel.unpack

theorem isLarge_pack {x : UnpackedFloat} (large : Unpacked.IsLarge x) :
    IsLarge (.ofModel (.pack x)) :=
  large.unpack_pack

theorem isLarge_ofNat (pos : 0 < n) : IsLarge (Float32.ofNat n) := by
  rcases Nat.lt_or_ge n (2 ^ 24) with small | large
  · rw [ofNat_eq small]
    exact isLarge_pack (Unpacked.isLarge_whole pos small)
  · rw [ofNat_eq_round (by omega)]
    have bits := Unpacked.log2_shiftLeft pos 24
    exact isLarge_pack (Unpacked.isLarge_roundWithAccuracy (by omega) (by omega))

namespace IsLarge

theorem zero_add (large : IsLarge x) : IsLarge (0 + x) :=
  isLarge_pack (Unpacked.IsLarge.zero_add large)

theorem add (large : IsLarge x) (large' : IsLarge y) : IsLarge (x + y) :=
  isLarge_pack (Unpacked.IsLarge.add large large')

theorem mul (large : IsLarge x) (large' : IsLarge y) : IsLarge (x * y) :=
  isLarge_pack (Unpacked.IsLarge.mul large large')

/-- Nothing is lost when numbers are added that are at least one. -/
theorem foldl_add {numbers : List Float32} (large : IsLarge x) (all : ∀ y ∈ numbers, IsLarge y) :
    IsLarge (numbers.foldl (· + ·) x) := by
  induction numbers generalizing x with
  | nil => exact large
  | cons y numbers ih =>
      obtain ⟨large', all'⟩ := List.forall_mem_cons.1 all
      exact ih (large.add large') all'

/-- **What is at least one is positive.** -/
theorem pos (large : IsLarge x) : 0 < x :=
  (lt_iff (x := 0) Unpacked.IsNonneg.zero (Unpacked.IsLarge.isNonneg large)).2
    (Unpacked.IsLarge.magnitude_pos large)

theorem not_le_zero (large : IsLarge x) : ¬x ≤ 0 := by
  rw [le_iff (y := 0) (Unpacked.IsLarge.isNonneg large) Unpacked.IsNonneg.zero]
  exact not_le_of_gt (Unpacked.IsLarge.magnitude_pos large)

end IsLarge

end Single

end CodeIndex
