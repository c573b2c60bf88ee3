import CodeIndex.Time.Backoff
import Mathlib.Tactic.Ring

/-!
# Growing pauses in machine words

`Backoff.delay` counts in natural numbers, where nothing can overflow.  Clocks hold a length of time
in two words, its whole seconds and its nanoseconds within a second, and attempts are counted in a
word of 32 bits.  `TimeSpan.pause?` is the same pause computed in these words.  Its steps have no
result where a word is too small for them: a shift by the width of the word or more, and a product
of nanoseconds beyond 64 bits.  A number of seconds that does not fit is not such a case, for then
the longest length of time stands for the product.

No step is ever without a result (`TimeSpan.exists_pause`): sixteen doublings are far from the width
of the word, and the largest product of nanoseconds by a factor of 32 bits is below `2 ^ 62`.

## Main definitions

* `TimeSpan`, `TimeSpan.total`
* `TimeSpan.pause?`

## Main statements

* `Backoff.delay_eq`: a pause as a product with a power of two, cut off at the longest one.
* `TimeSpan.exists_pause`
-/

namespace CodeIndex

/-- The pause after an attempt: the first pause times a power of two, at most sixteen doublings, and
not beyond the longest one. -/
theorem Backoff.delay_eq (base attempt : Nat) :
    Backoff.delay base attempt = min (base * 2 ^ min (attempt - 1) 16) Backoff.longest := by
  rw [Backoff.delay, Backoff.doublings, Nat.shiftLeft_eq]

/-- A number in a word of 64 bits, if it fits. -/
def word64? (n : Nat) : Option UInt64 := if n < UInt64.size then some (.ofNat n) else none

/-- A length of time as clocks hold it: whole seconds, and nanoseconds within a second. -/
structure TimeSpan where
  seconds : UInt64
  nanoseconds : Fin 1000000000

namespace TimeSpan

/-- A length of time in nanoseconds. -/
def total (span : TimeSpan) : Nat := span.seconds.toNat * 1000000000 + span.nanoseconds

/-- The longest length of time that a clock can hold. -/
def longest : TimeSpan := ⟨18446744073709551615, 999999999⟩

/-- A length of time multiplied by a factor.  The longest one stands for what has too many seconds.
There is no result if the product of the nanoseconds does not fit into its word. -/
def times? (span : TimeSpan) (factor : UInt32) : Option TimeSpan := do
  let small ← word64? (span.nanoseconds * factor.toNat)
  let seconds := (word64? (span.seconds.toNat * factor.toNat)).bind fun seconds =>
    word64? (seconds.toNat + small.toNat / 1000000000)
  return (seconds.map fun seconds => ⟨seconds, Fin.ofNat _ small.toNat⟩).getD longest

/-- A one shifted to the left in a word of 32 bits.  There is no result if the shift is as wide as
the word. -/
def shiftedOne? (places : UInt32) : Option UInt32 :=
  if places < 32 then some (1 <<< places) else none

/-- How often the first pause is doubled after an attempt, in words.  Nothing is below zero. -/
def places (attempt : UInt32) : UInt32 := min (if attempt = 0 then 0 else attempt - 1) 16

/-- The pause after an attempt, computed in words. -/
def pause? (base : TimeSpan) (attempt : UInt32) : Option TimeSpan := do
  base.times? (← shiftedOne? (places attempt))

theorem total_mk (seconds : UInt64) (nanoseconds : Fin 1000000000) :
    total ⟨seconds, nanoseconds⟩ = seconds.toNat * 1000000000 + nanoseconds := rfl

theorem total_longest : longest.total = 18446744073709551615999999999 := by decide

end TimeSpan

theorem word64?_of_lt {n : Nat} (fits : n < UInt64.size) :
    ∃ word, word64? n = some word ∧ word.toNat = n :=
  ⟨.ofNat n, if_pos fits, UInt64.toNat_ofNat_of_lt fits⟩

theorem word64?_of_le {n : Nat} (large : UInt64.size ≤ n) : word64? n = none :=
  if_neg (Nat.not_lt.2 large)

namespace TimeSpan

/-- A shift by less than the width of the word multiplies by a power of two. -/
theorem exists_shiftedOne (places : UInt32) (narrow : places.toNat < 32) :
    ∃ factor, shiftedOne? places = some factor ∧ factor.toNat = 2 ^ places.toNat := by
  refine ⟨1 <<< places, if_pos (UInt32.lt_iff_toNat_lt.2 narrow), ?_⟩
  have small : 2 ^ places.toNat < 2 ^ 32 := Nat.pow_lt_pow_right (by decide) narrow
  rw [UInt32.toNat_shiftLeft, Nat.mod_eq_of_lt narrow, Nat.shiftLeft_eq]
  simpa using Nat.mod_eq_of_lt small

/-- Nanoseconds times a factor of 32 bits fit into 64 bits. -/
theorem small_lt (span : TimeSpan) (factor : UInt32) :
    span.nanoseconds * factor.toNat < UInt64.size :=
  calc (span.nanoseconds : Nat) * factor.toNat
    _ ≤ 1000000000 * 4294967296 :=
      Nat.mul_le_mul span.nanoseconds.isLt.le factor.toNat_lt.le
    _ < UInt64.size := by decide

/-- **A product with any factor has a result,** and it is the exact one unless that is longer than
the longest length of time. -/
theorem exists_times (span : TimeSpan) (factor : UInt32) :
    ∃ product, span.times? factor = some product ∧
      product.total = min (span.total * factor.toNat) longest.total := by
  obtain ⟨small, made, value⟩ := word64?_of_lt (span.small_lt factor)
  have whole : span.total * factor.toNat =
      span.seconds.toNat * factor.toNat * 1000000000 + small.toNat := by
    rw [value, total]
    ring
  have size : UInt64.size = 18446744073709551616 := rfl
  rw [times?, made]
  dsimp only [Option.bind_eq_bind, Option.bind_some]
  -- the seconds fit, they do not fit by themselves, or the carry is too much for them
  rcases Nat.lt_or_ge (span.seconds.toNat * factor.toNat) UInt64.size with fits | large
  · obtain ⟨seconds, made, value⟩ := word64?_of_lt fits
    rw [made, Option.bind_some]
    rcases Nat.lt_or_ge (seconds.toNat + small.toNat / 1000000000) UInt64.size with fits | large
    · obtain ⟨seconds', made, value'⟩ := word64?_of_lt fits
      rw [made]
      refine ⟨⟨seconds', Fin.ofNat _ small.toNat⟩, rfl, ?_⟩
      rw [whole, total_longest, total_mk, Fin.val_ofNat]
      omega
    · rw [word64?_of_le large]
      refine ⟨_, rfl, ?_⟩
      rw [whole, Option.map_none, Option.getD_none, total_longest]
      omega
  · rw [word64?_of_le large]
    refine ⟨_, rfl, ?_⟩
    rw [whole, Option.bind_none, Option.map_none, Option.getD_none, total_longest]
    omega

theorem toNat_places (attempt : UInt32) :
    (places attempt).toNat = Backoff.doublings attempt.toNat := by
  rw [places, UInt32.toNat_min, Backoff.doublings]
  split
  · rename_i zero
    rw [zero]
    rfl
  · rename_i some
    have one : 1 ≤ attempt := UInt32.le_iff_toNat_le.2 <|
      Nat.one_le_iff_ne_zero.2 fun zero => some (UInt32.toNat_inj.1 zero)
    rw [UInt32.toNat_sub_of_le _ _ one]
    rfl

/-- **A pause is computed without any overflow,** after whatever attempt and with whatever first
pause.  Where the first pause is a whole number of milliseconds, it is `Backoff.delay`. -/
theorem exists_pause (base : TimeSpan) (attempt : UInt32) :
    ∃ pause, base.pause? attempt = some pause ∧
      pause.total = min (base.total * 2 ^ min (attempt.toNat - 1) 16) longest.total ∧
      (base.total % 1000000 = 0 →
        pause.total / 1000000 = Backoff.delay (base.total / 1000000) attempt.toNat) := by
  obtain ⟨factor, shifted, power⟩ := exists_shiftedOne (places attempt) <| by
    rw [toNat_places, Backoff.doublings]
    omega
  rw [toNat_places, Backoff.doublings] at power
  obtain ⟨pause, made, value⟩ := base.exists_times factor
  refine ⟨pause, by rw [pause?, shifted]; exact made, by rw [value, power], fun whole => ?_⟩
  rw [value, power, Backoff.delay_eq, total_longest]
  obtain ⟨milliseconds, exact⟩ := Nat.dvd_of_mod_eq_zero whole
  rw [exact, Nat.mul_assoc, Nat.mul_div_cancel_left _ (by decide), Backoff.longest]
  omega

end TimeSpan

end CodeIndex
