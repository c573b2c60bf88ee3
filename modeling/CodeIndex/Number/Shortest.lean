/-!
# The shortest decimal of a binary number

A binary floating-point number stands for an interval of reals, those that round to it. Its
shortest decimal is the one with the fewest digits inside that interval, and of those with equally
few the nearest. The search works on exact natural numbers: for one digit, then two, and so on, it
tries the two decimals next to the value on the grid of that many digits.

## Main definitions

* `Binary`: a positive number as significand and exponent, with its rounding interval.
* `Binary.shortest`: the digits and the place of the decimal point.
-/

namespace CodeIndex.Number

/-- The number `significand * 2 ^ exponent`. At a power of two the next number below is only half
as far away as the next one above; `lowerGapHalved` says so. -/
structure Binary where
  significand : Nat
  exponent : Int
  lowerGapHalved : Bool

/-- A decimal: its digits without trailing zeros, and the power of ten that the point stands
before, so that the value is `0.digits * 10 ^ point`. -/
structure Decimal where
  digits : List Char
  point : Int
deriving DecidableEq

namespace Binary

/-- Four times the value, its lower and its upper interval end, over one common denominator. -/
structure Scaled where
  value : Nat
  low : Nat
  high : Nat
  denominator : Nat

/-- The interval as whole numbers over a common denominator. -/
def scaled (b : Binary) : Scaled :=
  let up := b.exponent.toNat
  let down := (-b.exponent).toNat
  let unit := 1 <<< up
  let value := 4 * b.significand * unit
  ⟨value, value - (if b.lowerGapHalved then unit else 2 * unit), value + 2 * unit, 4 <<< down⟩

/-- A one followed by zeros. -/
def tenTo (zeros : Nat) : Nat := Nat.pow 10 zeros

/-- The number `k` with `10 ^ (k - 1) ≤ value < 10 ^ k`. -/
def magnitude (s : Scaled) : Int :=
  ((Nat.toDigits 10 (s.value * tenTo 400 / s.denominator)).length : Int) - 400

/-- The decimal of a whole number of units `10 ^ place`. -/
def decimalOf (count : Nat) (place : Int) : Decimal :=
  let all := Nat.toDigits 10 count
  ⟨(all.reverse.dropWhile (· == '0')).reverse, (all.length : Int) + place⟩

/-- The nearest decimal with `size` digits inside the interval, if there is one; of two that are
equally near, the one with the even last digit. A number whose significand is even also owns the
ends of its interval. -/
def candidate? (s : Scaled) (closed : Bool) (k : Int) (size : Nat) : Option Decimal :=
  let place := k - size
  let num := tenTo (-place).toNat
  let den := s.denominator * tenTo place.toNat
  let below := s.value * num / den
  let inside (count : Nat) : Bool :=
    let x := count * den
    if closed then s.low * num ≤ x && x ≤ s.high * num else s.low * num < x && x < s.high * num
  let gapBelow := s.value * num - below * den
  let gapAbove := (below + 1) * den - s.value * num
  match inside below, inside (below + 1) with
  | true, true =>
    let up := gapAbove < gapBelow || (gapAbove == gapBelow && below % 2 == 1)
    some (decimalOf (if up then below + 1 else below) place)
  | true, false => some (decimalOf below place)
  | false, true => some (decimalOf (below + 1) place)
  | false, false => none

/-- The first candidate among `size`, `size + 1`, … digits; seventeen digits always suffice for
the formats in use. -/
def search (s : Scaled) (closed : Bool) (k : Int) (size : Nat) : Nat → Decimal
  | 0 => decimalOf (s.value / s.denominator) 0
  | tries + 1 => (candidate? s closed k size).getD (search s closed k (size + 1) tries)

/-- The shortest decimal in the rounding interval of a positive number. -/
def shortest (b : Binary) : Decimal :=
  let s := b.scaled
  search s (b.significand % 2 == 0) (magnitude s) 1 18

/-- A finite nonzero number from its bits without the sign: an exponent above a fraction of `size`
bits. An exponent of zero marks the smallest numbers, which have no hidden leading bit. -/
def ofBits (size : Nat) (least : Int) (bits : Nat) : Binary :=
  let hidden := 1 <<< size
  let fraction := bits % hidden
  let biased := bits / hidden
  if biased == 0 then ⟨fraction, least, false⟩
  else ⟨hidden + fraction, least + biased - 1, fraction == 0 && biased != 1⟩

/-- A finite nonzero double-precision number from its bits, without the sign. -/
def ofDoubleBits : Nat → Binary := ofBits 52 (-1074)

/-- A finite nonzero single-precision number from its bits, without the sign. -/
def ofSingleBits : Nat → Binary := ofBits 23 (-149)

end Binary

/-- The decimal in positional notation, with `tail` after a whole number. -/
def Decimal.positional (d : Decimal) (tail : List Char) : List Char :=
  let size : Int := d.digits.length
  if size ≤ d.point then d.digits ++ List.replicate (d.point - size).toNat '0' ++ tail
  else if 0 < d.point then d.digits.take d.point.toNat ++ '.' :: d.digits.drop d.point.toNat
  else '0' :: '.' :: (List.replicate (-d.point).toNat '0' ++ d.digits)

/-- An exponent with its sign and at least two digits. -/
def exponentText (exponent : Int) : List Char :=
  let size := Nat.toDigits 10 exponent.natAbs
  (if exponent < 0 then '-' else '+') :: (if size.length < 2 then '0' :: size else size)

/-- The decimal with one digit before the point and an exponent. -/
def Decimal.scientific (d : Decimal) : List Char :=
  let exponent := exponentText (d.point - 1)
  match d.digits with
  | [] => '0' :: 'e' :: exponent
  | [digit] => digit :: 'e' :: exponent
  | digit :: digits => digit :: '.' :: (digits ++ 'e' :: exponent)

end CodeIndex.Number
