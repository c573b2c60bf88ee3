/-!
# Counts in texts

Whole numbers as users write them into headers and variables: decimal digits, with an optional plus
sign in front and nothing around them, below a bound.
-/

namespace CodeIndex.Number

/-- The number that decimal digits denote. -/
def digitsValue (digits : List Char) : Nat :=
  digits.foldl (fun value digit => 10 * value + (digit.toNat - 48)) 0

/-- The number below a bound that a text denotes. -/
def countBelow? (bound : Nat) (text : List Char) : Option Nat :=
  let digits := match text with
    | '+' :: digits => digits
    | digits => digits
  if digits.isEmpty || !digits.all Char.isDigit then none
  else if digitsValue digits < bound then some (digitsValue digits) else none

end CodeIndex.Number
