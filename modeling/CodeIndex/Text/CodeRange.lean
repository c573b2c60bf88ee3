/-!
# Ranges of code points

A set of characters from the Unicode character database is a short ascending list of ranges.
Alphabets that alternate upper and lower case are ranges of step two, so a range carries its step.
A range that maps carries the code point its first member goes to, and keeps distances.
-/

namespace CodeIndex.Text

/-- The code points `first`, `first + step`, and so on up to `last`. -/
structure CodeRange where
  first : Nat
  last : Nat
  step : Nat

/-- A range whose members are moved by one distance, `first` to `target`. -/
structure MappedRange where
  range : CodeRange
  target : Nat

/-- Membership of a code point in a range. -/
def CodeRange.contains (range : CodeRange) (code : Nat) : Bool :=
  range.first ≤ code && code ≤ range.last && (code - range.first) % range.step == 0

/-- Membership in an ascending list of ranges: the search ends at the first range that lies
above the code point. -/
def inRanges (code : Nat) : List CodeRange → Bool
  | [] => false
  | range :: ranges =>
    if code < range.first then false
    else range.contains code || inRanges code ranges

/-- The image of a code point under an ascending list of mapped ranges; a code point in none of
them stays as it is. -/
def mapRanges (code : Nat) : List MappedRange → Nat
  | [] => code
  | entry :: entries =>
    if code < entry.range.first then code
    else if entry.range.contains code then entry.target + (code - entry.range.first)
    else mapRanges code entries

end CodeIndex.Text
