/-!
# Growing pauses

The pause after an attempt doubles with every further attempt, sixteen times at most, so that a
service in trouble is asked less and less often.
-/

namespace CodeIndex.Backoff

/-- The longest pause that is ever made, in milliseconds. -/
def longest : Nat := 18446744073709551615999

/-- How often the first pause is doubled after an attempt; attempts count from one. -/
def doublings (attempt : Nat) : Nat := min (attempt - 1) 16

/-- The pause after an attempt. -/
def delay (base attempt : Nat) : Nat :=
  min (base <<< doublings attempt) longest

end CodeIndex.Backoff
