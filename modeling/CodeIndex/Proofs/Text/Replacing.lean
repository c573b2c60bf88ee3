import CodeIndex.Proofs.Text.Reading

/-!
# Replacing matches

A replacement goes through a text from the left: where the pattern has no match it keeps a
character, and where it has one it writes the replacement and goes on behind the match.
`Pattern.Replaced` says this without counting the characters that are still to be passed over.
Nothing is said of patterns that match the empty text; no pattern that is used for replacing does.

## Main definitions

* `Pattern.Replaced`

## Main statements

* `Pattern.replaced_replaceAll`
* `Pattern.Replaced.eq_self`: replacements that change nothing.
* `Pattern.replaceAll_eq_self`: texts without matches stay as they are.
-/

namespace CodeIndex.Text

namespace Pattern

/-- What a replacement makes of a text that stands behind a character. -/
inductive Replaced (pattern : Pattern) (replacement : Groups → List Char) :
    Option Char → List Char → List Char → Prop where
  | nil {before : Option Char} : Replaced pattern replacement before [] []
  | keep {before : Option Char} {c : Char} {text result : List Char}
      (none : matchAt pattern before (c :: text) = none) :
      Replaced pattern replacement (some c) text result →
        Replaced pattern replacement before (c :: text) (c :: result)
  | swap {before : Option Char} {read text result : List Char} {groups : Groups}
      (here : matchAt pattern before (read ++ text) = some ⟨read.length, groups⟩) :
      Replaced pattern replacement (lastOr before read) text result →
        Replaced pattern replacement before (read ++ text) (replacement groups ++ result)

variable {pattern : Pattern} {replacement : Groups → List Char}

/-- Characters that are passed over are no part of what is replaced. -/
theorem replaced_replaceFrom (moves : pattern.moves = true) (before : Option Char) (skip : Nat)
    (text : List Char) (within : skip ≤ text.length) :
    Replaced pattern replacement (lastOr before (text.take skip)) (text.drop skip)
      (replaceFrom pattern replacement before skip text) := by
  induction text generalizing before skip with
  | nil =>
      obtain rfl := Nat.le_zero.1 within
      exact .nil
  | cons c text ih =>
      cases skip with
      | succ skip =>
          have passed := ih (some c) skip (Nat.le_of_succ_le_succ within)
          rwa [List.take_succ_cons, lastOr_cons, List.drop_succ_cons, replaceFrom]
      | zero =>
          show Replaced pattern replacement before (c :: text) _
          cases here : matchAt pattern before (c :: text) with
          | none =>
              rw [replaceFrom.eq_def]
              simp only [here]
              exact .keep here (ih (some c) 0 (Nat.zero_le _))
          | some found =>
              obtain ⟨read, rest, same, length, reads⟩ := exists_of_matchAt here
              obtain ⟨d, read, rfl⟩ := List.exists_cons_of_ne_nil (reads.ne_nil moves)
              rw [List.cons_append] at same
              obtain ⟨rfl, rfl⟩ := List.cons.inj same
              obtain ⟨_, groups⟩ := found
              subst length
              have further := ih (some c) read.length (by simp)
              rw [List.take_left' rfl, List.drop_left' rfl] at further
              have swapped : Replaced pattern replacement before (c :: read ++ rest)
                  (replacement groups ++ replaceFrom pattern replacement (some c) read.length
                    (read ++ rest)) := .swap here (by rwa [lastOr_cons])
              rw [replaceFrom.eq_def]
              simp only [here]
              exact swapped

/-- **What is made of a text whose matches are replaced.** -/
theorem replaced_replaceAll (moves : pattern.moves = true) (text : List Char) :
    Replaced pattern replacement none text (replaceAll pattern replacement text) :=
  replaced_replaceFrom moves none 0 text (Nat.zero_le _)

/-! ## Texts that stay as they are -/

/-- A pattern does not occur in a text if and only if it has no match at any place. -/
theorem occursIn_eq_false_iff_matchAt {text : List Char} :
    occursIn pattern text = false ↔
      ∀ passed rest, text = passed ++ rest → matchAt pattern passed.getLast? rest = none := by
  rw [occursIn, find?, ← Bool.not_eq_true, findFrom?_isSome_iff]
  constructor
  · rintro none passed rest rfl
    rw [← Option.not_isSome_iff_eq_none, matchAt_isSome_iff]
    rintro ⟨read, rest, groups, rfl, reads⟩
    rw [← lastOr_none] at reads
    exact none ⟨passed, read, rest, groups, (List.append_assoc ..).symm, reads⟩
  · rintro none ⟨passed, read, rest, groups, rfl, reads⟩
    have some := matchAt_isSome_iff.2 ⟨read, rest, groups, rfl, reads⟩
    rw [lastOr_none, none passed (read ++ rest) (List.append_assoc ..)] at some
    cases some

/-- A replacement that writes what was there before changes nothing. -/
theorem Replaced.eq_self {before : Option Char} {text result : List Char}
    (replaced : Replaced pattern replacement before text result)
    (same : ∀ passed read rest groups, text = passed ++ read ++ rest →
      matchAt pattern (lastOr before passed) (read ++ rest) = some ⟨read.length, groups⟩ →
        replacement groups = read) : result = text := by
  induction replaced with
  | nil => rfl
  | @keep before c text result none _ ih =>
      rw [ih fun passed read rest groups split found => ?_]
      refine same (c :: passed) read rest groups (by rw [split]; rfl) ?_
      rwa [lastOr_cons]
  | @swap before read text result groups here _ ih =>
      rw [ih fun passed read' rest groups split found => ?_]
      · rw [same [] read text groups rfl here]
      · refine same (read ++ passed) read' rest groups (by rw [split]; simp) ?_
        rwa [lastOr_append]

/-- Where a pattern does not occur, nothing is replaced. -/
theorem replaceAll_eq_self (moves : pattern.moves = true) {text : List Char}
    (none : occursIn pattern text = false) : replaceAll pattern replacement text = text := by
  refine (replaced_replaceAll moves text).eq_self fun passed read rest groups split found => ?_
  rw [lastOr_none, occursIn_eq_false_iff_matchAt.1 none passed (read ++ rest)
    (by rw [split, List.append_assoc])] at found
  cases found

end Pattern

end CodeIndex.Text
