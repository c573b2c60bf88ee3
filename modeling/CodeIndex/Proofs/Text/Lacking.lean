import CodeIndex.Proofs.Text.Reading

/-!
# Texts that lack a shape

A shape tells stretches of text, each with the character before it.  A text lacks a shape if no
stretch of it has it.  Texts that lack a shape can be cut and joined: a part of such a text lacks
it, and so does what two of them are joined to, unless a stretch across the border has the shape.
Where stretches of a shape cannot hold the characters at the border, there is nothing to fear; such
a character is a wall.

## Main definitions

* `Shape`, `Shape.Lacks`
* `Pattern.shape`: the stretches that a pattern reads.

## Main statements

* `Shape.Lacks.append`, `Shape.Lacks.append_of_wall`: texts that are joined.
* `Shape.Lacks.of_append_left`, `Shape.Lacks.of_append_right`: texts that are cut.
* `Pattern.occursIn_eq_false_iff`
-/

namespace CodeIndex.Text

open Pattern (lastOr)

/-- A shape that stretches of text may have, given the character before them. -/
abbrev Shape := Option Char → List Char → Prop

namespace Shape

/-- Whether no stretch of a text has a shape. -/
def Lacks (shape : Shape) (before : Option Char) (text : List Char) : Prop :=
  ∀ passed read rest, text = passed ++ read ++ rest → ¬shape (lastOr before passed) read

/-- Whether no beginning of a text has a shape. -/
def LacksHere (shape : Shape) (before : Option Char) (text : List Char) : Prop :=
  ∀ read rest, text = read ++ rest → ¬shape before read

/-- Whether stretches of a shape never hold a character. -/
def Avoids (shape : Shape) (c : Char) : Prop := ∀ before read, shape before read → c ∉ read

/-- Whether stretches of a shape have characters at all. -/
def IsFilled (shape : Shape) : Prop := ∀ before, ¬shape before []

variable {shape : Shape} {before : Option Char} {left right text : List Char}

theorem lacks_nil (filled : shape.IsFilled) : shape.Lacks before [] := by
  intro passed read rest same
  obtain ⟨none, -⟩ := List.append_eq_nil_iff.1 same.symm
  obtain ⟨-, rfl⟩ := List.append_eq_nil_iff.1 none
  exact filled _

theorem lacks_cons {c : Char} :
    shape.Lacks before (c :: text) ↔
      shape.LacksHere before (c :: text) ∧ shape.Lacks (some c) text := by
  constructor
  · refine fun lacks => ⟨fun read rest same => lacks [] read rest same, ?_⟩
    rintro passed read rest rfl
    have := lacks (c :: passed) read rest rfl
    rwa [Pattern.lastOr_cons] at this
  · rintro ⟨here, further⟩ passed read rest same
    cases passed with
    | nil => exact here read rest same
    | cons d passed =>
        obtain ⟨rfl, rfl⟩ := List.cons.inj same
        rw [Pattern.lastOr_cons]
        exact further passed read rest rfl

theorem Lacks.of_append_left (lacks : shape.Lacks before (left ++ right)) :
    shape.Lacks before left := by
  rintro passed read rest rfl
  exact lacks passed read (rest ++ right) (List.append_assoc ..)

theorem Lacks.of_append_right (lacks : shape.Lacks before (left ++ right)) :
    shape.Lacks (lastOr before left) right := by
  rintro passed read rest rfl
  rw [← Pattern.lastOr_append]
  exact lacks (left ++ passed) read rest (by simp only [List.append_assoc])

/-- A text that lacks a shape may stand behind another character if that one allows no more. -/
theorem Lacks.behind {other : Option Char} (lacks : shape.Lacks before text)
    (less : ∀ read, shape other read → shape before read) : shape.Lacks other text := by
  intro passed read rest same
  cases passed with
  | nil => exact fun found => lacks [] read rest same (less read found)
  | cons c passed =>
      have := lacks (c :: passed) read rest same
      rwa [Pattern.lastOr_cons] at this ⊢

/-- **Two texts that lack a shape are joined to one,** unless a stretch across the border has it. -/
theorem Lacks.append (first : shape.Lacks before left)
    (second : shape.Lacks (lastOr before left) right)
    (across : ∀ passed begun ended rest, left = passed ++ begun → right = ended ++ rest →
      begun ≠ [] → ended ≠ [] → ¬shape (lastOr before passed) (begun ++ ended)) :
    shape.Lacks before (left ++ right) := by
  intro passed read rest same found
  rw [List.append_assoc] at same
  -- the stretch begins in the first text or in the second one
  rcases List.append_eq_append_iff.1 same with ⟨passed', rfl, behind⟩ | ⟨begun, rfl, ahead⟩
  · refine second passed' read rest (by rw [behind, List.append_assoc]) ?_
    rwa [← Pattern.lastOr_append]
  · rcases List.append_eq_append_iff.1 ahead with ⟨inside, rfl, -⟩ | ⟨ended, rfl, behind⟩
    · exact first passed read inside (List.append_assoc ..).symm found
    · cases begun with
      | nil => exact second [] ended rest behind (by simpa using found)
      | cons c begun =>
          cases ended with
          | nil => exact first passed (c :: begun) [] (by simp) (by simpa using found)
          | cons d ended =>
              exact across passed (c :: begun) (d :: ended) rest rfl behind (List.cons_ne_nil _ _)
                (List.cons_ne_nil _ _) found

/-- If no stretch begins in the first text, only the second one has to lack the shape. -/
theorem Lacks.append_of_here (behind : shape.Lacks (lastOr before left) right)
    (here : ∀ passed ahead, left = passed ++ ahead → ahead ≠ [] →
      shape.LacksHere (lastOr before passed) (ahead ++ right)) :
    shape.Lacks before (left ++ right) := by
  induction left generalizing before with
  | nil => exact behind
  | cons c left ih =>
      rw [Pattern.lastOr_cons] at behind
      refine lacks_cons.2 ⟨here [] (c :: left) rfl (List.cons_ne_nil _ _),
        ih behind fun passed ahead same filled => ?_⟩
      have := here (c :: passed) ahead (by rw [same]; rfl) filled
      rwa [Pattern.lastOr_cons] at this

/-- A character that stretches never hold is a wall at the end of the first text. -/
theorem Lacks.append_of_wall {c : Char} (avoids : shape.Avoids c)
    (first : shape.Lacks before (left ++ [c])) (second : shape.Lacks (some c) right) :
    shape.Lacks before (left ++ c :: right) := by
  have joined : shape.Lacks before (left ++ [c] ++ right) := by
    refine first.append ?_ fun passed begun ended rest same _ filled _ found => ?_
    · rwa [Pattern.lastOr_append]
    · refine avoids _ _ found (List.mem_append_left _ ?_)
      have last : (left ++ [c]).getLast? = some c := List.getLast?_concat ..
      rw [same, List.getLast?_append_of_ne_nil _ filled] at last
      exact List.mem_of_getLast? last
  rwa [List.append_assoc] at joined

end Shape

/-! ## Patterns as shapes -/

namespace Pattern

variable {pattern : Pattern} {before : Option Char} {text read rest : List Char} {groups : Groups}

/-- The stretches that a pattern reads, nothing being behind them. -/
def shape (pattern : Pattern) : Shape := fun before read =>
  ∃ groups, Reads pattern before read [] groups

theorem shape_of_reads (inside : pattern.looksInside false = true)
    (reads : Reads pattern before read rest groups) : pattern.shape before read :=
  ⟨groups, reads.anywhere inside⟩

theorem shape_avoids {c : Char} (taken : pattern.takes c = false) : pattern.shape.Avoids c := by
  rintro before read ⟨groups, reads⟩ member
  rw [reads.takes c member] at taken
  cases taken

theorem shape_isFilled (moves : pattern.moves = true) : pattern.shape.IsFilled :=
  fun _ ⟨_, reads⟩ => reads.ne_nil moves rfl

/-- **A pattern is not found in a text** if and only if the text lacks its shape. -/
theorem findFrom?_eq_none_iff (inside : pattern.looksInside false = true) :
    findFrom? pattern before text = none ↔ pattern.shape.Lacks before text := by
  rw [← Option.not_isSome_iff_eq_none, findFrom?_isSome_iff]
  constructor
  · rintro none passed read rest rfl ⟨groups, reads⟩
    exact none ⟨passed, read, rest, groups, rfl, reads.anywhere inside⟩
  · rintro lacks ⟨passed, read, rest, groups, rfl, reads⟩
    exact lacks passed read rest rfl (shape_of_reads inside reads)

theorem occursIn_eq_false_iff (inside : pattern.looksInside false = true) :
    occursIn pattern text = false ↔ pattern.shape.Lacks none text := by
  rw [← findFrom?_eq_none_iff inside, occursIn, find?, Option.isSome_eq_false_iff,
    Option.isNone_iff_eq_none]

/-- A pattern has no match at a place if and only if no beginning of the text has its shape. -/
theorem matchAt_eq_none_iff (inside : pattern.looksInside false = true) :
    matchAt pattern before text = none ↔ pattern.shape.LacksHere before text := by
  rw [← Option.not_isSome_iff_eq_none, matchAt_isSome_iff]
  constructor
  · rintro none read rest rfl ⟨groups, reads⟩
    exact none ⟨read, rest, groups, rfl, reads.anywhere inside⟩
  · rintro lacks ⟨read, rest, groups, rfl, reads⟩
    exact lacks read rest rfl (shape_of_reads inside reads)

end Pattern

end CodeIndex.Text
