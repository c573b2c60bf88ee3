import CodeIndex.Text.Line
import Mathlib.Data.List.DropRight

/-!
# Text without the blanks around it

A text is `trim text` with white space before and after it (`exists_trim`), and what stands between
white space is `trim` of the whole if it does not begin or end with white space itself
(`trim_surrounded`).  Nothing in this is about white space: names lose the quotes around them in the
same way.
-/

namespace CodeIndex.Text

/-! ## Characters of a class around a text -/

section Class

variable {p : Char → Bool} {before core after : List Char}

/-- Characters of a class in front of a text that begins with none. -/
theorem dropWhile_surrounded (all : ∀ c ∈ before, p c = true)
    (first : ∀ c ∈ core.head?, p c = false) : (before ++ core).dropWhile p = core := by
  rw [List.dropWhile_append_of_pos all]
  cases core with
  | nil => rfl
  | cons c core => exact List.dropWhile_cons_of_neg (by simp [first c rfl])

/-- A text is divided in one way into characters of a class and more that begins with none. -/
theorem eq_of_append_surrounded {before' core' : List Char} (all : ∀ c ∈ before, p c = true)
    (all' : ∀ c ∈ before', p c = true) (first : ∀ c ∈ core.head?, p c = false)
    (first' : ∀ c ∈ core'.head?, p c = false) (same : before ++ core = before' ++ core') :
    before = before' ∧ core = core' := by
  have behind : core = core' := by
    rw [← dropWhile_surrounded all first, same, dropWhile_surrounded all' first']
  exact ⟨List.append_cancel_right (behind ▸ same), behind⟩

/-- What stands between characters of a class is left without them, if it does not begin or end
with one. -/
theorem reverse_dropWhile_surrounded (all : ∀ c ∈ before, p c = true)
    (all' : ∀ c ∈ after, p c = true) (first : ∀ c ∈ core.head?, p c = false)
    (last : ∀ c ∈ core.getLast?, p c = false) :
    (((before ++ core ++ after).dropWhile p).reverse.dropWhile p).reverse = core := by
  have ending : ((core ++ after).reverse.dropWhile p).reverse = core := by
    rw [List.reverse_append, dropWhile_surrounded (by simpa using all') (by simpa using last),
      List.reverse_reverse]
  cases core with
  | nil =>
      rw [List.append_nil, List.dropWhile_append_of_pos all, List.dropWhile_eq_nil_iff.2 all']
      rfl
  | cons c core =>
      rw [List.append_assoc, dropWhile_surrounded all (by simpa using first)]
      exact ending

/-- A text is what is left of it with characters of a class around. -/
theorem exists_surrounded (p : Char → Bool) (text : List Char) :
    ∃ before after, text = before ++ ((text.dropWhile p).reverse.dropWhile p).reverse ++ after ∧
      (∀ c ∈ before, p c = true) ∧ ∀ c ∈ after, p c = true := by
  refine ⟨text.takeWhile p, (text.dropWhile p).rtakeWhile p, ?_,
    fun c member => List.mem_takeWhile_imp member, fun c member => List.mem_rtakeWhile_imp member⟩
  have rest : ((text.dropWhile p).reverse.dropWhile p).reverse ++ (text.dropWhile p).rtakeWhile p =
      text.dropWhile p := List.rdropWhile_append_rtakeWhile
  rw [List.append_assoc, rest]
  exact List.takeWhile_append_dropWhile.symm

/-- What is left of a text does not begin or end with a character of the class. -/
theorem ends_reverse_dropWhile (p : Char → Bool) (text : List Char) :
    (∀ c ∈ ((text.dropWhile p).reverse.dropWhile p).reverse.head?, p c = false) ∧
      ∀ c ∈ ((text.dropWhile p).reverse.dropWhile p).reverse.getLast?, p c = false := by
  have begins : ∀ (text : List Char), ∀ c ∈ (text.dropWhile p).head?, p c = false := by
    intro text c first
    have stopped := List.head?_dropWhile_not p text
    rw [Option.mem_def.1 first] at stopped
    exact stopped
  refine ⟨fun c first => ?_, fun c last => begins _ c (by simpa using last)⟩
  -- the text without its end begins as the text did
  refine begins text c ?_
  obtain ⟨more, same⟩ := List.rdropWhile_prefix p (text.dropWhile p)
  rw [← same, List.head?_append]
  exact Option.mem_def.2 (Option.or_eq_some_iff.2 (.inl first))

end Class

/-! ## White space around a text -/

/-- A text is what is left of it with white space around. -/
theorem exists_trim (text : List Char) :
    ∃ before after, text = before ++ trim text ++ after ∧ (∀ c ∈ before, isBlank c = true) ∧
      ∀ c ∈ after, isBlank c = true :=
  exists_surrounded isBlank text

/-- What stands between white space is left, if it does not begin or end with white space. -/
theorem trim_surrounded {before core after : List Char} (blank : ∀ c ∈ before, isBlank c = true)
    (blank' : ∀ c ∈ after, isBlank c = true) (first : ∀ c ∈ core.head?, isBlank c = false)
    (last : ∀ c ∈ core.getLast?, isBlank c = false) : trim (before ++ core ++ after) = core :=
  reverse_dropWhile_surrounded blank blank' first last

end CodeIndex.Text
