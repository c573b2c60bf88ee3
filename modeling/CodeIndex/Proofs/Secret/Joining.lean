import CodeIndex.Proofs.Secret.Free

/-!
# Free texts that are joined

What is sent to a provider is put together from texts that are free of credentials each.  Two free
texts may make one that is not: `password` and `= "hunter2"` are free, and so are `token='` and a
quote that happens to follow.  This module says when it does not happen.

A border does not matter for tokens and openings of keys if a line break or a quote stands there.
For assignments a line break is no border, since blanks may stand around the sign; but then the sign
or the opening quote follows it, and a name with or without a sign stands before it.  So it is
enough that the text behind begins with something else, or that the text before does not end that
way.

## Main definitions

* `Secret.FreeBehind`: whether a text is free where it stands behind some character.
* `Secret.EndsOpen`: whether a text ends with what may begin an assignment.

## Main statements

* `Secret.freeBehind_append_line`: two texts on different lines.
* `Secret.freeBehind_append_quiet`: a text in which nothing begins, and another one.
-/

namespace CodeIndex.Secret

open CodeIndex.Text
open Pattern (Reads lastOr)

variable {before other : Option Char} {first second text : List Char}

/-- Whether a text is free of credentials where it stands behind a character. -/
structure FreeBehind (before : Option Char) (text : List Char) : Prop where
  token : token.shape.Lacks before text
  keyOpening : keyOpening.shape.Lacks before text
  exposed : exposed.Lacks before text

theorem isFree_iff_freeBehind : IsFree text ↔ FreeBehind none text := by
  rw [isFree_iff]
  exact ⟨fun ⟨token, key, exposed⟩ => ⟨token, key, exposed⟩,
    fun free => ⟨free.token, free.keyOpening, free.exposed⟩⟩

namespace FreeBehind

theorem nil : FreeBehind before [] :=
  ⟨Shape.lacks_nil (Pattern.shape_isFilled rfl), Shape.lacks_nil (Pattern.shape_isFilled rfl),
    Shape.lacks_nil exposed_isFilled⟩

theorem of_append_left (free : FreeBehind before (first ++ second)) : FreeBehind before first :=
  ⟨free.token.of_append_left, free.keyOpening.of_append_left, free.exposed.of_append_left⟩

theorem of_append_right (free : FreeBehind before (first ++ second)) :
    FreeBehind (lastOr before first) second :=
  ⟨free.token.of_append_right, free.keyOpening.of_append_right, free.exposed.of_append_right⟩

/-- Of the character before a text it matters only whether it is part of a word. -/
theorem behind (free : FreeBehind before text) (same : before.any isWord = other.any isWord) :
    FreeBehind other text := by
  have move : ∀ {pattern : Pattern} {read : List Char} {groups : Groups},
      pattern.looksForStart = false → Reads pattern other read [] groups →
        Reads pattern before read [] groups :=
    fun ahead reads => reads.of_looksBack ahead fun _ => same.symm
  exact ⟨free.token.behind fun _ ⟨groups, reads⟩ => ⟨groups, move rfl reads⟩,
    free.keyOpening.behind fun _ ⟨groups, reads⟩ => ⟨groups, move rfl reads⟩,
    free.exposed.behind fun _ ⟨groups, reads, value⟩ => ⟨groups, move rfl reads, value⟩⟩

end FreeBehind

/-! ## Texts in which nothing begins -/

/-- The name of an assignment begins it. -/
theorem exists_name_of_exposed {read : List Char} (found : exposed before read) :
    ∃ name rest groups, read = name ++ rest ∧ name ≠ [] ∧
      ∃ before behind, secretName.Reads before name behind groups := by
  obtain ⟨_, reads, -⟩ := found
  obtain ⟨name, sign, value, opening, closing, assigns, -, -, -, -, -, _, _, _, named⟩ :=
    exists_assigns reads
  exact ⟨name, _, _, by rw [assigns.read_eq, List.append_assoc], assigns.name_ne_nil, _, _, named⟩

/-- The opening of a key begins and ends with a hyphen. -/
theorem ends_of_keyOpening {read : List Char} (found : keyOpening.shape before read) :
    read.head? = some '-' ∧ read.getLast? = some '-' := by
  obtain ⟨_, reads⟩ := found
  obtain ⟨start, _, _, _, rfl, -, begins, further⟩ := reads.of_seq
  obtain ⟨kind, ending, _, _, rfl, -, -, ends⟩ := further.of_seq
  obtain rfl := begins.of_literal
  obtain rfl := ends.of_literal
  rw [← List.append_assoc, List.getLast?_append_of_ne_nil _ (by decide),
    List.append_assoc, List.head?_append_of_ne_nil _ (by decide)]
  decide

/-- Whether no credential begins in a text, provided that what follows ends tokens and names. -/
structure IsQuiet (text : List Char) : Prop where
  token : token.occursIn text = false
  hyphen : '-' ∉ text
  name : secretName.occursIn text = false

instance (text : List Char) : Decidable (IsQuiet text) :=
  decidable_of_iff
    (token.occursIn text = false ∧ '-' ∉ text ∧ secretName.occursIn text = false)
    ⟨fun ⟨token, hyphen, name⟩ => ⟨token, hyphen, name⟩,
      fun quiet => ⟨quiet.token, quiet.hyphen, quiet.name⟩⟩

/-- What stands before a stretch and reaches behind a wall holds it. -/
theorem mem_of_reaches {ahead read rest : List Char} {c : Char} {behind : List Char}
    (same : ahead ++ c :: behind = read ++ rest) (far : ¬∃ inside, ahead = read ++ inside) :
    c ∈ read := by
  rcases List.append_eq_append_iff.1 same with ⟨reached, rfl, tail⟩ | ⟨inside, rfl, -⟩
  · cases reached with
    | nil => exact absurd ⟨[], by simp⟩ far
    | cons d reached =>
        obtain ⟨rfl, -⟩ := List.cons.inj tail
        simp
  · exact absurd ⟨inside, rfl⟩ far

/-- **A text in which nothing begins** stands before a free text. -/
theorem freeBehind_append_quiet {c : Char} {behind : List Char} (quiet : IsQuiet first)
    (outside : before.any isWord = false) (ends : endsToken c = true)
    (unnamed : secretName.takes c = false)
    (free : FreeBehind (lastOr before first) (c :: behind)) :
    FreeBehind before (first ++ c :: behind) := by
  have tokens : token.shape.Lacks before first :=
    ((Pattern.occursIn_eq_false_iff rfl).1 quiet.token).behind
      fun _ ⟨groups, reads⟩ => ⟨groups, reads.of_looksBack rfl fun _ => outside⟩
  refine ⟨?_, ?_, ?_⟩
  · refine Shape.Lacks.append_of_here free.token
      fun passed ahead split some read rest same found => ?_
    by_cases near : ∃ inside, ahead = read ++ inside
    · obtain ⟨inside, rfl⟩ := near
      exact tokens passed read inside (by rw [split, List.append_assoc]) found
    · exact token_avoids ends _ _ found (mem_of_reaches same near)
  · refine Shape.Lacks.append_of_here free.keyOpening
      fun passed ahead split some read rest same found => ?_
    obtain ⟨d, ahead, rfl⟩ := List.exists_cons_of_ne_nil some
    obtain ⟨head, -⟩ := ends_of_keyOpening found
    cases read with
    | nil => cases head
    | cons e read =>
        obtain ⟨rfl, -⟩ := List.cons.inj same
        obtain rfl := Option.some.inj head
        exact quiet.hyphen (by rw [split]; simp)
  · refine Shape.Lacks.append_of_here free.exposed
      fun passed ahead split some read rest same found => ?_
    obtain ⟨name, beyond, groups, rfl, filled, _, _, named⟩ := exists_name_of_exposed found
    rw [List.append_assoc] at same
    by_cases near : ∃ inside, ahead = name ++ inside
    · obtain ⟨inside, rfl⟩ := near
      have lacks := (Pattern.occursIn_eq_false_iff rfl).1 quiet.name
      refine lacks passed name inside (by rw [split, List.append_assoc]) ⟨groups, ?_⟩
      exact (named.of_looksBack rfl nofun).anywhere rfl
    · have taken := named.takes c (mem_of_reaches same near)
      rw [unnamed] at taken
      cases taken

/-- Nothing begins with a character that ends tokens and names. -/
theorem freeBehind_cons {c : Char} (ends : endsToken c = true)
    (unnamed : secretName.takes c = false) (hyphen : c ≠ '-') :
    FreeBehind before (c :: text) ↔ FreeBehind (some c) text := by
  refine ⟨fun free => ⟨(Shape.lacks_cons.1 free.token).2, (Shape.lacks_cons.1 free.keyOpening).2,
    (Shape.lacks_cons.1 free.exposed).2⟩, fun free => ⟨?_, ?_, ?_⟩⟩
  · refine Shape.lacks_cons.2 ⟨fun read rest same found => ?_, free.token⟩
    cases read with
    | nil => exact Pattern.shape_isFilled rfl _ found
    | cons d read =>
        obtain ⟨rfl, -⟩ := List.cons.inj same
        exact token_avoids ends _ _ found List.mem_cons_self
  · refine Shape.lacks_cons.2 ⟨fun read rest same found => ?_, free.keyOpening⟩
    obtain ⟨head, -⟩ := ends_of_keyOpening found
    cases read with
    | nil => cases head
    | cons d read =>
        obtain ⟨rfl, -⟩ := List.cons.inj same
        exact hyphen (Option.some.inj head)
  · refine Shape.lacks_cons.2 ⟨fun read rest same found => ?_, free.exposed⟩
    obtain ⟨name, beyond, _, rfl, filled, _, _, named⟩ := exists_name_of_exposed found
    obtain ⟨d, name, rfl⟩ := List.exists_cons_of_ne_nil filled
    obtain ⟨rfl, -⟩ := List.cons.inj same
    have taken := named.takes c List.mem_cons_self
    rw [unnamed] at taken
    cases taken

/-! ## White space -/

/-- White space ends tokens, and is neither part of a name nor a hyphen nor part of a word. -/
theorem of_isBlank {c : Char} (blank : isBlank c = true) :
    endsToken c = true ∧ secretName.takes c = false ∧ c ≠ '-' ∧ isWord c = false := by
  have every : ∀ c ∈ blanks,
      endsToken c = true ∧ secretName.takes c = false ∧ c ≠ '-' ∧ isWord c = false :=
    List.forall_iff_forall_mem.1 (by decide +kernel)
  exact every c (mem_blanks_of_isBlank blank)

theorem not_isQuote_of_isBlank {c : Char} (blank : isBlank c = true) : isQuote c = false := by
  have every : ∀ c ∈ blanks, isQuote c = false := List.forall_iff_forall_mem.1 (by decide)
  exact every c (mem_blanks_of_isBlank blank)

/-- White space before a text does not matter. -/
theorem freeBehind_cons_blank {c : Char} (blank : isBlank c = true) :
    FreeBehind before (c :: text) ↔ FreeBehind none text := by
  obtain ⟨ends, unnamed, hyphen, outside⟩ := of_isBlank blank
  rw [freeBehind_cons ends unnamed hyphen]
  have same : (some c).any isWord = (none : Option Char).any isWord := outside
  exact ⟨fun free => free.behind same, fun free => free.behind same.symm⟩

/-! ## Texts on different lines -/

/-- Whether a text ends with a secret name, or with one and a sign. -/
def EndsOpen (text : List Char) : Prop :=
  ∃ passed name sign before behind groups, text = passed ++ name ++ sign ∧
    secretName.Reads before name behind groups ∧
    ∀ c ∈ sign, isBlank c = true ∨ c = ':' ∨ c = '='

/-- Whether a character may follow a blank inside an assignment. -/
def FollowsBlank (c : Char) : Prop := isBlank c = true ∨ c = ':' ∨ c = '=' ∨ isQuote c = true

instance (c : Char) : Decidable (FollowsBlank c) :=
  inferInstanceAs (Decidable (isBlank c = true ∨ c = ':' ∨ c = '=' ∨ isQuote c = true))

section Newline

variable {read name sign value begun ended : List Char} {opening closing c : Char}
variable (assigns : Assigns read name sign value opening closing)

include assigns

/-- Behind the sign of an assignment there is no line break any more. -/
theorem Assigns.newline_notMem_value : '\n' ∉ opening :: (value ++ [closing]) := by
  have isOpening := assigns.isQuote_opening
  have isClosing := assigns.isQuote_closing
  simp only [List.mem_cons, List.mem_append, List.not_mem_nil, or_false, not_or]
  refine ⟨fun same => ?_, fun member => ?_, fun same => ?_⟩
  · rw [← same] at isOpening
    cases isOpening
  · cases (assigns.isValue _ member).2
  · rw [← same] at isClosing
    cases isClosing

/-- A line break behind the name stands in the sign. -/
theorem Assigns.of_newline_behind_name
    (across : sign ++ opening :: (value ++ [closing]) = begun ++ '\n' :: c :: ended) :
    FollowsBlank c ∧ begun ⊆ sign := by
  have unquoted := assigns.newline_notMem_value
  rcases List.append_eq_append_iff.1 across with ⟨further, rfl, tail⟩ | ⟨further, rfl, tail⟩
  · exact absurd (tail ▸ List.mem_append_right _ List.mem_cons_self) unquoted
  · refine ⟨?_, List.subset_append_left _ _⟩
    cases further with
    | nil =>
        rw [List.nil_append] at tail
        exact absurd (tail ▸ List.mem_cons_self) unquoted
    | cons d further =>
        obtain ⟨rfl, beyond⟩ := List.cons.inj tail
        cases further with
        | nil =>
            obtain ⟨rfl, -⟩ := List.cons.inj beyond
            exact .inr (.inr (.inr assigns.isQuote_opening))
        | cons d further =>
            obtain ⟨rfl, -⟩ := List.cons.inj beyond
            rcases assigns.isSign c (by simp) with blank | rfl | rfl
            · exact .inl blank
            · exact .inr (.inl rfl)
            · exact .inr (.inr (.inl rfl))

/-- **An assignment across a line break** has its sign around the break. -/
theorem Assigns.of_newline (across : read = begun ++ '\n' :: c :: ended) :
    FollowsBlank c ∧ ∃ sign', begun = name ++ sign' ∧ sign' ⊆ sign := by
  have unnamed : '\n' ∉ name := fun member => by
    have taken := assigns.takes_name _ member
    cases taken
  rw [assigns.read_eq, List.append_assoc] at across
  rcases List.append_eq_append_iff.1 across with ⟨further, rfl, tail⟩ | ⟨further, rfl, tail⟩
  · obtain ⟨follows, part⟩ := assigns.of_newline_behind_name tail
    exact ⟨follows, further, rfl, part⟩
  · cases further with
    | nil =>
        have first : sign ++ opening :: (value ++ [closing]) = [] ++ '\n' :: c :: ended := tail.symm
        exact ⟨(assigns.of_newline_behind_name first).1, [], by simp, List.nil_subset _⟩
    | cons d further =>
        obtain ⟨rfl, -⟩ := List.cons.inj tail
        exact absurd (by simp) unnamed

end Newline

/-- White space at its end leaves a text free. -/
theorem freeBehind_concat_blank {c : Char} (blank : isBlank c = true)
    (free : FreeBehind before first) : FreeBehind before (first ++ [c]) := by
  have rest : FreeBehind (lastOr before first) [c] := (freeBehind_cons_blank blank).2 .nil
  have last : ∀ {ended behind : List Char}, [c] = ended ++ behind → ended ≠ [] → ended = [c] := by
    intro ended behind same filled
    obtain ⟨d, ended, rfl⟩ := List.exists_cons_of_ne_nil filled
    obtain ⟨rfl, none⟩ := List.cons.inj same
    rw [(List.append_eq_nil_iff.1 none.symm).1]
  obtain ⟨ends, -, hyphen, -⟩ := of_isBlank blank
  refine ⟨free.token.append rest.token ?_, free.keyOpening.append rest.keyOpening ?_,
    free.exposed.append rest.exposed ?_⟩
  · intro passed begun ended behind _ same _ filled found
    rw [last same filled] at found
    exact token_avoids ends _ _ found (List.mem_append_right _ (List.mem_singleton_self _))
  · intro passed begun ended behind _ same _ filled found
    rw [last same filled] at found
    -- the opening of a key ends with a hyphen
    have final := (ends_of_keyOpening found).2
    rw [List.getLast?_concat] at final
    exact hyphen (Option.some.inj final)
  · rintro passed begun ended behind _ same _ filled ⟨_, reads, -⟩
    rw [last same filled] at reads
    -- and an assignment ends with a quote
    obtain ⟨name, sign, value, opening, closing, assigns, -⟩ := exists_assigns reads
    have final := congrArg List.getLast? assigns.read_eq
    rw [List.getLast?_concat, List.getLast?_append_of_ne_nil _ (List.cons_ne_nil _ _),
      ← List.cons_append, List.getLast?_concat] at final
    have isClosing := assigns.isQuote_closing
    rw [← Option.some.inj final, not_isQuote_of_isBlank blank] at isClosing
    cases isClosing

/-- White space around a text does not matter. -/
theorem isFree_trim_iff : IsFree (trim text) ↔ IsFree text := by
  have start : ∀ text : List Char, FreeBehind none (trimStart text) ↔ FreeBehind none text := by
    intro text
    induction text with
    | nil => exact Iff.rfl
    | cons c text ih =>
        by_cases blank : isBlank c = true
        · rw [freeBehind_cons_blank blank, ← ih, trimStart, List.dropWhile_cons_of_pos blank,
            trimStart]
        · rw [trimStart, List.dropWhile_cons_of_neg blank]
  have ending : ∀ reversed : List Char, FreeBehind none (reversed.dropWhile isBlank).reverse ↔
      FreeBehind none reversed.reverse := by
    intro reversed
    induction reversed with
    | nil => exact Iff.rfl
    | cons c reversed ih =>
        by_cases blank : isBlank c = true
        · rw [List.dropWhile_cons_of_pos blank, ih, List.reverse_cons]
          exact ⟨freeBehind_concat_blank blank, .of_append_left⟩
        · rw [List.dropWhile_cons_of_neg blank]
  rw [isFree_iff_freeBehind, isFree_iff_freeBehind, trim, trimEnd, ending, List.reverse_reverse,
    start]

theorem isFree_trimmed_iff {text : String} : IsFree (trimmed text).toList ↔ IsFree text.toList := by
  rw [trimmed, String.toList_ofList, isFree_trim_iff]

/-- **Two free texts on different lines** make a free text, if the second one begins with what
cannot follow a blank in an assignment, or the first one does not end with the name of one. -/
theorem freeBehind_append_line {c : Char} (free : FreeBehind before first)
    (free' : FreeBehind none (c :: second)) (parted : ¬FollowsBlank c ∨ ¬EndsOpen first) :
    FreeBehind before (first ++ '\n' :: c :: second) := by
  have line := freeBehind_concat_blank (by decide : isBlank '\n' = true) free
  have behind : FreeBehind (lastOr before (first ++ ['\n'])) (c :: second) := by
    rw [Pattern.lastOr_append]
    exact free'.behind rfl
  have avoids : keyOpening.shape.Avoids '\n' := Pattern.shape_avoids (by decide)
  rw [Pattern.lastOr_append] at behind
  refine ⟨line.token.append_of_wall (token_avoids (by decide)) behind.token,
    line.keyOpening.append_of_wall avoids behind.keyOpening, ?_⟩
  have joined : exposed.Lacks before (first ++ ['\n'] ++ c :: second) := by
    refine line.exposed.append (by rw [Pattern.lastOr_append]; exact behind.exposed) ?_
    rintro passed begun ended rest split same filled filled' ⟨_, reads, -⟩
    obtain ⟨d, ended, rfl⟩ := List.exists_cons_of_ne_nil filled'
    obtain ⟨rfl, -⟩ := List.cons.inj same
    -- the stretch holds the line break and the character behind it
    have last := congrArg List.getLast? split
    rw [List.getLast?_concat, List.getLast?_append_of_ne_nil _ filled] at last
    obtain ⟨begun, rfl⟩ := List.getLast?_eq_some_iff.1 last.symm
    obtain rfl : first = passed ++ begun := by
      rw [← List.append_assoc] at split
      exact (List.append_inj' split rfl).1
    obtain ⟨name, sign, value, opening, closing, assigns, -, -, -, -, -, _, _, _, named⟩ :=
      exists_assigns reads
    obtain ⟨follows, sign', rfl, part⟩ := assigns.of_newline (List.append_assoc ..)
    rcases parted with apart | closed
    · exact apart follows
    · exact closed ⟨passed, name, sign', _, _, _, (List.append_assoc ..).symm, named,
        fun e member => assigns.isSign e (part member)⟩
  rwa [List.append_assoc] at joined

/-! ## Quoted texts -/

/-- In an assignment no blank stands behind a quote: a value has no blanks, and the closing quote is
the end. -/
theorem Assigns.not_blank_behind_quote {read name sign value begun ended : List Char}
    {opening closing : Char} (assigns : Assigns read name sign value opening closing) :
    read ≠ begun ++ '"' :: ' ' :: ended := by
  intro across
  rw [assigns.read_eq] at across
  have notFirst : ∀ {ended : List Char}, value ++ [closing] ≠ ' ' :: ended := by
    intro ended same
    obtain ⟨c, value', rfl⟩ := List.exists_cons_of_ne_nil assigns.value_ne_nil
    obtain ⟨rfl, -⟩ := List.cons.inj same
    cases (assigns.isValue ' ' List.mem_cons_self).2
  have notLater : ∀ {begun ended : List Char},
      value ++ [closing] ≠ begun ++ '"' :: ' ' :: ended := by
    intro begun ended same
    have inValue : '"' ∈ value := by
      have init := congrArg List.dropLast same
      rw [List.dropLast_concat, List.dropLast_append_of_ne_nil (List.cons_ne_nil _ _),
        List.dropLast_cons_of_ne_nil (List.cons_ne_nil _ _)] at init
      rw [init]
      simp
    cases (assigns.isValue '"' inValue).1
  rcases List.append_eq_append_iff.1 across with ⟨further, rfl, tail⟩ | ⟨further, front, tail⟩
  · cases further with
    | nil => exact notFirst (List.cons.inj tail).2
    | cons d further => exact notLater (List.cons.inj tail).2
  · cases further with
    | nil => exact notFirst (List.cons.inj tail.symm).2
    | cons d further =>
        obtain ⟨rfl, -⟩ := List.cons.inj tail
        have quote : '"' ∈ name ++ sign := by
          rw [front]
          simp
        exact assigns.notMem_front (by simp) quote

/-- **A quoted text and a blank** make a free text with what follows. -/
theorem freeBehind_append_quoted (free : FreeBehind before (first ++ ['"']))
    (free' : FreeBehind none (' ' :: second)) :
    FreeBehind before (first ++ '"' :: ' ' :: second) := by
  have behind : FreeBehind (some '"') (' ' :: second) := free'.behind rfl
  have avoids : keyOpening.shape.Avoids '"' := keyOpening_avoids_quote rfl
  refine ⟨free.token.append_of_wall (token_avoids (by decide)) behind.token,
    free.keyOpening.append_of_wall avoids behind.keyOpening, ?_⟩
  have joined : exposed.Lacks before (first ++ ['"'] ++ ' ' :: second) := by
    refine free.exposed.append (by rw [Pattern.lastOr_append]; exact behind.exposed) ?_
    rintro passed begun ended rest split same filled filled' ⟨_, reads, -⟩
    obtain ⟨d, ended, rfl⟩ := List.exists_cons_of_ne_nil filled'
    obtain ⟨rfl, -⟩ := List.cons.inj same
    have last := congrArg List.getLast? split
    rw [List.getLast?_concat, List.getLast?_append_of_ne_nil _ filled] at last
    obtain ⟨begun, rfl⟩ := List.getLast?_eq_some_iff.1 last.symm
    obtain ⟨name, sign, value, opening, closing, assigns, -⟩ := exists_assigns reads
    exact assigns.not_blank_behind_quote (List.append_assoc ..)
  rwa [List.append_assoc] at joined

/-- A text is free if it is free between quotes. -/
theorem IsFree.of_quoted (free : IsFree ('"' :: (text ++ ['"']))) : IsFree text := by
  have quoted := isFree_iff_freeBehind.1 free
  have behind := ((freeBehind_cons (by decide) (by decide) (by decide)).1 quoted).of_append_left
  exact isFree_iff_freeBehind.2 (behind.behind rfl)

end CodeIndex.Secret
