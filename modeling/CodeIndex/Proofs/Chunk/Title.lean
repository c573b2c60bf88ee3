import CodeIndex.Chunk.Heading
import CodeIndex.Proofs.Text.Reading
import Mathlib.Data.List.DropRight

/-!
# Titles of headings

A heading line is found by a pattern, and its title is what the pattern remembers.  The pattern
leaves more than one way to divide a line: blanks behind the opening signs may be blanks of the
title, and number signs at the end may be closing signs or belong to the title.  Which of them
counts is a matter of preference, since the blanks are read by a run that is greedy and the title by
one that is lazy.

So the title has as many blanks before it as can be, and is then as short as can be.  That is the
text of the line without blanks around it and without closing signs (`bare`), unless nothing would
be left: a title has at least one character, and in such a line this is the first of the number
signs, or the last blank if there are only blanks.

## Main definitions

* `Heading.IsClosing`: what may stand behind a title.
* `Heading.bare`: a text without what may stand behind it.
* `Heading.titleOf?`: the title of a line, without any pattern.

## Main statements

* `Heading.title?_eq`: the pattern finds the title.
-/

namespace CodeIndex.Heading

open CodeIndex.Text Pattern

variable {line text content closing : List Char}

/-! ## Behind a title -/

/-- **What may stand behind a title**: blanks, number signs and blanks. -/
def IsClosing (closing : List Char) : Prop :=
  ∃ blanks signs blanks', closing = blanks ++ signs ++ blanks' ∧
    (∀ c ∈ blanks, isBlank c = true) ∧ (∀ c ∈ signs, (c == '#') = true) ∧
      ∀ c ∈ blanks', isBlank c = true

theorem isClosing_nil : IsClosing [] := ⟨[], [], [], rfl, by simp, by simp, by simp⟩

theorem IsClosing.tail {c : Char} (closes : IsClosing (c :: closing)) : IsClosing closing := by
  obtain ⟨blanks, signs, blanks', same, allBlank, allSigns, allBlank'⟩ := closes
  rcases blanks with _ | ⟨b, blanks⟩
  · rcases signs with _ | ⟨s, signs⟩
    · obtain rfl : c :: closing = blanks' := same
      exact ⟨closing, [], [], by simp, fun d member => allBlank' d (List.mem_cons_of_mem c member),
        by simp, by simp⟩
    · obtain ⟨rfl, rfl⟩ := List.cons.inj same
      exact ⟨[], signs, blanks', rfl, by simp,
        fun d member => allSigns d (List.mem_cons_of_mem _ member), allBlank'⟩
  · obtain ⟨rfl, rfl⟩ := List.cons.inj same
    exact ⟨blanks, signs, blanks', rfl,
      fun d member => allBlank d (List.mem_cons_of_mem _ member), allSigns, allBlank'⟩

/-- **A text without what may stand behind it.** -/
def bare (text : List Char) : List Char :=
  ((text.rdropWhile isBlank).rdropWhile (· == '#')).rdropWhile isBlank

/-- What is left of a text lies before all that was at its end. -/
theorem rdropWhile_prefix_of_append {p : Char → Bool} {first last : List Char}
    (before : text <+: first ++ last) (all : ∀ c ∈ last, p c = true) :
    text.rdropWhile p <+: first := by
  have left := (List.rdropWhile_prefix p text).trans before
  rcases List.prefix_or_prefix_of_prefix left (List.prefix_append first last) with inside | beyond
  · exact inside
  · -- the last character that is left would be one of those at the end
    obtain ⟨more, same⟩ := beyond
    rw [← same, List.prefix_append_right_inj] at left
    rw [← same]
    rcases more.eq_nil_or_concat with rfl | ⟨more, c, rfl⟩
    · simp
    · have kept := List.rdropWhile_last_not p text (by simp [← same])
      simp only [← same, List.concat_eq_append, ← List.append_assoc, List.getLast_concat] at kept
      exact absurd (all c (left.subset (by simp))) kept

/-- **Nothing else closes a text**: however it is divided, what is bare of it lies before what may
stand behind a title. -/
theorem bare_prefix (closes : IsClosing closing) : bare (text ++ closing) <+: text := by
  obtain ⟨blanks, signs, blanks', rfl, allBlank, allSigns, allBlank'⟩ := closes
  refine rdropWhile_prefix_of_append ?_ allBlank
  refine rdropWhile_prefix_of_append ?_ allSigns
  refine rdropWhile_prefix_of_append ?_ allBlank'
  simp only [← List.append_assoc]
  exact List.prefix_refl _

theorem exists_eq_bare_append (text : List Char) :
    ∃ closing, text = bare text ++ closing ∧ IsClosing closing := by
  let shown := text.rdropWhile isBlank
  let unsigned := shown.rdropWhile (· == '#')
  have divided : shown ++ text.rtakeWhile isBlank = text := List.rdropWhile_append_rtakeWhile
  have divided' : unsigned ++ shown.rtakeWhile (· == '#') = shown :=
    List.rdropWhile_append_rtakeWhile
  have divided'' : bare text ++ unsigned.rtakeWhile isBlank = unsigned :=
    List.rdropWhile_append_rtakeWhile
  refine ⟨unsigned.rtakeWhile isBlank ++ shown.rtakeWhile (· == '#') ++ text.rtakeWhile isBlank, ?_,
    _, _, _, rfl, fun _ => List.mem_rtakeWhile_imp, fun _ => List.mem_rtakeWhile_imp,
    fun _ => List.mem_rtakeWhile_imp⟩
  rw [← List.append_assoc, ← List.append_assoc, divided'', divided', divided]

/-! ## Titles -/

/-- **The title in what follows the opening signs** of a heading line: its bare text, or else one
character. -/
def title (content : List Char) : List Char :=
  let text := content.dropWhile isBlank
  if bare text ≠ [] then bare text
  else
    match text with
    | [] => content.getLast?.toList
    | sign :: _ => [sign]

/-- **The title of a line**, if it is a heading: one to six number signs, a blank and more. -/
def titleOf? (line : List Char) : Option (List Char) :=
  let signs := line.takeWhile (· == '#')
  let content := line.dropWhile (· == '#')
  if signs ≠ [] ∧ signs.length ≤ 6 ∧ content.head?.any isBlank ∧ 2 ≤ content.length then
    some (title content)
  else none

/-- **The title is the shortest** text that may stand where it does, if no blanks could be taken
from it. -/
theorem eq_title {blanks : List Char} (allBlank : ∀ c ∈ blanks, isBlank c = true)
    (nonempty : text ≠ []) (closes : IsClosing closing)
    (longest : ∀ blanks' body, blanks ++ text ++ closing = blanks' ++ body →
      (∀ c ∈ blanks', isBlank c = true) → blanks.length < blanks'.length → body = [])
    (shortest : ∀ text' closing', text ++ closing = text' ++ closing' → text' ≠ [] →
      text'.length < text.length → ¬IsClosing closing') :
    text = title (blanks ++ text ++ closing) := by
  obtain ⟨c, more, rfl⟩ := List.exists_cons_of_ne_nil nonempty
  by_cases blank : isBlank c = true
  · -- the blank at the start could be taken from it, unless there was nothing else
    have none : more ++ closing = [] := by
      refine longest (blanks ++ [c]) _ (by simp) ?_ (by simp)
      simpa [or_imp, forall_and, blank] using allBlank
    obtain ⟨rfl, rfl⟩ := List.append_eq_nil_iff.1 none
    have all : (blanks ++ [c]).dropWhile isBlank = [] := by
      simpa [or_imp, forall_and, blank] using allBlank
    simp [title, all, bare]
  · have body : (blanks ++ c :: more ++ closing).dropWhile isBlank = c :: more ++ closing := by
      rw [List.append_assoc, List.dropWhile_append_of_pos allBlank, List.cons_append,
        List.dropWhile_cons_of_neg blank]
    rw [title, body]
    have within : bare (c :: more ++ closing) <+: c :: more := bare_prefix closes
    obtain ⟨closing', divided, closes'⟩ := exists_eq_bare_append (c :: more ++ closing)
    by_cases left : bare (c :: more ++ closing) = []
    · -- only number signs are left, and the first of them will do
      obtain rfl : c :: more ++ closing = closing' := by rw [divided, left, List.nil_append]
      have single : more = [] := by
        by_contra further
        have shorter : [c].length < (c :: more).length :=
          Nat.succ_lt_succ (List.length_pos_of_ne_nil further)
        exact shortest [c] (more ++ closing) rfl (List.cons_ne_nil _ _) shorter closes'.tail
      rw [if_neg (not_not.2 left), single]
      rfl
    · have whole : (bare (c :: more ++ closing)).length = (c :: more).length := by
        refine Nat.le_antisymm within.length_le (Nat.not_lt.1 fun shorter => ?_)
        exact shortest _ _ divided left shorter closes'
      rw [if_pos left]
      exact (within.eq_of_length whole).symm

/-! ## What the pattern finds -/

/-- What the pattern of headings expects behind the title. -/
def ending : Pattern :=
  .all [.many isBlank, .many (· == '#'), .many isBlank, .textEnd]

variable {before : Option Char} {read rest : List Char} {groups : Groups}

theorem reads_ending_iff :
    Reads ending before read rest groups ↔ rest = [] ∧ groups = [] ∧ IsClosing read := by
  constructor
  · intro reads
    obtain ⟨blanks, _, _, _, rfl, rfl, first, further⟩ := reads.of_seq
    obtain ⟨signs, _, _, _, rfl, rfl, second, further⟩ := further.of_seq
    obtain ⟨blanks', _, _, _, rfl, rfl, third, last⟩ := further.of_seq
    obtain ⟨rfl, allBlank, -⟩ := first.of_run
    obtain ⟨rfl, allSigns, -⟩ := second.of_run
    obtain ⟨rfl, allBlank', -⟩ := third.of_run
    cases last
    exact ⟨rfl, rfl, blanks, signs, blanks', by simp, allBlank, allSigns, allBlank'⟩
  · rintro ⟨rfl, rfl, blanks, signs, blanks', rfl, allBlank, allSigns, allBlank'⟩
    have last (before : Option Char) :
        Reads (.seq (.many isBlank) .textEnd) before (blanks' ++ []) [] [] :=
      .seq (.run allBlank' (Nat.zero_le _) (by simp)) .textEnd
    rw [← List.append_nil (blanks ++ signs ++ blanks'), List.append_assoc, List.append_assoc]
    exact .seq (.run allBlank (Nat.zero_le _) (by simp))
      (.seq (.run allSigns (Nat.zero_le _) (by simp)) (last _))

/-- What a pattern finds when nothing is expected behind it. -/
def finish (after : Place) (groups : Groups) : Option Found := some ⟨after.offset, groups⟩

theorem of_tryAt_ending {offset : Nat} {found : Found}
    (here : tryAt ⟨before, offset, text⟩ groups ending finish = some found) :
    IsClosing text ∧ found.groups = groups := by
  obtain ⟨read, rest, added, rfl, reads, same⟩ := exists_reads_of_tryAt here
  obtain rfl := Option.some.inj same
  obtain ⟨rfl, rfl, closes⟩ := reads_ending_iff.1 reads
  exact ⟨by rwa [List.append_nil], rfl⟩

theorem not_isClosing_of_tryAt_ending {offset : Nat}
    (failed : tryAt ⟨before, offset, text⟩ groups ending finish = none) : ¬IsClosing text := by
  intro closes
  have goes : (tryAt ⟨before, offset, text ++ []⟩ groups ending finish).isSome = true :=
    tryAt_isSome (reads_ending_iff.2 ⟨rfl, rfl, closes⟩) rfl
  rw [List.append_nil, failed] at goes
  cases goes

/-- Any text but the empty one may be a title. -/
theorem reads_title (before : Option Char) (oneLine : '\n' ∉ text) (nonempty : text ≠ []) :
    Reads (.seq (.group 2 (.run (· != '\n') ⟨1, none, false⟩)) ending) before (text ++ []) []
      ([] ++ [(2, text)]) := by
  have inLine : ∀ c ∈ text, (c != '\n') = true := fun c member =>
    bne_iff_ne.2 fun feed => oneLine (feed ▸ member)
  exact .seq (.group (.run inLine (List.length_pos_of_ne_nil nonempty) (by simp)))
    (reads_ending_iff.2 ⟨rfl, rfl, isClosing_nil⟩)

theorem eq_nil_of_tryAt_title {offset : Nat} (oneLine : '\n' ∉ text)
    (failed : tryAt ⟨before, offset, text⟩ groups
      (.seq (.group 2 (.run (· != '\n') ⟨1, none, false⟩)) ending) finish = none) : text = [] := by
  by_contra nonempty
  have goes : (tryAt ⟨before, offset, text ++ [] ++ []⟩ groups
      (.seq (.group 2 (.run (· != '\n') ⟨1, none, false⟩)) ending) finish).isSome = true :=
    tryAt_isSome (reads_title before oneLine nonempty) rfl
  rw [List.append_nil, List.append_nil, failed] at goes
  cases goes

theorem titleOf?_append {signs : List Char} (allSigns : ∀ c ∈ signs, (c == '#') = true)
    (positive : signs ≠ []) (most : signs.length ≤ 6) (blank : content.head?.any isBlank = true)
    (more : 2 ≤ content.length) : titleOf? (signs ++ content) = some (title content) := by
  have behind : content.takeWhile (· == '#') = [] ∧ content.dropWhile (· == '#') = content := by
    cases content with
    | nil => cases blank
    | cons c content =>
        have visible : (c == '#') = false := by
          refine beq_false_of_ne ?_
          rintro rfl
          cases blank
        simp [visible]
  rw [titleOf?, List.takeWhile_append_of_pos allSigns, List.dropWhile_append_of_pos allSigns,
    behind.1, behind.2, List.append_nil]
  exact if_pos ⟨positive, most, blank, more⟩

/-- **The title that is found** is the title. -/
theorem titleOf?_of_title? {name : String} (oneLine : '\n' ∉ line)
    (here : title? line = some name) : (titleOf? line).map String.ofList = some name := by
  obtain ⟨found, fits, rfl⟩ := Option.map_eq_some_iff.1 here
  have here : tryAt ⟨none, 0, line⟩ [] (.seq (.group 1 (.run (· == '#') ⟨1, some 6, true⟩))
      (.seq (.several isBlank) (.seq (.group 2 (.run (· != '\n') ⟨1, none, false⟩)) ending)))
      finish = some found := (find?_textStart _ line).symm.trans fits
  obtain ⟨signs, content, added, rfl, opening, here⟩ := exists_reads_of_tryAt_seq here
  cases opening with | group opening =>
  cases opening with | run allSigns least most =>
  obtain ⟨blanks, body, rfl, allBlank, someBlank, here, longest⟩ := exists_longest_of_tryAt_seq here
  obtain ⟨text, closing, rfl, -, someText, here, shortest⟩ := exists_shortest_of_tryAt_seq here
  obtain ⟨closes, remembered⟩ := of_tryAt_ending here
  have nonempty : text ≠ [] := List.length_pos_iff.1 someText
  have longest' (blanks' body : List Char) (split : blanks ++ text ++ closing = blanks' ++ body)
      (allBlank' : ∀ c ∈ blanks', isBlank c = true) (longer : blanks.length < blanks'.length) :
      body = [] := by
    rw [← List.append_assoc blanks, split] at oneLine
    exact eq_nil_of_tryAt_title (fun feed => oneLine (by simp [feed]))
      (longest blanks' body (by rwa [← List.append_assoc]) allBlank' longer)
  have shortest' (text' closing' : List Char) (split : text ++ closing = text' ++ closing')
      (nonempty' : text' ≠ []) (shorter : text'.length < text.length) : ¬IsClosing closing' :=
    not_isClosing_of_tryAt_ending
      (shortest text' closing' split (List.length_pos_of_ne_nil nonempty') shorter)
  have named : found.groups.text 2 = text := by simp [Groups.text, remembered]
  obtain ⟨b, blanks, rfl⟩ := List.exists_cons_of_length_pos someBlank
  rw [named, ← List.append_assoc (b :: blanks),
    titleOf?_append allSigns (List.length_pos_iff.1 least) (most 6 rfl)
      (by simpa using allBlank b List.mem_cons_self) (by simp; omega),
    ← eq_title allBlank nonempty closes longest' shortest']
  rfl

/-- A line that has a title, taken apart. -/
theorem exists_of_titleOf?_isSome (titled : (titleOf? line).isSome = true) :
    ∃ signs c text, line = signs ++ c :: text ∧ (∀ c ∈ signs, (c == '#') = true) ∧ signs ≠ [] ∧
      signs.length ≤ 6 ∧ isBlank c = true ∧ text ≠ [] := by
  have conditions : line.takeWhile (· == '#') ≠ [] ∧ (line.takeWhile (· == '#')).length ≤ 6 ∧
      (line.dropWhile (· == '#')).head?.any isBlank = true ∧
        2 ≤ (line.dropWhile (· == '#')).length := by
    by_contra fails
    rw [titleOf?, if_neg fails] at titled
    cases titled
  obtain ⟨marked, most, blank, more⟩ := conditions
  obtain ⟨c, text, behind⟩ := List.exists_cons_of_length_pos (Nat.zero_lt_of_lt more)
  rw [behind] at blank more
  refine ⟨line.takeWhile (· == '#'), c, text, ?_, fun _ => List.mem_takeWhile_imp, marked, most,
    blank, List.length_pos_iff.1 (Nat.lt_of_succ_lt_succ more)⟩
  rw [← behind, List.takeWhile_append_dropWhile]

/-- Every line that has a title is a heading. -/
theorem title?_isSome_of_titleOf? (oneLine : '\n' ∉ line)
    (titled : (titleOf? line).isSome = true) : (title? line).isSome = true := by
  obtain ⟨signs, c, text, rfl, allSigns, marked, most, blank, nonempty⟩ :=
    exists_of_titleOf?_isSome titled
  have inLine : '\n' ∉ text := fun feed => oneLine (by simp [feed])
  have opening : Reads (.group 1 (.run (· == '#') ⟨1, some 6, true⟩)) none signs
      ([c] ++ (text ++ []) ++ []) [(1, signs)] :=
    .group (.run allSigns (List.length_pos_of_ne_nil marked) (by simpa using most))
  have blanks : Reads (.several isBlank) (lastOr none signs) [c] (text ++ [] ++ []) [] :=
    .run (by simpa using blank) (Nat.le_refl 1) (by simp)
  have reads : Reads heading none ([] ++ (signs ++ ([c] ++ (text ++ [])))) [] _ :=
    .seq .textStart (.seq opening (.seq blanks (reads_title _ inLine nonempty)))
  rw [title?, Option.isSome_map]
  exact findFrom?_isSome_iff.2 ⟨[], _, [], _, by simp, reads⟩

/-- **The pattern finds the title** of a line. -/
theorem title?_eq (oneLine : '\n' ∉ line) : title? line = (titleOf? line).map String.ofList := by
  cases found : title? line with
  | some name => exact (titleOf?_of_title? oneLine found).symm
  | none =>
      cases titled : titleOf? line with
      | none => rfl
      | some text =>
          have goes := title?_isSome_of_titleOf? oneLine (by rw [titled]; rfl)
          rw [found] at goes
          cases goes

end CodeIndex.Heading
