import CodeIndex.Proofs.Chunk.Title
import Mathlib.Algebra.Group.Nat.Even

/-!
# Headings and fences

Fenced code begins with a run of at least three backticks or tildes and ends with a run of the same
characters that is at least as long and has nothing behind it.  Other runs in between, shorter ones,
those of the other character or those with a word behind them, are part of the code (`Fence.step`).

A document is split without that distinction: every line that begins with such a run, a marker,
begins or ends fenced code, whatever the one before was.  A heading counts if the number of markers
before it is even.  So the headings that are found are those outside of fences if and only if every
line that looks like a heading has an even number of markers before it just when it is outside
(`headings_eq_outside_iff`).  That depends on the whole text before the line, and two markers that
are misread can make up for each other.  All rows are told rightly if and only if every marker
inside a fence closes it: the first one that does not puts the two at odds.

## Main definitions

* `Fence`, `Fence.openedBy?`, `Fence.isClosedBy`: fences, and the lines that open and close them.
* `Fence.behind`: the fence that is open behind some lines.
* `outside`: the headings outside all fences.

## Main statements

* `headings_eq_titled`: the headings that are found.
* `headings_eq_outside_iff`: when they are those outside all fences.
-/

namespace CodeIndex.Heading

open CodeIndex.Text

variable {line : List Char} {lines past : List (List Char)} {row : Nat}

/-! ## Fences -/

/-- How many times a line begins with a character, behind blanks. -/
def runOf (mark : Char) (line : List Char) : Nat :=
  ((trimStart line).takeWhile (· == mark)).length

/-- **A fence** that is open: what it is made of, and how long it is. -/
structure Fence where
  mark : Char
  size : Nat
  isMark : mark = '\x60' ∨ mark = '~'
  long : 3 ≤ size
deriving DecidableEq

namespace Fence

/-- The fence that a line opens. -/
def openedBy? (line : List Char) : Option Fence :=
  if long : 3 ≤ runOf '\x60' line then some ⟨'\x60', runOf '\x60' line, .inl rfl, long⟩
  else if long : 3 ≤ runOf '~' line then some ⟨'~', runOf '~' line, .inr rfl, long⟩
  else none

/-- Whether a line closes a fence: it has nothing but a run that is at least as long. -/
def isClosedBy (fence : Fence) (line : List Char) : Bool :=
  decide (fence.size ≤ runOf fence.mark line) &&
    isBlankText ((trimStart line).dropWhile (· == fence.mark))

/-- **What a line does** to the fence that is open before it. -/
def step (state : Option Fence) (line : List Char) : Option Fence :=
  match state with
  | none => openedBy? line
  | some fence => if fence.isClosedBy line then none else some fence

/-- **The fence that is open behind some lines**, from the start of a document. -/
def behind (lines : List (List Char)) : Option Fence := lines.foldl step none

theorem behind_concat (past : List (List Char)) (line : List Char) :
    behind (past ++ [line]) = step (behind past) line := by
  rw [behind, List.foldl_append]
  rfl

end Fence

theorem replicate_isPrefixOf_iff (size : Nat) (mark : Char) {text : List Char} :
    (List.replicate size mark).isPrefixOf text = true ↔
      size ≤ (text.takeWhile (· == mark)).length := by
  induction size generalizing text with
  | zero => simp
  | succ size ih =>
      cases text with
      | nil => simp [List.replicate_succ]
      | cons c text =>
          by_cases same : c = mark
          · simp [List.replicate_succ, same, ih]
          · simp [List.replicate_succ, same, Ne.symm same]

/-- A marker begins with three of either character. -/
theorem isFence_iff : isFence line = true ↔ 3 ≤ runOf '\x60' line ∨ 3 ≤ runOf '~' line := by
  unfold isFence
  rw [Bool.or_eq_true]
  exact or_congr (replicate_isPrefixOf_iff 3 '\x60') (replicate_isPrefixOf_iff 3 '~')

/-- **Markers open fences** where none is open. -/
theorem openedBy?_eq_none_iff : Fence.openedBy? line = none ↔ isFence line = false := by
  rw [← Bool.not_eq_true, isFence_iff, Fence.openedBy?]
  split <;> simp_all

/-- Fences are closed by markers. -/
theorem isFence_of_isClosedBy {fence : Fence} (closes : fence.isClosedBy line = true) :
    isFence line = true := by
  have long : 3 ≤ runOf fence.mark line :=
    fence.long.trans (of_decide_eq_true (Bool.and_eq_true_iff.1 closes).1)
  rw [isFence_iff]
  rcases fence.isMark with mark | mark
  · exact .inl (mark ▸ long)
  · exact .inr (mark ▸ long)

/-! ## Rows that are told rightly -/

theorem take_succ_of_getElem? (here : lines[row]? = some line) :
    lines.take (row + 1) = lines.take row ++ [line] := by
  rw [List.take_add_one, here]
  rfl

/-- **Rows are told rightly** by the number of markers before them if and only if every marker
inside a fence closes it. -/
theorem even_iff_behind_eq_none :
    (∀ row ≤ lines.length,
      Even ((lines.take row).countP isFence) ↔ Fence.behind (lines.take row) = none) ↔
    ∀ row line fence, lines[row]? = some line → Fence.behind (lines.take row) = some fence →
      isFence line = true → fence.isClosedBy line = true := by
  constructor
  · intro told row line fence here open' marks
    have below : row < lines.length := (List.getElem?_eq_some_iff.1 here).1
    have odd : ¬Even ((lines.take row).countP isFence) := by
      rw [told row below.le, open']
      exact nofun
    have closed := told (row + 1) below
    rw [take_succ_of_getElem? here, Fence.behind_concat, open', List.countP_append,
      List.countP_singleton, if_pos marks, Nat.even_add_one] at closed
    by_contra remains
    have := closed.1 odd
    rw [Fence.step, if_neg remains] at this
    cases this
  · intro closes row below
    induction row with
    | zero => exact iff_of_true ⟨0, rfl⟩ rfl
    | succ row ih =>
        obtain ⟨line, here⟩ : ∃ line, lines[row]? = some line :=
          ⟨_, List.getElem?_eq_getElem below⟩
        rw [take_succ_of_getElem? here, Fence.behind_concat, List.countP_append,
          List.countP_singleton]
        have before := ih (Nat.le_of_succ_le below)
        cases state : Fence.behind (lines.take row) with
        | none =>
            rw [Fence.step, openedBy?_eq_none_iff]
            cases marks : isFence line with
            | true => simpa [Nat.even_add_one] using before.2 state
            | false => simpa using before.2 state
        | some fence =>
            rw [state] at before
            have odd : ¬Even ((lines.take row).countP isFence) := fun even => nomatch before.1 even
            rw [Fence.step]
            cases marks : isFence line with
            | true => simpa [Nat.even_add_one, closes row line fence here state marks] using odd
            | false =>
                have remains : fence.isClosedBy line = false :=
                  Bool.eq_false_iff.2 fun closes => by
                    rw [isFence_of_isClosedBy closes] at marks
                    cases marks
                simpa [remains] using odd

/-! ## Headings -/

/-- What a row of a document adds to the headings, if headings are shown there. -/
def shownTitle? (shown : Nat → Prop) [DecidablePred shown] (numbered : List Char × Nat) :
    Option (Nat × String) :=
  if shown numbered.2 then (titleOf? numbered.1).map fun title => (numbered.2, String.ofList title)
  else none

/-- **The headings of a document** in the rows in which they are shown. -/
def titled (shown : Nat → Prop) [DecidablePred shown] (lines : List (List Char)) :
    List (Nat × String) :=
  lines.zipIdx.filterMap (shownTitle? shown)

/-- **The headings outside all fences.**  A fence that is not closed reaches to the end. -/
def outside (lines : List (List Char)) : List (Nat × String) :=
  titled (fun row => Fence.behind (lines.take row) = none) lines

theorem mem_titled_iff {shown : Nat → Prop} [DecidablePred shown] {entry : Nat × String} :
    entry ∈ titled shown lines ↔ ∃ line title, lines[entry.1]? = some line ∧ shown entry.1 ∧
      titleOf? line = some title ∧ entry.2 = String.ofList title := by
  simp only [titled, List.mem_filterMap, Prod.exists, List.mem_zipIdx_iff_getElem?, shownTitle?]
  constructor
  · rintro ⟨line, row, here, found⟩
    split at found
    · rename_i visible
      obtain ⟨title, titled, rfl⟩ := Option.map_eq_some_iff.1 found
      exact ⟨line, title, here, visible, titled, rfl⟩
    · cases found
  · rintro ⟨line, title, here, visible, titled, named⟩
    exact ⟨line, entry.1, here, by simp [visible, titled, ← named]⟩

/-- Which rows are shown matters where there are headings, and only there. -/
theorem titled_eq_titled_iff {shown shown' : Nat → Prop} [DecidablePred shown]
    [DecidablePred shown'] :
    titled shown lines = titled shown' lines ↔ ∀ row line, lines[row]? = some line →
      (titleOf? line).isSome = true → (shown row ↔ shown' row) := by
  constructor
  · intro same row line here named
    obtain ⟨title, named⟩ := Option.isSome_iff_exists.1 named
    have listed (shown : Nat → Prop) [DecidablePred shown] :
        shown row ↔ (row, String.ofList title) ∈ titled shown lines := by
      rw [mem_titled_iff]
      constructor
      · exact fun visible => ⟨line, title, here, visible, named, rfl⟩
      · exact fun ⟨_, _, _, visible, _⟩ => visible
    rw [listed shown, same, ← listed shown']
  · intro alike
    refine List.filterMap_congr fun numbered member => ?_
    have here := List.mem_zipIdx_iff_getElem?.1 member
    unfold shownTitle?
    cases named : titleOf? numbered.1 with
    | none => simp
    | some title => simp [alike _ _ here (by rw [named]; rfl)]

/-- Markers are no headings. -/
theorem titleOf?_eq_none (marks : isFence line = true) : titleOf? line = none := by
  refine if_neg fun conditions => ?_
  cases line with
  | nil => exact conditions.1 rfl
  | cons c line =>
      have sign : c = '#' := by
        by_contra other
        exact conditions.1 (List.takeWhile_cons_of_neg (by simpa using other))
      subst sign
      rw [isFence_iff] at marks
      rcases marks with long | long <;> cases long

/-- Headings are told by parity, in the rest of a document as in the whole. -/
theorem headingsFrom_eq {shown : Nat → Prop} [DecidablePred shown] {inFence : Bool} {start : Nat}
    (oneLine : ∀ line ∈ lines, '\n' ∉ line)
    (visible : ∀ row, shown (start + row) ↔
      (Even ((lines.take row).countP isFence) ↔ inFence = false)) :
    headingsFrom inFence start lines = (lines.zipIdx start).filterMap (shownTitle? shown) := by
  induction lines generalizing inFence start with
  | nil => rfl
  | cons line lines ih =>
      have here : shown start ↔ inFence = false := by simpa using visible 0
      have oneLine' : ∀ line ∈ lines, '\n' ∉ line := fun line member =>
        oneLine line (List.mem_cons_of_mem _ member)
      have next (row : Nat) : shown (start + 1 + row) ↔
          (Even ((lines.take row).countP isFence + if isFence line then 1 else 0) ↔
            inFence = false) := by
        rw [Nat.add_assoc, Nat.add_comm 1, visible, List.take_succ_cons, List.countP_cons]
      rw [headingsFrom, List.zipIdx_cons, List.filterMap_cons]
      cases marks : isFence line with
      | true =>
          have rest : headingsFrom (!inFence) (start + 1) lines =
              (lines.zipIdx (start + 1)).filterMap (shownTitle? shown) := ih oneLine' fun row => by
            rw [next row, if_pos marks, Nat.even_add_one]
            cases inFence <;> simp
          simp [shownTitle?, titleOf?_eq_none marks, rest]
      | false =>
          have rest : headingsFrom inFence (start + 1) lines =
              (lines.zipIdx (start + 1)).filterMap (shownTitle? shown) := ih oneLine' fun row => by
            rw [next row, if_neg (by simp [marks]), Nat.add_zero]
          rw [rest, shownTitle?, title?_eq (oneLine line List.mem_cons_self)]
          cases inFence <;> cases named : titleOf? line <;> simp [here]

/-- **The headings that are found** are those with an even number of markers before them. -/
theorem headings_eq_titled (oneLine : ∀ line ∈ lines, '\n' ∉ line) :
    headings lines = titled (fun row => Even ((lines.take row).countP isFence)) lines :=
  headingsFrom_eq oneLine fun row => by simp

/-- **When headings are found as fences have it.**  The headings that are found, with the titles
that their lines have, are those outside all fences if and only if each line that looks like a
heading has an even number of markers before it just when it is outside.  This is so for all rows if
and only if every marker inside a fence closes it. -/
theorem headings_eq_outside_iff (lines : List (List Char)) (oneLine : ∀ line ∈ lines, '\n' ∉ line) :
    (∀ line ∈ lines, title? line = (titleOf? line).map String.ofList) ∧
      headings lines = titled (fun row => Even ((lines.take row).countP isFence)) lines ∧
      (headings lines = outside lines ↔ ∀ row line, lines[row]? = some line →
        (titleOf? line).isSome = true →
          (Even ((lines.take row).countP isFence) ↔ Fence.behind (lines.take row) = none)) ∧
      ((∀ row ≤ lines.length,
          Even ((lines.take row).countP isFence) ↔ Fence.behind (lines.take row) = none) ↔
        ∀ row line fence, lines[row]? = some line → Fence.behind (lines.take row) = some fence →
          isFence line = true → fence.isClosedBy line = true) := by
  refine ⟨fun line member => title?_eq (oneLine line member), headings_eq_titled oneLine, ?_,
    even_iff_behind_eq_none⟩
  rw [headings_eq_titled oneLine, outside, titled_eq_titled_iff]

/-- A document that quotes fenced code in a longer fence. -/
def quoting : List (List Char) :=
  ["# One", "~~~~md", "~~~sh", "# comment", "~~~", "~~~~", "# Two ##"].map String.toList

theorem headings_eq_outside_iff_quoting :
    (∀ line ∈ quoting, '\n' ∉ line) ∧
      headings quoting = [(0, "One"), (3, "comment"), (6, "Two")] ∧
      outside quoting = [(0, "One"), (6, "Two")] := by
  have oneLine : ∀ line ∈ quoting, '\n' ∉ line := by decide
  refine ⟨oneLine, ?_, by decide +kernel⟩
  rw [(headings_eq_outside_iff quoting oneLine).2.1]
  decide +kernel

end CodeIndex.Heading
