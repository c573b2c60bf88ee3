import CodeIndex.Proofs.Secret.Keys

/-!
# Values behind quotes

Whether a value is masked is decided by what stands before it, and by its length and its blanks, but
not by what it says.  An assignment reaches over exactly two quotes, and its value is all that
stands between them, so the pass over assignments goes through a text from quote to quote: a name
and a sign before one quote, and a value up to the next one that is long enough and has no blanks,
are masked; otherwise the search goes on behind the first quote.

So there are two kinds of texts that end with a quote.  Behind one that ends with a name, a sign and
the opening quote, any value is masked if it is closed, and stays as it is if it is not.  Behind any
other one, what follows is treated as if it stood alone.

## Main definitions

* `Secret.introduction`: the pattern of a name and a sign.
* `Secret.IsIntroduced`: whether a name and a sign stand at the end of a text.

## Main statements

* `Secret.shape_assignment_iff`: assignments by their parts.
* `Secret.mask_value`, `Secret.mask_behind_quote`: one step from quote to quote.
* `Secret.mask_cases`: the two kinds of texts that end with a quote.
-/

namespace CodeIndex.Secret

open CodeIndex.Text
open Pattern (Reads lastOr)

variable {before : Option Char} {front value rest text : List Char} {opening closing quote : Char}

/-! ## Assignments by their parts -/

/-- What introduces a value: the name and the sign with its blanks. -/
def introduction : Pattern :=
  .all [.wordEdge, .group 1 secretName, .wordEdge,
    .group 2 (.all [.many isBlank, .one fun c => c == ':' || c == '=', .many isBlank])]

theorem isQuote_of_introduction {front rest : List Char} {groups : Groups}
    (reads : introduction.Reads before front rest groups) : ∀ c ∈ front, isQuote c = false := by
  intro c member
  by_contra quote
  have taken := reads.takes c member
  rcases eq_of_isQuote ((Bool.not_eq_false _).mp quote) with rfl | rfl <;> revert taken <;> decide

/-- What an assignment can hold between its quotes. -/
structure IsCredential (value : List Char) : Prop where
  clean : ∀ c ∈ value, isQuote c = false ∧ isBlank c = false
  least : 4 ≤ value.length

theorem IsCredential.isQuote (valued : IsCredential value) : ∀ c ∈ value, isQuote c = false :=
  fun c member => (valued.clean c member).1

/-- **An assignment** is an introduction and a value between quotes. -/
theorem shape_assignment_iff (isOpening : isQuote opening = true)
    (isClosing : isQuote closing = true) (isFront : ∀ c ∈ front, isQuote c = false)
    (isValue : ∀ c ∈ value, isQuote c = false) :
    assignment.shape before (front ++ opening :: (value ++ [closing])) ↔
      introduction.shape before front ∧ IsCredential value := by
  have parts : assignment = .all ([.wordEdge, .group 1 secretName, .wordEdge,
      .group 2 (.all [.many isBlank, .one fun c => c == ':' || c == '=', .many isBlank])] ++
      [.group 3 (.one isQuote), .group 4 (.run (fun c => !isQuote c && !isBlank c) ⟨4, none, true⟩),
        .group 5 (.one isQuote)]) := rfl
  rw [parts, Pattern.shape]
  simp only [Pattern.reads_all_append (List.cons_ne_nil _ _) (List.cons_ne_nil _ _)]
  constructor
  · rintro ⟨groups, whole⟩
    obtain ⟨left, _, _, _, same, rfl, introduces, fromOpening⟩ := whole.of_seq
    obtain ⟨_, _, _, _, rfl, rfl, opens, fromValue⟩ := Reads.of_seq fromOpening
    obtain ⟨_, rfl, opened⟩ := opens.of_group
    obtain ⟨opening', rfl, rfl, isOpening'⟩ := opened.of_one
    obtain ⟨value', _, _, _, rfl, rfl, values, closes⟩ := Reads.of_seq fromValue
    obtain ⟨_, rfl, valued⟩ := values.of_group
    obtain ⟨rfl, fits, least⟩ := valued.of_run
    obtain ⟨_, rfl, closed⟩ := Reads.of_group closes
    obtain ⟨closing', rfl, rfl, isClosing'⟩ := closed.of_one
    have clean : ∀ c ∈ value', isQuote c = false ∧ isBlank c = false := fun c member => by
      simpa using fits c member
    have isLeft := isQuote_of_introduction introduces
    obtain ⟨rfl, -, behind⟩ := eq_of_first_quote same isFront isLeft isOpening isOpening'
    obtain ⟨rfl, -, -⟩ := eq_of_first_quote behind isValue (fun c member => (clean c member).1)
      isClosing isClosing'
    exact ⟨⟨_, introduces.anywhere rfl⟩, clean, least⟩
  · rintro ⟨⟨groups, introduces⟩, clean, least⟩
    have fits : ∀ c ∈ value, (!isQuote c && !isBlank c) = true := fun c member => by
      simp [(clean c member).1, (clean c member).2]
    have fromOpening : (Pattern.all [.group 3 (.one isQuote),
        .group 4 (.run (fun c => !isQuote c && !isBlank c) ⟨4, none, true⟩),
        .group 5 (.one isQuote)]).Reads (lastOr before front) ([opening] ++ (value ++ [closing]))
        [] _ :=
      .seq (.group (.one isOpening)) (.seq (.group (.run fits least (by simp)))
        (.group (.one isClosing)))
    exact ⟨_, .seq (introduces.anywhere rfl) fromOpening⟩

/-! ## From quote to quote -/

/-- Whether a name and a sign stand at the end of a text. -/
def IsIntroduced (before : Option Char) (text : List Char) : Prop :=
  ∃ passed ahead, text = passed ++ ahead ∧ introduction.shape (lastOr before passed) ahead

/-- The pass over assignments, in a text that stands behind a character. -/
def maskFrom (before : Option Char) (text : List Char) : List Char :=
  assignment.replaceFrom maskedAssignment before 0 text

/-- A text behind a quote is treated as if it stood alone. -/
theorem maskFrom_quote (isQuote_quote : isQuote quote = true) :
    maskFrom (some quote) text = redactAssignments text := by
  have outside : (some quote).any isWord = (none : Option Char).any isWord :=
    isWord_of_isQuote isQuote_quote
  exact Pattern.replaceFrom_behind _ rfl fun _ => outside

theorem Assigns.append_eq {read name sign : List Char}
    (assigns : Assigns read name sign value opening closing) (rest : List Char) :
    read ++ rest = name ++ sign ++ opening :: (value ++ closing :: rest) := by
  rw [assigns.read_eq]
  simp

/-- An assignment that begins before a quote has it for its opening quote. -/
theorem exists_of_reads_assignment {ahead read rest : List Char} {groups : Groups}
    (isQuote_quote : isQuote quote = true) (isAhead : ∀ c ∈ ahead, isQuote c = false)
    (split : ahead ++ quote :: text = read ++ rest)
    (reads : assignment.Reads before read [] groups) :
    introduction.shape before ahead ∧
      ∃ value closing, text = value ++ closing :: rest ∧ isQuote closing = true ∧
        IsCredential value ∧ read = ahead ++ quote :: (value ++ [closing]) := by
  obtain ⟨name, sign, value, opening, closing, assigns, -⟩ := exists_assigns reads
  have isValue : ∀ c ∈ value, isQuote c = false := fun c member => (assigns.isValue c member).1
  rw [assigns.append_eq] at split
  obtain ⟨rfl, rfl, rfl⟩ := eq_of_first_quote split isAhead assigns.isQuote_front isQuote_quote
    assigns.isQuote_opening
  obtain ⟨introduced, credential⟩ := (shape_assignment_iff isQuote_quote assigns.isQuote_closing
    isAhead isValue).1 ⟨groups, by rwa [← assigns.read_eq]⟩
  exact ⟨introduced, value, closing, rfl, assigns.isQuote_closing, credential, assigns.read_eq⟩

/-- A text without quotes has no assignments. -/
theorem maskFrom_plain (plain : ∀ c ∈ text, isQuote c = false) : maskFrom before text = text := by
  have none : ∀ passed ahead, text = passed ++ ahead → ahead ≠ [] →
      assignment.matchAt (lastOr before passed) (ahead ++ []) = none := by
    rintro passed ahead rfl -
    rw [Pattern.matchAt_eq_none_iff rfl]
    rintro read rest split ⟨groups, reads⟩
    obtain ⟨name, sign, value, opening, closing, assigns, -⟩ := exists_assigns reads
    have member : opening ∈ ahead := by
      rw [← List.append_nil ahead, split, assigns.read_eq]
      simp
    have isOpening := assigns.isQuote_opening
    rw [plain opening (List.mem_append_right _ member)] at isOpening
    cases isOpening
  have kept := Pattern.replaceFrom_append_of_none maskedAssignment none
  rwa [List.append_nil, Pattern.replaceFrom, List.append_nil] at kept

/-- There is no assignment where none is introduced, or where no value follows. -/
theorem matchAt_assignment_eq_none (ahead : List Char) (isQuote_quote : isQuote quote = true)
    (isAhead : ∀ c ∈ ahead, isQuote c = false)
    (other : introduction.shape before ahead → ∀ value closing rest,
      text = value ++ closing :: rest → isQuote closing = true → ¬IsCredential value) :
    assignment.matchAt before (ahead ++ quote :: text) = none := by
  rw [Pattern.matchAt_eq_none_iff rfl]
  rintro read rest split ⟨groups, reads⟩
  obtain ⟨introduced, value, closing, same, isClosing, credential, -⟩ :=
    exists_of_reads_assignment isQuote_quote isAhead split reads
  exact other introduced value closing rest same isClosing credential

/-- Nothing is introduced by nothing. -/
theorem not_shape_introduction_nil : ¬introduction.shape before [] :=
  Pattern.shape_isFilled rfl before

/-- **What is not introduced, or is no value, stays,** and the search goes on behind the quote. -/
theorem mask_behind_quote (before : Option Char) (text : List Char)
    (isQuote_quote : isQuote quote = true)
    (isFront : ∀ c ∈ front, isQuote c = false)
    (other : IsIntroduced before front → ∀ value closing rest,
      text = value ++ closing :: rest → isQuote closing = true → ¬IsCredential value) :
    maskFrom before (front ++ quote :: text) = front ++ quote :: redactAssignments text := by
  have none : ∀ passed ahead, front = passed ++ ahead → ahead ≠ [] →
      assignment.matchAt (lastOr before passed) (ahead ++ quote :: text) = none :=
    fun passed ahead split _ => matchAt_assignment_eq_none ahead isQuote_quote
      (fun c member => isFront c (by rw [split]; exact List.mem_append_right _ member))
      fun introduced => other ⟨passed, ahead, split, introduced⟩
  have none' : assignment.matchAt (lastOr before front) (quote :: text) = .none :=
    matchAt_assignment_eq_none [] isQuote_quote (by simp)
      fun introduced => absurd introduced not_shape_introduction_nil
  rw [maskFrom, Pattern.replaceFrom_append_of_none _ none,
    Pattern.replaceFrom_of_none _ none']
  exact congrArg (front ++ quote :: ·) (maskFrom_quote isQuote_quote)

/-- **An introduced value is masked.** -/
theorem mask_value (rest : List Char) (isOpening : isQuote opening = true)
    (isClosing : isQuote closing = true)
    (isFront : ∀ c ∈ front, isQuote c = false) (introduced : IsIntroduced before front)
    (credential : IsCredential value) :
    maskFrom before (front ++ opening :: (value ++ closing :: rest)) =
      front ++ opening :: (mark ++ closing :: redactAssignments rest) := by
  have cut : ∀ ahead : List Char, ahead ++ opening :: (value ++ [closing]) ++ rest =
      ahead ++ opening :: (value ++ closing :: rest) := by simp
  induction front generalizing before with
  | nil =>
      obtain ⟨passed, ahead, split, shape⟩ := introduced
      obtain ⟨rfl, rfl⟩ := List.append_eq_nil_iff.1 split.symm
      exact absurd shape not_shape_introduction_nil
  | cons c front ih =>
      cases here : assignment.matchAt before
          (c :: front ++ opening :: (value ++ closing :: rest)) with
      | none =>
          have further : IsIntroduced (some c) front := by
            obtain ⟨passed, ahead, split, shape⟩ := introduced
            cases passed with
            | nil =>
                obtain rfl : ahead = c :: front := split.symm
                obtain ⟨groups, reads⟩ := (shape_assignment_iff isOpening isClosing isFront
                  credential.isQuote).2 ⟨shape, credential⟩
                exact absurd ⟨groups, reads⟩
                  ((Pattern.matchAt_eq_none_iff rfl).1 here _ rest (cut _).symm)
            | cons d passed =>
                obtain ⟨rfl, rfl⟩ := List.cons.inj split
                exact ⟨passed, ahead, rfl, by rwa [Pattern.lastOr_cons] at shape⟩
          have kept := Pattern.replaceFrom_of_none maskedAssignment here
          exact kept.trans (congrArg (c :: ·)
            (ih (fun d member => isFront d (List.mem_cons_of_mem _ member)) further))
      | some found =>
          obtain ⟨read, behind, name, sign, value', _, _, split, length, assigns, masked⟩ :=
            exists_of_matchAt_assignment here
          have swapped := Pattern.replaceFrom_of_some maskedAssignment rfl here
          rw [split, List.take_left' length, List.drop_left' length, masked] at swapped
          -- what is found reaches from the first quote to the second one
          rw [assigns.append_eq] at split
          obtain ⟨same, rfl, valued⟩ := eq_of_first_quote split isFront assigns.isQuote_front
            isOpening assigns.isQuote_opening
          obtain ⟨rfl, rfl, rfl⟩ := eq_of_first_quote valued credential.isQuote
            (fun c member => (assigns.isValue c member).1) isClosing assigns.isQuote_closing
          have last : lastOr before read = some closing := by
            rw [assigns.read_eq]
            simp
          rw [assigns.append_eq, last, ← same] at swapped
          have behindQuote : assignment.replaceFrom maskedAssignment (some closing) 0 rest =
              redactAssignments rest := maskFrom_quote isClosing
          rw [maskFrom, swapped, behindQuote]
          simp

/-- A text is cut at its first quote, or it has none. -/
theorem exists_first_quote (text : List Char) :
    (∀ c ∈ text, isQuote c = false) ∨
      ∃ front quote rest, text = front ++ quote :: rest ∧ isQuote quote = true ∧
        ∀ c ∈ front, isQuote c = false := by
  induction text with
  | nil => exact .inl (by simp)
  | cons c text ih =>
      cases here : isQuote c with
      | true => exact .inr ⟨[], c, text, rfl, here, by simp⟩
      | false =>
          rcases ih with plain | ⟨front, quote, rest, rfl, isQuote_quote, isFront⟩
          · exact .inl (List.forall_mem_cons.2 ⟨here, plain⟩)
          · exact .inr ⟨c :: front, quote, rest, rfl, isQuote_quote,
              List.forall_mem_cons.2 ⟨here, isFront⟩⟩

/-! ## Texts that end with a quote -/

/-- Whether a text that ends with a quote becomes `kept`, and masks any value behind it. -/
structure MasksBehind (before : Option Char) (text kept : List Char) : Prop where
  plain : ∀ plain, (∀ c ∈ plain, isQuote c = false) →
    maskFrom before (text ++ plain) = kept ++ plain
  value : ∀ value closing rest, IsCredential value → isQuote closing = true →
    maskFrom before (text ++ (value ++ closing :: rest)) =
      kept ++ mark ++ closing :: redactAssignments rest

/-- Whether a text becomes `kept`, and what follows is treated as if it stood alone. -/
def LeavesAlone (before : Option Char) (text kept : List Char) : Prop :=
  ∀ rest, maskFrom before (text ++ rest) = kept ++ redactAssignments rest

section Onward

variable {passed result kept : List Char}

theorem MasksBehind.append (masks : MasksBehind none text kept)
    (onward : ∀ rest, maskFrom before (passed ++ (text ++ rest)) =
      result ++ redactAssignments (text ++ rest)) :
    MasksBehind before (passed ++ text) (result ++ kept) where
  plain plain clean := by
    have behind : redactAssignments (text ++ plain) = kept ++ plain := masks.plain plain clean
    rw [List.append_assoc, onward, behind, List.append_assoc]
  value value closing rest credential isClosing := by
    have behind : redactAssignments (text ++ (value ++ closing :: rest)) = _ :=
      masks.value value closing rest credential isClosing
    rw [List.append_assoc, onward, behind]
    simp only [List.append_assoc]

theorem LeavesAlone.append (leaves : LeavesAlone none text kept)
    (onward : ∀ rest, maskFrom before (passed ++ (text ++ rest)) =
      result ++ redactAssignments (text ++ rest)) :
    LeavesAlone before (passed ++ text) (result ++ kept) := by
  intro rest
  have behind : redactAssignments (text ++ rest) = kept ++ redactAssignments rest := leaves rest
  rw [List.append_assoc, onward, behind, List.append_assoc]

end Onward

/-- **A text that ends with a quote** masks the value behind it, or leaves alone what follows. -/
theorem mask_cases (before : Option Char) (front : List Char)
    (isQuote_quote : isQuote quote = true) :
    ∃ kept, MasksBehind before (front ++ [quote]) kept ∨
      LeavesAlone before (front ++ [quote]) kept := by
  generalize size : front.length = length
  induction length using Nat.strongRecOn generalizing before front with | ind length ih =>
  subst size
  -- what is behind the next step leads to a shorter text that ends with the quote
  have further : ∀ passed result shorter : List Char,
      shorter.length < front.length → front = passed ++ shorter →
      (∀ rest, maskFrom before (passed ++ (shorter ++ [quote] ++ rest)) =
        result ++ redactAssignments (shorter ++ [quote] ++ rest)) →
      ∃ kept, MasksBehind before (front ++ [quote]) kept ∨
        LeavesAlone before (front ++ [quote]) kept := by
    rintro passed result shorter less rfl onward
    obtain ⟨kept, masks | leaves⟩ := ih _ less none shorter rfl
    · exact ⟨result ++ kept, .inl (by simpa using masks.append onward)⟩
    · exact ⟨result ++ kept, .inr (by simpa using leaves.append onward)⟩
  rcases exists_first_quote front with isFront | ⟨left, opening, right, rfl, isOpening, isLeft⟩
  · -- the quote is the first one
    refine ⟨front ++ [quote], ?_⟩
    by_cases introduced : IsIntroduced before front
    · refine .inl ⟨fun plain clean => ?_, fun value closing rest credential isClosing => ?_⟩
      · have kept := mask_behind_quote before plain isQuote_quote isFront
          fun _ value closing rest split isClosing _ => by
            rw [clean closing (by rw [split]; simp)] at isClosing
            cases isClosing
        have same : redactAssignments plain = plain := maskFrom_plain clean
        rw [same] at kept
        simpa using kept
      · have masked := mask_value rest isQuote_quote isClosing isFront introduced credential
        simpa using masked
    · refine .inr fun rest => ?_
      have kept := mask_behind_quote before rest isQuote_quote isFront
        fun given => absurd given introduced
      simpa using kept
  · by_cases masked : IsIntroduced before left ∧ ∃ value closing rest,
        right ++ [quote] = value ++ closing :: rest ∧ isQuote closing = true ∧ IsCredential value
    · -- a value is masked, and the search goes on behind its closing quote
      obtain ⟨introduced, value, closing, rest, split, isClosing, credential⟩ := masked
      have onward : LeavesAlone before (left ++ opening :: (value ++ [closing]))
          (left ++ opening :: (mark ++ [closing])) := fun rest => by
        have masked := mask_value rest isOpening isClosing isLeft introduced credential
        simpa using masked
      rcases List.eq_nil_or_concat rest with rfl | ⟨shorter, last, rfl⟩
      · obtain ⟨rfl, same⟩ := List.append_inj' split rfl
        obtain rfl := List.singleton_inj.1 same
        exact ⟨_, .inr (by simpa using onward)⟩
      · have split : right ++ [quote] = value ++ closing :: shorter ++ [last] := by
          rw [split]
          simp
        obtain ⟨rfl, -⟩ := List.append_inj' split rfl
        exact further _ _ shorter (by simp; omega) (by simp) fun rest => onward _
    · -- the first quote opens no value, and the search goes on behind it
      refine further (left ++ [opening]) (left ++ [opening]) right (by simp; omega) (by simp)
        fun rest => ?_
      have kept := mask_behind_quote before (right ++ [quote] ++ rest) isOpening isLeft
        fun introduced value closing behind same isClosing credential => by
          rcases exists_first_quote (right ++ [quote]) with
            plain | ⟨value', closing', behind', split, isClosing', isValue'⟩
          · rw [plain quote (by simp)] at isQuote_quote
            cases isQuote_quote
          · rw [split, List.append_assoc, List.cons_append] at same
            obtain ⟨rfl, rfl, -⟩ := eq_of_first_quote same isValue' credential.isQuote isClosing'
              isClosing
            exact masked ⟨introduced, value', closing', behind', split, isClosing', credential⟩
      simpa using kept

/-- What stands before the first quote is kept, with the quote. -/
theorem exists_redactAssignments (isQuote_quote : isQuote quote = true)
    (plain : ∀ c ∈ front, isQuote c = false) (text : List Char) :
    ∃ rest, redactAssignments (front ++ quote :: text) = front ++ quote :: rest := by
  by_cases masked : IsIntroduced none front ∧ ∃ value closing rest,
      text = value ++ closing :: rest ∧ isQuote closing = true ∧ IsCredential value
  · obtain ⟨introduced, value, closing, rest, rfl, isClosing, credential⟩ := masked
    exact ⟨_, mask_value rest isQuote_quote isClosing plain introduced credential⟩
  · refine ⟨_, mask_behind_quote none text isQuote_quote plain fun introduced => ?_⟩
    intro value closing rest split isClosing credential
    exact masked ⟨introduced, value, closing, rest, split, isClosing, credential⟩

end CodeIndex.Secret
