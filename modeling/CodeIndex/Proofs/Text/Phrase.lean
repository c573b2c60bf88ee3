import CodeIndex.Proofs.Text.Case
import CodeIndex.Proofs.Text.Reading
import CodeIndex.Proofs.Text.Trim

/-!
# Words in any case

A phrase is a row of words, each spelled in any case and with blanks behind it.  Since words hold no
blanks, a text is divided into the words of a phrase in one way only: of two phrases at the start of
a text one goes on behind the other (`Phrase.align`).

Patterns that are put together of words and blanks read phrases.  Which ones they read is computed
along with the pattern (`Speaks`), so that the order in which a pattern tries its parts is left out
of account from there on.

## Main definitions

* `Spells`, `Phrase`: words and rows of words, in any case.
* `Speaks`: what phrases a pattern reads.

## Main statements

* `Phrase.align`: how phrases at one place compare.
* `Speaks.seq`, `Speaks.either`, `Speaks.either_seq`: phrases that patterns put together read.
-/

namespace CodeIndex.Text

open Pattern

/-- Whether a text is a word in any case. -/
def Spells (word : String) (text : List Char) : Prop :=
  List.Forall₂ EqualInAnyCase word.toList text

/-- **Words, each with blanks behind it.** -/
inductive Phrase : List String → List Char → Prop where
  | nil : Phrase [] []
  | cons {word : String} {words : List String} {spelled gap text : List Char}
      (spells : Spells word spelled) (apart : gap ≠ []) (blank : ∀ c ∈ gap, isBlank c = true)
      (further : Phrase words text) : Phrase (word :: words) (spelled ++ gap ++ text)

/-- One phrase and another behind it, in all ways. -/
def combine (phrases phrases' : List (List String)) : List (List String) :=
  phrases.flatMap fun words => phrases'.map (words ++ ·)

variable {before : Option Char} {read rest text text' more more' : List Char}
variable {word : String} {words words' : List String} {phrases phrases' : List (List String)}
variable {pattern second third : Pattern} {groups : Groups} {c : Char}

theorem mem_combine_iff :
    words ∈ combine phrases phrases' ↔
      ∃ first ∈ phrases, ∃ second ∈ phrases', words = first ++ second := by
  simp only [combine, List.mem_flatMap, List.mem_map, eq_comm]

/-! ## Words in any case -/

/-- Whether a word is one in lower case. -/
structure IsLower (word : String) : Prop where
  nonempty : word.toList ≠ []
  lower : ∀ c ∈ word.toList, c.isLower = true

instance (word : String) : Decidable (IsLower word) :=
  decidable_of_iff (word.toList ≠ [] ∧ word.toList.all (·.isLower) = true)
    ⟨fun ⟨nonempty, lower⟩ => ⟨nonempty, List.all_eq_true.1 lower⟩,
      fun ⟨nonempty, lower⟩ => ⟨nonempty, List.all_eq_true.2 lower⟩⟩

theorem toNat_of_isLower (lower : c.isLower = true) : c.toNat < 128 := by
  obtain ⟨-, below⟩ := (Bool.and_eq_true _ _).mp lower
  have : c.toNat ≤ 122 := of_decide_eq_true below
  omega

theorem toLower_of_isLower (lower : c.isLower = true) : c.toLower = c :=
  forall_ascii (p := fun c => c.isLower = true → c.toLower = c) (by decide +kernel)
    (toNat_of_isLower lower) lower

theorem foldCase_of_isLower (lower : c.isLower = true) : foldCase c = c :=
  forall_ascii (p := fun c => c.isLower = true → foldCase c = c) (by decide +kernel)
    (toNat_of_isLower lower) lower

/-- What a letter in lower case equals in any case is a word character and no blank. -/
theorem isWord_of_equalInAnyCase {letter : Char} (lower : letter.isLower = true)
    (same : EqualInAnyCase letter c) : isWord c = true ∧ isBlank c = false := by
  rw [EqualInAnyCase, toLower_of_isLower lower] at same
  rcases same with same | ⟨-, kelvin⟩ | ⟨-, long⟩
  · have lower' : c.toLower.isLower = true := same ▸ lower
    have ascii : c.toNat < 128 := by
      have small := toNat_of_isLower lower'
      rw [toNat_toLower] at small
      split at small <;> omega
    exact forall_ascii
      (p := fun c => c.toLower.isLower = true → isWord c = true ∧ isBlank c = false)
      (by decide +kernel) ascii lower'
  · obtain rfl : Char.ofNat 0x212A = c := kelvin ▸ Char.ofNat_toNat c
    decide +kernel
  · obtain rfl : Char.ofNat 0x17F = c := long ▸ Char.ofNat_toNat c
    decide +kernel

/-- Folding the case of a text tells which word it is. -/
theorem spells_iff (isLower : IsLower word) :
    Spells word text ↔ word.toList = text.map foldCase := by
  have each : ∀ {letters : List Char}, (∀ c ∈ letters, c.isLower = true) →
      (List.Forall₂ EqualInAnyCase letters text ↔ letters = text.map foldCase) := by
    intro letters lower
    induction letters generalizing text with
    | nil => simp [eq_comm]
    | cons letter letters ih =>
        obtain ⟨first, others⟩ := List.forall_mem_cons.1 lower
        cases text with
        | nil => simp
        | cons c text =>
            rw [List.forall₂_cons, ih others, List.map_cons, List.cons.injEq,
              ← foldCase_eq_iff (toNat_of_isLower first), foldCase_of_isLower first]
  exact each isLower.lower

theorem Spells.isWord (isLower : IsLower word) (spells : Spells word text) :
    ∀ c ∈ text, isWord c = true ∧ isBlank c = false := by
  intro c member
  obtain ⟨i, within, rfl⟩ := List.getElem_of_mem member
  have within' : i < word.toList.length := spells.length_eq ▸ within
  exact isWord_of_equalInAnyCase (isLower.lower _ (List.getElem_mem within'))
    (spells.get within' within)

theorem Spells.ne_nil (isLower : IsLower word) (spells : Spells word text) : text ≠ [] := by
  rintro rfl
  exact isLower.nonempty (List.forall₂_nil_right_iff.1 spells)

/-- Behind a word its edge is where no word character follows. -/
theorem Spells.isWordEdge_iff (isLower : IsLower word) (spells : Spells word text) :
    isWordEdge ⟨lastOr before text, 0, rest⟩ = true ↔
      ∀ c ∈ rest.head?, Text.isWord c = false := by
  have ending : (lastOr before text).any Text.isWord = true := by
    have last := List.getLast?_eq_some_getLast (spells.ne_nil isLower)
    rw [lastOr, last, Option.some_or, Option.any_some]
    exact (spells.isWord isLower _ (List.getLast_mem _)).1
  cases rest with
  | nil => simp [isWordEdge, ending]
  | cons c rest => simp [isWordEdge, ending]

/-- The pattern of a word reads what spells it. -/
theorem reads_word_iff (isLower : IsLower word) :
    Reads (.word word) before read rest groups ↔ groups = [] ∧ Spells word read := by
  have each : Pattern.word word =
      .all ((word.toList.map fun letter c => foldCase c == letter).map .one) := by
    rw [List.map_map]
    rfl
  rw [each, reads_all_one_iff, List.forall₂_map_left_iff, spells_iff isLower]
  have folds (c letter : Char) : (foldCase c == letter) = true ↔ letter = foldCase c := by
    rw [beq_iff_eq, eq_comm]
  refine and_congr_right' ?_
  simp only [folds]
  rw [← List.forall₂_eq_eq_eq, List.forall₂_map_right_iff]

/-! ## Phrases -/

theorem Phrase.append (phrase : Phrase words text) (phrase' : Phrase words' text') :
    Phrase (words ++ words') (text ++ text') := by
  induction phrase with
  | nil => exact phrase'
  | cons spells apart blank _ ih =>
      rw [List.append_assoc]
      exact .cons spells apart blank ih

theorem Phrase.exists_of_append (phrase : Phrase (words ++ words') text) :
    ∃ first second, text = first ++ second ∧ Phrase words first ∧ Phrase words' second := by
  induction words generalizing text with
  | nil => exact ⟨[], text, rfl, .nil, phrase⟩
  | cons word words ih =>
      cases phrase with | cons spells apart blank further =>
      obtain ⟨first, second, rfl, phrase, phrase'⟩ := ih further
      exact ⟨_, second, (List.append_assoc ..).symm, .cons spells apart blank phrase, phrase'⟩

/-- What follows some words begins with no blank, if what is behind it does not. -/
theorem Phrase.head?_append (lower : ∀ word ∈ words, IsLower word) (phrase : Phrase words text)
    (visible : ∀ c ∈ more.head?, isBlank c = false) :
    ∀ c ∈ (text ++ more).head?, isBlank c = false := by
  cases phrase with
  | nil => exact visible
  | cons spells apart blank further =>
      have isLower := lower _ List.mem_cons_self
      obtain ⟨c, letters, rfl⟩ := List.exists_cons_of_ne_nil (spells.ne_nil isLower)
      intro d first
      obtain rfl : c = d := by simpa using first
      exact (spells.isWord isLower c List.mem_cons_self).2

/-- **Words on a line are told from the left:** of two phrases at its start one goes on behind the
other. -/
theorem Phrase.align (lower : ∀ word ∈ words, IsLower word) (lower' : ∀ word ∈ words', IsLower word)
    (phrase : Phrase words text) (phrase' : Phrase words' text')
    (visible : ∀ c ∈ more.head?, isBlank c = false)
    (visible' : ∀ c ∈ more'.head?, isBlank c = false) (same : text ++ more = text' ++ more') :
    (∃ further read, words' = words ++ further ∧ more = read ++ more' ∧ Phrase further read) ∨
      ∃ further read, words = words' ++ further ∧ more' = read ++ more ∧ Phrase further read := by
  induction phrase generalizing words' text' with
  | nil => exact .inl ⟨words', text', rfl, same, phrase'⟩
  | @cons word words spelled gap text spells apart blank further ih =>
      cases phrase' with
      | nil => exact .inr ⟨_, _, rfl, same.symm, .cons spells apart blank further⟩
      | @cons word' words' spelled' gap' text' spells' apart' blank' further' =>
          obtain ⟨isLower, others⟩ := List.forall_mem_cons.1 lower
          obtain ⟨isLower', others'⟩ := List.forall_mem_cons.1 lower'
          simp only [List.append_assoc] at same
          -- the first word ends where blanks begin, and the next one where they end
          have ends : ∀ {gap : List Char} (rest : List Char), gap ≠ [] →
              (∀ c ∈ gap, isBlank c = true) →
                ∀ c ∈ (gap ++ rest).head?, (!isBlank c) = false := by
            intro gap rest apart blank c first
            obtain ⟨d, gap, rfl⟩ := List.exists_cons_of_ne_nil apart
            obtain rfl : d = c := by simpa using first
            simp [blank d List.mem_cons_self]
          obtain ⟨rfl, behind⟩ := eq_of_append_surrounded (p := fun c => !isBlank c)
            (fun c member => by simp [(spells.isWord isLower c member).2])
            (fun c member => by simp [(spells'.isWord isLower' c member).2])
            (ends _ apart blank) (ends _ apart' blank') same
          obtain ⟨rfl, onward⟩ := eq_of_append_surrounded blank blank'
            (further.head?_append others visible) (further'.head?_append others' visible') behind
          obtain rfl : word = word' := String.toList_inj.1 <| by
            rw [(spells_iff isLower).1 spells, (spells_iff isLower').1 spells']
          refine (ih others others' further' onward).imp ?_ ?_
          · rintro ⟨rest, read, rfl, told⟩
            exact ⟨rest, read, rfl, told⟩
          · rintro ⟨rest, read, rfl, told⟩
            exact ⟨rest, read, rfl, told⟩

/-- The same words at the start of a line reach equally far. -/
theorem Phrase.eq_of_append_eq (lower : ∀ word ∈ words, IsLower word) (phrase : Phrase words text)
    (phrase' : Phrase words text') (visible : ∀ c ∈ more.head?, isBlank c = false)
    (visible' : ∀ c ∈ more'.head?, isBlank c = false) (same : text ++ more = text' ++ more') :
    more = more' := by
  rcases phrase.align lower lower phrase' visible visible' same with
    ⟨further, read, again, behind, rest⟩ | ⟨further, read, again, behind, rest⟩
  · obtain rfl := List.self_eq_append_right.1 again
    cases rest
    exact behind
  · obtain rfl := List.self_eq_append_right.1 again
    cases rest
    exact behind.symm

/-! ## Phrases that patterns read -/

theorem reads_several_iff {accepts : Char → Bool} :
    Reads (.several accepts) before read rest groups ↔
      groups = [] ∧ read ≠ [] ∧ ∀ c ∈ read, accepts c = true := by
  constructor
  · intro reads
    obtain ⟨rfl, fits, some⟩ := reads.of_run
    exact ⟨rfl, List.ne_nil_of_length_pos some, fits⟩
  · rintro ⟨rfl, some, fits⟩
    exact .run fits (List.length_pos_of_ne_nil some) (by simp)

/-- Whether a pattern reads phrases, of certain words. -/
structure Speaks (pattern : Pattern) (phrases : List (List String)) : Prop where
  reads_iff : ∀ {before : Option Char} {read rest : List Char} {groups : Groups},
    Reads pattern before read rest groups ↔ groups = [] ∧ ∃ words ∈ phrases, Phrase words read

theorem speaks_empty : Speaks .empty [[]] := by
  refine ⟨@fun before read rest groups => ?_⟩
  constructor
  · intro reads
    cases reads
    exact ⟨rfl, [], List.mem_singleton_self _, .nil⟩
  · rintro ⟨rfl, words, member, phrase⟩
    obtain rfl := List.mem_singleton.1 member
    cases phrase
    exact .empty

theorem speaks_word (isLower : IsLower word) :
    Speaks (.seq (.word word) (.several isBlank)) [[word]] := by
  refine ⟨@fun before read rest groups => ?_⟩
  constructor
  · intro reads
    obtain ⟨spelled, gap, _, _, rfl, rfl, first, second⟩ := reads.of_seq
    obtain ⟨rfl, spells⟩ := (reads_word_iff isLower).1 first
    obtain ⟨rfl, some, blank⟩ := reads_several_iff.1 second
    refine ⟨rfl, [word], List.mem_singleton_self _, ?_⟩
    simpa using Phrase.cons spells some blank .nil
  · rintro ⟨rfl, words, member, phrase⟩
    obtain rfl := List.mem_singleton.1 member
    cases phrase with | cons spells some blank further =>
    cases further
    rw [List.append_nil]
    exact .seq ((reads_word_iff isLower).2 ⟨rfl, spells⟩) (reads_several_iff.2 ⟨rfl, some, blank⟩)

theorem Speaks.seq (speaks : Speaks pattern phrases) (speaks' : Speaks second phrases') :
    Speaks (.seq pattern second) (combine phrases phrases') := by
  refine ⟨@fun before read rest groups => ?_⟩
  constructor
  · intro reads
    obtain ⟨left, right, _, _, rfl, rfl, first, second⟩ := reads.of_seq
    obtain ⟨rfl, words, member, phrase⟩ := speaks.reads_iff.1 first
    obtain ⟨rfl, words', member', phrase'⟩ := speaks'.reads_iff.1 second
    exact ⟨rfl, _, mem_combine_iff.2 ⟨words, member, words', member', rfl⟩, phrase.append phrase'⟩
  · rintro ⟨rfl, words, member, phrase⟩
    obtain ⟨first, listed, second, listed', rfl⟩ := mem_combine_iff.1 member
    obtain ⟨left, right, rfl, phrase, phrase'⟩ := phrase.exists_of_append
    exact .seq (speaks.reads_iff.2 ⟨rfl, first, listed, phrase⟩)
      (speaks'.reads_iff.2 ⟨rfl, second, listed', phrase'⟩)

theorem Speaks.either (speaks : Speaks pattern phrases) (speaks' : Speaks second phrases') :
    Speaks (.either pattern second) (phrases ++ phrases') := by
  refine ⟨@fun before read rest groups => ?_⟩
  simp only [List.mem_append, or_and_right, exists_or, and_or_left]
  rw [← speaks.reads_iff, ← speaks'.reads_iff]
  constructor
  · intro reads
    cases reads with
    | first reads => exact .inl reads
    | second reads => exact .inr reads
  · exact fun reads => reads.elim .first .second

theorem Speaks.assoc (speaks : Speaks (.seq (.seq pattern second) third) phrases) :
    Speaks (.seq pattern (.seq second third)) phrases := by
  refine ⟨@fun before read rest groups => ?_⟩
  rw [reads_seq_assoc]
  exact speaks.reads_iff

/-- What stands behind a choice may be read behind each of its sides. -/
theorem Speaks.either_seq (speaks : Speaks (.seq pattern third) phrases)
    (speaks' : Speaks (.seq second third) phrases') :
    Speaks (.seq (.either pattern second) third) (phrases ++ phrases') := by
  refine ⟨@fun before read rest groups => ?_⟩
  rw [← (speaks.either speaks').reads_iff]
  constructor
  · intro reads
    obtain ⟨_, _, _, _, rfl, rfl, choice, further⟩ := reads.of_seq
    cases choice with
    | first reads => exact .first (.seq reads further)
    | second reads => exact .second (.seq reads further)
  · intro reads
    cases reads with
    | first reads =>
        obtain ⟨_, _, _, _, rfl, rfl, choice, further⟩ := reads.of_seq
        exact .seq (.first choice) further
    | second reads =>
        obtain ⟨_, _, _, _, rfl, rfl, choice, further⟩ := reads.of_seq
        exact .seq (.second choice) further

/-- Words with blanks behind each of them are read one after the other. -/
theorem speaks_all (word : String) (words : List String)
    (lower : ∀ other ∈ word :: words, IsLower other) :
    Speaks (.all ((word :: words).flatMap fun word => [.word word, .several isBlank]))
      [word :: words] := by
  induction words generalizing word with
  | nil => exact speaks_word (lower word List.mem_cons_self)
  | cons next words ih =>
      obtain ⟨isLower, others⟩ := List.forall_mem_cons.1 lower
      exact ((speaks_word isLower).seq (ih next others)).assoc

end CodeIndex.Text
