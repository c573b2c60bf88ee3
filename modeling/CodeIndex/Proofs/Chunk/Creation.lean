import CodeIndex.Chunk.Statement
import CodeIndex.Proofs.Text.Phrase

/-!
# What statements start and create

A line starts a statement if its first word is one of a few, in any case.  A line creates something
if it begins with words such as `create or replace view` that a name follows.  Both are said here by
dividing the line, without a pattern and its preferences.

The words at the start of a line are told from the left, and no words before a name go on to other
such words (`eq_of_mem_leadIns`).  So a line creates under one name at most, with a single choice
left: `if` is no name where `if not exists` stands before one.  That is what the pattern prefers as
well.

## Main definitions

* `Starts`: lines that start a statement.
* `Creates`: lines that create something under a name.
* `IsFirstCreation`: the name in the first creating line between two rows.

## Main statements

* `isOpening_iff`: the pattern of statements finds the lines that start one.
* `creates_iff`: the pattern of creations finds the name.
* `isFirstCreation_findSome?`: a search along the rows finds the first name.
-/

namespace CodeIndex.Statement

open CodeIndex.Text Pattern

/-! ## Names and quotes -/

/-- The quotes and brackets around names. -/
def IsQuote (c : Char) : Prop := c = '"' ∨ c = '\x60' ∨ c = '[' ∨ c = ']'

/-- The characters of names, which may be quoted and qualified. -/
def IsOfName (c : Char) : Prop := isWord c = true ∨ c = '.' ∨ IsQuote c

/-- Whether a line begins with words behind which a name is written. -/
def Introduces (words : List String) (written line : List Char) : Prop :=
  ∃ indent lead rest, line = indent ++ lead ++ written ++ rest ∧
    (∀ c ∈ indent, isBlank c = true) ∧ Phrase words lead ∧ written ≠ [] ∧
      (∀ c ∈ written, IsOfName c) ∧ ∀ c ∈ rest.head?, ¬IsOfName c

/-- Whether a name is what is written, without the quotes around it. -/
def IsBare (written name : List Char) : Prop :=
  ∃ before after, written = before ++ name ++ after ∧ (∀ c ∈ before, IsQuote c) ∧
    (∀ c ∈ after, IsQuote c) ∧ (∀ c ∈ name.head?, ¬IsQuote c) ∧ ∀ c ∈ name.getLast?, ¬IsQuote c

/-! ## Statements -/

/-- **Whether a line starts a statement.** -/
def Starts (line : List Char) : Prop :=
  ∃ indent spelled rest, line = indent ++ spelled ++ rest ∧ (∀ c ∈ indent, isBlank c = true) ∧
    (∃ word ∈ ["create", "alter", "drop", "insert", "update", "delete", "grant", "revoke", "begin",
      "commit"], Spells word spelled) ∧ ∀ c ∈ rest.head?, isWord c = false

/-- The kinds of what is created under a name. -/
def createdKinds : List (List String) :=
  [["table"], ["view"], ["materialized", "view"], ["index"], ["function"], ["procedure"],
    ["trigger"], ["sequence"], ["type"], ["schema"]]

/-- The words before a name that is created. -/
def leadIns : List (List String) :=
  combine [["create"]] <| combine [["or", "replace"], []] <|
    combine [["unique"], ["temp"], ["temporary"], []] createdKinds

/-- The words that may stand between these and the name. -/
def proviso : List String := ["if", "not", "exists"]

/-- **Whether a line creates something under a name.**  A proviso is read as one wherever a name
follows it. -/
def Creates (line : List Char) (name : String) : Prop :=
  ∃ words ∈ leadIns, ∃ written, IsBare written name.toList ∧
    (Introduces (words ++ proviso) written line ∨
      Introduces words written line ∧ ∀ other, ¬Introduces (words ++ proviso) other line)

/-- **Whether something is the name in the first creating line between two rows**; nothing is, if
there is no such line. -/
def IsFirstCreation (lines : List (List Char)) (first last : Nat) : Option String → Prop
  | some name =>
    ∃ row line, first ≤ row ∧ row ≤ last ∧ lines[row]? = some line ∧ Creates line name ∧
      ∀ above, first ≤ above → above < row → ∀ line ∈ lines[above]?, ∀ other, ¬Creates line other
  | none =>
    ∀ row, first ≤ row → row ≤ last → ∀ line ∈ lines[row]?, ∀ other, ¬Creates line other

variable {before : Option Char} {line rest text written written' : List Char} {name : String}
variable {words words' : List String} {groups : Groups} {c : Char}

/-! ## What lines introduce -/

theorem isNameQuote_iff : isNameQuote c = true ↔ IsQuote c := by
  simp only [isNameQuote, IsQuote, Bool.or_eq_true, beq_iff_eq, or_assoc]

theorem isNameChar_iff : isNameChar c = true ↔ IsOfName c := by
  simp only [isNameChar, IsOfName, Bool.or_eq_true, beq_iff_eq, isNameQuote_iff, or_assoc]

/-- Names hold no blanks. -/
theorem IsOfName.not_isBlank (ofName : IsOfName c) : isBlank c = false := by
  refine Bool.eq_false_iff.2 fun blank => ?_
  have code : c.toNat ∈ [9, 10, 11, 12, 13, 32, 0x85, 0xA0, 0x1680, 0x2000, 0x2001, 0x2002, 0x2003,
      0x2004, 0x2005, 0x2006, 0x2007, 0x2008, 0x2009, 0x200A, 0x2028, 0x2029, 0x202F, 0x205F,
      0x3000] := by
    simp only [isBlank, Bool.or_eq_true, Bool.and_eq_true, decide_eq_true_eq, beq_iff_eq] at blank
    simp only [List.mem_cons, List.not_mem_nil, or_false]
    omega
  have other : isNameChar (Char.ofNat c.toNat) = false := by
    revert code
    generalize c.toNat = n
    revert n
    decide +kernel
  rw [Char.ofNat_toNat, isNameChar_iff.2 ofName] at other
  cases other

theorem IsBare.unique {name name' : List Char} (bare : IsBare written name)
    (bare' : IsBare written name') : name = name' := by
  have left : ∀ {name : List Char}, IsBare written name →
      ((written.dropWhile isNameQuote).reverse.dropWhile isNameQuote).reverse = name := by
    rintro name ⟨before, after, rfl, quotes, quotes', first, last⟩
    simp only [← isNameQuote_iff, Bool.not_eq_true] at quotes quotes' first last
    exact reverse_dropWhile_surrounded quotes quotes' first last
  rw [← left bare, ← left bare']

/-- A name is left of what is written without the quotes around it. -/
theorem isBare_dropWhile (written : List Char) :
    IsBare written ((written.dropWhile isNameQuote).reverse.dropWhile isNameQuote).reverse := by
  obtain ⟨before, after, same, quotes, quotes'⟩ := exists_surrounded isNameQuote written
  obtain ⟨first, last⟩ := ends_reverse_dropWhile isNameQuote written
  simp only [← Bool.not_eq_true, isNameQuote_iff] at quotes quotes' first last
  exact ⟨before, after, same, quotes, quotes', first, last⟩

/-- What is written as a name begins with no blank. -/
theorem head?_of_isOfName (nonempty : written ≠ []) (ofName : ∀ c ∈ written, IsOfName c)
    (rest : List Char) : ∀ c ∈ (written ++ rest).head?, isBlank c = false := by
  obtain ⟨c, written, rfl⟩ := List.exists_cons_of_ne_nil nonempty
  intro d first
  obtain rfl : c = d := by simpa using first
  exact (ofName c List.mem_cons_self).not_isBlank

/-- What is written on a line, with the words before it, divided where the words begin. -/
theorem Introduces.exists_append (introduces : Introduces words written line) :
    ∃ indent lead rest, line = indent ++ (lead ++ (written ++ rest)) ∧
      (∀ c ∈ indent, isBlank c = true) ∧ Phrase words lead ∧
        (∀ c ∈ (written ++ rest).head?, isBlank c = false) ∧ (∀ c ∈ written, IsOfName c) ∧
          ∀ c ∈ rest.head?, ¬IsOfName c := by
  obtain ⟨indent, lead, rest, rfl, blank, phrase, nonempty, ofName, ends⟩ := introduces
  exact ⟨indent, lead, rest, by simp only [List.append_assoc], blank, phrase,
    head?_of_isOfName nonempty ofName rest, ofName, ends⟩

/-- Words that introduce something on one line go on to each other. -/
theorem Introduces.prefix_or_prefix (lower : ∀ word ∈ words, IsLower word)
    (lower' : ∀ word ∈ words', IsLower word) (introduces : Introduces words written line)
    (introduces' : Introduces words' written' line) : words <+: words' ∨ words' <+: words := by
  obtain ⟨indent, lead, rest, rfl, blank, phrase, visible, -⟩ := introduces.exists_append
  obtain ⟨indent', lead', rest', same, blank', phrase', visible', -⟩ := introduces'.exists_append
  obtain ⟨-, same⟩ := eq_of_append_surrounded blank blank' (phrase.head?_append lower visible)
    (phrase'.head?_append lower' visible') same
  exact (phrase.align lower lower' phrase' visible visible' same).imp
    (fun ⟨further, _, same, _⟩ => ⟨further, same.symm⟩)
    fun ⟨further, _, same, _⟩ => ⟨further, same.symm⟩

/-- The same words on a line introduce the same. -/
theorem Introduces.unique (lower : ∀ word ∈ words, IsLower word)
    (introduces : Introduces words written line) (introduces' : Introduces words written' line) :
    written = written' := by
  obtain ⟨indent, lead, rest, rfl, blank, phrase, visible, ofName, ends⟩ := introduces.exists_append
  obtain ⟨indent', lead', rest', same, blank', phrase', visible', ofName', ends'⟩ :=
    introduces'.exists_append
  obtain ⟨-, same⟩ := eq_of_append_surrounded blank blank' (phrase.head?_append lower visible)
    (phrase'.head?_append lower visible') same
  have behind := phrase.eq_of_append_eq lower phrase' visible visible' same
  simp only [← isNameChar_iff, Bool.not_eq_true] at ofName ofName' ends ends'
  exact (eq_of_append_surrounded ofName ofName' ends ends' behind).1

theorem introduces_append_nil_iff :
    Introduces (words ++ []) written line ↔ Introduces words written line := by
  rw [List.append_nil]

/-! ### Words before a created name -/

theorem isLower_of_mem_leadIns : ∀ words ∈ leadIns, ∀ word ∈ words, IsLower word := by
  have together : ∀ {phrases phrases' : List (List String)},
      (∀ words ∈ phrases, ∀ word ∈ words, IsLower word) →
        (∀ words ∈ phrases', ∀ word ∈ words, IsLower word) →
          ∀ words ∈ combine phrases phrases', ∀ word ∈ words, IsLower word := by
    intro phrases phrases' lower lower' words member word inside
    obtain ⟨first, listed, second, listed', rfl⟩ := mem_combine_iff.1 member
    exact (List.mem_append.1 inside).elim (lower first listed word) (lower' second listed' word)
  exact together (by decide +kernel) <| together (by decide +kernel) <|
    together (by decide +kernel) (by decide +kernel)

theorem isLower_of_mem_proviso : ∀ word ∈ proviso, IsLower word := by decide +kernel

/-- **No words before a name go on to others,** since they end with what is created. -/
theorem eq_of_mem_leadIns (member : words ∈ leadIns) (member' : words' ∈ leadIns)
    (before : words <+: words') : words = words' := by
  have kinds : ∀ words ∈ leadIns,
      (∃ word ∈ words, [word] ∈ createdKinds) ∧ ∀ word ∈ words.dropLast, [word] ∉ createdKinds := by
    decide +kernel
  obtain ⟨further, rfl⟩ := before
  by_contra longer
  have nonempty : further ≠ [] := by
    rintro rfl
    exact longer (List.append_nil _).symm
  obtain ⟨word, inside, kind⟩ := (kinds words member).1
  refine (kinds _ member').2 word ?_ kind
  rw [List.dropLast_append_of_ne_nil nonempty]
  exact List.mem_append_left _ inside

/-- The words before a name may be told from any line that they are on, with a proviso or
without. -/
theorem Introduces.eq_leadIn {tail tail' : List String} (member : words ∈ leadIns)
    (member' : words' ∈ leadIns) (lower : ∀ word ∈ tail, IsLower word)
    (lower' : ∀ word ∈ tail', IsLower word) (introduces : Introduces (words ++ tail) written line)
    (introduces' : Introduces (words' ++ tail') written' line) : words = words' := by
  have all : ∀ word ∈ words ++ tail, IsLower word := fun word inside =>
    (List.mem_append.1 inside).elim (isLower_of_mem_leadIns words member word) (lower word)
  have all' : ∀ word ∈ words' ++ tail', IsLower word := fun word inside =>
    (List.mem_append.1 inside).elim (isLower_of_mem_leadIns words' member' word) (lower' word)
  have comparable : words <+: words' ∨ words' <+: words := by
    rcases introduces.prefix_or_prefix all all' introduces' with before | before
    · exact List.prefix_or_prefix_of_prefix ((List.prefix_append words tail).trans before)
        (List.prefix_append words' tail')
    · exact List.prefix_or_prefix_of_prefix (List.prefix_append words tail)
        ((List.prefix_append words' tail').trans before)
  rcases comparable with before | before
  · exact eq_of_mem_leadIns member member' before
  · exact (eq_of_mem_leadIns member' member before).symm

/-- **A line creates under one name at most.** -/
theorem Creates.unique {name name' : String} (creates : Creates line name)
    (creates' : Creates line name') : name = name' := by
  obtain ⟨words, member, written, bare, told⟩ := creates
  obtain ⟨words', member', written', bare', told'⟩ := creates'
  have lower := isLower_of_mem_leadIns words member
  have same : written = written' := by
    rcases told with told | ⟨told, none⟩ <;> rcases told' with told' | ⟨told', none'⟩
    · obtain rfl :=
        told.eq_leadIn member member' isLower_of_mem_proviso isLower_of_mem_proviso told'
      refine told.unique (fun word inside => ?_) told'
      exact (List.mem_append.1 inside).elim (lower word) (isLower_of_mem_proviso word)
    · obtain rfl := told.eq_leadIn member member' isLower_of_mem_proviso (by simp)
        (introduces_append_nil_iff.2 told')
      exact absurd told (none' written)
    · obtain rfl := (introduces_append_nil_iff.2 told).eq_leadIn member member' (by simp)
        isLower_of_mem_proviso told'
      exact absurd told' (none written')
    · obtain rfl := (introduces_append_nil_iff.2 told).eq_leadIn member member' (by simp)
        (by simp) (introduces_append_nil_iff.2 told')
      exact told.unique lower told'
  subst same
  exact String.toList_inj.1 (bare.unique bare')

/-! ## What the patterns read -/

/-- The pattern of what is created. -/
theorem speaks_createdObject : Speaks (.seq createdObject blanks) createdKinds := by
  have one (word : String) (isLower : IsLower word) := speaks_word isLower
  have together : Speaks (.all ([.word "materialized", blanks, .word "view"] ++ [blanks]))
      [["materialized", "view"]] := speaks_all "materialized" ["view"] (by decide +kernel)
  have materialized : Speaks (.seq (.all [.word "materialized", blanks, .word "view"]) blanks)
      [["materialized", "view"]] :=
    ⟨(reads_all_append (List.cons_ne_nil _ _) (List.cons_ne_nil _ _)).symm.trans together.reads_iff⟩
  exact (one "table" (by decide +kernel)).either_seq <|
    (one "view" (by decide +kernel)).either_seq <|
    materialized.either_seq <| (one "index" (by decide +kernel)).either_seq <|
    (one "function" (by decide +kernel)).either_seq <|
    (one "procedure" (by decide +kernel)).either_seq <|
    (one "trigger" (by decide +kernel)).either_seq <|
    (one "sequence" (by decide +kernel)).either_seq <|
    (one "type" (by decide +kernel)).either_seq <| one "schema" (by decide +kernel)

/-- The pattern of a proviso. -/
def provisoPattern : Pattern :=
  .all [.word "if", blanks, .word "not", blanks, .word "exists", blanks]

theorem speaks_provisoPattern : Speaks provisoPattern [proviso] :=
  speaks_all "if" ["not", "exists"] isLower_of_mem_proviso

/-- The pattern of the words before a created name. -/
def leadInPattern : Pattern :=
  .seq (.word "create") <| .seq blanks <|
    .seq (.optional (.all [.word "or", blanks, .word "replace", blanks])) <|
      .seq (.optional (.all [.anyOf [.word "unique", .word "temp", .word "temporary"], blanks])) <|
        .seq createdObject blanks

theorem speaks_leadInPattern : Speaks leadInPattern leadIns := by
  have replacing : Speaks (.all [.word "or", blanks, .word "replace", blanks])
      [["or", "replace"]] :=
    speaks_all "or" ["replace"] (by decide +kernel)
  have scope : Speaks (.seq (.anyOf [.word "unique", .word "temp", .word "temporary"]) blanks)
      [["unique"], ["temp"], ["temporary"]] :=
    (speaks_word (by decide +kernel)).either_seq <|
      (speaks_word (by decide +kernel)).either_seq (speaks_word (by decide +kernel))
  exact ((speaks_word (by decide +kernel)).seq <| (replacing.either speaks_empty).seq <|
    (scope.either speaks_empty).seq speaks_createdObject).assoc

/-- The pattern of what is written as a name. -/
def namePattern : Pattern := .group 1 (.several isNameChar)

/-- A creation is the start of a line, blanks, the words before a name, perhaps a proviso, and the
name. -/
theorem tryAt_creation {β : Type} (place : Place) (groups : Groups)
    (next : Place → Groups → Option β) :
    tryAt place groups creation next =
      tryAt place groups (.seq (.seq .textStart (.seq (.many isBlank) leadInPattern))
        (.seq (.optional provisoPattern) namePattern)) next := by
  have tryAt_seq : ∀ place groups first second (next : Place → Groups → Option β),
      tryAt place groups (.seq first second) next =
        tryAt place groups first fun after groups => tryAt after groups second next :=
    fun _ _ _ _ _ => rfl
  simp only [creation, all, tryAt_seq, leadInPattern, provisoPattern, namePattern]

/-! ## What the patterns find -/

/-- The pattern of a name finds all characters of names up to the next other one. -/
theorem exists_of_tryAt_namePattern {offset : Nat} {found : Found}
    (here : tryAt ⟨before, offset, text⟩ groups namePattern
      (fun after groups => some ⟨after.offset, groups⟩) = some found) :
    ∃ written rest, text = written ++ rest ∧ written ≠ [] ∧ (∀ c ∈ written, IsOfName c) ∧
      (∀ c ∈ rest.head?, ¬IsOfName c) ∧ found.groups.text 1 = written := by
  obtain ⟨written, rest, rfl, stop, runs⟩ := exists_runs_of_tryRun_greedy (fun _ => rfl) here
  obtain rfl := Option.some.inj runs.next_eq
  have ofName := runs.fits
  simp only [isNameChar_iff, ← Bool.not_eq_true] at ofName stop
  exact ⟨written, rest, rfl, List.ne_nil_of_length_pos runs.least_le, ofName, stop,
    by simp [Groups.text]⟩

/-- The pattern of a name reads what is written as one. -/
theorem reads_namePattern (nonempty : written ≠ []) (ofName : ∀ c ∈ written, IsOfName c) :
    Reads namePattern before written rest [(1, written)] := by
  simp only [← isNameChar_iff] at ofName
  exact .group (.run ofName (List.length_pos_of_ne_nil nonempty) (by simp))

/-- Where a proviso was tried in vain, none stands before a name. -/
theorem not_introduces_of_tryAt_eq_none {indent lead behind : List Char} {offset : Nat}
    (member : words ∈ leadIns) (blank : ∀ c ∈ indent, isBlank c = true) (phrase : Phrase words lead)
    (visible : ∀ c ∈ behind.head?, isBlank c = false)
    (failed : tryAt ⟨before, offset, behind⟩ groups (.seq provisoPattern namePattern)
      (fun after groups => some (Found.mk after.offset groups)) = none) :
    ¬Introduces (words ++ proviso) written (indent ++ (lead ++ behind)) := by
  intro introduces
  have lower := isLower_of_mem_leadIns words member
  obtain ⟨indent', both, rest, same, blank', phrase', visible', ofName, -⟩ :=
    introduces.exists_append
  obtain ⟨-, -, -, -, -, -, nonempty, -⟩ := introduces
  obtain ⟨lead', condition, rfl, phrase', conditional⟩ := phrase'.exists_of_append
  rw [List.append_assoc] at same
  have visible'' := conditional.head?_append isLower_of_mem_proviso visible'
  obtain ⟨-, same⟩ := eq_of_append_surrounded blank blank' (phrase.head?_append lower visible)
    (phrase'.head?_append lower visible'') same
  obtain rfl := phrase.eq_of_append_eq lower phrase' visible visible'' same
  have reads : Reads (.seq provisoPattern namePattern) before (condition ++ written) rest _ :=
    .seq (speaks_provisoPattern.reads_iff.2 ⟨rfl, proviso, List.mem_singleton_self _, conditional⟩)
      (reads_namePattern nonempty ofName)
  have goes : (tryAt ⟨before, offset, condition ++ written ++ rest⟩ groups _
    (fun after groups => some (Found.mk after.offset groups))).isSome = true :=
    tryAt_isSome reads rfl
  rw [List.append_assoc, failed] at goes
  cases goes

/-- The name that the pattern finds is one that the line creates something under. -/
theorem creates_of_createdName? (here : createdName? line = some name) : Creates line name := by
  obtain ⟨found, fits, rfl⟩ := Option.map_eq_some_iff.1 here
  have here : tryAt ⟨none, 0, line⟩ [] creation
      (fun after groups => some (Found.mk after.offset groups)) = some found :=
    (find?_textStart _ line).symm.trans fits
  rw [tryAt_creation] at here
  obtain ⟨opening, behind, added, rfl, reads, here⟩ := exists_reads_of_tryAt_seq here
  obtain ⟨_, _, _, _, rfl, rfl, start, further⟩ := reads.of_seq
  obtain ⟨indent, lead, _, _, rfl, rfl, indenting, leading⟩ := further.of_seq
  cases start
  obtain ⟨rfl, blank, -⟩ := indenting.of_run
  obtain ⟨rfl, words, member, phrase⟩ := speaks_leadInPattern.reads_iff.1 leading
  rw [List.nil_append, List.append_assoc] at *
  refine ⟨words, member, found.groups.text 1, ?_, ?_⟩
  · rw [String.toList_ofList]
    exact isBare_dropWhile _
  rcases Option.or_eq_some_iff.1 here with here | ⟨failed, here⟩
  · obtain ⟨condition, _, _, rfl, reads, here⟩ := exists_reads_of_tryAt here
    obtain ⟨rfl, _, one, conditional⟩ := speaks_provisoPattern.reads_iff.1 reads
    obtain rfl := List.mem_singleton.1 one
    obtain ⟨written, rest, rfl, nonempty, ofName, ends, told⟩ := exists_of_tryAt_namePattern here
    rw [told]
    exact .inl ⟨indent, lead ++ condition, rest, by simp only [List.append_assoc], blank,
      phrase.append conditional, nonempty, ofName, ends⟩
  · obtain ⟨written, rest, rfl, nonempty, ofName, ends, told⟩ := exists_of_tryAt_namePattern here
    have visible := head?_of_isOfName nonempty ofName rest
    rw [told]
    refine .inr ⟨⟨indent, lead, rest, by simp only [List.append_assoc], blank, phrase, nonempty,
      ofName, ends⟩, fun other => ?_⟩
    exact not_introduces_of_tryAt_eq_none member blank phrase visible failed

/-- Where words before a name introduce one, with a proviso or without, the pattern finds one. -/
theorem createdName?_isSome {tail : List String} (member : words ∈ leadIns)
    (allowed : tail ∈ [proviso, []]) (introduces : Introduces (words ++ tail) written line) :
    (createdName? line).isSome = true := by
  obtain ⟨indent, both, rest, rfl, blank, phrase, nonempty, ofName, -⟩ := introduces
  obtain ⟨lead, condition, rfl, phrase, conditional⟩ := phrase.exists_of_append
  have ahead : Reads (.seq .textStart (.seq (.many isBlank) leadInPattern)) none
      ([] ++ (indent ++ lead)) (condition ++ written ++ rest) _ :=
    .seq .textStart (.seq (.run blank (Nat.zero_le _) (by simp))
      (speaks_leadInPattern.reads_iff.2 ⟨rfl, words, member, phrase⟩))
  have behind : Reads (.seq (.optional provisoPattern) namePattern)
      (lastOr none ([] ++ (indent ++ lead))) (condition ++ written) rest _ :=
    .seq ((speaks_provisoPattern.either speaks_empty).reads_iff.2 ⟨rfl, tail, allowed, conditional⟩)
      (reads_namePattern nonempty ofName)
  have whole : indent ++ (lead ++ condition) ++ written ++ rest =
      [] ++ (indent ++ lead) ++ (condition ++ written) ++ rest := by
    simp only [List.nil_append, List.append_assoc]
  have goes : (tryAt ⟨none, 0, indent ++ (lead ++ condition) ++ written ++ rest⟩ [] creation
      (fun after groups => some (Found.mk after.offset groups))).isSome = true := by
    rw [tryAt_creation, whole]
    exact tryAt_isSome (.seq ahead behind) rfl
  rw [createdName?, Option.isSome_map]
  exact (find?_textStart _ _).symm ▸ goes

/-- **The pattern finds the name** that a line creates something under. -/
theorem creates_iff : Creates line name ↔ createdName? line = some name := by
  refine ⟨fun creates => ?_, creates_of_createdName?⟩
  have goes : (createdName? line).isSome = true := by
    obtain ⟨words, member, written, -, told | ⟨told, -⟩⟩ := creates
    · exact createdName?_isSome member List.mem_cons_self told
    · exact createdName?_isSome member (by simp) (introduces_append_nil_iff.2 told)
  obtain ⟨other, found⟩ := Option.isSome_iff_exists.1 goes
  rw [found, (creates_of_createdName? found).unique creates]

/-- The lines between two rows. -/
theorem getElem?_take_drop (lines : List (List Char)) (first last i : Nat) :
    ((lines.drop first).take (last + 1 - first))[i]? =
      if first + i ≤ last then lines[first + i]? else none := by
  rw [List.getElem?_take, List.getElem?_drop]
  exact if_congr (by omega) rfl rfl

/-- **The first creating line** is the one that a search along the rows finds. -/
theorem isFirstCreation_findSome? (lines : List (List Char)) (first last : Nat) :
    IsFirstCreation lines first last
      (((lines.drop first).take (last + 1 - first)).findSome? createdName?) := by
  have rows := getElem?_take_drop lines first last
  cases found : ((lines.drop first).take (last + 1 - first)).findSome? createdName? with
  | none =>
      intro row above below line here name creates
      have listed : ((lines.drop first).take (last + 1 - first))[row - first]? = some line := by
        rw [rows, Nat.add_sub_cancel' above, if_pos below]
        exact here
      have none := List.findSome?_eq_none_iff.1 found line (List.mem_of_getElem? listed)
      rw [creates_iff.1 creates] at none
      cases none
  | some name =>
      obtain ⟨before, line, after, same, here, none⟩ := List.findSome?_eq_some_iff.1 found
      rw [same] at rows
      have listed : some line =
          if first + before.length ≤ last then lines[first + before.length]? else .none := by
        rw [← rows, List.getElem?_append_right (Nat.le_refl _), Nat.sub_self]
        rfl
      by_cases within : first + before.length ≤ last
      · rw [if_pos within] at listed
        refine ⟨first + before.length, line, Nat.le_add_right _ _, within, listed.symm,
          creates_iff.2 here, fun row above below other shown name' creates => ?_⟩
        have inside : (before ++ line :: after)[row - first]? = some other := by
          rw [rows, Nat.add_sub_cancel' above, if_pos (by omega)]
          exact shown
        rw [List.getElem?_append_left (by omega)] at inside
        have none := none other (List.mem_of_getElem? inside)
        rw [creates_iff.1 creates] at none
        cases none
      · rw [if_neg within] at listed
        cases listed

/-- **The pattern of statements finds the lines** that start one. -/
theorem isOpening_iff : isOpening line = true ↔ Starts line := by
  have lower : ∀ word ∈ startWords, IsLower word := by decide +kernel
  have start : isOpening line = (matchAt opening none line).isSome :=
    congrArg Option.isSome (find?_textStart _ line)
  rw [start, matchAt_isSome_iff]
  constructor
  · rintro ⟨read, rest, groups, rfl, reads⟩
    obtain ⟨_, _, _, _, rfl, rfl, start, further⟩ := reads.of_seq
    obtain ⟨indent, _, _, _, rfl, rfl, indenting, worded⟩ := further.of_seq
    obtain ⟨spelled, _, _, _, rfl, rfl, choice, ending⟩ := worded.of_seq
    cases start
    obtain ⟨rfl, blank, -⟩ := indenting.of_run
    obtain ⟨_, listed, reads⟩ := reads_anyOf_iff.1 choice
    obtain ⟨word, member, rfl⟩ := List.mem_map.1 listed
    obtain ⟨rfl, spells⟩ := (reads_word_iff (lower word member)).1 reads
    have ends := ending.edge
    obtain ⟨rfl, rfl⟩ := ending.of_wordEdge
    exact ⟨indent, spelled, rest, by simp, blank, ⟨word, member, spells⟩,
      (spells.isWordEdge_iff (lower word member)).1 ends⟩
  · rintro ⟨indent, spelled, rest, rfl, blank, ⟨word, member, spells⟩, ends⟩
    have choice :
        Reads (.anyOf (startWords.map .word)) (lastOr none indent) spelled ([] ++ rest) [] :=
      reads_anyOf_iff.2 ⟨.word word, List.mem_map_of_mem member,
        (reads_word_iff (lower word member)).2 ⟨rfl, spells⟩⟩
    refine ⟨[] ++ (indent ++ (spelled ++ [])), rest, _, by simp, .seq .textStart
      (.seq (.run blank (Nat.zero_le _) (by simp)) (.seq choice (.wordEdge ?_)))⟩
    exact (spells.isWordEdge_iff (lower word member)).2 ends

end CodeIndex.Statement
