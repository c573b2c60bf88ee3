import CodeIndex.Path.Rules
import CodeIndex.Proofs.Repository.Spelling
import CodeIndex.Proofs.Text.Case
import Mathlib.Data.List.Forall2
import Mathlib.Data.List.Infix

/-!
# What rules match

Globs denote texts, by recursion on the glob: a star stands for any run of characters, a question
mark for any one character, and every other character for itself (`Glob.Denotes`).  Matching does
not follow this recursion, which would try out every way to share a text among the stars.  It fills
a table with one row for each beginning of the glob and one column for each end of the text.

What carries the agreement is that every row tells for every end of the text, and not only for the
whole of it, whether the pieces read so far denote it (`Glob.Tells`).  One row is computed from the
one behind it in the same way whichever property that one tells, so that there is one lemma for a
piece that takes one character and one for a star.  In texts of one line the wildcards really stand
for all characters.

A slash at the end of a rule stands for everything below a directory.  This is no wildcard of its
own, but the slash followed by a star, and a concatenation of globs denotes concatenations
(`Glob.denotes_append`).

## Main definitions

* `Glob.Denotes`: the texts that a glob denotes.
* `Glob.Covers`: the paths that a rule of an ignore file matches.
* `Path.names`: the names that a path consists of.

## Main statements

* `Glob.tells_matchEnds`: the table is right.
* `rules_decide`: which paths are ignored, and which ones are blocked.
-/

namespace CodeIndex

open CodeIndex.Text List

namespace Glob

/-! ## Texts that globs denote -/

/-- **The texts that a glob denotes.**  `same` says which characters count as equal. -/
def Denotes (same : Char → Char → Prop) : List Char → List Char → Prop
  | [], text => text = []
  | c :: glob, text =>
    if c = '*' then ∃ run rest, text = run ++ rest ∧ Denotes same glob rest
    else ∃ d rest, text = d :: rest ∧ (c = '?' ∨ same c d) ∧ Denotes same glob rest

/-- **The paths that a rule of an ignore file matches**: what the rule denotes, or everything below
what it denotes in front of a slash at its end. -/
def Covers (rule path : List Char) : Prop :=
  if rule.getLast? = some '/' then
    ∃ inside below, path = inside ++ '/' :: below ∧ Denotes Eq rule.dropLast inside
  else Denotes Eq rule path

variable {same : Char → Char → Prop} {glob rule text path : List Char} {c : Char}

theorem denotes_star :
    Denotes same ('*' :: glob) text ↔ ∃ run rest, text = run ++ rest ∧ Denotes same glob rest := by
  rw [Denotes, if_pos rfl]

theorem denotes_cons (letter : c ≠ '*') :
    Denotes same (c :: glob) text ↔
      ∃ d rest, text = d :: rest ∧ (c = '?' ∨ same c d) ∧ Denotes same glob rest := by
  rw [Denotes, if_neg letter]

/-- Denotation can be computed: by trying out every end of the text behind a star. -/
instance Denotes.decidable [∀ c d, Decidable (same c d)] :
    ∀ glob text, Decidable (Denotes same glob text)
  | [], text => inferInstanceAs (Decidable (text = []))
  | c :: glob, text =>
    have (rest : List Char) : Decidable (Denotes same glob rest) := Denotes.decidable glob rest
    if star : c = '*' then
      decidable_of_iff (∃ rest ∈ text.tails, Denotes same glob rest) <| by
        rw [star, denotes_star]
        simp only [mem_tails]
        constructor
        · rintro ⟨rest, ⟨run, rfl⟩, denoted⟩
          exact ⟨run, rest, rfl, denoted⟩
        · rintro ⟨run, rest, rfl, denoted⟩
          exact ⟨rest, suffix_append run rest, denoted⟩
    else
      match text with
      | [] => isFalse fun denoted => nomatch (denotes_cons star).1 denoted
      | d :: rest =>
        decidable_of_iff ((c = '?' ∨ same c d) ∧ Denotes same glob rest) <| by
          rw [denotes_cons star]
          simp

/-- A star denotes everything. -/
theorem denotes_star_singleton : Denotes same ['*'] text :=
  denotes_star.2 ⟨text, [], (append_nil text).symm, rfl⟩

/-- **A concatenation denotes concatenations.** -/
theorem denotes_append {first second : List Char} :
    Denotes same (first ++ second) text ↔
      ∃ front back, text = front ++ back ∧ Denotes same first front ∧ Denotes same second back := by
  induction first generalizing text with
  | nil =>
      constructor
      · exact fun denoted => ⟨[], text, rfl, rfl, denoted⟩
      · rintro ⟨front, back, rfl, rfl, denoted⟩
        exact denoted
  | cons c first ih =>
      rw [cons_append]
      by_cases star : c = '*'
      · subst star
        simp only [denotes_star, ih]
        constructor
        · rintro ⟨run, -, rfl, front, back, rfl, inFront, inBack⟩
          exact ⟨run ++ front, back, (append_assoc ..).symm, ⟨run, front, rfl, inFront⟩, inBack⟩
        · rintro ⟨-, back, rfl, ⟨run, front, rfl, inFront⟩, inBack⟩
          exact ⟨run, front ++ back, append_assoc .., front, back, rfl, inFront, inBack⟩
      · simp only [denotes_cons star, ih]
        constructor
        · rintro ⟨d, -, rfl, taken, front, back, rfl, inFront, inBack⟩
          exact ⟨d :: front, back, rfl, ⟨d, front, rfl, taken, inFront⟩, inBack⟩
        · rintro ⟨-, back, rfl, ⟨d, front, rfl, taken, inFront⟩, inBack⟩
          exact ⟨d, front ++ back, rfl, taken, front, back, rfl, inFront, inBack⟩

/-- Below a directory lies what the rule denotes with a star behind it. -/
theorem denotes_append_slash_star {body : List Char} :
    Denotes Eq (body ++ ['/', '*']) path ↔
      ∃ inside below, path = inside ++ '/' :: below ∧ Denotes Eq body inside := by
  rw [denotes_append]
  constructor
  · rintro ⟨inside, slashed, rfl, inBody, behind⟩
    obtain ⟨d, below, rfl, taken, -⟩ := (denotes_cons (by decide)).1 behind
    obtain rfl : '/' = d := taken.resolve_left (by decide)
    exact ⟨inside, below, rfl, inBody⟩
  · rintro ⟨inside, below, rfl, inBody⟩
    refine ⟨inside, '/' :: below, rfl, inBody, (denotes_cons (by decide)).2 ?_⟩
    exact ⟨'/', below, rfl, .inr rfl, denotes_star_singleton⟩

instance Covers.decidable (rule path : List Char) : Decidable (Covers rule path) :=
  have : Decidable (∃ inside below,
      path = inside ++ '/' :: below ∧ Denotes Eq rule.dropLast inside) :=
    decidable_of_iff _ denotes_append_slash_star
  inferInstanceAs (Decidable (ite _ _ _))

/-! ## Rows of the table -/

/-- **A row of answers tells a property** of every end of a text, from the whole text to the empty
one. -/
def Tells (holds : List Char → Prop) (text : List Char) (row : List Bool) : Prop :=
  Forall₂ (fun rest ok => ok = true ↔ holds rest) text.tails row

variable {holds : List Char → Prop} {row : List Bool} {ok : Bool}

theorem tells_nil : Tells holds [] [ok] ↔ (ok = true ↔ holds []) := by
  simp [Tells]

theorem tells_cons :
    Tells holds (c :: text) (ok :: row) ↔
      (ok = true ↔ holds (c :: text)) ∧ Tells holds text row := by
  rw [Tells, tails_cons, forall₂_cons, Tells]

theorem Tells.exists_eq_singleton (tells : Tells holds [] row) :
    ∃ ok, row = [ok] ∧ (ok = true ↔ holds []) := by
  obtain ⟨ok, rest, right, none, rfl⟩ := forall₂_cons_left_iff.1 tells
  obtain rfl := forall₂_nil_left_iff.1 none
  exact ⟨ok, rfl, right⟩

theorem Tells.exists_of_cons (tells : Tells holds (c :: text) row) :
    ∃ ok behind, row = ok :: behind ∧
      (ok = true ↔ holds (c :: text)) ∧ Tells holds text behind := by
  rw [Tells, tails_cons] at tells
  obtain ⟨ok, behind, right, others, rfl⟩ := forall₂_cons_left_iff.1 tells
  exact ⟨ok, behind, rfl, right, others⟩

/-- A row has an answer for the whole text. -/
theorem Tells.exists_eq_cons (tells : Tells holds text row) :
    ∃ ok rest, row = ok :: rest ∧ (ok = true ↔ holds text) := by
  cases text with
  | nil =>
      obtain ⟨ok, rfl, right⟩ := tells.exists_eq_singleton
      exact ⟨ok, [], rfl, right⟩
  | cons c text =>
      obtain ⟨ok, behind, rfl, right, -⟩ := tells.exists_of_cons
      exact ⟨ok, behind, rfl, right⟩

theorem Tells.congr {holds' : List Char → Prop} (tells : Tells holds text row)
    (same : ∀ rest, holds rest ↔ holds' rest) : Tells holds' text row :=
  tells.imp fun rest _ right => right.trans (same rest)

theorem Tells.headD_eq_true_iff (tells : Tells holds text row) :
    row.headD false = true ↔ holds text := by
  obtain ⟨ok, rest, rfl, right⟩ := tells.exists_eq_cons
  exact right

/-- Behind all pieces only the empty end is left. -/
theorem tells_map_false (text : List Char) :
    Tells (· = []) text (text.map (fun _ => false) ++ [true]) := by
  induction text with
  | nil => exact tells_nil.2 (iff_of_true rfl rfl)
  | cons c text ih => exact tells_cons.2 ⟨iff_of_false nofun nofun, ih⟩

/-- **A piece that takes one character.** -/
theorem Tells.takeOne {accepts : Char → Bool} {takes : Char → Prop}
    (right : ∀ c ∈ text, accepts c = true ↔ takes c) (tells : Tells holds text row) :
    Tells (fun rest => ∃ c behind, rest = c :: behind ∧ takes c ∧ holds behind) text
      (takeOne accepts text row) := by
  induction text generalizing row with
  | nil => exact tells_nil.2 (iff_of_false nofun nofun)
  | cons c text ih =>
      obtain ⟨ok, row, rfl, -, tells⟩ := tells.exists_of_cons
      obtain ⟨next, behind, rfl, answer⟩ := tells.exists_eq_cons
      refine tells_cons.2 ⟨?_, ih (fun d listed => right d (mem_cons_of_mem c listed)) tells⟩
      show (accepts c && next) = true ↔ _
      rw [Bool.and_eq_true, right c mem_cons_self, answer]
      constructor
      · exact fun both => ⟨c, text, rfl, both⟩
      · rintro ⟨d, behind, split, both⟩
        obtain ⟨rfl, rfl⟩ := cons_eq_cons.1 split
        exact both

/-- **A star**: it stands for nothing, or takes a character and goes on. -/
theorem Tells.takeRun (oneLine : '\n' ∉ text) (tells : Tells holds text row) :
    Tells (fun rest => ∃ run behind, rest = run ++ behind ∧ holds behind) text
      (takeRun text row) := by
  induction text generalizing row with
  | nil =>
      obtain ⟨ok, rfl, answer⟩ := tells.exists_eq_singleton
      refine tells_nil.2 (answer.trans ?_)
      constructor
      · exact fun held => ⟨[], [], rfl, held⟩
      · rintro ⟨run, behind, none, held⟩
        obtain ⟨rfl, rfl⟩ := append_eq_nil_iff.1 none.symm
        exact held
  | cons c text ih =>
      obtain ⟨inLine, oneLine⟩ := not_or.1 (mem_cons.not.1 oneLine)
      obtain ⟨ok, row, rfl, answer, tells⟩ := tells.exists_of_cons
      have onward := ih oneLine tells
      refine tells_cons.2 ⟨?_, onward⟩
      have letter : (c != '\n') = true := bne_iff_ne.2 (Ne.symm inLine)
      rw [letter, Bool.true_and, Bool.or_eq_true, answer, onward.headD_eq_true_iff]
      constructor
      · rintro (held | ⟨run, behind, rfl, held⟩)
        · exact ⟨[], c :: text, rfl, held⟩
        · exact ⟨c :: run, behind, rfl, held⟩
      · rintro ⟨_ | ⟨d, run⟩, behind, split, held⟩
        · obtain rfl : c :: text = behind := split
          exact .inl held
        · obtain ⟨rfl, rfl⟩ := cons_eq_cons.1 split
          exact .inr ⟨run, behind, rfl, held⟩

/-- **The table is right** in texts of one line. -/
theorem tells_matchEnds {equal : Char → Char → Bool}
    (right : ∀ c ∈ glob, ∀ d, equal c d = true ↔ same c d) (oneLine : '\n' ∉ text) :
    Tells (Denotes same glob) text (matchEnds equal text (pieces glob)) := by
  induction glob with
  | nil => exact tells_map_false text
  | cons c glob ih =>
      have behind := ih fun d listed => right d (mem_cons_of_mem c listed)
      by_cases star : c = '*'
      · subst star
        exact (behind.takeRun oneLine).congr fun rest => denotes_star.symm
      · by_cases single : c = '?'
        · subst single
          refine (behind.takeOne fun d listed => ?_).congr fun rest => (denotes_cons star).symm
          exact iff_of_true (bne_iff_ne.2 fun feed => oneLine (feed ▸ listed)) (.inl rfl)
        · rw [pieces, map_cons, if_neg star, if_neg single]
          refine (behind.takeOne fun d _ => ?_).congr fun rest => (denotes_cons star).symm
          rw [right c mem_cons_self, or_iff_right single]

theorem isMatch_eq_true_iff {equal : Char → Char → Bool}
    (right : ∀ c ∈ glob, ∀ d, equal c d = true ↔ same c d) (oneLine : '\n' ∉ text) :
    isMatch equal (pieces glob) text = true ↔ Denotes same glob text :=
  (tells_matchEnds right oneLine).headD_eq_true_iff

theorem matchesExactly_pieces (oneLine : '\n' ∉ text) :
    matchesExactly (pieces glob) text = true ↔ Denotes Eq glob text :=
  isMatch_eq_true_iff (fun _ _ _ => beq_iff_eq) oneLine

/-- A slash at the end of a rule is a slash and a star. -/
theorem ofRule_append_slash (body : List Char) :
    ofRule (body ++ ['/']) = pieces (body ++ ['/', '*']) := by
  simp [ofRule, pieces]

theorem ofRule_of_getLast?_ne (plain : rule.getLast? ≠ some '/') : ofRule rule = pieces rule := by
  unfold ofRule
  split
  case h_1 body reversed => exact absurd (by rw [getLast?_eq_head?_reverse, reversed]; rfl) plain
  case h_2 => rfl

/-- **Rules match what they cover.** -/
theorem matchesExactly_ofRule (oneLine : '\n' ∉ path) :
    matchesExactly (ofRule rule) path = true ↔ Covers rule path := by
  unfold Covers
  split
  case isTrue slash =>
    obtain ⟨body, rfl⟩ := getLast?_eq_some_iff.1 slash
    rw [ofRule_append_slash, matchesExactly_pieces oneLine, denotes_append_slash_star,
      dropLast_concat]
  case isFalse plain => rw [ofRule_of_getLast?_ne plain, matchesExactly_pieces oneLine]

end Glob

/-! ## The ignore file -/

/-- **An ignored path** is covered by some line that is neither blank nor a comment. -/
theorem IgnoreRules.ignores_parse_eq_true_iff {text path : List Char} (oneLine : '\n' ∉ path) :
    (parse text).ignores path = true ↔
      ∃ line ∈ lines text, trim line ≠ [] ∧ (trim line).head? ≠ some '#' ∧
        Glob.Covers (trim line) path := by
  have isRule_iff : ∀ line : List Char, isRule line = true ↔ line ≠ [] ∧ line.head? ≠ some '#' := by
    rintro (_ | ⟨c, line⟩) <;> simp [isRule]
  simp only [ignores, parse, any_eq_true, mem_map, mem_filter, isRule_iff]
  constructor
  · rintro ⟨-, ⟨-, ⟨⟨line, listed, rfl⟩, named, read⟩, rfl⟩, matched⟩
    exact ⟨line, listed, named, read, (Glob.matchesExactly_ofRule oneLine).1 matched⟩
  · rintro ⟨line, listed, named, read, covered⟩
    exact ⟨_, ⟨_, ⟨⟨line, listed, rfl⟩, named, read⟩, rfl⟩,
      (Glob.matchesExactly_ofRule oneLine).2 covered⟩

/-! ## The block list -/

/-- **Blocked names of files** are those that a glob of the list denotes in any case. -/
theorem isBlockedFile_eq_true_iff {name : List Char} (oneLine : '\n' ∉ name) :
    isBlockedFile name = true ↔
      ∃ glob ∈ blockedFileGlobs, Glob.Denotes EqualInAnyCase glob.toList name := by
  have ascii : ∀ glob ∈ blockedFileGlobs, glob.toList.all (decide <| ·.toNat < 128) = true := by
    decide
  rw [isBlockedFile, any_eq_true]
  refine exists_congr fun glob => and_congr_right fun listed => ?_
  refine Glob.isMatch_eq_true_iff (fun c inGlob d => ?_) oneLine
  have ascii := of_decide_eq_true (all_eq_true.1 (ascii glob listed) c inGlob)
  rw [beq_iff_eq, foldCase_eq_iff ascii]

/-- **Blocked directories** have a name of the list in any case. -/
theorem isBlockedDirectory_eq_true_iff {name : List Char} :
    isBlockedDirectory name = true ↔
      ∃ blocked ∈ blockedDirectories, name.map Char.toLower = blocked.toList.map Char.toLower := by
  have small : ∀ blocked ∈ blockedDirectories,
      blocked.toList.map Char.toLower = blocked.toList := by decide
  rw [isBlockedDirectory, any_eq_true]
  refine exists_congr fun blocked => and_congr_right fun listed => ?_
  rw [beq_iff_eq, small blocked listed, eq_comm]

namespace Path

/-- **The names that a path consists of**, the last of which is the name of a file.  A backslash
separates like a slash. -/
def names (path : String) : List (List Char) :=
  (splitOn (· == '/') (slashed path).toList).filter (!·.isEmpty)

theorem names_eq (path : String) :
    names path = (splitOn (fun c => c == '/' || c == '\\') path.toList).filter (!·.isEmpty) := by
  have separators : (fun c : Char => (if c = '\\' then '/' else c) == '/') =
      fun c => c == '/' || c == '\\' := by
    funext c
    by_cases back : c = '\\' <;> simp [back]
  rw [names, toList_slashed, Text.splitOn, splitFrom_map, separators, Text.splitOn]
  intro c inside
  by_cases back : c = '\\'
  · simp [back] at inside
  · exact if_neg back

theorem mem_of_mem_names {path : String} {name : List Char} {c : Char}
    (member : name ∈ names path) (inside : c ∈ name) : c ∈ path.toList := by
  rw [names_eq] at member
  exact (mem_of_mem_splitFrom (mem_filter.1 member).1 inside).resolve_left not_mem_nil

end Path

/-- **A blocked path** ends with a blocked name of a file or leads through a blocked directory. -/
theorem isBlocked_eq_true_iff {path : String} (oneLine : '\n' ∉ path.toList) :
    isBlocked path.toList = true ↔
      ∃ directories name, Path.names path = directories ++ [name] ∧
        ((∃ glob ∈ blockedFileGlobs, Glob.Denotes EqualInAnyCase glob.toList name) ∨
          ∃ directory ∈ directories, ∃ blocked ∈ blockedDirectories,
            directory.map Char.toLower = blocked.toList.map Char.toLower) := by
  have inLine : ∀ name ∈ Path.names path, '\n' ∉ name := fun name member feed =>
    oneLine (Path.mem_of_mem_names member feed)
  unfold isBlocked
  simp only [← Path.names_eq]
  cases reversed : (Path.names path).reverse with
  | nil =>
      rw [reverse_eq_nil_iff.1 reversed]
      simp
  | cons name directories =>
      have split := reverse_eq_cons_iff.1 reversed
      have named := isBlockedFile_eq_true_iff (inLine name (by simp [split]))
      simp only [split, Bool.or_eq_true, named, any_eq_true, isBlockedDirectory_eq_true_iff]
      constructor
      · rintro (blocked | ⟨directory, above, blocked⟩)
        · exact ⟨_, name, rfl, .inl blocked⟩
        · exact ⟨_, name, rfl, .inr ⟨directory, mem_reverse.2 above, blocked⟩⟩
      · rintro ⟨_, _, same, blocked⟩
        obtain ⟨rfl, rfl⟩ := append_singleton_inj.1 same
        refine blocked.imp_right ?_
        rintro ⟨directory, above, blocked⟩
        exact ⟨directory, mem_reverse.1 above, blocked⟩

/-- **Which paths are ignored, and which ones are blocked.**  An ignore file matches exactly what
some line of it covers that is neither blank nor a comment, and the block list exactly the paths
that end with a name of a file or lead through a directory on it, in any case. -/
theorem rules_decide (text : List Char) (path : String) (oneLine : '\n' ∉ path.toList) :
    ((IgnoreRules.parse text).ignores path.toList = true ↔
      ∃ line ∈ lines text, trim line ≠ [] ∧ (trim line).head? ≠ some '#' ∧
        Glob.Covers (trim line) path.toList) ∧
    (isBlocked path.toList = true ↔
      ∃ directories name, Path.names path = directories ++ [name] ∧
        ((∃ glob ∈ blockedFileGlobs, Glob.Denotes EqualInAnyCase glob.toList name) ∨
          ∃ directory ∈ directories, ∃ blocked ∈ blockedDirectories,
            directory.map Char.toLower = blocked.toList.map Char.toLower)) :=
  ⟨IgnoreRules.ignores_parse_eq_true_iff oneLine, isBlocked_eq_true_iff oneLine⟩

/-- An ignore file with a comment, a blank line and a rule for a directory. -/
def draftRules : List Char := "# *\n \r\n\t*/(v?)+*.gen/ ".toList

/-- A path below two directories that the rule covers, with the name of a file on the block list. -/
def draftPath : String := "lib/(v1)+(v2)+.gen/k.gen/deep\\ſEcret.Key"

theorem rules_decide_draft :
    '\n' ∉ draftPath.toList ∧ (IgnoreRules.parse draftRules).ignores draftPath.toList = true ∧
      isBlocked draftPath.toList = true := by
  have oneLine : '\n' ∉ draftPath.toList := by decide
  obtain ⟨ignored, blocked⟩ := rules_decide draftRules draftPath oneLine
  refine ⟨oneLine, ignored.2 ?_, blocked.2 ?_⟩
  · refine ⟨"\t*/(v?)+*.gen/ ".toList, ?_, ?_, ?_, ?_⟩ <;> decide +kernel
  · exact ⟨["lib", "(v1)+(v2)+.gen", "k.gen", "deep"].map String.toList, "ſEcret.Key".toList,
      by decide +kernel, .inl ⟨"secret*.*", by decide, by decide +kernel⟩⟩

end CodeIndex
