import CodeIndex.Proofs.Text.Lacking
import CodeIndex.Secret.Shape

/-!
# Texts without credentials

A text is free of credentials if no token occurs in it, no line that opens a private key, and no
assignment whose value is anything but the mark that redaction leaves.  This is said by the patterns
that redaction itself looks for; a text is free if and only if it lacks three shapes.

The three shapes are told apart by the characters that they can hold.  A token holds no quotes,
brackets and blanks; the opening of a key holds capitals, hyphens and spaces alone; and an
assignment is a name and a sign, in which no quotes and brackets stand, and a value between quotes.
What an assignment assigns is therefore decided by the place where it begins: it stands between the
first two quotes.

## Main definitions

* `Secret.IsFree`: whether a text is free of credentials.
* `Secret.exposed`: the shape of assignments that tell a value.
* `Secret.Assigns`: what an assignment consists of.

## Main statements

* `Secret.isFree_iff`
* `Secret.Assigns.eq_of_first_quotes`: the value stands between the first two quotes.
-/

namespace CodeIndex.Secret

open CodeIndex.Text
open Pattern (Reads lastOr)

/-- **Whether a text is free of credentials:** it has no token, no opening of a private key, and no
assignment, wherever it may begin, of any value but the mark. -/
structure IsFree (text : List Char) : Prop where
  token : token.occursIn text = false
  keyOpening : keyOpening.occursIn text = false
  assignment : ∀ passed rest found, text = passed ++ rest →
    assignment.matchAt passed.getLast? rest = some found → found.groups.text 4 = mark

/-! ## Which characters stand where -/

/-- White space, character by character. -/
def blanks : List Char :=
  ['\t', '\n', '\x0b', '\x0c', '\r', ' ', '\u0085', '\u00a0', '\u1680', '\u2000', '\u2001',
    '\u2002', '\u2003', '\u2004', '\u2005', '\u2006', '\u2007', '\u2008', '\u2009', '\u200a',
    '\u2028', '\u2029', '\u202f', '\u205f', '\u3000']

theorem mem_blanks_of_isBlank {c : Char} (blank : isBlank c = true) : c ∈ blanks := by
  have codes : blanks.map Char.toNat = [9, 10, 11, 12, 13, 32, 0x85, 0xA0, 0x1680, 0x2000, 0x2001,
      0x2002, 0x2003, 0x2004, 0x2005, 0x2006, 0x2007, 0x2008, 0x2009, 0x200A, 0x2028, 0x2029,
      0x202F, 0x205F, 0x3000] := by decide
  have code : c.toNat ∈ blanks.map Char.toNat := by
    rw [codes]
    simp only [isBlank, Bool.or_eq_true, Bool.and_eq_true, decide_eq_true_eq, beq_iff_eq] at blank
    simp only [List.mem_cons, List.not_mem_nil, or_false]
    omega
  obtain ⟨d, member, same⟩ := List.mem_map.1 code
  rwa [← Char.ext_iff.2 (UInt32.toNat_inj.1 same)]

theorem eq_of_isQuote {c : Char} (quote : isQuote c = true) : c = '"' ∨ c = '\'' := by
  simpa [isQuote] using quote

/-- A token has none of the characters that end one. -/
theorem token_avoids {c : Char} (ends : endsToken c = true) : token.shape.Avoids c := by
  refine Pattern.shape_avoids ?_
  rcases Bool.or_eq_true_iff.1 ends with blank | mark
  · have none : ∀ c ∈ blanks, token.takes c = false :=
      List.forall_iff_forall_mem.1 (by decide)
    exact none c (mem_blanks_of_isBlank blank)
  · have none : ∀ c ∈ "\"'`,;\x7b\x7d[]()".toList, token.takes c = false :=
      List.forall_iff_forall_mem.1 (by decide)
    exact none c (List.contains_iff_mem.1 mark)

theorem endsToken_of_isQuote {c : Char} (quote : isQuote c = true) : endsToken c = true := by
  rcases eq_of_isQuote quote with rfl | rfl <;> decide

/-- The opening of a key has no quotes. -/
theorem keyOpening_avoids_quote {c : Char} (quote : isQuote c = true) :
    keyOpening.shape.Avoids c := by
  rcases eq_of_isQuote quote with rfl | rfl <;> exact Pattern.shape_avoids (by decide)

/-! ## Assignments -/

/-- **What an assignment consists of:** a name, a sign between blanks, and a value in quotes. -/
structure Assigns (read name sign value : List Char) (opening closing : Char) : Prop where
  read_eq : read = name ++ sign ++ opening :: (value ++ [closing])
  name_ne_nil : name ≠ []
  takes_name : ∀ c ∈ name, secretName.takes c = true
  sign_ne_nil : sign ≠ []
  isSign : ∀ c ∈ sign, isBlank c = true ∨ c = ':' ∨ c = '='
  isQuote_opening : isQuote opening = true
  isValue : ∀ c ∈ value, isQuote c = false ∧ isBlank c = false
  value_ne_nil : value ≠ []
  isQuote_closing : isQuote closing = true

/-- An assignment consists of its groups. -/
theorem exists_assigns {before : Option Char} {read rest : List Char} {groups : Groups}
    (reads : assignment.Reads before read rest groups) :
    ∃ name sign value opening closing, Assigns read name sign value opening closing ∧
      groups.text 1 = name ∧ groups.text 2 = sign ∧ groups.text 3 = [opening] ∧
      groups.text 4 = value ∧ groups.text 5 = [closing] ∧
      ∃ before rest groups, secretName.Reads before name rest groups := by
  have reads : (Pattern.seq .wordEdge (.seq (.group 1 secretName) (.seq .wordEdge
      (.seq (.group 2 (.seq (.many isBlank) (.seq (.one fun c => c == ':' || c == '=')
        (.many isBlank)))) (.seq (.group 3 (.one isQuote))
        (.seq (.group 4 (.run (fun c => !isQuote c && !isBlank c) ⟨4, none, true⟩))
          (.group 5 (.one isQuote)))))))).Reads before read rest groups := reads
  obtain ⟨_, _, _, _, rfl, rfl, edge, fromName⟩ := reads.of_seq
  obtain ⟨rfl, rfl⟩ := edge.of_wordEdge
  obtain ⟨name, _, _, _, rfl, rfl, name_, fromEdge⟩ := fromName.of_seq
  obtain ⟨_, rfl, named⟩ := name_.of_group
  obtain ⟨_, _, _, _, rfl, rfl, edge', fromSign⟩ := fromEdge.of_seq
  obtain ⟨rfl, rfl⟩ := edge'.of_wordEdge
  obtain ⟨_, _, _, _, rfl, rfl, sign_, fromOpening⟩ := fromSign.of_seq
  obtain ⟨_, rfl, signed⟩ := sign_.of_group
  obtain ⟨blanks, _, _, _, rfl, rfl, ahead, fromColon⟩ := signed.of_seq
  obtain ⟨_, blanks', _, _, rfl, rfl, colon, behind⟩ := fromColon.of_seq
  obtain ⟨sign, rfl, rfl, isSign⟩ := colon.of_one
  obtain ⟨rfl, isAhead, -⟩ := ahead.of_run
  obtain ⟨rfl, isBehind, -⟩ := behind.of_run
  obtain ⟨_, _, _, _, rfl, rfl, opening_, fromValue⟩ := fromOpening.of_seq
  obtain ⟨_, rfl, opened⟩ := opening_.of_group
  obtain ⟨opening, rfl, rfl, isOpening⟩ := opened.of_one
  obtain ⟨value, _, _, _, rfl, rfl, value_, closing_⟩ := fromValue.of_seq
  obtain ⟨_, rfl, valued⟩ := value_.of_group
  obtain ⟨rfl, isValue, least⟩ := valued.of_run
  obtain ⟨_, rfl, closed⟩ := closing_.of_group
  obtain ⟨closing, rfl, rfl, isClosing⟩ := closed.of_one
  refine ⟨name, blanks ++ ([sign] ++ blanks'), value, opening, closing, ?_, rfl, rfl, rfl, rfl, rfl,
    _, _, _, named⟩
  refine ⟨by simp, named.ne_nil rfl, named.takes, by simp, fun c member => ?_, isOpening,
    fun c member => by simpa using isValue c member, ?_, isClosing⟩
  · simp only [List.mem_append, List.mem_singleton] at member
    rcases member with member | rfl | member
    · exact .inl (isAhead c member)
    · exact .inr (by simpa using isSign)
    · exact .inl (isBehind c member)
  · rintro rfl
    cases least

namespace Assigns

variable {read name sign value : List Char} {opening closing : Char}
variable (assigns : Assigns read name sign value opening closing)

include assigns

/-- There are no quotes and brackets before the value. -/
theorem notMem_front {c : Char} (listed : c ∈ ['"', '\'', '[', ']']) : c ∉ name ++ sign := by
  have none : ∀ c ∈ ['"', '\'', '[', ']'],
      secretName.takes c = false ∧ isBlank c = false ∧ c ≠ ':' ∧ c ≠ '=' :=
    List.forall_iff_forall_mem.1 (by decide)
  obtain ⟨untaken, full, colon, equal⟩ := none c listed
  rw [List.mem_append, not_or]
  constructor
  · intro member
    rw [assigns.takes_name c member] at untaken
    cases untaken
  · intro member
    rcases assigns.isSign c member with blank | rfl | rfl
    · rw [full] at blank
      cases blank
    · exact colon rfl
    · exact equal rfl

theorem isQuote_front : ∀ c ∈ name ++ sign, isQuote c = false := by
  intro c member
  by_contra quote
  rcases eq_of_isQuote ((Bool.not_eq_false _).mp quote) with rfl | rfl
  · exact assigns.notMem_front (by simp) member
  · exact assigns.notMem_front (by simp) member

end Assigns

/-- A text is cut at its first quote in one way only. -/
theorem eq_of_first_quote {left right before behind : List Char} {quote quote' : Char}
    (cut : left ++ quote :: before = right ++ quote' :: behind)
    (clean : ∀ c ∈ left, isQuote c = false) (clean' : ∀ c ∈ right, isQuote c = false)
    (isQuote_quote : isQuote quote = true) (isQuote_quote' : isQuote quote' = true) :
    left = right ∧ quote = quote' ∧ before = behind := by
  induction left generalizing right with
  | nil =>
      cases right with
      | nil =>
          obtain ⟨rfl, rfl⟩ := List.cons.inj cut
          exact ⟨rfl, rfl, rfl⟩
      | cons c right =>
          obtain ⟨rfl, -⟩ := List.cons.inj cut
          rw [clean' quote List.mem_cons_self] at isQuote_quote
          cases isQuote_quote
  | cons c left ih =>
      cases right with
      | nil =>
          obtain ⟨rfl, -⟩ := List.cons.inj cut
          rw [clean c List.mem_cons_self] at isQuote_quote'
          cases isQuote_quote'
      | cons d right =>
          rw [List.cons_append, List.cons_append] at cut
          obtain ⟨rfl, further⟩ := List.cons.inj cut
          obtain ⟨rfl, same⟩ := ih further (fun c member => clean c (List.mem_cons_of_mem _ member))
            fun c member => clean' c (List.mem_cons_of_mem _ member)
          exact ⟨rfl, same⟩

/-- **The value stands between the first two quotes** behind the place where the assignment
begins. -/
theorem Assigns.eq_of_first_quotes {read rest name sign value front middle behind : List Char}
    {opening closing opening' closing' : Char}
    (assigns : Assigns read name sign value opening closing)
    (same : read ++ rest = front ++ opening' :: (middle ++ closing' :: behind))
    (isQuote_front : ∀ c ∈ front, isQuote c = false) (isQuote_opening : isQuote opening' = true)
    (isQuote_middle : ∀ c ∈ middle, isQuote c = false) (isQuote_closing : isQuote closing' = true) :
    name ++ sign = front ∧ value = middle := by
  rw [assigns.read_eq, List.append_assoc _ _ rest, List.cons_append,
    List.append_assoc value] at same
  obtain ⟨rfl, -, same⟩ := eq_of_first_quote same assigns.isQuote_front isQuote_front
    assigns.isQuote_opening isQuote_opening
  obtain ⟨rfl, -, -⟩ := eq_of_first_quote same (fun c member => (assigns.isValue c member).1)
    isQuote_middle assigns.isQuote_closing isQuote_closing
  exact ⟨rfl, rfl⟩

/-- Assignments that begin at one place have one value. -/
theorem Assigns.value_unique {read rest name sign value read' rest' name' sign' value' : List Char}
    {opening closing opening' closing' : Char}
    (assigns : Assigns read name sign value opening closing)
    (assigns' : Assigns read' name' sign' value' opening' closing')
    (same : read ++ rest = read' ++ rest') : value = value' := by
  have cut : read ++ rest = name' ++ sign' ++ opening' :: (value' ++ closing' :: rest') := by
    rw [same, assigns'.read_eq]
    simp
  exact (assigns.eq_of_first_quotes cut assigns'.isQuote_front assigns'.isQuote_opening
    (fun c member => (assigns'.isValue c member).1) assigns'.isQuote_closing).2

/-! ## Free texts lack three shapes -/

/-- The shape of assignments whose value was not replaced. -/
def exposed : Shape := fun before read =>
  ∃ groups, assignment.Reads before read [] groups ∧ groups.text 4 ≠ mark

theorem exposed_isFilled : exposed.IsFilled := by
  rintro before ⟨groups, reads, -⟩
  exact reads.ne_nil rfl rfl

/-- **A text is free of credentials** if and only if it lacks the shapes of tokens, of openings of
private keys, and of exposed assignments. -/
theorem isFree_iff {text : List Char} :
    IsFree text ↔ token.shape.Lacks none text ∧ keyOpening.shape.Lacks none text ∧
      exposed.Lacks none text := by
  have values : (∀ passed rest found, text = passed ++ rest →
      assignment.matchAt passed.getLast? rest = some found → found.groups.text 4 = mark) ↔
      exposed.Lacks none text := by
    constructor
    · rintro free passed read rest rfl ⟨groups, reads, other⟩
      rw [Pattern.lastOr_none] at reads
      obtain ⟨found, matched⟩ := Option.isSome_iff_exists.1
        (Pattern.matchAt_isSome_iff.2 ⟨read, rest, groups, rfl, reads.anywhere rfl⟩)
      have replaced := free passed (read ++ rest) found (List.append_assoc ..) matched
      -- what is found may be another reading, but it assigns the same value
      obtain ⟨read', rest', same, -, reads'⟩ := Pattern.exists_of_matchAt matched
      obtain ⟨_, _, _, _, _, assigns, -, -, -, rfl, -⟩ := exists_assigns reads
      obtain ⟨_, _, _, _, _, assigns', -, -, -, value, -⟩ := exists_assigns reads'
      exact other ((assigns.value_unique assigns' same).trans (value.symm.trans replaced))
    · rintro lacks passed rest found rfl matched
      by_contra other
      obtain ⟨read, behind, rfl, -, reads⟩ := Pattern.exists_of_matchAt matched
      refine lacks passed read behind (List.append_assoc ..).symm ⟨found.groups, ?_, other⟩
      rw [Pattern.lastOr_none]
      exact reads.anywhere rfl
  constructor
  · rintro ⟨token, keyOpening, assignment⟩
    exact ⟨(Pattern.occursIn_eq_false_iff rfl).1 token,
      (Pattern.occursIn_eq_false_iff rfl).1 keyOpening, values.1 assignment⟩
  · rintro ⟨token, keyOpening, assignment⟩
    exact ⟨(Pattern.occursIn_eq_false_iff rfl).2 token,
      (Pattern.occursIn_eq_false_iff rfl).2 keyOpening, values.2 assignment⟩

end CodeIndex.Secret
