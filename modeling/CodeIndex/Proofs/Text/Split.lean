import CodeIndex.Text.Line
import Mathlib.Data.List.Infix

/-!
# Pieces of a text

A text is cut at separators, which are lost.  The pieces are clean of separators and consist of
characters of the text, there is at least one of them, and a text in front of a separator is cut
independently of what follows (`Text.splitOn_append_cons`).

A search for a name between two separators finds out whether the name is a piece, and not only a
part of one, as long as every piece has a separator on both sides.  The last piece of a text has
none behind it, and the first one none before it.  With one put in front of the text, the search
finds all pieces but the last (`Text.infix_iff_mem_splitOn`).

## Main statements

* `Text.splitOn_append_cons`: separators separate.
* `Text.infix_iff_mem_splitOn`: what can be found between two separators.
-/

namespace CodeIndex.Text

/-! ## Parts of a text -/

theorem occursIn_iff_infix {part text : List Char} :
    occursIn part text = true ↔ part <:+: text := by
  induction text with
  | nil => simp [occursIn]
  | cons c text ih => simp [occursIn, startsWith, List.infix_cons_iff, ih]

/-! ## Pieces between separators -/

variable {isSeparator : Char → Bool} {s : Char} {name : List Char}

theorem splitFrom_ne_nil (isSeparator : Char → Bool) (piece text : List Char) :
    splitFrom isSeparator piece text ≠ [] := by
  induction text generalizing piece with
  | nil => exact List.cons_ne_nil _ _
  | cons c text ih =>
      rw [splitFrom]
      split
      · exact List.cons_ne_nil _ _
      · exact ih _

/-- The last piece of a text is its end. -/
theorem suffix_of_getLast?_splitFrom {isSeparator : Char → Bool} {piece text last : List Char}
    (ends : (splitFrom isSeparator piece text).getLast? = some last) :
    last <:+ piece.reverse ++ text := by
  induction text generalizing piece with
  | nil =>
      obtain rfl : piece.reverse = last := Option.some.inj ends
      exact (List.append_nil piece.reverse).symm ▸ List.suffix_rfl
  | cons c text ih =>
      rw [splitFrom] at ends
      split at ends
      · rw [List.getLast?_cons_of_ne_nil (splitFrom_ne_nil _ _ _)] at ends
        exact (ih ends).trans ((List.suffix_cons c text).trans (List.suffix_append _ _))
      · have further := ih ends
        rwa [List.reverse_cons, List.append_assoc] at further

theorem forall_of_mem_splitFrom {piece text found : List Char}
    (clean : ∀ c ∈ piece, isSeparator c = false)
    (member : found ∈ splitFrom isSeparator piece text) :
    ∀ c ∈ found, isSeparator c = false := by
  induction text generalizing piece with
  | nil =>
      obtain rfl := List.mem_singleton.1 member
      exact fun c listed => clean c (List.mem_reverse.1 listed)
  | cons c text ih =>
      rw [splitFrom] at member
      by_cases separates : isSeparator c
      · rw [if_pos separates] at member
        rcases List.mem_cons.1 member with rfl | member
        · exact fun c listed => clean c (List.mem_reverse.1 listed)
        · exact ih (fun _ listed => absurd listed List.not_mem_nil) member
      · rw [if_neg separates] at member
        refine ih (fun d listed => ?_) member
        rcases List.mem_cons.1 listed with rfl | listed
        · exact Bool.eq_false_iff.2 separates
        · exact clean d listed

/-- Pieces consist of characters of the text. -/
theorem mem_of_mem_splitFrom {piece text found : List Char} {c : Char}
    (member : found ∈ splitFrom isSeparator piece text) (inside : c ∈ found) :
    c ∈ piece ∨ c ∈ text := by
  induction text generalizing piece with
  | nil =>
      obtain rfl := List.mem_singleton.1 member
      exact .inl (List.mem_reverse.1 inside)
  | cons d text ih =>
      rw [splitFrom] at member
      by_cases separates : isSeparator d
      · rw [if_pos separates] at member
        rcases List.mem_cons.1 member with rfl | member
        · exact .inl (List.mem_reverse.1 inside)
        · exact .inr (List.mem_cons_of_mem d ((ih member).resolve_left List.not_mem_nil))
      · rw [if_neg separates] at member
        rcases ih member with listed | listed
        · rcases List.mem_cons.1 listed with rfl | listed
          · exact .inr List.mem_cons_self
          · exact .inl listed
        · exact .inr (List.mem_cons_of_mem d listed)

/-- Characters may be replaced before a text is split, if those that are replaced separate. -/
theorem splitFrom_map {f : Char → Char} (kept : ∀ c, isSeparator (f c) = false → f c = c)
    (piece text : List Char) :
    splitFrom isSeparator piece (text.map f) =
      splitFrom (fun c => isSeparator (f c)) piece text := by
  induction text generalizing piece with
  | nil => rfl
  | cons c text ih =>
      rw [List.map_cons, splitFrom, splitFrom, ih, ih]
      split
      · rfl
      · rename_i inside
        rw [kept c (Bool.eq_false_iff.2 inside)]

theorem splitFrom_of_clean {text : List Char} (clean : ∀ c ∈ text, isSeparator c = false)
    (piece : List Char) : splitFrom isSeparator piece text = [piece.reverse ++ text] := by
  induction text generalizing piece with
  | nil => rw [splitFrom, List.append_nil]
  | cons c text ih =>
      have inside : ¬isSeparator c = true := by simp [clean c List.mem_cons_self]
      rw [splitFrom, if_neg inside, ih fun d listed => clean d (List.mem_cons_of_mem c listed),
        List.reverse_cons, List.append_assoc, List.singleton_append]

/-- A text without separators is one piece. -/
theorem splitOn_of_clean {text : List Char} (clean : ∀ c ∈ text, isSeparator c = false) :
    splitOn isSeparator text = [text] :=
  splitFrom_of_clean clean []

/-- What stands before a separator is cut independently of what stands behind it. -/
theorem splitFrom_append_cons (separates : isSeparator s = true) (piece first second : List Char) :
    splitFrom isSeparator piece (first ++ s :: second) =
      splitFrom isSeparator piece first ++ splitFrom isSeparator [] second := by
  induction first generalizing piece with
  | nil => simp [splitFrom, separates]
  | cons c first ih =>
      rw [List.cons_append, splitFrom, splitFrom, ih, ih]
      split <;> rfl

/-- **Separators separate:** the pieces before one and the pieces behind it. -/
theorem splitOn_append_cons (separates : isSeparator s = true) (first second : List Char) :
    splitOn isSeparator (first ++ s :: second) =
      splitOn isSeparator first ++ splitOn isSeparator second :=
  splitFrom_append_cons separates [] first second

/-! ## Searching between separators -/

theorem takeWhile_ne_append_cons (clean : s ∉ name) (rest : List Char) :
    (name ++ s :: rest).takeWhile (· != s) = name := by
  rw [List.takeWhile_append_of_pos, List.takeWhile_cons_of_neg (by simp), List.append_nil]
  intro c listed
  rw [bne_iff_ne]
  rintro rfl
  exact clean listed

/-- A name between two separators begins at a separator: at the one before a word only if it is the
word, and else behind the word. -/
theorem infix_cons_append_iff {word rest : List Char} (clean : s ∉ name) (cleanWord : s ∉ word) :
    s :: (name ++ [s]) <:+: s :: (word ++ s :: rest) ↔
      name = word ∨ s :: (name ++ [s]) <:+: s :: rest := by
  have later : s :: (name ++ [s]) <:+: word ++ s :: rest ↔ s :: (name ++ [s]) <:+: s :: rest := by
    induction word with
    | nil => rfl
    | cons c word ih =>
        rw [List.mem_cons, not_or] at cleanWord
        rw [List.cons_append, List.infix_cons_iff, List.cons_prefix_cons, ih cleanWord.2]
        exact or_iff_right fun found => cleanWord.1 found.1
  have here : name ++ [s] <+: word ++ s :: rest ↔ name = word := by
    constructor
    · rintro ⟨behind, same⟩
      rw [List.append_assoc, List.singleton_append] at same
      rw [← takeWhile_ne_append_cons clean ([] ++ behind),
        ← takeWhile_ne_append_cons cleanWord rest]
      exact congrArg _ same
    · rintro rfl
      exact ⟨rest, by simp⟩
  rw [List.infix_cons_iff, List.cons_prefix_cons, here, later]
  simp

/-- A search between separators finds the pieces that a separator follows. -/
theorem infix_iff_mem_splitFrom (clean : s ∉ name) {piece : List Char} (cleanPiece : s ∉ piece)
    (text : List Char) :
    s :: (name ++ [s]) <:+: s :: (piece.reverse ++ text) ↔
      name ∈ (splitFrom (· == s) piece text).dropLast := by
  induction text generalizing piece with
  | nil =>
      refine iff_of_false (fun found => ?_) (by simp [splitFrom])
      have twice := found.sublist.count_le s
      have once : piece.count s = 0 := List.count_eq_zero.2 cleanPiece
      simp [once] at twice
  | cons c text ih =>
      rw [splitFrom]
      by_cases separates : c = s
      · subst separates
        have rest := ih List.not_mem_nil
        rw [if_pos (beq_self_eq_true c), List.dropLast_cons_of_ne_nil (splitFrom_ne_nil _ _ _),
          List.mem_cons, ← rest]
        exact infix_cons_append_iff clean (by simpa using cleanPiece)
      · have cleanPiece' : s ∉ c :: piece := by simp [cleanPiece, Ne.symm separates]
        rw [if_neg (by simpa using separates), ← ih cleanPiece']
        simp

/-- **What can be found between two separators,** if one is put in front of a text: all pieces of
the text but the last. -/
theorem infix_iff_mem_splitOn (clean : s ∉ name) (text : List Char) :
    s :: (name ++ [s]) <:+: s :: text ↔ name ∈ (splitOn (· == s) text).dropLast :=
  infix_iff_mem_splitFrom clean List.not_mem_nil text

end CodeIndex.Text
