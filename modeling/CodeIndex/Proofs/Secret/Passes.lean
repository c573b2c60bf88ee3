import CodeIndex.Proofs.Secret.Redaction

/-!
# What redaction takes and what it leaves

Redaction is complete, and it takes no more than it has to.  A redacted text is free of credentials,
and a text that is free of credentials stays as it is; so a second redaction finds nothing to do.
Each of the three passes writes the mark for what it looks for, a private key, a token, or the value
of an assignment, and leaves every other character where it is.

That a text stays as it is does not mean that no pattern occurs in it: the assignment of the mark
itself is replaced by what it was.  Nothing is found at all if and only if none of the three
patterns occurs in the text as it was given, although the later passes look at what the earlier ones
left.

## Main definitions

* `Secret.IsMatch`, `Secret.IsValue`: the regions that a pass replaces.
* `Secret.Marked`: a text with regions replaced by the mark.

## Main statements

* `Secret.redact_eq_self_iff`: which texts stay as they are.
* `Secret.isClean_iff`: when there is nothing to replace.
* `Secret.redact_exact`
-/

namespace CodeIndex.Secret

open CodeIndex.Text
open Pattern (Reads lastOr)

/-! ## Regions -/

/-- Whether a pattern has a match that begins behind `passed` and is exactly `region`. -/
def IsMatch (pattern : Pattern) (passed region rest : List Char) : Prop :=
  ∃ groups, pattern.matchAt passed.getLast? (region ++ rest) = some ⟨region.length, groups⟩

/-- Whether `region` is the value of an assignment that is found in a text.  The assignment begins
in `passed`; its name, its sign and the opening quote stand before the value, and the closing quote
behind. -/
def IsValue (passed region rest : List Char) : Prop :=
  ∃ start front closing behind, passed = start ++ front ∧ rest = closing :: behind ∧
    ∃ groups, assignment.matchAt start.getLast? (front ++ region ++ closing :: behind) =
      some ⟨(front ++ region ++ [closing]).length, groups⟩ ∧ groups.text 4 = region

/-- **A text some of whose regions were replaced by the mark:** all other characters are there, in
their order.  A region is told by what stands before it, by itself, and by what stands behind it. -/
inductive Marked (IsRegion : List Char → List Char → List Char → Prop) :
    List Char → List Char → List Char → Prop where
  | nil {passed : List Char} : Marked IsRegion passed [] []
  | keep {passed text result : List Char} {c : Char} :
      Marked IsRegion (passed ++ [c]) text result →
        Marked IsRegion passed (c :: text) (c :: result)
  | swap {passed region rest result : List Char} (found : IsRegion passed region rest) :
      Marked IsRegion (passed ++ region) rest result →
        Marked IsRegion passed (region ++ rest) (mark ++ result)

namespace Marked

variable {IsRegion : List Char → List Char → List Char → Prop} {before : Option Char}
variable {passed text result : List Char}

theorem keepAll {kept : List Char} (marked : Marked IsRegion (passed ++ kept) text result) :
    Marked IsRegion passed (kept ++ text) (kept ++ result) := by
  induction kept generalizing passed with
  | nil => simpa using marked
  | cons c kept ih => exact .keep (ih (by simpa using marked))

/-- A pass that writes the mark for every match. -/
theorem of_replaced {pattern : Pattern}
    (replaced : pattern.Replaced (fun _ => mark) before text result)
    (same : passed.getLast? = before) : Marked (IsMatch pattern) passed text result := by
  induction replaced generalizing passed with
  | nil => exact .nil
  | keep _ _ ih => exact .keep (ih (by simp))
  | @swap before read text result groups here _ ih =>
      subst same
      refine .swap ⟨groups, here⟩ (ih ?_)
      rw [List.getLast?_append]
      rfl

/-- The pass that writes the mark for the value of every assignment. -/
theorem of_replaced_assignment
    (replaced : assignment.Replaced maskedAssignment before text result)
    (same : passed.getLast? = before) : Marked IsValue passed text result := by
  induction replaced generalizing passed with
  | nil => exact .nil
  | keep _ _ ih => exact .keep (ih (by simp))
  | @swap before read text result groups here _ ih =>
      subst same
      obtain ⟨read', rest, split, length, reads⟩ := Pattern.exists_of_matchAt here
      obtain ⟨rfl, rfl⟩ := List.append_inj split length.symm
      obtain ⟨name, sign, value, opening, closing, assigns, one, two, three, four, five, -⟩ :=
        exists_assigns reads
      have cut : read = name ++ sign ++ [opening] ++ value ++ [closing] := by
        simp [assigns.read_eq]
      have masked : maskedAssignment groups = name ++ sign ++ [opening] ++ (mark ++ [closing]) := by
        simp [maskedAssignment, one, two, three, five]
      generalize name ++ sign ++ [opening] = front at cut masked
      subst cut
      have behind : Marked IsValue (passed ++ front ++ value ++ [closing]) text result := by
        refine ih ?_
        rw [List.getLast?_append_of_ne_nil _ (by simp)]
        simp [lastOr]
      have valued : Marked IsValue (passed ++ front) (value ++ closing :: text)
          (mark ++ closing :: result) :=
        .swap ⟨passed, front, closing, text, rfl, rfl, groups, by simpa using here, four⟩
          (.keep behind)
      rw [masked]
      simpa using valued.keepAll

end Marked

/-! ## Texts in which there is nothing to remove -/

variable {text : List Char}

/-- A private key is there where one is opened, whether it is closed or not. -/
theorem occursIn_privateKey_eq_false_iff :
    privateKey.occursIn text = false ↔ keyOpening.occursIn text = false := by
  rw [Pattern.occursIn_eq_false_iff_matchAt, Pattern.occursIn_eq_false_iff_matchAt]
  refine forall₃_congr fun passed rest _ => ⟨fun none => ?_, fun none => ?_⟩
  · exact (Pattern.matchAt_eq_none_iff rfl).2 (lacksHere_keyOpening none)
  · rw [← Option.not_isSome_iff_eq_none, Pattern.matchAt_isSome_iff]
    rintro ⟨read, behind, groups, rfl, reads⟩
    obtain ⟨opening, rest, opened, _, rfl, -, begins, -⟩ := reads.of_seq
    exact (Pattern.matchAt_eq_none_iff rfl).1 none opening _ (List.append_assoc ..)
      ⟨opened, begins.anywhere rfl⟩

/-- **A text that is free of credentials stays as it is:** only marks are there to be replaced. -/
theorem IsFree.redact_eq (free : IsFree text) : redact text = text := by
  have keys : redactKeys text = text :=
    Pattern.replaceAll_eq_self rfl (occursIn_privateKey_eq_false_iff.2 free.keyOpening)
  have tokens : redactTokens text = text := Pattern.replaceAll_eq_self rfl free.token
  rw [redact, keys, tokens]
  refine (Pattern.replaced_replaceAll rfl text).eq_self
    fun passed read rest groups split here => ?_
  rw [Pattern.lastOr_none] at here
  have value := free.assignment passed (read ++ rest) _ (by rw [split, List.append_assoc]) here
  obtain ⟨read', rest', same, length, reads⟩ := Pattern.exists_of_matchAt here
  obtain ⟨rfl, rfl⟩ := List.append_inj same length.symm
  obtain ⟨name, sign, _, opening, closing, assigns, one, two, three, rfl, five, -⟩ :=
    exists_assigns reads
  rw [assigns.read_eq, value, maskedAssignment, one, two, three, five]
  simp

/-- **Which texts stay as they are.** -/
theorem redact_eq_self_iff : redact text = text ↔ IsFree text :=
  ⟨fun same => same ▸ isFree_redact text, IsFree.redact_eq⟩

/-- **When there is nothing to replace:** a pass that finds nothing leaves the text to the next
one. -/
theorem isClean_iff :
    isClean text = true ↔ privateKey.occursIn text = false ∧ token.occursIn text = false ∧
      assignment.occursIn text = false := by
  unfold isClean
  simp only [Bool.and_eq_true, Bool.not_eq_true', and_assoc]
  refine and_congr_right fun noKey => ?_
  have keys : redactKeys text = text := Pattern.replaceAll_eq_self rfl noKey
  rw [keys]
  refine and_congr_right fun noToken => ?_
  have tokens : redactTokens text = text := Pattern.replaceAll_eq_self rfl noToken
  rw [tokens]

/-- A text in which there is nothing to replace stays as it is. -/
theorem redact_eq_of_isClean (clean : isClean text = true) : redact text = text := by
  obtain ⟨noKey, noToken, noAssignment⟩ := isClean_iff.1 clean
  have keys : redactKeys text = text := Pattern.replaceAll_eq_self rfl noKey
  have tokens : redactTokens text = text := Pattern.replaceAll_eq_self rfl noToken
  rw [redact, keys, tokens]
  exact Pattern.replaceAll_eq_self rfl noAssignment

/-! ## All three passes -/

/-- **Redaction is complete, idempotent and conservative.**  A redacted text holds no token, no
opening of a private key, and no assignment of anything but the mark, and is left alone by a second
redaction.  Each pass replaces regions that it was to replace, private keys, then tokens, then
values of assignments, by the mark, and keeps all other characters in their order.  Nothing is
replaced if and only if none of the three patterns occurs in the text, and then the text stays as
it is; it also stays as it is if only marks are replaced by marks, that is, if and only if it is
free of credentials. -/
theorem redact_exact (text : List Char) :
    IsFree (redact text) ∧
    redact (redact text) = redact text ∧
    (Marked (IsMatch privateKey) [] text (redactKeys text) ∧
      Marked (IsMatch token) [] (redactKeys text) (redactTokens (redactKeys text)) ∧
      Marked IsValue [] (redactTokens (redactKeys text)) (redact text)) ∧
    (isClean text = true ↔ privateKey.occursIn text = false ∧ token.occursIn text = false ∧
      assignment.occursIn text = false) ∧
    (isClean text = true → redact text = text) ∧
    (redact text = text ↔ IsFree text) := by
  have keys : Marked (IsMatch privateKey) [] text (redactKeys text) :=
    .of_replaced (Pattern.replaced_replaceAll rfl _) rfl
  have tokens : Marked (IsMatch token) [] (redactKeys text) (redactTokens (redactKeys text)) :=
    .of_replaced (Pattern.replaced_replaceAll rfl _) rfl
  have values : Marked IsValue [] (redactTokens (redactKeys text)) (redact text) :=
    .of_replaced_assignment (Pattern.replaced_replaceAll rfl _) rfl
  exact ⟨isFree_redact text, (isFree_redact text).redact_eq, ⟨keys, tokens, values⟩, isClean_iff,
    redact_eq_of_isClean, redact_eq_self_iff⟩

/-- The mark between quotes stays, although an assignment is found there. -/
example : isClean "token = '[REDACTED]'".toList = false ∧
    redact "token = '[REDACTED]'".toList = "token = '[REDACTED]'".toList := by decide +kernel

end CodeIndex.Secret
