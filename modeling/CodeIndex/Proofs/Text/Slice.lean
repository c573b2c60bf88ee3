import CodeIndex.Text.Bytes
import Mathlib.Data.String.Basic

/-!
# Where a text can be cut

A number of bytes tells a place in a text if and only if it is the size of some beginning of the
text (`fromByte?_eq_some_iff`), which is what core means by a valid position of a string
(`isBoundary_iff_isValid`).  So a computation that knows its position as the size of a beginning
cuts the text there, and what it gets is the rest of the text.

A loop that goes up byte by byte and passes over positions inside characters goes up character by
character: `eq_behind_of_skips`.

## Main statements

* `isBoundary_iff_isValid`
* `fromByte?_append`, `upToByte?_append`, `slice?_append`: cuts between beginnings.
* `eq_behind_of_skips`
-/

namespace CodeIndex.Text

variable {text before rest : List Char} {position : Nat}

@[simp] theorem fromByte?_zero (text : List Char) : fromByte? text 0 = some text := by
  cases text <;> rfl

theorem fromByte?_cons {c : Char} (positive : 0 < position) :
    fromByte? (c :: text) position =
      if c.utf8Size ≤ position then fromByte? text (position - c.utf8Size) else none := by
  obtain ⟨position, rfl⟩ := Nat.exists_eq_add_one_of_ne_zero (Nat.ne_of_gt positive)
  rfl

theorem fromByte?_nil (positive : 0 < position) : fromByte? [] position = none := by
  obtain ⟨position, rfl⟩ := Nat.exists_eq_add_one_of_ne_zero (Nat.ne_of_gt positive)
  rfl

/-- **Behind a beginning of a text stands its rest.** -/
@[simp] theorem fromByte?_append (before rest : List Char) :
    fromByte? (before ++ rest) (byteSize before) = some rest := by
  induction before with
  | nil => exact fromByte?_zero rest
  | cons c before ih =>
      have positive := c.utf8Size_pos
      rw [byteSize_cons, List.cons_append, fromByte?_cons (by omega), if_pos (by omega),
        Nat.add_sub_cancel_left]
      exact ih

theorem exists_before_of_fromByte? (cut : fromByte? text position = some rest) :
    ∃ before, text = before ++ rest ∧ position = byteSize before := by
  induction text generalizing position with
  | nil =>
      rcases Nat.eq_zero_or_pos position with rfl | positive
      · exact ⟨[], by simpa using cut, rfl⟩
      · rw [fromByte?_nil positive] at cut
        cases cut
  | cons c text ih =>
      rcases Nat.eq_zero_or_pos position with rfl | positive
      · exact ⟨[], by simpa using cut, rfl⟩
      · rw [fromByte?_cons positive] at cut
        split at cut
        · obtain ⟨before, rfl, size⟩ := ih cut
          refine ⟨c :: before, rfl, ?_⟩
          rw [byteSize_cons]
          omega
        · cases cut

/-- **Where a text can be cut:** behind its beginnings. -/
theorem fromByte?_eq_some_iff :
    fromByte? text position = some rest ↔ ∃ before, text = before ++ rest ∧
      position = byteSize before := by
  refine ⟨exists_before_of_fromByte?, ?_⟩
  rintro ⟨before, rfl, rfl⟩
  exact fromByte?_append before rest

theorem isBoundary_iff :
    isBoundary text position = true ↔ ∃ before rest, text = before ++ rest ∧
      position = byteSize before := by
  rw [isBoundary, Option.isSome_iff_exists]
  exact ⟨fun ⟨rest, cut⟩ => (exists_before_of_fromByte? cut).imp fun _ there => ⟨rest, there⟩,
    fun ⟨before, rest, there⟩ => ⟨rest, fromByte?_eq_some_iff.2 ⟨before, there⟩⟩⟩

@[simp] theorem isBoundary_append (before rest : List Char) :
    isBoundary (before ++ rest) (byteSize before) = true :=
  isBoundary_iff.2 ⟨before, rest, rfl, rfl⟩

theorem byteSize_eq_utf8ByteSize (text : List Char) :
    byteSize text = (String.ofList text).utf8ByteSize := by
  induction text with
  | nil => rfl
  | cons c text ih =>
      rw [byteSize_cons, ih, ← List.singleton_append, String.ofList_append,
        String.utf8ByteSize_append, ← String.singleton_eq_ofList, String.utf8ByteSize_singleton]

/-- **The places of a text are the valid positions of the string that it makes up.** -/
theorem isBoundary_iff_isValid :
    isBoundary text position = true ↔
      (⟨position⟩ : String.Pos.Raw).IsValid (String.ofList text) := by
  rw [isBoundary_iff, String.Pos.Raw.isValid_iff_exists_append]
  constructor
  · rintro ⟨before, rest, rfl, rfl⟩
    refine ⟨String.ofList before, String.ofList rest, String.ofList_append, ?_⟩
    rw [byteSize_eq_utf8ByteSize]
    rfl
  · rintro ⟨before, rest, same, place⟩
    refine ⟨before.toList, rest.toList, ?_, ?_⟩
    · rw [← String.toList_append, ← same, String.toList_ofList]
    · rw [byteSize_eq_utf8ByteSize, String.ofList_toList]
      exact congrArg String.Pos.Raw.byteIdx place

@[simp] theorem upToByte?_append (before rest : List Char) :
    upToByte? (before ++ rest) (byteSize before) = some before := by
  simp [upToByte?]

@[simp] theorem slice?_append (before middle rest : List Char) :
    slice? (before ++ middle ++ rest) (byteSize before) (byteSize (before ++ middle)) =
      some middle := by
  rw [slice?, if_pos (by simp), upToByte?_append]
  exact fromByte?_append before middle

/-- A beginning of a text is no larger than the text. -/
theorem byteSize_take_le (text : List Char) (count : Nat) :
    byteSize (text.take count) ≤ byteSize text := by
  conv_rhs => rw [← List.take_append_drop count text, byteSize_append]
  exact Nat.le_add_right _ _

theorem byteSize_take_mono (text : List Char) {a b : Nat} (le : a ≤ b) :
    byteSize (text.take a) ≤ byteSize (text.take b) := by
  have front : (text.take b).take a = text.take a := by
    rw [List.take_take, Nat.min_eq_left le]
  rw [← front]
  exact byteSize_take_le _ a

theorem byteSize_take_lt (text : List Char) {a b : Nat} (lt : a < b) (inside : b ≤ text.length) :
    byteSize (text.take a) < byteSize (text.take b) := by
  have below : a < text.length := Nat.lt_of_lt_of_le lt inside
  refine Nat.lt_of_lt_of_le ?_ (byteSize_take_mono text (Nat.succ_le_of_lt lt))
  rw [Nat.succ_eq_add_one, List.take_succ_eq_append_getElem below, byteSize_append,
    byteSize_singleton]
  exact Nat.lt_add_of_pos_right (Char.utf8Size_pos _)

/-- No place is inside a character. -/
theorem isBoundary_inside {c : Char} {more : Nat} (positive : 0 < more)
    (inside : more < c.utf8Size) :
    isBoundary (before ++ c :: rest) (byteSize before + more) = false := by
  rw [isBoundary, Option.isSome_eq_false_iff, Option.isNone_iff_eq_none]
  induction before with
  | nil =>
      rw [byteSize_nil, Nat.zero_add, List.nil_append, fromByte?_cons positive,
        if_neg (by omega)]
  | cons d before ih =>
      rw [byteSize_cons, List.cons_append, fromByte?_cons (by omega), if_pos (by omega)]
      rwa [Nat.add_assoc, Nat.add_sub_cancel_left]

/-- **Going up byte by byte is going up character by character,** if nothing happens at positions
that are no places. -/
theorem eq_behind_of_skips {α : Type} {f : Nat → α} {c : Char}
    (skips : ∀ position < byteSize (before ++ c :: rest),
      isBoundary (before ++ c :: rest) position = false → f position = f (position + 1)) :
    f (byteSize before + 1) = f (byteSize (before ++ [c])) := by
  have positive := c.utf8Size_pos
  have general : ∀ more, 0 < more → more ≤ c.utf8Size →
      f (byteSize before + 1) = f (byteSize before + more) := by
    intro more
    induction more with
    | zero => exact fun impossible => absurd impossible (Nat.lt_irrefl 0)
    | succ more ih =>
        intro _ within
        rcases Nat.eq_zero_or_pos more with rfl | some
        · rfl
        · rw [ih some (by omega)]
          refine skips _ ?_ (isBoundary_inside some (by omega))
          rw [byteSize_append, byteSize_cons]
          omega
  rw [byteSize_append, byteSize_singleton]
  exact general c.utf8Size positive (Nat.le_refl _)

end CodeIndex.Text
