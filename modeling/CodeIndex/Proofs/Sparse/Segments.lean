import CodeIndex.Proofs.Text.Case
import CodeIndex.Sparse.Token
import Mathlib.Data.List.Basic

/-!
# Segments of a text

A text is cut into segments between neighbours of certain classes, and what is neither letter nor
number is dropped.  Nothing else is lost: the segments put together are the characters that are
left, in lower case (`flatten_segments`).  Where a segment ends is said of two neighbours and the
character behind them (`endsBetween_iff`), whatever else is in the text.

Reading goes from left to right, one character after the other, and keeps the segment under way.
What one character does is `advance`, and whatever is said of segments is said of this step first.
What has been read of a text's first part is a list of finished segments and one under way
(`exists_segmentsFrom_append`), and the rest of the text decides only how that one goes on.  A
separator leaves no segment under way, so that the texts on its two sides are cut independently
(`segments_append_cons`).

In ASCII every segment consists of letters or of digits.  Such segments are not cut again, although
lower case has removed the capitals that borders stood at.

## Main definitions

* `Token.spelled`: the characters of a text that are letters or numbers, in lower case.
* `Token.advance`: what reading one character does.
* `Token.EndsBetween`: a segment ends between two parts of a text.
* `Token.IsUniform`: a text of letters in lower case, or of digits.

## Main statements

* `Token.tokenize_append_cons`: separators separate.
* `Token.endsBetween_iff`: where segments end.
* `Token.segments_lossless_and_canonical`
-/

namespace CodeIndex.Token

open Text

variable {before : Option CharClass} {segment text first second : List Char} {c s x y : Char}

/-! ## Classes -/

/-- The characters of a text that are letters or numbers, in lower case. -/
def spelled (text : List Char) : List Char :=
  (text.filter fun c => classOf c ≠ .other).flatMap lower

theorem spelled_cons_of_other (other : classOf c = .other) (text : List Char) :
    spelled (c :: text) = spelled text := by
  simp [spelled, other]

theorem spelled_cons (inside : classOf c ≠ .other) (text : List Char) :
    spelled (c :: text) = lower c ++ spelled text := by
  simp [spelled, inside]

theorem spelled_append (first second : List Char) :
    spelled (first ++ second) = spelled first ++ spelled second := by
  simp [spelled]

theorem lower_ne_nil (c : Char) : lower c ≠ [] := by
  unfold lower
  split <;> exact List.cons_ne_nil _ _

/-- What comes next matters only if it is in lower case. -/
theorem cutsBetween_some_other (before here : CharClass) :
    cutsBetween before here (some .other) = cutsBetween before here none := by
  cases before <;> cases here <;> rfl

/-! ## One character -/

theorem flatten_close (segment : List Char) : (close segment).flatten = segment.reverse := by
  cases segment with
  | nil => rfl
  | cons c segment =>
      show [(c :: segment).reverse].flatten = _
      exact List.flatten_singleton

theorem close_of_ne_nil (underWay : segment ≠ []) : close segment = [segment.reverse] :=
  if_neg (by simpa using underWay)

theorem nil_notMem_close (segment : List Char) : [] ∉ close segment := by
  cases segment <;> simp [close]

/-- **What reading one character does:** the segments that it finishes, and the reversed segment
that is under way behind it. -/
def advance (before : Option CharClass) (segment : List Char) (c : Char)
    (after : Option CharClass) : List (List Char) × List Char :=
  if classOf c = .other then (close segment, [])
  else if before.any (cutsBetween · (classOf c) after) then (close segment, (lower c).reverse)
  else ([], (lower c).reverse ++ segment)

/-- Segmentation reads one character after the other. -/
theorem segmentsFrom_cons (before : Option CharClass) (segment : List Char) (c : Char)
    (text : List Char) :
    segmentsFrom before segment (c :: text) =
      (advance before segment c (text.head?.map classOf)).1 ++
        segmentsFrom (some (classOf c)) (advance before segment c (text.head?.map classOf)).2
          text := by
  rw [segmentsFrom, advance]
  split
  · rfl
  · split <;> rfl

section Advance

variable {after : Option CharClass}

theorem advance_of_other (other : classOf c = .other) :
    advance before segment c after = (close segment, []) :=
  if_pos other

theorem advance_of_inside (inside : classOf c ≠ .other) :
    advance before segment c after =
      if before.any (cutsBetween · (classOf c) after) then (close segment, (lower c).reverse)
      else ([], (lower c).reverse ++ segment) :=
  if_neg inside

/-- A separator in front is as good as nothing. -/
theorem advance_other (segment : List Char) (c : Char) (after : Option CharClass) :
    advance (some .other) segment c after = advance none segment c after := rfl

/-- A separator behind is as good as nothing. -/
theorem advance_some_other (before : Option CharClass) (segment : List Char) (c : Char) :
    advance before segment c (some .other) = advance before segment c none := by
  simp only [advance, cutsBetween_some_other]

/-- No character is lost but separators. -/
theorem flatten_advance (before : Option CharClass) (segment : List Char) (c : Char)
    (after : Option CharClass) :
    (advance before segment c after).1.flatten ++ (advance before segment c after).2.reverse =
      segment.reverse ++ spelled [c] := by
  by_cases other : classOf c = .other
  · rw [advance_of_other other, flatten_close, spelled_cons_of_other other]
    rfl
  · rw [advance_of_inside other, spelled_cons other]
    split
    · rw [flatten_close, List.reverse_reverse]
      exact congrArg (segment.reverse ++ ·) (List.append_nil _).symm
    · rw [List.reverse_append, List.reverse_reverse]
      exact congrArg (segment.reverse ++ ·) (List.append_nil _).symm

theorem nil_notMem_advance (before : Option CharClass) (segment : List Char) (c : Char)
    (after : Option CharClass) : [] ∉ (advance before segment c after).1 := by
  by_cases other : classOf c = .other
  · rw [advance_of_other other]
    exact nil_notMem_close segment
  · rw [advance_of_inside other]
    split
    · exact nil_notMem_close segment
    · exact List.not_mem_nil

/-- Behind a character that is no separator, a segment is under way. -/
theorem advance_ne_nil (inside : classOf c ≠ .other) :
    (advance before segment c after).2 ≠ [] := by
  rw [advance_of_inside inside]
  split <;> simp [lower_ne_nil c]

/-- A segment under way is finished as it is, or it goes on. -/
theorem advance_cases (underWay : segment ≠ []) (before : Option CharClass) (c : Char)
    (after : Option CharClass) :
    (advance before segment c after).1 = [segment.reverse] ∨
      advance before segment c after = ([], (lower c).reverse ++ segment) := by
  rw [← close_of_ne_nil underWay]
  by_cases other : classOf c = .other
  · exact .inl (congrArg Prod.fst (advance_of_other other))
  · rw [advance_of_inside other]
    split
    · exact .inl rfl
    · exact .inr rfl

end Advance

/-! ## What is kept -/

theorem flatten_segmentsFrom (before : Option CharClass) (segment text : List Char) :
    (segmentsFrom before segment text).flatten = segment.reverse ++ spelled text := by
  induction text generalizing before segment with
  | nil =>
      show (close segment).flatten = segment.reverse ++ []
      rw [flatten_close, List.append_nil]
  | cons c text ih =>
      rw [segmentsFrom_cons, List.flatten_append, ih, ← List.append_assoc, flatten_advance,
        List.append_assoc, ← spelled_append]
      rfl

/-- **Nothing but separators is lost,** and everything is in its place. -/
theorem flatten_segments (text : List Char) : (segments text).flatten = spelled text :=
  flatten_segmentsFrom none [] text

theorem nil_notMem_segmentsFrom (before : Option CharClass) (segment text : List Char) :
    [] ∉ segmentsFrom before segment text := by
  induction text generalizing before segment with
  | nil => exact nil_notMem_close segment
  | cons c text ih =>
      rw [segmentsFrom_cons, List.mem_append]
      exact not_or_intro (nil_notMem_advance _ _ _ _) (ih _ _)

/-! ## Separators -/

/-- Behind a separator a text is read as from the start. -/
theorem segmentsFrom_some_other (segment text : List Char) :
    segmentsFrom (some .other) segment text = segmentsFrom none segment text := by
  cases text with
  | nil => rfl
  | cons c text => rw [segmentsFrom_cons, segmentsFrom_cons, advance_other]

theorem segmentsFrom_append_cons (other : classOf s = .other) (before : Option CharClass)
    (segment first second : List Char) :
    segmentsFrom before segment (first ++ s :: second) =
      segmentsFrom before segment first ++ segments second := by
  induction first generalizing before segment with
  | nil =>
      show segmentsFrom before segment (s :: second) = close segment ++ segments second
      rw [segmentsFrom_cons, advance_of_other other, other, segmentsFrom_some_other]
      rfl
  | cons c first ih =>
      -- the last character of the first text sees the separator in place of the end
      have same : advance before segment c ((first ++ s :: second).head?.map classOf) =
          advance before segment c (first.head?.map classOf) := by
        cases first with
        | nil =>
            show advance before segment c (some (classOf s)) = _
            rw [other, advance_some_other]
            rfl
        | cons d first => rfl
      rw [List.cons_append, segmentsFrom_cons, segmentsFrom_cons, same, ih, List.append_assoc]

/-- The texts on both sides of a separator are cut independently. -/
theorem segments_append_cons (other : classOf s = .other) (first second : List Char) :
    segments (first ++ s :: second) = segments first ++ segments second :=
  segmentsFrom_append_cons other none [] first second

/-- **Separators separate.** -/
theorem tokenize_append_cons (other : classOf s = .other) (first second : List Char) :
    tokenize (first ++ s :: second) = tokenize first ++ tokenize second := by
  unfold tokenize
  rw [segments_append_cons other, List.filter_append]

/-- The tokens of texts that are joined by a separator are those of all the texts. -/
theorem tokenize_joinWith (other : classOf s = .other) (texts : List (List Char)) :
    tokenize (joinWith [s] texts) = texts.flatMap tokenize := by
  induction texts with
  | nil => rfl
  | cons text texts ih =>
      cases texts with
      | nil =>
          show tokenize text = tokenize text ++ []
          rw [List.append_nil]
      | cons text' texts =>
          have joined : joinWith [s] (text :: text' :: texts) =
              text ++ s :: joinWith [s] (text' :: texts) := by
            show text ++ [s] ++ _ = _
            rw [List.append_assoc]
            rfl
          rw [joined, tokenize_append_cons other, ih]
          rfl

/-! ## Borders -/

/-- **A segment ends between two parts of a text** if the segments can be parted in the same way:
some spell the first part and the others the second. -/
def EndsBetween (first second : List Char) : Prop :=
  ∃ ended begun, segments (first ++ second) = ended ++ begun ∧
    ended.flatten = spelled first ∧ begun.flatten = spelled second

/-- **What reading has done before the rest of a text:** it has finished some segments, and if the
last character was no separator, one is under way. -/
theorem exists_segmentsFrom_append (before : Option CharClass) (segment first second : List Char)
    (inside : classOf x ≠ .other) :
    ∃ ended underWay, underWay ≠ [] ∧
      segmentsFrom before segment (first ++ x :: second) =
        ended ++ segmentsFrom (some (classOf x)) underWay second ∧
      ended.flatten ++ underWay.reverse = segment.reverse ++ spelled (first ++ [x]) := by
  induction first generalizing before segment with
  | nil => exact ⟨_, _, advance_ne_nil inside, segmentsFrom_cons .., flatten_advance ..⟩
  | cons c first ih =>
      -- what the first character finishes comes before what the others finish
      obtain ⟨ended, underWay, nonempty, cut, kept⟩ := ih (some (classOf c))
        (advance before segment c ((first ++ x :: second).head?.map classOf)).2
      refine ⟨(advance before segment c ((first ++ x :: second).head?.map classOf)).1 ++ ended,
        underWay, nonempty, ?_, ?_⟩
      · rw [List.cons_append, segmentsFrom_cons, cut, List.append_assoc]
      · rw [List.flatten_append, List.append_assoc, kept, ← List.append_assoc, flatten_advance,
          List.append_assoc, ← spelled_append]
        rfl

/-- The segment under way goes on. -/
theorem exists_segmentsFrom_eq_cons (before : Option CharClass) (underWay : segment ≠ [])
    (text : List Char) :
    ∃ more rest, segmentsFrom before segment text = (segment.reverse ++ more) :: rest := by
  induction text generalizing before segment with
  | nil =>
      refine ⟨[], [], ?_⟩
      rw [List.append_nil]
      exact close_of_ne_nil underWay
  | cons c text ih =>
      rw [segmentsFrom_cons]
      rcases advance_cases underWay before c (text.head?.map classOf) with finished | goesOn
      · rw [finished]
        exact ⟨[], _, congrArg (· :: _) (List.append_nil _).symm⟩
      · have underWay' : (lower c).reverse ++ segment ≠ [] := by simp [underWay]
        obtain ⟨more, rest, cut⟩ := ih (some (classOf c)) underWay'
        rw [goesOn]
        refine ⟨lower c ++ more, rest, cut.trans ?_⟩
        rw [List.reverse_append, List.reverse_reverse, List.append_assoc]

/-- A border inside a segment is no border between segments. -/
theorem flatten_ne_of_inside {ended begun ended' rest : List (List Char)} {left right : List Char}
    (left_ne : left ≠ []) (right_ne : right ≠ [])
    (same : ended' ++ (left ++ right) :: rest = ended ++ begun) :
    ended.flatten ≠ ended'.flatten ++ left := by
  intro border
  have nonempty := List.length_pos_of_ne_nil left_ne
  have nonempty' := List.length_pos_of_ne_nil right_ne
  have lengths := congrArg List.length border
  rcases List.append_eq_append_iff.1 same with ⟨more, ended_eq, begun_eq⟩ | ⟨more, ended_eq, -⟩
  · subst ended_eq
    cases more with
    | nil =>
        rw [List.append_nil, List.length_append] at lengths
        omega
    | cons segment more =>
        obtain rfl : left ++ right = segment := (List.cons.inj begun_eq).1
        simp only [List.flatten_append, List.flatten_cons, List.length_append] at lengths
        omega
  · subst ended_eq
    simp only [List.flatten_append, List.length_append] at lengths
    omega

/-- **Where segments end:** two neighbours that are no separators are in different segments exactly
if their classes and the class of the next character say so. -/
theorem endsBetween_iff (inside : classOf x ≠ .other) (inside' : classOf y ≠ .other)
    (first second : List Char) :
    EndsBetween (first ++ [x]) (y :: second) ↔
      cutsBetween (classOf x) (classOf y) (second.head?.map classOf) = true := by
  obtain ⟨ended, underWay, nonempty, cut, kept⟩ :=
    exists_segmentsFrom_append none [] first (y :: second) inside
  have whole : segments (first ++ [x] ++ y :: second) =
      ended ++ segmentsFrom (some (classOf x)) underWay (y :: second) := by
    rw [List.append_assoc]
    exact cut
  rw [segmentsFrom_cons, advance_of_inside inside', Option.any_some] at whole
  constructor
  · rintro ⟨ended', begun, parted, first_eq, -⟩
    by_contra uncut
    -- the segment under way goes on with `y`, so that the border would be inside of it
    have underWay_ne : (lower y).reverse ++ underWay ≠ [] := by simp [nonempty]
    obtain ⟨more, rest, goesOn⟩ :=
      exists_segmentsFrom_eq_cons (some (classOf y)) underWay_ne second
    rw [List.reverse_append, List.reverse_reverse, List.append_assoc] at goesOn
    rw [if_neg uncut, List.nil_append, goesOn] at whole
    refine flatten_ne_of_inside (by simpa using nonempty)
      (List.append_ne_nil_of_left_ne_nil (lower_ne_nil y) more) (whole.symm.trans parted) ?_
    rw [first_eq, kept]
    rfl
  · intro cuts
    rw [if_pos cuts, close_of_ne_nil nonempty] at whole
    refine ⟨ended ++ [underWay.reverse],
      segmentsFrom (some (classOf y)) (lower y).reverse second, ?_, ?_, ?_⟩
    · rw [whole, List.append_assoc]
    · rw [List.flatten_append, List.flatten_singleton, kept]
      rfl
    · rw [flatten_segmentsFrom, List.reverse_reverse, spelled_cons inside']

/-- Where segments end, case by case. -/
theorem cutsBetween_iff (before here : CharClass) (after : Option CharClass) :
    cutsBetween before here after = true ↔
      before = .lower ∧ here = .upper ∨
      (before = .upper ∨ before = .lower) ∧ here = .digit ∨
      before = .digit ∧ (here = .upper ∨ here = .lower) ∨
      before = .upper ∧ here = .upper ∧ after = some .lower := by
  cases before <;> cases here <;> simp [cutsBetween]

/-! ## ASCII -/

/-- The classes of ASCII characters are those that core knows. -/
theorem classOf_of_ascii (ascii : c.toNat < 128) :
    (classOf c = .upper ↔ c.isUpper = true) ∧ (classOf c = .lower ↔ c.isLower = true) ∧
      (classOf c = .digit ↔ c.isDigit = true) ∧ (classOf c ≠ .other ↔ c.isAlphanum = true) :=
  forall_ascii (p := fun c => (classOf c = .upper ↔ c.isUpper = true) ∧
    (classOf c = .lower ↔ c.isLower = true) ∧ (classOf c = .digit ↔ c.isDigit = true) ∧
    (classOf c ≠ .other ↔ c.isAlphanum = true)) (by decide +kernel) ascii

/-- What a character of a class is in lower case. -/
def spells : CharClass → Char → Bool
  | .lower, c | .upper, c => c.isLower
  | .digit, c => c.isDigit
  | .other, _ => false

theorem spells_of_mem_lower (ascii : c.toNat < 128) (inside : classOf c ≠ .other) :
    ∀ d ∈ lower c, spells (classOf c) d = true := by
  intro d mem
  rw [lower_of_ascii ascii] at mem
  obtain rfl := List.mem_singleton.1 mem
  exact forall_ascii (p := fun c => classOf c ≠ .other → spells (classOf c) c.toLower = true)
    (by decide +kernel) ascii inside

/-- Where no segment ends, letters follow letters and digits follow digits. -/
theorem spells_of_not_cutsBetween {before here : CharClass} {after : Option CharClass}
    (uncut : ¬cutsBetween before here after = true) (inside : here ≠ .other)
    (spelled : spells before c = true) : spells here c = true := by
  cases before <;> cases here <;> simp_all [cutsBetween, spells]

/-- **A text of letters in lower case, or of digits.** -/
def IsUniform (text : List Char) : Prop :=
  (∀ c ∈ text, c.isLower = true) ∨ ∀ c ∈ text, c.isDigit = true

theorem isUniform_of_spells (before : Option CharClass)
    (spelled : ∀ c ∈ text, before.any (spells · c) = true) : IsUniform text := by
  cases before with
  | none => exact .inl fun c mem => absurd (spelled c mem) Bool.false_ne_true
  | some before =>
      cases before with
      | lower => exact .inl spelled
      | upper => exact .inl spelled
      | digit => exact .inr spelled
      | other => exact .inl fun c mem => absurd (spelled c mem) Bool.false_ne_true

/-- A segment that is spelled as a class says is finished uniform. -/
theorem isUniform_of_mem_close (spelled : ∀ c ∈ segment, before.any (spells · c) = true) :
    ∀ finished ∈ close segment, IsUniform finished := by
  intro finished mem
  cases segment with
  | nil => cases mem
  | cons d segment =>
      obtain rfl := List.mem_singleton.1 mem
      exact isUniform_of_spells before fun c mem => spelled c (List.mem_reverse.1 mem)

/-- **Reading one ASCII character** finishes uniform segments and leaves one under way that is
spelled as its class says. -/
theorem isUniform_advance (ascii : c.toNat < 128) (after : Option CharClass)
    (spelled : ∀ d ∈ segment, before.any (spells · d) = true) :
    (∀ finished ∈ (advance before segment c after).1, IsUniform finished) ∧
      ∀ d ∈ (advance before segment c after).2, (some (classOf c)).any (spells · d) = true := by
  by_cases other : classOf c = .other
  · rw [advance_of_other other]
    exact ⟨isUniform_of_mem_close spelled, List.forall_mem_nil _⟩
  · have small : ∀ d ∈ (lower c).reverse, spells (classOf c) d = true := fun d mem =>
      spells_of_mem_lower ascii other d (List.mem_reverse.1 mem)
    rw [advance_of_inside other]
    split
    · exact ⟨isUniform_of_mem_close spelled, small⟩
    · rename_i uncut
      refine ⟨List.forall_mem_nil _, List.forall_mem_append.2 ⟨small, fun d mem => ?_⟩⟩
      cases before with
      | none => cases spelled d mem
      | some before => exact spells_of_not_cutsBetween uncut other (spelled d mem)

/-- In ASCII segments are uniform, as long as the segment under way is spelled as the class of the
last character says. -/
theorem isUniform_of_mem_segmentsFrom (ascii : ∀ c ∈ text, c.toNat < 128)
    (spelled : ∀ c ∈ segment, before.any (spells · c) = true) :
    ∀ finished ∈ segmentsFrom before segment text, IsUniform finished := by
  induction text generalizing before segment with
  | nil => exact isUniform_of_mem_close spelled
  | cons c text ih =>
      obtain ⟨ascii_c, ascii_text⟩ := List.forall_mem_cons.1 ascii
      obtain ⟨uniform, spelled'⟩ :=
        isUniform_advance ascii_c (text.head?.map classOf) spelled
      rw [segmentsFrom_cons]
      exact List.forall_mem_append.2 ⟨uniform, ih ascii_text spelled'⟩

/-- Every segment of an ASCII text consists of letters or of digits. -/
theorem isUniform_of_mem_segments (ascii : ∀ c ∈ text, c.toNat < 128) :
    ∀ segment ∈ segments text, IsUniform segment :=
  isUniform_of_mem_segmentsFrom ascii (List.forall_mem_nil _)

/-- A text whose characters have one class, between which no segment ends, is not cut. -/
theorem segmentsFrom_of_forall (kind : CharClass) (inside : kind ≠ .other)
    (uncut : ∀ after, cutsBetween kind kind after = false)
    (same : ∀ c ∈ text, classOf c = kind ∧ lower c = [c])
    (before_eq : before = none ∨ before = some kind) (segment : List Char) :
    segmentsFrom before segment text = close (text.reverse ++ segment) := by
  induction text generalizing before segment with
  | nil => rfl
  | cons c text ih =>
      obtain ⟨⟨class_eq, lower_eq⟩, same'⟩ := List.forall_mem_cons.1 same
      have goesOn : before.any (cutsBetween · (classOf c) (text.head?.map classOf)) = false := by
        rw [class_eq]
        rcases before_eq with rfl | rfl
        · rfl
        · exact uncut _
      rw [segmentsFrom_cons, advance_of_inside (class_eq ▸ inside), goesOn,
        if_neg Bool.false_ne_true, class_eq, lower_eq]
      show segmentsFrom (some kind) (c :: segment) text = _
      rw [ih same' (.inr rfl), List.reverse_cons, List.append_assoc]
      rfl

theorem isAscii_of_isLower (small : c.isLower = true) : c.toNat < 128 := by
  have atMost : c.val ≤ 'z'.val := of_decide_eq_true ((Bool.and_eq_true_iff.1 small).2)
  exact Nat.lt_of_le_of_lt (UInt32.le_iff_toNat_le.1 atMost) (by decide)

theorem isAscii_of_isDigit (digit : c.isDigit = true) : c.toNat < 128 := by
  have atMost : c.val ≤ '9'.val := of_decide_eq_true ((Bool.and_eq_true_iff.1 digit).2)
  exact Nat.lt_of_le_of_lt (UInt32.le_iff_toNat_le.1 atMost) (by decide)

/-- **Uniform texts are not cut again.** -/
theorem segments_of_isUniform (uniform : IsUniform text) (nonempty : text ≠ []) :
    segments text = [text] := by
  have again : segments text = close text.reverse := by
    rw [← List.append_nil text.reverse]
    rcases uniform with small | digits
    · refine segmentsFrom_of_forall .lower nofun (fun _ => rfl) ?_ (.inl rfl) []
      exact fun c mem => forall_ascii
        (p := fun c => c.isLower = true → classOf c = .lower ∧ lower c = [c])
        (by decide +kernel) (isAscii_of_isLower (small c mem)) (small c mem)
    · refine segmentsFrom_of_forall .digit nofun (fun _ => rfl) ?_ (.inl rfl) []
      exact fun c mem => forall_ascii
        (p := fun c => c.isDigit = true → classOf c = .digit ∧ lower c = [c])
        (by decide +kernel) (isAscii_of_isDigit (digits c mem)) (digits c mem)
  rw [again, close_of_ne_nil (by simpa using nonempty), List.reverse_reverse]

/-- A token that is uniform is its own only token. -/
theorem tokenize_of_isUniform (uniform : IsUniform text) (meaningful : isMeaningful text = true) :
    tokenize text = [text] := by
  have nonempty : text ≠ [] := by
    rintro rfl
    cases meaningful
  unfold tokenize
  rw [segments_of_isUniform uniform nonempty, List.filter_cons_of_pos meaningful]
  rfl

/-- Between ASCII letters and digits, segments end where core's classes say so. -/
theorem endsBetween_iff_of_ascii (ascii : x.toNat < 128) (ascii' : y.toNat < 128)
    (ascii'' : ∀ c ∈ second, c.toNat < 128) (inside : x.isAlphanum = true)
    (inside' : y.isAlphanum = true) (first : List Char) :
    EndsBetween (first ++ [x]) (y :: second) ↔
      x.isLower = true ∧ y.isUpper = true ∨ x.isAlpha = true ∧ y.isDigit = true ∨
      x.isDigit = true ∧ y.isAlpha = true ∨
      x.isUpper = true ∧ y.isUpper = true ∧ second.head?.any Char.isLower = true := by
  obtain ⟨upper, small, digit, alphanumeric⟩ := classOf_of_ascii ascii
  obtain ⟨upper', small', digit', alphanumeric'⟩ := classOf_of_ascii ascii'
  have letter (c : Char) : c.isAlpha = true ↔ c.isUpper = true ∨ c.isLower = true :=
    Bool.or_eq_true_iff
  have next : second.head?.map classOf = some .lower ↔ second.head?.any Char.isLower = true := by
    cases second with
    | nil => simp
    | cons c second =>
        rw [List.head?_cons, Option.map_some, Option.any_some, Option.some_inj]
        exact (classOf_of_ascii (ascii'' c List.mem_cons_self)).2.1
  rw [endsBetween_iff (alphanumeric.2 inside) (alphanumeric'.2 inside'), cutsBetween_iff, next,
    upper, small, digit, upper', small', digit', letter x, letter y]

/-- **Splitting loses nothing, and splitting again changes nothing.**  The segments of any text
spell it without its separators, and the tokens are those segments that have two characters and are
no stopwords.  In ASCII, neighbouring letters and digits are in different segments exactly where a
capital follows a small letter, where letters and digits meet, and before the last of several
capitals if a small letter follows.  The tokens consist of letters or of digits, and joined by
spaces they are split into themselves. -/
theorem segments_lossless_and_canonical (text : List Char) :
    (segments text).flatten = spelled text ∧ [] ∉ segments text ∧
    tokenize text = (segments text).filter (fun segment =>
      2 ≤ segment.length ∧ String.ofList segment ∉ stopwords) ∧
    ((∀ c ∈ text, c.toNat < 128) →
      (∀ first x y second, text = first ++ x :: y :: second →
        x.isAlphanum = true → y.isAlphanum = true →
        (EndsBetween (first ++ [x]) (y :: second) ↔
          x.isLower = true ∧ y.isUpper = true ∨ x.isAlpha = true ∧ y.isDigit = true ∨
          x.isDigit = true ∧ y.isAlpha = true ∨
          x.isUpper = true ∧ y.isUpper = true ∧ second.head?.any Char.isLower = true)) ∧
      (∀ token ∈ tokenize text, IsUniform token) ∧
      tokenize (joinWith [' '] (tokenize text)) = tokenize text) := by
  refine ⟨flatten_segments text, nil_notMem_segmentsFrom none [] text, ?_, fun ascii => ?_⟩
  · refine List.filter_congr fun segment _ => ?_
    rw [Bool.eq_iff_iff, decide_eq_true_iff]
    simp [isMeaningful, Nat.lt_iff_add_one_le]
  · have uniform : ∀ token ∈ tokenize text, IsUniform token := fun token mem =>
      isUniform_of_mem_segments ascii token (List.mem_filter.1 mem).1
    refine ⟨?_, uniform, ?_⟩
    · rintro first x y second rfl inside inside'
      simp only [List.forall_mem_append, List.forall_mem_cons] at ascii
      exact endsBetween_iff_of_ascii ascii.2.1 ascii.2.2.1 ascii.2.2.2 inside inside' first
    · calc tokenize (joinWith [' '] (tokenize text))
          = (tokenize text).flatMap tokenize := tokenize_joinWith (by decide) _
        _ = (tokenize text).flatMap fun token => [token] := by
            refine List.flatMap_congr fun token mem => ?_
            exact tokenize_of_isUniform (uniform token mem) (List.mem_filter.1 mem).2
        _ = tokenize text := List.flatMap_singleton' _

/-- A run of capitals, a number and a word that is dropped. -/
theorem segments_lossless_and_canonical_httpServer :
    (∀ c ∈ "aHTTPServer42".toList, c.toNat < 128) ∧
      EndsBetween "aHTTP".toList "Server42".toList ∧
      ¬EndsBetween "aHTT".toList "PServer42".toList ∧
      tokenize (joinWith [' '] (tokenize "aHTTPServer42".toList)) =
        ["http".toList, "server".toList, "42".toList] := by
  have ascii : ∀ c ∈ "aHTTPServer42".toList, c.toNat < 128 := by
    have all : "aHTTPServer42".toList.all (fun c => decide (c.toNat < 128)) = true := by decide
    exact fun c mem => of_decide_eq_true (List.all_eq_true.1 all c mem)
  obtain ⟨borders, -, again⟩ :=
    (segments_lossless_and_canonical "aHTTPServer42".toList).2.2.2 ascii
  refine ⟨ascii, ?_, ?_, again.trans (by decide +kernel)⟩
  · exact (borders "aHTT".toList 'P' 'S' "erver42".toList (by decide) (by decide) (by decide)).2
      (by decide)
  · intro ends
    exact absurd ((borders "aHT".toList 'T' 'P' "Server42".toList (by decide) (by decide)
      (by decide)).1 ends) (by decide)

end CodeIndex.Token
