import CodeIndex.Text.CharClass
import CodeIndex.Text.Line
import CodeIndex.Text.Pattern
import Mathlib.Data.List.Forall2

/-!
# Lower case of a text

Lower case is a matter of single characters but for one letter.  A capital sigma is spelled
differently at the end of a word, and whether it stands there is for the characters around it to
say, as far as the nearest letter on each side.  That search ends at a character which is no letter
and is not stepped over either, such as a slash.  So the texts on the two sides of a slash have
their lower case independently of each other (`Text.lowerText_append_cons`), and the lower case of a
path is that of its segments.

In ASCII lower case is what core knows, and it does not show in the lower case of a text whether
letters of ASCII were capital letters (`Text.lowerText_map_toLower`).

## Main definitions

* `Text.SameLetter`, `Text.SameText`: what differs in the case of ASCII letters at most.
* `Text.EqualInAnyCase`: what counts as equal where case is ignored.

## Main statements

* `Text.toLower_eq_iff`: what core's lower case makes equal.
* `Text.lowerText_append_cons`: lower case on two sides of a character.
* `Text.mem_of_mem_lowerText`: lower case brings no signs into a text.
* `Text.lowerText_map_toLower`: texts that differ in the case of ASCII letters.
-/

namespace CodeIndex.Text

variable {before text : List Char} {c d : Char}

/-! ## Texts that differ in case at most -/

/-- Whether two characters are equal, or one ASCII letter in two cases. -/
def SameLetter (c d : Char) : Prop :=
  c = d ∨ c.isAlpha = true ∧ d.isAlpha = true ∧ c.toNat % 32 = d.toNat % 32

/-- Whether two texts differ at most in the case of ASCII letters. -/
def SameText (a b : String) : Prop := List.Forall₂ SameLetter a.toList b.toList

theorem toNat_toLower (c : Char) :
    c.toLower.toNat = if 65 ≤ c.toNat ∧ c.toNat ≤ 90 then c.toNat + 32 else c.toNat := by
  unfold Char.toLower
  split
  · rename_i large
    have bounds : 65 ≤ c.toNat ∧ c.toNat ≤ 90 := large
    rw [if_pos bounds]
    change (c.val + 32).toNat = c.toNat + 32
    rw [UInt32.toNat_add]
    change (c.toNat + 32) % 2 ^ 32 = _
    omega
  · rename_i small
    exact (if_neg (show ¬(65 ≤ c.toNat ∧ c.toNat ≤ 90) from small)).symm

theorem isAlpha_iff {c : Char} :
    c.isAlpha = true ↔ 65 ≤ c.toNat ∧ c.toNat ≤ 90 ∨ 97 ≤ c.toNat ∧ c.toNat ≤ 122 := by
  have letter : c.isAlpha = (c.isUpper || c.isLower) := rfl
  have upper : c.isUpper = decide (c.val ≥ 65 ∧ c.val ≤ 90) := rfl
  have lower : c.isLower = (decide (c.val ≥ 97) && decide (c.val ≤ 122)) := rfl
  simp only [letter, upper, lower, Bool.or_eq_true, Bool.and_eq_true, decide_eq_true_iff,
    ge_iff_le, UInt32.le_iff_toNat_le]
  rfl

theorem toLower_eq_iff {c d : Char} : c.toLower = d.toLower ↔ SameLetter c d := by
  rw [SameLetter, ← Char.toNat_inj, ← Char.toNat_inj, toNat_toLower, toNat_toLower, isAlpha_iff,
    isAlpha_iff]
  split <;> split <;> omega

theorem sameText_iff {a b : String} : SameText a b ↔ equalIgnoringCase a b = true := by
  rw [equalIgnoringCase, beq_iff_eq, ← List.forall₂_eq_eq_eq, List.forall₂_map_left_iff,
    List.forall₂_map_right_iff]
  simp only [toLower_eq_iff]
  rfl

instance (a b : String) : Decidable (SameText a b) := decidable_of_iff' _ sameText_iff

theorem SameText.refl (a : String) : SameText a a := List.forall₂_same.2 fun _ _ => .inl rfl

theorem SameText.symm {a b : String} (same : SameText a b) : SameText b a := by
  rw [sameText_iff, equalIgnoringCase, beq_iff_eq] at same ⊢
  exact same.symm

theorem SameText.trans {a b c : String} (same : SameText a b) (same' : SameText b c) :
    SameText a c := by
  rw [sameText_iff, equalIgnoringCase, beq_iff_eq] at same same' ⊢
  exact Eq.trans same same'

/-! ## ASCII -/

theorem forall_ascii {p : Char → Prop} (holds : ∀ n < 128, p (Char.ofNat n))
    (ascii : c.toNat < 128) : p c :=
  Char.ofNat_toNat c ▸ holds c.toNat ascii

theorem lower_of_ascii (ascii : c.toNat < 128) : lower c = [c.toLower] :=
  forall_ascii (p := fun c => lower c = [c.toLower]) (by decide +kernel) ascii

/-! ## Any case -/

/-- **Characters that differ in case only.**  Outside ASCII, the Kelvin sign is a `k` and the long
`s` is an `s`. -/
def EqualInAnyCase (c d : Char) : Prop :=
  c.toLower = d.toLower ∨ (c.toLower = 'k' ∧ d.toNat = 0x212A) ∨ (c.toLower = 's' ∧ d.toNat = 0x17F)

instance (c d : Char) : Decidable (EqualInAnyCase c d) :=
  inferInstanceAs (Decidable (_ ∨ _))

/-- Folding makes a character of ASCII equal to those that it equals in any case. -/
theorem foldCase_eq_iff {c d : Char} (ascii : c.toNat < 128) :
    Pattern.foldCase c = Pattern.foldCase d ↔ EqualInAnyCase c d := by
  obtain ⟨plain, small⟩ : Pattern.foldCase c = c.toLower ∧ c.toLower.toNat < 128 :=
    forall_ascii (p := fun c => Pattern.foldCase c = c.toLower ∧ c.toLower.toNat < 128)
      (by decide +kernel) ascii
  have outside {e : Char} (large : 128 ≤ e.toNat) : c.toLower ≠ e := fun same =>
    absurd (same ▸ small) (Nat.not_lt.2 large)
  rw [plain, EqualInAnyCase]
  by_cases kelvin : d.toNat = 0x212A
  · obtain rfl : Char.ofNat 0x212A = d := kelvin ▸ Char.ofNat_toNat d
    have folded : Pattern.foldCase (Char.ofNat 0x212A) = 'k' := by decide
    simpa [folded] using fun same => absurd same (outside (by decide))
  by_cases long : d.toNat = 0x17F
  · obtain rfl : Char.ofNat 0x17F = d := long ▸ Char.ofNat_toNat d
    have folded : Pattern.foldCase (Char.ofNat 0x17F) = 's' := by decide
    simpa [folded] using fun same => absurd same (outside (by decide))
  · simp [Pattern.foldCase, kelvin, long]

/-! ## Sides of a character -/

/-- Whether a search for a neighbouring letter ends at a character without having found one. -/
structure EndsWord (c : Char) : Prop where
  notCased : isCased c = false
  notIgnored : isCaseIgnorable c = false

namespace EndsWord

variable (ends : EndsWord c)

include ends

theorem ne_sigma : c ≠ 'Σ' := by
  rintro rfl
  exact absurd ends.notCased (by decide)

/-- What stands behind the end of a word is not looked at. -/
theorem nextIsCased_append_cons (text rest : List Char) :
    nextIsCased (text ++ c :: rest) = nextIsCased text := by
  induction text with
  | nil => simp [nextIsCased, ends.notCased, ends.notIgnored]
  | cons d text ih => rw [List.cons_append, nextIsCased, nextIsCased, ih]

theorem lowerAfter_append_cons (before rest text : List Char) :
    lowerAfter (before ++ c :: rest) text = lowerAfter before text := by
  induction text generalizing before with
  | nil => rfl
  | cons d text ih =>
      rw [lowerAfter, lowerAfter, ends.nextIsCased_append_cons, ← List.cons_append, ih]

theorem lowerAfter_cons (before text : List Char) :
    lowerAfter before (c :: text) = lower c ++ lowerAfter [] text := by
  have forgotten := ends.lowerAfter_append_cons [] before text
  rw [List.nil_append] at forgotten
  simp [lowerAfter, ends.ne_sigma, forgotten]

end EndsWord

/-- **The lower case of a text** on one side of a character that ends words does not depend on what
stands on the other side. -/
theorem lowerText_append_cons (ends : EndsWord c) (first second : List Char) :
    lowerText (first ++ c :: second) = lowerText first ++ lower c ++ lowerText second := by
  have general (before : List Char) : lowerAfter before (first ++ c :: second) =
      lowerAfter before first ++ (lower c ++ lowerAfter [] second) := by
    induction first generalizing before with
    | nil => exact ends.lowerAfter_cons before second
    | cons d first ih =>
        rw [List.cons_append, lowerAfter, lowerAfter, ends.nextIsCased_append_cons, ih,
          List.append_assoc]
  rw [lowerText, general, ← List.append_assoc, lowerText, lowerText]

/-! ## Characters of the lower case -/

/-- A code point is left as it is or sent to one above the target of a range. -/
theorem mapRanges_cases (code : Nat) (entries : List MappedRange) :
    mapRanges code entries = code ∨ ∃ entry ∈ entries, entry.target ≤ mapRanges code entries := by
  induction entries with
  | nil => exact .inl rfl
  | cons entry entries ih =>
      rw [mapRanges]
      split
      · exact .inl rfl
      · split
        · exact .inr ⟨entry, List.mem_cons_self, Nat.le_add_right _ _⟩
        · exact ih.imp_right fun ⟨other, member, above⟩ =>
            ⟨other, List.mem_cons_of_mem entry member, above⟩

/-- A number that is no code point stands for the first one. -/
theorem toNat_ofNat_cases (code : Nat) :
    (Char.ofNat code).toNat = code ∨ (Char.ofNat code).toNat = 0 := by
  by_cases valid : code.isValidChar
  · rw [Char.ofNat, dif_pos valid]
    exact .inl rfl
  · rw [Char.ofNat, dif_neg valid]
    exact .inr rfl

/-- Signs below the small letters are the lower case of themselves only. -/
theorem eq_of_mem_lower (positive : 0 < d.toNat) (low : d.toNat < 97) (member : d ∈ lower c) :
    d = c := by
  have targets : ∀ entry ∈ lowerRanges, 97 ≤ entry.target := by
    decide +kernel
  unfold lower at member
  split at member
  · simp only [List.mem_cons, List.not_mem_nil, or_false] at member
    rcases member with rfl | rfl <;> exact absurd low (by decide)
  · obtain rfl := List.mem_singleton.1 member
    rcases mapRanges_cases c.toNat lowerRanges with same | ⟨entry, listed, above⟩
    · rw [same, Char.ofNat_toNat]
    · have := targets entry listed
      rcases toNat_ofNat_cases (mapRanges c.toNat lowerRanges) with valid | invalid <;> omega

theorem exists_of_mem_lowerAfter (member : d ∈ lowerAfter before text) :
    d = 'ς' ∨ ∃ c ∈ text, d ∈ lower c := by
  induction text generalizing before with
  | nil => cases member
  | cons c text ih =>
      rw [lowerAfter] at member
      rcases List.mem_append.1 member with here | later
      · split at here
        · exact .inl (List.mem_singleton.1 here)
        · exact .inr ⟨c, List.mem_cons_self, here⟩
      · exact (ih later).imp_right fun ⟨other, listed, found⟩ =>
          ⟨other, List.mem_cons_of_mem c listed, found⟩

/-- **Signs below the small letters** are in the lower case of a text only if they are in the
text. -/
theorem mem_of_mem_lowerText (positive : 0 < d.toNat) (low : d.toNat < 97)
    (member : d ∈ lowerText text) : d ∈ text := by
  rcases exists_of_mem_lowerAfter member with rfl | ⟨c, listed, found⟩
  · exact absurd low (by decide)
  · exact eq_of_mem_lower positive low found ▸ listed

/-! ## Case of ASCII letters -/

/-- The lower case of a letter of ASCII is as good as the letter, wherever it is looked at. -/
theorem toLower_alike (c : Char) : lower c.toLower = lower c ∧ isCased c.toLower = isCased c ∧
    isCaseIgnorable c.toLower = isCaseIgnorable c ∧ (c.toLower = 'Σ' ↔ c = 'Σ') := by
  by_cases ascii : c.toNat < 128
  · exact forall_ascii (p := fun c => lower c.toLower = lower c ∧ isCased c.toLower = isCased c ∧
      isCaseIgnorable c.toLower = isCaseIgnorable c ∧ (c.toLower = 'Σ' ↔ c = 'Σ'))
      (by decide +kernel) ascii
  · have same : c.toLower = c := by
      rw [← Char.toNat_inj, toNat_toLower, if_neg]
      omega
    simp [same]

theorem nextIsCased_map_toLower (text : List Char) :
    nextIsCased (text.map Char.toLower) = nextIsCased text := by
  induction text with
  | nil => rfl
  | cons c text ih =>
      obtain ⟨-, cased, ignorable, -⟩ := toLower_alike c
      rw [List.map_cons, nextIsCased, nextIsCased, cased, ignorable, ih]

theorem lowerAfter_map_toLower (before text : List Char) :
    lowerAfter (before.map Char.toLower) (text.map Char.toLower) = lowerAfter before text := by
  induction text generalizing before with
  | nil => rfl
  | cons c text ih =>
      obtain ⟨small, -, -, sigma⟩ := toLower_alike c
      have behind := ih (c :: before)
      rw [List.map_cons] at behind
      rw [List.map_cons, lowerAfter, lowerAfter, nextIsCased_map_toLower, nextIsCased_map_toLower,
        behind, small]
      simp only [sigma]

/-- **Texts that differ in the case of ASCII letters** have one lower case. -/
theorem lowerText_map_toLower (text : List Char) :
    lowerText (text.map Char.toLower) = lowerText text :=
  lowerAfter_map_toLower [] text

end CodeIndex.Text
