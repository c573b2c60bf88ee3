import CodeIndex.Json.Reader
import Mathlib.Data.List.TakeWhile

/-!
# Scanning token by token

A text is scanned token by token, with a bound for the number of tokens.  As every token takes a
character, the bound does not matter (`scan_cons`).  What follows a token does not matter either, as
long as it cannot be a part of it: behind a number, that is what may stand behind a value,
`IsBehind`.

## Main definitions

* `IsBehind`: whether a text may stand behind a value.

## Main statements

* `scan_cons`: a text is its first token and what follows it.
* `number?_append`: a number and what follows it.
-/

namespace CodeIndex.Json

variable {cs rest : List Char}

/-- Whether a text may stand directly behind a value: it is empty, or begins with a mark that
may. -/
def IsBehind (rest : List Char) : Prop := ∀ c ∈ rest.head?, c = ',' ∨ c = ']' ∨ c = '}'

theorem isBehind_nil : IsBehind [] := fun _ none => nomatch none

theorem isBehind_cons {c : Char} (mark : c = ',' ∨ c = ']' ∨ c = '}') : IsBehind (c :: rest) :=
  fun _ first => Option.some.inj first ▸ mark

/-! ## Numbers -/

/-- A number without its sign at the start of a text. -/
def size? (negative : Bool) (cs : List Char) : Option (JsonNumber × List Char) := do
  let (whole, cs) := digits cs
  if whole.isEmpty || (whole.head? == some '0' && whole.length != 1) then failure
  let (fraction, cs) ← fraction? cs
  let (exponent, cs) ← exponent? cs
  return (← NumberText.value? ⟨negative, whole, fraction, exponent⟩, cs)

theorem number?_minus : number? ('-' :: cs) = size? true cs := rfl

theorem number?_of_ne (unsigned : cs.head? ≠ some '-') : number? cs = size? false cs := by
  unfold number? size?
  split
  rename_i signed
  split at signed
  · exact absurd rfl unsigned
  · cases signed
    rfl

/-- The parts of a number at the start of a text. -/
theorem size?_eq_some_iff {negative : Bool} {n : JsonNumber} :
    size? negative cs = some (n, rest) ↔
      ∃ fraction between exponent, (digits cs).1 ≠ [] ∧
        ((digits cs).1.head? = some '0' → (digits cs).1.length = 1) ∧
        fraction? (digits cs).2 = some (fraction, between) ∧
        exponent? between = some (exponent, rest) ∧
        NumberText.value? ⟨negative, (digits cs).1, fraction, exponent⟩ = some n := by
  have refused : ((digits cs).1.isEmpty || (digits cs).1.head? == some '0' &&
      (digits cs).1.length != 1) = true ↔
      ¬((digits cs).1 ≠ [] ∧ ((digits cs).1.head? = some '0' → (digits cs).1.length = 1)) := by
    simp only [Bool.or_eq_true, List.isEmpty_iff, Bool.and_eq_true, beq_iff_eq, bne_iff_ne]
    grind
  unfold size?
  dsimp only
  split
  · rename_i wrong
    rw [refused] at wrong
    constructor
    · intro read
      cases read
    · rintro ⟨fraction, between, exponent, filled, plain, -⟩
      exact absurd ⟨filled, plain⟩ wrong
  · rename_i right
    rw [refused, not_not] at right
    simp only [Option.bind_eq_bind, Option.pure_def, Option.bind_eq_some_iff, Option.some.injEq,
      Prod.exists, Prod.mk.injEq]
    grind

theorem not_isDigit_of_isBehind (behind : IsBehind rest) {c : Char} (first : c ∈ rest.head?) :
    c.isDigit = false := by
  rcases behind c first with rfl | rfl | rfl <;> decide

theorem digits_append (behind : IsBehind rest) (cs : List Char) :
    digits (cs ++ rest) = ((digits cs).1, (digits cs).2 ++ rest) := by
  induction cs with
  | nil =>
      cases rest with
      | nil => rfl
      | cons c rest =>
          have none := not_isDigit_of_isBehind behind rfl
          simp [digits, none]
  | cons c cs ih =>
      unfold digits at ih ⊢
      cases digit : c.isDigit <;> simp_all

/-- Nothing that stands behind a value begins with this character. -/
theorem head?_append_ne (behind : IsBehind rest) {c : Char} (part : cs.head? ≠ some c)
    (mark : c ≠ ',' ∧ c ≠ ']' ∧ c ≠ '}') : (cs ++ rest).head? ≠ some c := by
  cases cs with
  | nil =>
      intro first
      rcases behind c first with rfl | rfl | rfl <;> simp at mark
  | cons d cs => exact part

theorem fraction?_of_ne (pointless : cs.head? ≠ some '.') : fraction? cs = some ([], cs) := by
  unfold fraction?
  split
  · exact absurd rfl pointless
  · rfl

theorem fraction?_append (behind : IsBehind rest) {fraction between : List Char}
    (read : fraction? cs = some (fraction, between)) :
    fraction? (cs ++ rest) = some (fraction, between ++ rest) := by
  by_cases point : cs.head? = some '.'
  · obtain ⟨cs, rfl⟩ := List.head?_eq_some_iff.1 point
    rw [fraction?] at read
    rw [List.cons_append, fraction?, digits_append behind]
    grind
  · rw [fraction?_of_ne point] at read
    cases read
    exact fraction?_of_ne (head?_append_ne behind point (by decide))

/-- The sign of an exponent at the start of a text. -/
def exponentSign : List Char → Bool × List Char
  | '+' :: cs => (false, cs)
  | '-' :: cs => (true, cs)
  | cs => (false, cs)

theorem exponent?_mark {c : Char} (mark : c = 'e' ∨ c = 'E') : exponent? (c :: cs) =
    if (digits (exponentSign cs).2).1.isEmpty then none
    else some (some ((exponentSign cs).1, (digits (exponentSign cs).2).1),
      (digits (exponentSign cs).2).2) := by
  have marked : (decide (c = 'e') || decide (c = 'E')) = true := by simpa using mark
  exact if_pos marked

theorem exponent?_of_ne (small : cs.head? ≠ some 'e') (large : cs.head? ≠ some 'E') :
    exponent? cs = some (none, cs) := by
  unfold exponent?
  grind

theorem exponentSign_of_ne (plus : cs.head? ≠ some '+') (minus : cs.head? ≠ some '-') :
    exponentSign cs = (false, cs) := by
  unfold exponentSign
  split
  · exact absurd rfl plus
  · exact absurd rfl minus
  · rfl

theorem exponentSign_append (behind : IsBehind rest) (cs : List Char) :
    exponentSign (cs ++ rest) = ((exponentSign cs).1, (exponentSign cs).2 ++ rest) := by
  by_cases plus : cs.head? = some '+'
  · obtain ⟨cs, rfl⟩ := List.head?_eq_some_iff.1 plus
    rfl
  by_cases minus : cs.head? = some '-'
  · obtain ⟨cs, rfl⟩ := List.head?_eq_some_iff.1 minus
    rfl
  rw [exponentSign_of_ne plus minus]
  exact exponentSign_of_ne (head?_append_ne behind plus (by decide))
    (head?_append_ne behind minus (by decide))

theorem exponent?_append (behind : IsBehind rest) {exponent : Option (Bool × List Char)}
    {between : List Char} (read : exponent? cs = some (exponent, between)) :
    exponent? (cs ++ rest) = some (exponent, between ++ rest) := by
  by_cases marked : cs.head? = some 'e' ∨ cs.head? = some 'E'
  · obtain ⟨c, cs, rfl, mark⟩ : ∃ c cs', cs = c :: cs' ∧ (c = 'e' ∨ c = 'E') := by
      cases cs with
      | nil => simp at marked
      | cons c cs => exact ⟨c, cs, rfl, by simpa using marked⟩
    rw [exponent?_mark mark] at read
    rw [List.cons_append, exponent?_mark mark, exponentSign_append behind, digits_append behind]
    grind
  · rw [not_or] at marked
    rw [exponent?_of_ne marked.1 marked.2] at read
    cases read
    exact exponent?_of_ne (head?_append_ne behind marked.1 (by decide))
      (head?_append_ne behind marked.2 (by decide))

theorem size?_append (behind : IsBehind rest) {negative : Bool} {n : JsonNumber}
    {between : List Char} (read : size? negative cs = some (n, between)) :
    size? negative (cs ++ rest) = some (n, between ++ rest) := by
  obtain ⟨fraction, between, exponent, filled, plain, read, read', value⟩ :=
    size?_eq_some_iff.1 read
  refine size?_eq_some_iff.2 ⟨fraction, between ++ rest, exponent, ?_⟩
  rw [digits_append behind]
  exact ⟨filled, plain, fraction?_append behind read, exponent?_append behind read', value⟩

/-- **A number and what follows it.** -/
theorem number?_append (behind : IsBehind rest) {n : JsonNumber} {between : List Char}
    (read : number? cs = some (n, between)) :
    number? (cs ++ rest) = some (n, between ++ rest) := by
  by_cases minus : cs.head? = some '-'
  · obtain ⟨cs, rfl⟩ := List.head?_eq_some_iff.1 minus
    exact size?_append behind read
  · rw [number?_of_ne minus] at read
    rw [number?_of_ne (head?_append_ne behind minus (by decide))]
    exact size?_append behind read

/-! ## Every token takes a character -/

theorem length_digits_add (cs : List Char) :
    (digits cs).1.length + (digits cs).2.length = cs.length := by
  rw [← List.length_append]
  exact congrArg List.length List.takeWhile_append_dropWhile

theorem length_fraction? {fraction : List Char} (read : fraction? cs = some (fraction, rest)) :
    rest.length ≤ cs.length := by
  unfold fraction? at read
  split at read
  · rename_i cs
    have whole := length_digits_add cs
    grind
  · grind

theorem length_exponentSign (cs : List Char) : (exponentSign cs).2.length ≤ cs.length := by
  unfold exponentSign
  split <;> simp

theorem length_exponent? {exponent : Option (Bool × List Char)}
    (read : exponent? cs = some (exponent, rest)) : rest.length ≤ cs.length := by
  cases cs with
  | nil =>
      cases read
      exact le_refl _
  | cons c cs =>
      by_cases mark : c = 'e' ∨ c = 'E'
      · have whole := length_digits_add (exponentSign cs).2
        have sign := length_exponentSign cs
        rw [exponent?_mark mark] at read
        grind
      · rw [not_or] at mark
        rw [exponent?_of_ne (by simpa using mark.1) (by simpa using mark.2)] at read
        cases read
        exact le_refl _

theorem length_size? {negative : Bool} {n : JsonNumber}
    (read : size? negative cs = some (n, rest)) : rest.length < cs.length := by
  obtain ⟨fraction, between, exponent, filled, -, read, read', -⟩ := size?_eq_some_iff.1 read
  have whole := length_digits_add cs
  have some := List.length_pos_iff.2 filled
  have shorter := length_fraction? read
  have shorter' := length_exponent? read'
  omega

theorem length_number? {n : JsonNumber} (read : number? cs = some (n, rest)) :
    rest.length < cs.length := by
  by_cases minus : cs.head? = some '-'
  · obtain ⟨cs, rfl⟩ := List.head?_eq_some_iff.1 minus
    exact Nat.lt_succ_of_lt (length_size? read)
  · rw [number?_of_ne minus] at read
    exact length_size? read

theorem length_quotedFrom {done : List Char} {high : Option Nat} {text : List Char}
    (read : quotedFrom done high cs = some (text, rest)) : rest.length < cs.length := by
  fun_induction quotedFrom done high cs with
  | case1 => cases read
  | _ => simp only [List.length_cons]; grind

/-- What follows a token is shorter than what it is at the start of. -/
theorem length_token? {c : Char} {token : Token} (read : token? c cs = some (token, rest)) :
    rest.length ≤ cs.length := by
  unfold token? at read
  split at read
  case h_7 =>
    obtain ⟨⟨text, rest'⟩, quoted, same⟩ := Option.map_eq_some_iff.1 read
    cases same
    exact (length_quotedFrom quoted).le
  case h_11 =>
    obtain ⟨⟨n, rest'⟩, number, same⟩ := Option.map_eq_some_iff.1 read
    cases same
    exact Nat.le_of_lt_succ (length_number? number)
  all_goals grind

/-- The bound for the number of tokens does not matter. -/
theorem scanAtMost_eq {bound bound' : Nat} (enough : cs.length ≤ bound)
    (enough' : cs.length ≤ bound') : scanAtMost bound cs = scanAtMost bound' cs := by
  induction bound generalizing bound' cs with
  | zero =>
      rw [List.length_eq_zero_iff.1 (Nat.le_zero.1 enough)]
      cases bound' <;> rfl
  | succ bound ih =>
      cases bound' with
      | zero =>
          rw [List.length_eq_zero_iff.1 (Nat.le_zero.1 enough')]
          rfl
      | succ bound' =>
          have shorter : (cs.dropWhile isSpace).length ≤ cs.length :=
            (List.dropWhile_suffix isSpace).length_le
          unfold scanAtMost
          split
          · rfl
          · rename_i c rest tight
            rw [tight, List.length_cons] at shorter
            split
            · rfl
            · rename_i token rest' read
              have := length_token? read
              exact congrArg (Option.map _) (ih (by omega) (by omega))

/-- **A text is its first token and what follows it.** -/
theorem scan_cons {c : Char} {token : Token} (tight : isSpace c = false)
    (read : token? c cs = some (token, rest)) :
    scan (c :: cs) = (scan rest).map (token :: ·) := by
  have first : (c :: cs).dropWhile isSpace = c :: cs := by
    rw [List.dropWhile_cons_of_neg]
    simp [tight]
  rw [scan, List.length_cons, scanAtMost, first]
  dsimp only
  rw [read]
  dsimp only
  rw [scanAtMost_eq (length_token? read) (le_refl _), scan]

end CodeIndex.Json
