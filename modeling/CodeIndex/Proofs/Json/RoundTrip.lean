import CodeIndex.Json.Printer
import CodeIndex.Proofs.Json.Token
import Mathlib.Data.List.Basic
import Mathlib.Data.List.Induction

/-!
# Reading what was written

The text of a value is read back as the value, whatever stands behind it (`Json.parse?_render`).
Some values have no text that is read back as they are: the reader holds whole numbers in 64 bits,
brings the fields of objects into ascending order, and does not go deeper than a limit.  The values
for which all is well are `Json.Readable`.  Of a floating-point number, being readable says that it
reads back itself, for the numbers themselves are not looked into here.

The reader has a stack of lists and objects that are open.  The invariant of the induction is that a
value, wherever one is awaited, is read without a change to the stack (`Json.ReadsBack`).

## Main definitions

* `Json.readText`: reading in the middle of a text.
* `Json.Readable`

## Main statements

* `Json.quotedFrom_escapeChar`: what was escaped is read as itself.
* `Json.number?_whole`
* `Json.parse?_render`
-/

namespace CodeIndex

namespace Dictionary

variable {α : Type} {key : String} {a : α} {entries : List (String × α)}

/-- A key behind all others is written at the end. -/
theorem put_of_forall_lt (behind : ∀ entry ∈ entries, entry.1 < key) :
    put key a entries = entries ++ [(key, a)] := by
  induction entries with
  | nil => rfl
  | cons entry entries ih =>
      have first := behind entry List.mem_cons_self
      rw [put, if_neg (String.lt_asymm first), if_neg (String.ne_of_lt first).symm,
        ih fun entry member => behind entry (List.mem_cons_of_mem _ member)]
      rfl

/-- Entries that are ascending are the entries of their dictionary. -/
theorem toList_ofList (ascending : entries.Pairwise fun a b => a.1 < b.1) :
    (ofList entries).toList = entries := by
  induction entries using List.reverseRecOn with
  | nil => rfl
  | append_singleton entries entry ih =>
      rw [List.pairwise_append] at ascending
      have behind : ∀ other ∈ entries, other.1 < entry.1 := fun other member =>
        ascending.2.2 other member entry List.mem_cons_self
      have written : (ofList (entries ++ [entry])).toList =
          put entry.1 entry.2 (ofList entries).toList := by
        rw [ofList, List.foldl_append]
        rfl
      rw [written, ih ascending.1, put_of_forall_lt behind]

end Dictionary

namespace Json

variable {rest : List Char}

/-! ## Texts -/

/-- The two hexadecimal digits of a control character. -/
theorem hexUnit?_control : ∀ n < 32,
    hexUnit? '0' '0' (Nat.digitChar (n / 16)) (Nat.digitChar (n % 16)) = some n := by
  decide

/-- A character that was escaped is read as itself. -/
theorem quotedFrom_escapeChar (done : List Char) (c : Char) (rest : List Char) :
    quotedFrom done none (escapeChar c ++ rest) = quotedFrom (c :: done) none rest := by
  unfold escapeChar
  split_ifs with quote slash feed back tab eight twelve control
  · subst quote
    rfl
  · subst slash
    rfl
  · exact feed ▸ rfl
  · exact back ▸ rfl
  · exact tab ▸ rfl
  · exact (Char.ofNat_toNat c).symm ▸ eight ▸ rfl
  · exact (Char.ofNat_toNat c).symm ▸ twelve ▸ rfl
  · have unit := hexUnit?_control c.toNat control
    have char : joinUnit? none c.toNat = some (.char c) := by
      unfold joinUnit?
      rw [if_neg (by simp; omega), if_neg (by simp; omega), Char.ofNat_toNat]
    simp only [List.cons_append, List.nil_append, quotedFrom, unit, Option.bind_some, char]
  · rw [List.cons_append, List.nil_append, quotedFrom]
    · simp [quote, slash, control]
    all_goals grind

theorem quotedFrom_flatMap (text done rest : List Char) :
    quotedFrom done none (text.flatMap escapeChar ++ '"' :: rest) =
      some (done.reverse ++ text, rest) := by
  induction text generalizing done with
  | nil => simp [quotedFrom]
  | cons c text ih =>
      rw [List.flatMap_cons, List.append_assoc, quotedFrom_escapeChar, ih]
      simp

/-- A quoted text is read as the text. -/
theorem token?_quote (s : String) (rest : List Char) :
    token? '"' (s.toList.flatMap escapeChar ++ '"' :: rest) = some (.scalar (.string s), rest) := by
  unfold token?
  dsimp only
  rw [quotedFrom_flatMap]
  simp

theorem quote_append (text rest : List Char) :
    quote text ++ rest = '"' :: (text.flatMap escapeChar ++ '"' :: rest) := by
  rw [quote, List.cons_append, List.append_assoc]
  rfl

/-! ## Numbers -/

theorem le_ofDigitChars (digits : List Char) (start : Nat) :
    start ≤ Nat.ofDigitChars 10 digits start := by
  induction digits generalizing start with
  | nil => exact le_refl _
  | cons c digits ih =>
      rw [Nat.ofDigitChars_cons]
      exact le_trans (by omega) (ih _)

theorem gatherWhole_eq {digits : List Char} {start : Nat}
    (fits : Nat.ofDigitChars 10 digits start ≤ maxSignificand) :
    gatherWhole start 0 digits = (Nat.ofDigitChars 10 digits start, 0) := by
  induction digits generalizing start with
  | nil => rfl
  | cons c digits ih =>
      rw [Nat.ofDigitChars_cons, Nat.mul_comm] at fits ⊢
      have next := le_trans (le_ofDigitChars digits _) fits
      rw [gatherWhole, if_pos (by simpa using next)]
      exact ih fits

/-- No number but zero is written with a zero in front. -/
theorem eq_zero_of_head?_toDigits {n : Nat} (first : (Nat.toDigits 10 n).head? = some '0') :
    n = 0 := by
  induction n using Nat.strongRecOn with
  | ind n ih =>
      by_cases small : n < 10
      · rw [Nat.toDigits_of_lt_base small] at first
        have zero : ∀ n < 10, n.digitChar = '0' → n = 0 := by decide
        exact zero n small (Option.some.inj first)
      · rw [Nat.toDigits_eq_if (by decide), if_neg small, List.head?_append_of_ne_nil _
          Nat.toDigits_ne_nil] at first
        have := ih (n / 10) (by omega) first
        omega

/-- The digits of a number are read as the number. -/
theorem size?_toDigits (negative : Bool) {n : Nat} {value : JsonNumber}
    (denotes : NumberText.value? ⟨negative, Nat.toDigits 10 n, [], none⟩ = some value) :
    size? negative (Nat.toDigits 10 n) = some (value, []) := by
  have all : ∀ c ∈ Nat.toDigits 10 n, c.isDigit = true := fun c member =>
    Nat.isDigit_of_mem_toDigits (by decide) (by decide) member
  have whole : digits (Nat.toDigits 10 n) = (Nat.toDigits 10 n, []) := by
    rw [digits, List.takeWhile_eq_self_iff.2 all, List.dropWhile_eq_nil_iff.2 all]
  refine size?_eq_some_iff.2 ⟨[], [], none, ?_⟩
  rw [whole]
  refine ⟨Nat.toDigits_ne_nil, fun first => ?_, rfl, rfl, denotes⟩
  dsimp only
  rw [eq_zero_of_head?_toDigits first]
  rfl

/-- **Whole numbers are read as what they are,** if they fit into 64 bits. -/
theorem number?_whole {n : Int} (low : -9223372036854775808 ≤ n)
    (high : n < 18446744073709551616) :
    number? (JsonNumber.whole n).render = some (.whole n, []) := by
  cases n with
  | ofNat n =>
      have fits : Nat.ofDigitChars 10 (Nat.toDigits 10 n) 0 ≤ maxSignificand := by
        have high : (n : Int) < 18446744073709551616 := high
        rw [Nat.ofDigitChars_ten_toDigits, maxSignificand]
        omega
      have written : (JsonNumber.whole (.ofNat n)).render = Nat.toDigits 10 n := Nat.toList_repr
      have unsigned : (Nat.toDigits 10 n).head? ≠ some '-' := fun minus =>
        absurd (Nat.isDigit_of_mem_toDigits (by decide) (by decide) (List.mem_of_mem_head? minus))
          (by decide)
      rw [written, number?_of_ne unsigned]
      refine size?_toDigits false ?_
      simp [NumberText.value?, gatherWhole_eq fits, Nat.ofDigitChars_ten_toDigits]
  | negSucc n =>
      have fits : Nat.ofDigitChars 10 (Nat.toDigits 10 (n + 1)) 0 ≤ maxSignificand := by
        rw [Nat.ofDigitChars_ten_toDigits, maxSignificand]
        omega
      have written : (JsonNumber.whole (.negSucc n)).render = '-' :: Nat.toDigits 10 (n + 1) := by
        change ("-" ++ (n + 1).repr).toList = _
        rw [String.toList_append, Nat.toList_repr]
        rfl
      rw [written, number?_minus]
      refine size?_toDigits true ?_
      have small : n + 1 ≤ 9223372036854775808 := by
        rw [Int.negSucc_eq] at low
        omega
      simp [NumberText.value?, gatherWhole_eq fits, Nat.ofDigitChars_ten_toDigits, small,
        Int.negSucc_eq]

/-- A number at the start of a text is its first token. -/
theorem token?_number {c : Char} {cs : List Char} {n : JsonNumber}
    (read : number? (c :: cs) = some (n, rest)) :
    isSpace c = false ∧ token? c cs = some (.scalar (.number n), rest) := by
  have first : c = '-' ∨ c.isDigit = true := by
    by_cases minus : c = '-'
    · exact .inl minus
    · rw [number?_of_ne (by simpa using minus)] at read
      obtain ⟨-, -, -, filled, -⟩ := size?_eq_some_iff.1 read
      refine .inr (by_contra fun none => filled ?_)
      exact List.takeWhile_cons_of_neg none
  constructor
  · rw [Bool.eq_false_iff]
    intro space
    simp only [isSpace, Bool.or_eq_true, beq_iff_eq] at space
    rcases space with ((rfl | rfl) | rfl) | rfl <;> simp at first
  · unfold token?
    split <;> simp_all

/-! ## Values -/

variable {awaiting awaiting' : Awaiting} {frames frames' : List Frame} {depth : Nat}

/-- Reads the rest of a text, when something is awaited and some lists and objects are open. -/
def readText (awaiting : Awaiting) (frames : List Frame) (text : List Char) : Option Json :=
  (scan text).bind (readFrom awaiting frames)

/-- Reading is reading the first token and then the rest. -/
theorem readText_cons {c : Char} {cs : List Char} {token : Token} (tight : isSpace c = false)
    (read : token? c cs = some (token, rest))
    (stepped : step awaiting frames token = some (awaiting', frames')) :
    readText awaiting frames (c :: cs) = readText awaiting' frames' rest := by
  unfold readText
  rw [scan_cons tight read, Option.bind_map]
  congr 1
  funext tokens
  simp only [Function.comp_apply, readFrom, stepped]

/-- **Whether a value reads back** wherever one is awaited and there is room for lists and objects
in it, so deep as they are. -/
def ReadsBack (depth : Nat) (value : Json) : Prop :=
  ∀ (awaiting : Awaiting) (frames : List Frame) (rest : List Char),
    awaiting = .value ∨ awaiting = .itemOrClose → frames.length + depth ≤ maxDepth →
    IsBehind rest →
    readText awaiting frames (value.render ++ rest) = readText (.separator value) frames rest

/-- A scalar reads back if its text is its token. -/
theorem ReadsBack.of_token {value : Json} (token : ∀ rest, IsBehind rest → ∃ c cs,
    value.render ++ rest = c :: cs ∧ isSpace c = false ∧
      token? c cs = some (.scalar value, rest)) : ReadsBack depth value := by
  intro awaiting frames rest expected _ behind
  obtain ⟨c, cs, text, tight, read⟩ := token rest behind
  rw [text]
  refine readText_cons tight read ?_
  rcases expected with rfl | rfl <;> rfl

theorem ReadsBack.number {n : JsonNumber} (read : number? n.render = some (n, [])) :
    ReadsBack depth (.number n) := by
  refine .of_token fun rest behind => ?_
  have whole := number?_append behind read
  cases text : n.render with
  | nil =>
      rw [text] at read
      cases read
  | cons c cs =>
      rw [text] at whole
      obtain ⟨tight, token⟩ := token?_number whole
      exact ⟨c, cs ++ rest, by rw [render, text]; rfl, tight, token⟩

theorem ReadsBack.string (s : String) : ReadsBack depth (.string s) := by
  refine .of_token fun rest _ => ⟨_, _, ?_, rfl, token?_quote s rest⟩
  rw [render, quote_append]

/-- The items of a list that is open, up to its end. -/
theorem readText_renderItems {done : List Json} {item : Json} {items : List Json}
    (expected : awaiting = .value ∨ awaiting = .itemOrClose)
    (room : frames.length + (depth + 1) ≤ maxDepth)
    (back : ∀ v ∈ item :: items, ReadsBack depth v) :
    readText awaiting (.list done :: frames) (renderItems (item :: items) ++ ']' :: rest) =
      readText (.separator (.array (done.reverse ++ item :: items))) frames rest := by
  induction items generalizing awaiting done item with
  | nil =>
      rw [renderItems, back item List.mem_cons_self _ _ _ expected (by simp; omega)
        (isBehind_cons (by decide)), readText_cons rfl rfl rfl, List.reverse_cons]
  | cons next items ih =>
      have text : renderItems (item :: next :: items) ++ ']' :: rest =
          item.render ++ ',' :: (renderItems (next :: items) ++ ']' :: rest) := by
        rw [renderItems] <;> simp
      rw [text, back item List.mem_cons_self _ _ _ expected (by simp; omega)
        (isBehind_cons (by decide)), readText_cons rfl rfl rfl,
        ih (.inl rfl) fun v member => back v (List.mem_cons_of_mem _ member)]
      simp

/-- A field of an object that is open. -/
theorem readText_field {done : List (String × Json)} {name : String} {value : Json}
    (expected : awaiting = .name done ∨ awaiting = .nameOrClose ∧ done = [])
    (room : frames.length + (depth + 1) ≤ maxDepth) (back : ReadsBack depth value)
    (behind : IsBehind rest) :
    readText awaiting frames (quote name.toList ++ ':' :: (value.render ++ rest)) =
      readText (.separator value) (.object done name :: frames) rest := by
  have named : step awaiting frames (.scalar (.string name)) =
      some (.colon done name, frames) := by
    rcases expected with rfl | ⟨rfl, rfl⟩ <;> rfl
  rw [quote_append, readText_cons rfl (token?_quote name _) named, readText_cons rfl rfl rfl]
  exact back _ _ _ (.inl rfl) (by simp; omega) behind

/-- The fields of an object that is open, up to its end. -/
theorem readText_renderFields {done : List (String × Json)} {field : String × Json}
    {fields : List (String × Json)}
    (expected : awaiting = .name done ∨ awaiting = .nameOrClose ∧ done = [])
    (room : frames.length + (depth + 1) ≤ maxDepth)
    (back : ∀ entry ∈ field :: fields, ReadsBack depth entry.2) :
    readText awaiting frames (renderFields (field :: fields) ++ '}' :: rest) =
      readText (.separator (.object (closeFields ((field :: fields).reverse ++ done)))) frames
        rest := by
  induction fields generalizing awaiting done field with
  | nil =>
      have text : renderFields [field] ++ '}' :: rest =
          quote field.1.toList ++ ':' :: (field.2.render ++ '}' :: rest) := by
        rw [renderFields]
        simp
      rw [text, readText_field expected room (back field List.mem_cons_self)
        (isBehind_cons (by decide)), readText_cons rfl rfl rfl]
      rfl
  | cons next fields ih =>
      have text : renderFields (field :: next :: fields) ++ '}' :: rest =
          quote field.1.toList ++ ':' :: (field.2.render ++ ',' ::
            (renderFields (next :: fields) ++ '}' :: rest)) := by
        rw [renderFields] <;> simp
      rw [text, readText_field expected room (back field List.mem_cons_self)
        (isBehind_cons (by decide)), readText_cons rfl rfl rfl,
        ih (.inl rfl) fun entry member => back entry (List.mem_cons_of_mem _ member)]
      simp

/-! ## Reading what was written -/

/-- **Values that can be read back,** of at most some depth: their whole numbers fit into 64 bits,
their floating-point numbers read back, and the fields of their objects are ascending. -/
inductive Readable : Nat → Json → Prop where
  | null {depth : Nat} : Readable depth .null
  | bool {depth : Nat} (b : Bool) : Readable depth (.bool b)
  | whole {depth : Nat} {n : Int} (low : -9223372036854775808 ≤ n)
    (high : n < 18446744073709551616) : Readable depth (.number (.whole n))
  | real {depth : Nat} {x : Float}
    (back : number? (JsonNumber.real x).render = some (.real x, [])) :
    Readable depth (.number (.real x))
  | string {depth : Nat} (s : String) : Readable depth (.string s)
  | array {depth : Nat} {items : List Json} (each : ∀ item ∈ items, Readable depth item) :
    Readable (depth + 1) (.array items)
  | object {depth : Nat} {fields : List (String × Json)}
    (ascending : fields.Pairwise fun a b => a.1 < b.1)
    (each : ∀ field ∈ fields, Readable depth field.2) : Readable (depth + 1) (.object fields)

theorem closeFields_reverse {fields : List (String × Json)}
    (ascending : fields.Pairwise fun a b => a.1 < b.1) : closeFields fields.reverse = fields := by
  rw [closeFields, List.reverse_reverse, Dictionary.toList_ofList ascending]

theorem Readable.readsBack {value : Json} (readable : Readable depth value) :
    ReadsBack depth value := by
  induction readable with
  | null => exact .of_token fun rest _ => ⟨'n', _, rfl, rfl, rfl⟩
  | bool b =>
      cases b with
      | false => exact .of_token fun rest _ => ⟨'f', _, rfl, rfl, rfl⟩
      | true => exact .of_token fun rest _ => ⟨'t', _, rfl, rfl, rfl⟩
  | whole low high => exact .number (number?_whole low high)
  | real back => exact .number back
  | string s => exact .string s
  | @array depth items each ih =>
      intro awaiting frames rest expected room behind
      have opened : step awaiting frames .openList = some (.itemOrClose, .list [] :: frames) := by
        rcases expected with rfl | rfl <;> exact if_pos (by omega)
      rw [render, List.cons_append, readText_cons rfl rfl opened]
      cases items with
      | nil => exact readText_cons rfl rfl rfl
      | cons item items =>
          rw [List.append_assoc]
          exact readText_renderItems (.inr rfl) room ih
  | @object depth fields ascending each ih =>
      intro awaiting frames rest expected room behind
      have opened : step awaiting frames .openObject = some (.nameOrClose, frames) := by
        rcases expected with rfl | rfl <;> exact if_pos (by omega)
      rw [render, List.cons_append, readText_cons rfl rfl opened]
      cases fields with
      | nil => exact readText_cons rfl rfl rfl
      | cons field fields =>
          rw [List.append_assoc, List.cons_append, List.nil_append,
            readText_renderFields (.inr ⟨rfl, rfl⟩) room ih, List.append_nil,
            closeFields_reverse ascending]

/-- **What was written is read back.** -/
theorem parse?_render {value : Json} (readable : Readable maxDepth value) :
    parse? value.render = some value := by
  have back := readable.readsBack .value [] [] (.inl rfl) (by simp) isBehind_nil
  rw [List.append_nil] at back
  exact back

end Json

end CodeIndex
