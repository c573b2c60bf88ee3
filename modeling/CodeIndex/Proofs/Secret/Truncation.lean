import CodeIndex.Proofs.Run.Disclosure
import CodeIndex.Proofs.Secret.Values

/-!
# What a cut uncovers

A prompt quotes the beginning of a file: the file is cut first, and what is left is redacted.  A cut
through a value takes the closing quote away, and a value that is not closed is no assignment any
more.  So two files that differ in one value, and are the same when they are redacted as a whole,
are not always the same to the generator.

They are the same if the value lies behind the cut, or before it with its closing quote, or inside a
private key that was opened before it.  Otherwise the generator is told the beginning of the value
up to the cut, less the tokens in it.

## Main definitions

* `Secret.assigning`: a file in which a value is assigned.

## Main statements

* `Secret.redact_take_eq_iff`: when the beginnings of two files are redacted alike.
* `Describer.told_alike_iff`: when a generator is told the same about both.
-/

namespace CodeIndex

open CodeIndex.Text

namespace Secret

variable {front value value' behind text right right' : List Char} {quote : Char}

/-! ## Redaction behind a quote -/

/-- Tokens do not reach over quotes. -/
theorem redactTokens_append_quote (isQuote_quote : isQuote quote = true) :
    redactTokens (front ++ quote :: right) =
      redactTokens front ++ quote :: redactTokens right :=
  Pattern.replaceAll_append_wall _ (stopsAt_quote isQuote_quote (by decide) (by decide) rfl rfl) rfl

/-- The characters of a text with marks are those of the text and those of the mark. -/
theorem Patched.forall_mem {Kept Gone : Option Char → List Char → Prop} {before : Option Char}
    {result : List Char} (patched : Patched Kept Gone before text result) {Fits : Char → Prop}
    (marked : ∀ c ∈ mark, Fits c) (fits : ∀ c ∈ text, Fits c) : ∀ c ∈ result, Fits c := by
  induction patched with
  | nil => exact fits
  | keep _ _ ih =>
      obtain ⟨first, others⟩ := List.forall_mem_cons.1 fits
      exact List.forall_mem_cons.2 ⟨first, ih others⟩
  | patch _ _ ih =>
      obtain ⟨-, others⟩ := List.forall_mem_append.1 fits
      exact List.forall_mem_append.2 ⟨marked, ih others⟩

/-- A text with marks is not shorter than the mark, or not shorter than it was. -/
theorem Patched.min_length_le {Kept Gone : Option Char → List Char → Prop} {before : Option Char}
    {result : List Char} (patched : Patched Kept Gone before text result) :
    min mark.length text.length ≤ result.length := by
  induction patched with
  | nil => exact Nat.min_le_right _ _
  | keep _ _ ih =>
      rw [List.length_cons, List.length_cons]
      omega
  | patch _ _ ih =>
      simp only [List.length_append]
      omega

/-- Whether a text has neither quotes nor blanks. -/
def IsSolid (text : List Char) : Prop := ∀ c ∈ text, isQuote c = false ∧ isBlank c = false

theorem IsSolid.space_notMem (solid : IsSolid text) : ' ' ∉ text := fun member => by
  cases (solid ' ' member).2

theorem IsSolid.take (solid : IsSolid text) (count : Nat) : IsSolid (text.take count) :=
  fun c member => solid c (List.mem_of_mem_take member)

theorem IsSolid.redactTokens (solid : IsSolid text) : IsSolid (redactTokens text) :=
  (patched_redactTokens text).forall_mem (List.forall_iff_forall_mem.1 (by decide)) solid

/-- Of a solid text, only tokens are replaced. -/
theorem IsSolid.redact (solid : IsSolid text) : redact text = Secret.redactTokens text := by
  rw [Secret.redact, redactKeys_of_notMem solid.space_notMem]
  exact maskFrom_plain fun c member => (solid.redactTokens c member).1

theorem IsCredential.redactTokens (credential : IsCredential value) :
    IsCredential (redactTokens value) where
  clean := IsSolid.redactTokens credential.clean
  least := by
    have length := (patched_redactTokens value).min_length_le
    have least := credential.least
    have marked : mark.length = 10 := rfl
    omega

/-- Inside a key it matters only what is behind the closing of the key. -/
theorem LeavesKeyOpen.redact_eq (isQuote_quote : isQuote quote = true)
    (opened : LeavesKeyOpen (front ++ [quote])) (same : afterKey right = afterKey right') :
    redact (front ++ quote :: right) = redact (front ++ quote :: right') := by
  obtain ⟨kept, known⟩ := opened.exists_redactKeys isQuote_quote
  rw [redact, redact, known, known, same]

/-- **Outside of keys,** a value that is not closed stays, less its tokens.  A value that is closed
is masked whatever it says, or is told apart from all others with other tokens. -/
theorem exists_redact_of_not_leavesKeyOpen (isQuote_quote : isQuote quote = true)
    (closed : ¬LeavesKeyOpen (front ++ [quote])) :
    ∃ kept, (∀ text, IsSolid text → redact (front ++ quote :: text) = kept ++ redact text) ∧
      ((∀ value behind, IsCredential value →
          redact (front ++ quote :: (value ++ quote :: behind)) =
            kept ++ mark ++ quote :: redact behind) ∨
        ∀ value behind, IsCredential value →
          redact (front ++ quote :: (value ++ quote :: behind)) =
            kept ++ redactAssignments
              (redactTokens value ++ quote :: redactTokens (redactKeys behind))) := by
  obtain ⟨keptKeys, keys⟩ := exists_redactKeys_of_not_leavesKeyOpen isQuote_quote closed
  have begins : ∀ right, redact (front ++ quote :: right) =
      maskFrom none (redactTokens keptKeys ++ [quote] ++ redactTokens (redactKeys right)) := by
    intro right
    rw [redact, keys, redactTokens_append_quote isQuote_quote, List.append_assoc]
    rfl
  have valued : ∀ value behind, IsCredential value →
      redactTokens (redactKeys (value ++ quote :: behind)) =
        redactTokens value ++ quote :: redactTokens (redactKeys behind) := by
    intro value behind credential
    have solid : IsSolid value := credential.clean
    rw [redactKeys_solid_append_quote isQuote_quote solid.space_notMem,
      redactTokens_append_quote isQuote_quote]
  obtain ⟨kept, masks | leaves⟩ := mask_cases none (redactTokens keptKeys) isQuote_quote
  · refine ⟨kept, fun text solid => ?_, .inl fun value behind credential => ?_⟩
    · rw [begins, redactKeys_of_notMem solid.space_notMem, solid.redact]
      exact masks.plain _ fun c member => (solid.redactTokens c member).1
    · rw [begins, valued value behind credential]
      exact masks.value _ _ _ credential.redactTokens isQuote_quote
  · refine ⟨kept, fun text solid => ?_, .inr fun value behind credential => ?_⟩
    · rw [begins]
      exact leaves _
    · rw [begins, valued value behind credential]
      exact leaves _

/-- Outside of keys, closed values that are redacted alike before one text are before any. -/
theorem redact_eq_of_closed (isQuote_quote : isQuote quote = true)
    (closed : ¬LeavesKeyOpen (front ++ [quote])) (credential : IsCredential value)
    (credential' : IsCredential value')
    (alike : redact (front ++ quote :: (value ++ quote :: behind)) =
      redact (front ++ quote :: (value' ++ quote :: behind))) (text : List Char) :
    redact (front ++ quote :: (value ++ quote :: text)) =
      redact (front ++ quote :: (value' ++ quote :: text)) := by
  obtain ⟨kept, -, masks | leaves⟩ := exists_redact_of_not_leavesKeyOpen isQuote_quote closed
  · rw [masks _ _ credential, masks _ _ credential']
  · rw [leaves _ _ credential, leaves _ _ credential', List.append_cancel_left_eq] at alike
    obtain ⟨rest, begins⟩ := exists_redactAssignments isQuote_quote credential.redactTokens.isQuote
      (redactTokens (redactKeys behind))
    obtain ⟨rest', begins'⟩ := exists_redactAssignments isQuote_quote
      credential'.redactTokens.isQuote (redactTokens (redactKeys behind))
    rw [begins, begins'] at alike
    obtain ⟨same, -, -⟩ := eq_of_first_quote alike credential.redactTokens.isQuote
      credential'.redactTokens.isQuote isQuote_quote isQuote_quote
    rw [leaves _ _ credential, leaves _ _ credential', same]

/-- White space before a text stays, and does not matter. -/
theorem redact_cons_blank {c : Char} (blank : isBlank c = true) (text : List Char) :
    redact (c :: text) = c :: redact text := by
  obtain ⟨ends, unnamed, hyphen, outside⟩ := of_isBlank blank
  have noKey : ∀ text, keyOpening.matchAt none (c :: text) = none := by
    intro text
    rw [Pattern.matchAt_eq_none_iff rfl]
    intro read rest split found
    obtain ⟨head, -⟩ := ends_of_keyOpening found
    cases read with
    | nil => cases head
    | cons d read =>
        obtain ⟨rfl, -⟩ := List.cons.inj split
        exact hyphen (Option.some.inj head)
  have noToken : ∀ text, token.matchAt none (c :: text) = none := fun text =>
    (Pattern.matchAt_eq_none_iff rfl).2 (lacksHere_token_of_ends fun d member => by
      rwa [← Option.some.inj member])
  have noAssignment : ∀ text, assignment.matchAt none (c :: text) = none := by
    intro text
    rw [Pattern.matchAt_eq_none_iff rfl]
    rintro read rest split ⟨groups, reads⟩
    obtain ⟨name, sign, value, opening, closing, assigns, -⟩ := exists_assigns reads
    obtain ⟨d, name, rfl⟩ := List.exists_cons_of_ne_nil assigns.name_ne_nil
    rw [assigns.append_eq] at split
    obtain ⟨rfl, -⟩ := List.cons.inj split
    rw [assigns.takes_name c List.mem_cons_self] at unnamed
    cases unnamed
  rw [redact, redactKeys_cons, noKey]
  dsimp only
  rw [redactTokens, Pattern.replaceAll_cons_of_none _ rfl outside (noToken _), redactAssignments,
    Pattern.replaceAll_cons_of_none _ rfl outside (noAssignment _)]
  rfl

theorem redact_replicate_append {c : Char} (blank : isBlank c = true) (count : Nat)
    (text : List Char) :
    redact (List.replicate count c ++ text) = List.replicate count c ++ redact text := by
  induction count with
  | zero => rfl
  | succ count ih =>
      rw [List.replicate_succ, List.cons_append, redact_cons_blank blank, ih]
      rfl

/-! ## Files that are cut -/

section Cut

variable (isQuote_quote : isQuote quote = true)

/-- A cut before the value. -/
theorem take_front (right : List Char) {cut : Nat} (before : cut ≤ front.length + 1) :
    (front ++ quote :: right).take cut = (front ++ [quote]).take cut := by
  have whole : front ++ quote :: right = front ++ [quote] ++ right := by simp
  rw [whole, List.take_append_of_le_length (by simpa using before)]

/-- A cut behind the opening quote. -/
theorem take_behind_quote (count : Nat) :
    (front ++ quote :: right).take (front.length + 1 + count) =
      front ++ quote :: right.take count := by
  have whole : front ++ quote :: right = front ++ [quote] ++ right := by simp
  have length : front.length + 1 = (front ++ [quote]).length := by simp
  rw [whole, length, List.take_length_add_append, List.append_assoc, List.singleton_append]

/-- A cut behind the closing quote. -/
theorem take_behind_value (count : Nat) :
    (value ++ quote :: behind).take (value.length + 1 + count) =
      value ++ quote :: behind.take count :=
  take_behind_quote count

include isQuote_quote

/-- A cut inside the value or right behind it. -/
theorem redact_take_eq_iff_of_inside (closed : ¬LeavesKeyOpen (front ++ [quote]))
    (solid : IsSolid value) (solid' : IsSolid value') (length : value.length = value'.length)
    {count : Nat} (inside : count ≤ value.length) :
    redact ((front ++ quote :: (value ++ quote :: behind)).take (front.length + 1 + count)) =
        redact ((front ++ quote :: (value' ++ quote :: behind)).take (front.length + 1 + count)) ↔
      redact (value.take count) = redact (value'.take count) := by
  obtain ⟨kept, plain, -⟩ := exists_redact_of_not_leavesKeyOpen isQuote_quote closed
  rw [take_behind_quote, take_behind_quote, List.take_append_of_le_length inside,
    List.take_append_of_le_length (length ▸ inside), plain _ (solid.take count),
    plain _ (solid'.take count), List.append_cancel_left_eq]

/-- **When the beginnings of two files are redacted alike,** if the files are. -/
theorem redact_take_eq_iff (credential : IsCredential value) (credential' : IsCredential value')
    (length : value.length = value'.length)
    (alike : redact (front ++ quote :: (value ++ quote :: behind)) =
      redact (front ++ quote :: (value' ++ quote :: behind))) (cut : Nat) :
    redact ((front ++ quote :: (value ++ quote :: behind)).take cut) =
        redact ((front ++ quote :: (value' ++ quote :: behind)).take cut) ↔
      cut ≤ front.length + 1 ∨ front.length + 1 + value.length < cut ∨
        LeavesKeyOpen (front ++ [quote]) ∨
        redact (value.take (cut - (front.length + 1))) =
          redact (value'.take (cut - (front.length + 1))) := by
  have solid : IsSolid value := credential.clean
  have solid' : IsSolid value' := credential'.clean
  rcases Nat.le_total cut (front.length + 1) with before | behindOpening
  · rw [take_front (value ++ _) before, take_front (value' ++ _) before]
    exact iff_of_true rfl (.inl before)
  obtain ⟨count, rfl⟩ := Nat.exists_eq_add_of_le behindOpening
  rw [Nat.add_sub_cancel_left]
  rcases Nat.lt_or_ge value.length count with closing | inside
  · -- the value is there with its closing quote
    obtain ⟨count, rfl⟩ := Nat.exists_eq_add_of_le closing
    refine iff_of_true ?_ (.inr (.inl (by omega)))
    rw [take_behind_quote, take_behind_quote, Nat.succ_eq_add_one, take_behind_value, length,
      take_behind_value]
    by_cases opened : LeavesKeyOpen (front ++ [quote])
    · refine opened.redact_eq isQuote_quote ?_
      rw [afterKey_solid_append_quote isQuote_quote solid.space_notMem,
        afterKey_solid_append_quote isQuote_quote solid'.space_notMem]
    · exact redact_eq_of_closed isQuote_quote opened credential credential' alike _
  · by_cases opened : LeavesKeyOpen (front ++ [quote])
    · refine iff_of_true ?_ (.inr (.inr (.inl opened)))
      rw [take_behind_quote, take_behind_quote, List.take_append_of_le_length inside,
        List.take_append_of_le_length (length ▸ inside)]
      refine opened.redact_eq isQuote_quote ?_
      rw [afterKey_of_notMem (solid.take count).space_notMem,
        afterKey_of_notMem (solid'.take count).space_notMem]
    · rw [redact_take_eq_iff_of_inside isQuote_quote opened solid solid' length inside]
      constructor
      · exact fun same => .inr (.inr (.inr same))
      · rintro (before | behind | given | same)
        · -- nothing of the value is there
          obtain rfl : count = 0 := by omega
          rw [List.take_zero, List.take_zero]
        · omega
        · exact absurd given opened
        · exact same

end Cut

/-- A file in which a value is assigned to a name, between texts. -/
def assigning (before name : List Char) (quote : Char) (value behind : List Char) : List Char :=
  before ++ name ++ '=' :: quote :: (value ++ quote :: behind)

end Secret

/-! ## What a generator is told -/

namespace Describer

variable {γ : Type} {chunk : List Char} {path : String} {language : Language}

/-- Prompts differ where the beginnings of the files do. -/
theorem prompt_eq_iff {file file' : List Char} :
    prompt file chunk path language = prompt file' chunk path language ↔
      Secret.redact (file.take maxDocumentChars) = Secret.redact (file'.take maxDocumentChars) := by
  unfold prompt
  simp only [String.append_left_inj, String.append_right_inj, String.ofList_inj]

/-- What a generator is told about a chunk that is not blank. -/
theorem noted_describe (describer : Describer γ) {file : List Char}
    (filled : isBlankText chunk = false) (before : Clocked (γ × List String)) :
    (describer.noting.describe file chunk path language before).2.state.2 =
      before.state.2 ++ [prompt file chunk path language] := by
  unfold describe
  simp only [filled, Bool.false_eq_true, if_false]
  split <;> exact Request.noted_runWithin ‹_›

open Secret in
/-- **What is told of two files that are redacted alike** and differ in one value.  The same is told
of both if the value lies behind the cut, or before it with its closing quote, or inside a private
key that was opened before.  Otherwise the value itself is told, up to the cut and less the tokens
in it, and the files are told apart by that. -/
theorem told_alike_iff (describer : Describer γ) (clocked : Clocked (γ × List String))
    {before name value value' behind : List Char} {quote : Char}
    (isQuote_quote : isQuote quote = true)
    (credential : IsCredential value) (credential' : IsCredential value')
    (length : value.length = value'.length)
    (alike : redact (assigning before name quote value behind) =
      redact (assigning before name quote value' behind))
    (filled : isBlankText chunk = false) :
    (describer.noting.describe (assigning before name quote value behind) chunk path language
        clocked).2.state.2 =
      (describer.noting.describe (assigning before name quote value' behind) chunk path language
        clocked).2.state.2 ↔
      maxDocumentChars ≤ (before ++ name).length + 2 ∨
      (before ++ name).length + 2 + value.length < maxDocumentChars ∨
      LeavesKeyOpen (before ++ name ++ ['=', quote]) ∨
      redact (value.take (maxDocumentChars - ((before ++ name).length + 2))) =
        redact (value'.take (maxDocumentChars - ((before ++ name).length + 2))) := by
  rw [noted_describe describer filled, noted_describe describer filled,
    List.append_cancel_left_eq, List.singleton_inj, prompt_eq_iff]
  have front : ∀ value, assigning before name quote value behind =
      before ++ name ++ ['='] ++ quote :: (value ++ quote :: behind) := by simp [assigning]
  have quoted : before ++ name ++ ['=', quote] = before ++ name ++ ['='] ++ [quote] := by simp
  have start : (before ++ name).length + 2 = (before ++ name ++ ['=']).length + 1 := by
    simp only [List.length_append]
    rfl
  rw [front, front] at alike ⊢
  rw [quoted, start]
  exact redact_take_eq_iff isQuote_quote credential credential' length alike _

/-- A describer that asks and gets no answer to speak of. -/
def terse : Describer Unit := ⟨⟨fun _ _ => .answer (.ok "")⟩, 0, 200⟩

open Secret in
/-- A file that assigns a password where the cut leaves five characters of it. -/
def passwordAtCut (password : String) : List Char :=
  assigning (List.replicate 7985 '\n') "password".toList '"' password.toList []

open Secret in
/-- Two files that are the same when they are redacted, and of which different things are told. -/
theorem told_alike_iff_passwordAtCut :
    IsCredential "hunter22".toList ∧ IsCredential "letmein9".toList ∧
    redact (passwordAtCut "hunter22") = redact (passwordAtCut "letmein9") ∧
    (terse.noting.describe (passwordAtCut "hunter22") "x".toList "a.md" .markdown
        ⟨0, ((), [])⟩).2.state.2 ≠
      (terse.noting.describe (passwordAtCut "letmein9") "x".toList "a.md" .markdown
        ⟨0, ((), [])⟩).2.state.2 := by
  have first : IsCredential "hunter22".toList :=
    ⟨List.forall_iff_forall_mem.1 (by decide), by decide⟩
  have second : IsCredential "letmein9".toList :=
    ⟨List.forall_iff_forall_mem.1 (by decide), by decide⟩
  have redacted : ∀ password, redact (passwordAtCut password) =
      List.replicate 7985 '\n' ++ redact ("password=\"".toList ++ (password.toList ++ ['"'])) :=
    fun password => by
      rw [← redact_replicate_append (by decide)]
      exact congrArg redact (List.append_assoc ..)
  have alike : redact (passwordAtCut "hunter22") = redact (passwordAtCut "letmein9") := by
    rw [redacted, redacted]
    exact congrArg _ (by decide +kernel)
  refine ⟨first, second, alike, fun same => ?_⟩
  unfold passwordAtCut at alike same
  have length : "hunter22".toList.length = "letmein9".toList.length := by decide
  rcases (told_alike_iff terse ⟨0, ((), [])⟩ (by decide) first second length alike (by decide)).1
    same with before | behind | opened | shown
  · rw [List.length_append, List.length_replicate] at before
    revert before
    decide
  · rw [List.length_append, List.length_replicate] at behind
    revert behind
    decide
  · refine not_leavesKeyOpen_of_notMem ?_ opened
    rw [List.mem_append, List.mem_append, List.mem_replicate]
    decide
  · rw [List.length_append, List.length_replicate] at shown
    revert shown
    decide +kernel

end Describer

end CodeIndex
