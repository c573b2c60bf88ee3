import CodeIndex.Proofs.Secret.Free
import CodeIndex.Proofs.Text.Replacing
import CodeIndex.Secret.Redaction

/-!
# What redaction leaves

A redacted text is free of credentials.  Each of the three passes leaves a text in which its own
shape is lacking, and makes no stretch of an earlier shape.  Both have the same reason: the mark
stands between brackets, which tokens and openings of keys never hold, so that a stretch of such a
shape lies between marks, where the text was kept as it was.

Two things are not the same on both sides of a mark.  Where a token was removed, the mark ends with
another character than the token did; what follows cannot begin a token, because a token goes as far
as it can.  Where a value was removed, the mark stands between the quotes of the value, so that any
assignment that would reach it takes it for its value.

## Main definitions

* `Secret.Patched`: a text some of whose stretches were replaced by the mark.

## Main statements

* `Secret.lacks_of_patched`: a shape that kept places lack is lacking after replacement.
* `Secret.isFree_redact`: a redacted text is free.
-/

namespace CodeIndex.Secret

open CodeIndex.Text
open Pattern (Reads lastOr)

variable {before : Option Char} {text result : List Char}

/-! ## Texts with marks -/

/-- **A text some of whose stretches were replaced by the mark.**  `Kept` is known of each character
that stayed, with the character before it in the result and the text from there on; `Gone` is known
of each stretch that is gone, with the character before it and the text behind it. -/
inductive Patched (Kept Gone : Option Char → List Char → Prop) :
    Option Char → List Char → List Char → Prop where
  | nil {before : Option Char} : Patched Kept Gone before [] []
  | keep {before : Option Char} {c : Char} {text result : List Char}
      (kept : Kept before (c :: text)) :
      Patched Kept Gone (some c) text result →
        Patched Kept Gone before (c :: text) (c :: result)
  | patch {before : Option Char} {stretch text result : List Char} (gone : Gone before text) :
      Patched Kept Gone (some ']') text result →
        Patched Kept Gone before (stretch ++ text) (mark ++ result)

namespace Patched

variable {Kept Gone : Option Char → List Char → Prop} {read rest : List Char}

/-- A stretch of the result without brackets was there before. -/
theorem exists_of_prefix (patched : Patched Kept Gone before text (read ++ rest))
    (clean : '[' ∉ read) :
    ∃ rest', text = read ++ rest' ∧ Patched Kept Gone (lastOr before read) rest' rest := by
  induction read generalizing before text with
  | nil => exact ⟨text, rfl, patched⟩
  | cons c read ih =>
      rw [List.mem_cons, not_or] at clean
      rw [List.cons_append] at patched
      generalize same : c :: (read ++ rest) = result at patched
      cases patched with
      | nil => cases same
      | keep _ further =>
          obtain ⟨rfl, rfl⟩ := List.cons.inj same
          obtain ⟨rest', rfl, behind⟩ := ih further clean.2
          exact ⟨rest', rfl, by rwa [Pattern.lastOr_cons]⟩
      | patch => exact absurd (List.cons.inj same).1.symm clean.1

end Patched

/-- Less may be known of kept places. -/
theorem Patched.mono {Kept Kept' Gone : Option Char → List Char → Prop}
    (patched : Patched Kept Gone before text result)
    (less : ∀ before text, Kept before text → Kept' before text) :
    Patched Kept' Gone before text result := by
  induction patched with
  | nil => exact .nil
  | keep kept _ ih => exact .keep (less _ _ kept) ih
  | patch gone _ ih => exact .patch gone ih

/-- Whether a shape cannot hold the mark, or a part of it. -/
structure PassesMark (shape : Shape) : Prop where
  isFilled : shape.IsFilled
  avoids_opening : shape.Avoids '['
  avoids_closing : shape.Avoids ']'
  lacks_inside : shape.Lacks (some '[') "REDACTED]".toList

theorem PassesMark.lacks_mark {shape : Shape} (passes : PassesMark shape) (before : Option Char) :
    shape.Lacks before mark := by
  refine Shape.lacks_cons.2 ⟨fun read rest same found => ?_, passes.lacks_inside⟩
  cases read with
  | nil => exact passes.isFilled _ found
  | cons c read =>
      obtain ⟨rfl, -⟩ := List.cons.inj same
      exact passes.avoids_opening _ _ found List.mem_cons_self

/-- **A shape that kept places lack is lacking** in the result. -/
theorem lacks_of_patched {shape : Shape} (passes : PassesMark shape)
    {Kept Gone : Option Char → List Char → Prop}
    (lacks : ∀ before text, Kept before text → shape.LacksHere before text)
    (patched : Patched Kept Gone before text result) : shape.Lacks before result := by
  induction patched with
  | nil => exact Shape.lacks_nil passes.isFilled
  | @keep before c text result kept further ih =>
      refine Shape.lacks_cons.2 ⟨fun read rest same found => ?_, ih⟩
      have whole : Patched Kept Gone before (c :: text) (read ++ rest) := same ▸ .keep kept further
      obtain ⟨rest', there, -⟩ := whole.exists_of_prefix (passes.avoids_opening _ _ found)
      exact lacks _ _ kept read rest' there found
  | @patch before stretch text result gone further ih =>
      have marked : shape.Lacks before ("[REDACTED".toList ++ [']']) := passes.lacks_mark before
      exact marked.append_of_wall passes.avoids_closing ih

/-- What is lacking at the start is lacking at kept places, if it stays lacking behind a mark. -/
theorem Patched.of_lacks {shape : Shape} {Gone : Option Char → List Char → Prop}
    (patched : Patched (fun _ _ => True) Gone before text result)
    (renew : ∀ before stretch text, Gone before text → shape.Lacks (lastOr before stretch) text →
      shape.Lacks (some ']') text)
    (lacks : shape.Lacks before text) :
    Patched (fun before text => shape.LacksHere before text) Gone before text result := by
  induction patched with
  | nil => exact .nil
  | keep _ _ ih =>
      obtain ⟨here, further⟩ := Shape.lacks_cons.1 lacks
      exact .keep here (ih further)
  | patch gone _ ih =>
      exact .patch gone (ih (renew _ _ _ gone lacks.of_append_right))

/-! ## Private keys -/

theorem passesMark_keyOpening : PassesMark keyOpening.shape where
  isFilled := Pattern.shape_isFilled rfl
  avoids_opening := Pattern.shape_avoids rfl
  avoids_closing := Pattern.shape_avoids rfl
  lacks_inside := (Pattern.findFrom?_eq_none_iff rfl).1 (by decide)

/-- The opening of a key is recognized behind any character. -/
theorem keyOpening_behind {other : Option Char} {read : List Char}
    (opening : keyOpening.shape other read) : keyOpening.shape before read := by
  obtain ⟨groups, reads⟩ := opening
  exact ⟨groups, reads.of_looksBack rfl nofun⟩

/-- Where there is no private key, none begins: one that is never closed ends with the text. -/
theorem lacksHere_keyOpening (none : privateKey.matchAt before text = none) :
    keyOpening.shape.LacksHere before text := by
  rintro read rest rfl ⟨groups, reads⟩
  have whole : privateKey.Reads before (read ++ (rest ++ [])) [] ([] ++ [] ++ groups) :=
    .seq (reads.anywhere rfl) (.seq (.run (by simp) (Nat.zero_le _) (by simp)) (.second .textEnd))
  have some : (privateKey.matchAt before (read ++ (rest ++ []))).isSome = true :=
    Pattern.matchAt_isSome_iff.2 ⟨_, [], _, (List.append_nil _).symm, whole⟩
  rw [List.append_nil, none] at some
  cases some

theorem patched_redactKeys (text : List Char) :
    Patched (fun before text => keyOpening.shape.LacksHere before text) (fun _ _ => True) none text
      (redactKeys text) := by
  have patched : ∀ {before before' : Option Char} {text result : List Char},
      privateKey.Replaced (fun _ => mark) before text result →
      Patched (fun before text => keyOpening.shape.LacksHere before text) (fun _ _ => True) before'
        text result := by
    intro before before' text result replaced
    induction replaced generalizing before' with
    | nil => exact .nil
    | keep none _ ih =>
        exact .keep (fun read rest same opening =>
          lacksHere_keyOpening none read rest same (keyOpening_behind opening)) ih
    | swap _ _ ih => exact .patch trivial ih
  exact patched (Pattern.replaced_replaceAll rfl text)

/-- **No opening of a private key is left.** -/
theorem lacks_keyOpening_redactKeys (text : List Char) :
    keyOpening.shape.Lacks none (redactKeys text) :=
  lacks_of_patched passesMark_keyOpening (fun _ _ lacks => lacks) (patched_redactKeys text)

/-! ## Tokens -/

theorem passesMark_token : PassesMark token.shape where
  isFilled := Pattern.shape_isFilled rfl
  avoids_opening := token_avoids (by decide)
  avoids_closing := token_avoids (by decide)
  lacks_inside := (Pattern.findFrom?_eq_none_iff rfl).1 (by decide)

/-- No token begins with a character that ends one. -/
theorem lacksHere_token_of_ends (ends : ∀ c ∈ text.head?, endsToken c = true) :
    token.shape.LacksHere before text := by
  rintro read rest rfl found
  cases read with
  | nil => exact passesMark_token.isFilled _ found
  | cons c read => exact token_avoids (ends c rfl) _ _ found List.mem_cons_self

/-- A token goes as far as it can. -/
theorem exists_of_matchAt_token {found : Pattern.Found}
    (here : token.matchAt before text = some found) :
    ∃ read rest, text = read ++ rest ∧ read.length = found.length ∧
      ∀ c ∈ rest.head?, endsToken c = true := by
  have here : Pattern.tryAt ⟨before, 0, text⟩ [] (.seq .wordEdge (.seq
      (.anyOf (tokenPrefixes.map .literal)) (.run (fun c => !endsToken c) ⟨4, none, true⟩)))
      (fun after groups => some (⟨after.offset, groups⟩ : Pattern.Found)) = some found := here
  obtain ⟨edge, _, _, rfl, -, fromStart⟩ := Pattern.exists_reads_of_tryAt_seq here
  obtain ⟨start, _, _, rfl, -, fromRun⟩ := Pattern.exists_reads_of_tryAt_seq fromStart
  obtain ⟨run, rest, rfl, ends, runs⟩ :=
    Pattern.exists_runs_of_tryRun_greedy (fun _ => rfl) fromRun
  obtain rfl := Option.some.inj runs.next_eq
  refine ⟨edge ++ (start ++ run), rest, by simp, ?_, fun c member => by simpa using ends c member⟩
  simp [Nat.add_assoc]

/-- Behind a mark, a text goes on with a character that ends tokens, or it ends. -/
theorem patched_redactTokens (text : List Char) :
    Patched (fun before text => token.shape.LacksHere before text) (fun _ _ => True) none text
      (redactTokens text) := by
  have patched : ∀ {before before' : Option Char} {text result : List Char},
      token.Replaced (fun _ => mark) before text result →
      (before' = before ∨ ∀ c ∈ text.head?, endsToken c = true) →
      Patched (fun before text => token.shape.LacksHere before text) (fun _ _ => True) before'
        text result := by
    intro before before' text result replaced same
    induction replaced generalizing before' with
    | nil => exact .nil
    | keep none _ ih =>
        refine .keep ?_ (ih (.inl rfl))
        rcases same with rfl | ends
        · exact (Pattern.matchAt_eq_none_iff rfl).1 none
        · exact lacksHere_token_of_ends ends
    | @swap before read text result groups here _ ih =>
        obtain ⟨read', rest, cut, length, ends⟩ := exists_of_matchAt_token here
        obtain ⟨rfl, rfl⟩ := List.append_inj cut length.symm
        exact .patch trivial (ih (.inr ends))
  exact patched (Pattern.replaced_replaceAll rfl text) (.inl rfl)

/-- **No token is left,** and no key is opened again. -/
theorem lacks_redactTokens (text : List Char) (keys : keyOpening.shape.Lacks none text) :
    token.shape.Lacks none (redactTokens text) ∧
      keyOpening.shape.Lacks none (redactTokens text) := by
  have patched := patched_redactTokens text
  refine ⟨lacks_of_patched passesMark_token (fun _ _ lacks => lacks) patched, ?_⟩
  have kept := (patched.mono fun _ _ _ => trivial).of_lacks
    (fun _ _ _ _ lacks => lacks.behind fun _ => keyOpening_behind) keys
  exact lacks_of_patched passesMark_keyOpening (fun _ _ lacks => lacks) kept

/-! ## Assignments -/

/-- Whether a value can stand between a character and a text: both have to be quotes. -/
def BetweenQuotes (before : Option Char) (text : List Char) : Prop :=
  (∃ opening, before = some opening ∧ isQuote opening = true) ∧
    ∃ closing rest, text = closing :: rest ∧ isQuote closing = true

/-- Only values between quotes are replaced in assignments. -/
abbrev Masked : Option Char → List Char → List Char → Prop :=
  Patched (fun _ _ => True) BetweenQuotes

theorem Patched.keepAll {Gone : Option Char → List Char → Prop} {kept : List Char}
    (patched : Patched (fun _ _ => True) Gone (lastOr before kept) text result) :
    Patched (fun _ _ => True) Gone before (kept ++ text) (kept ++ result) := by
  induction kept generalizing before with
  | nil => exact patched
  | cons c kept ih => exact .keep trivial (ih (by rwa [Pattern.lastOr_cons] at patched))

/-- What is found as an assignment is masked: its value is replaced, all else stays. -/
theorem exists_of_matchAt_assignment {found : Pattern.Found}
    (here : assignment.matchAt before text = some found) :
    ∃ read rest name sign value opening closing, text = read ++ rest ∧
      read.length = found.length ∧ Assigns read name sign value opening closing ∧
      maskedAssignment found.groups = name ++ sign ++ opening :: (mark ++ [closing]) := by
  obtain ⟨read, rest, rfl, length, reads⟩ := Pattern.exists_of_matchAt here
  obtain ⟨name, sign, value, opening, closing, assigns, one, two, three, -, five, -⟩ :=
    exists_assigns reads
  refine ⟨read, rest, name, sign, value, opening, closing, rfl, length, assigns, ?_⟩
  rw [maskedAssignment, one, two, three, five]
  simp

theorem masked_of_replaced (replaced : assignment.Replaced maskedAssignment before text result) :
    Masked before text result := by
  induction replaced with
  | nil => exact .nil
  | keep _ _ ih => exact .keep trivial ih
  | @swap before read text result groups here _ ih =>
      obtain ⟨read', rest, name, sign, value, opening, closing, cut, length, assigns, masked⟩ :=
        exists_of_matchAt_assignment here
      obtain ⟨rfl, rfl⟩ := List.append_inj cut length.symm
      have isOpening := assigns.isQuote_opening
      have isClosing := assigns.isQuote_closing
      -- the closing quote is kept behind the mark, and the text goes on behind it
      have closed : Masked (some ']') (closing :: text) (closing :: result) := by
        refine .keep trivial ?_
        rw [assigns.read_eq] at ih
        simpa using ih
      have valued : Masked (some opening) (value ++ closing :: text) (mark ++ closing :: result) :=
        .patch ⟨⟨opening, rfl, isOpening⟩, closing, text, rfl, isClosing⟩ closed
      have opened : Masked before (name ++ sign ++ [opening] ++ (value ++ closing :: text))
          (name ++ sign ++ [opening] ++ (mark ++ closing :: result)) := by
        refine Patched.keepAll ?_
        rw [Pattern.lastOr_append]
        exact valued
      rw [assigns.read_eq, masked]
      simpa using opened

/-- Where no value begins, a character stays. -/
theorem Patched.exists_cons {c : Char} (masked : Masked before (c :: text) result)
    (outside : ∀ c ∈ before, isQuote c = false) : ∃ result', result = c :: result' := by
  generalize same : c :: text = whole at masked
  cases masked with
  | nil => cases same
  | keep => exact ⟨_, by rw [(List.cons.inj same).1]⟩
  | patch gone =>
      obtain ⟨⟨opening, rfl, isOpening⟩, -⟩ := gone
      rw [outside opening rfl] at isOpening
      cases isOpening

/-- Where no value begins, nothing is masked up to the next quote. -/
theorem Patched.exists_of_word {word rest : List Char} {closing : Char}
    (masked : Masked before text (word ++ closing :: rest))
    (outside : ∀ c ∈ before, isQuote c = false) (clean : ∀ c ∈ word, isQuote c = false) :
    ∃ rest', text = word ++ closing :: rest' := by
  induction word generalizing before text with
  | nil =>
      rw [List.nil_append] at masked
      generalize same : closing :: rest = result at masked
      cases masked with
      | nil => cases same
      | keep => exact ⟨_, by rw [(List.cons.inj same).1]; rfl⟩
      | patch gone =>
          obtain ⟨⟨opening, rfl, isOpening⟩, -⟩ := gone
          rw [outside opening rfl] at isOpening
          cases isOpening
  | cons c word ih =>
      rw [List.cons_append] at masked
      generalize same : c :: (word ++ closing :: rest) = result at masked
      cases masked with
      | nil => cases same
      | @keep _ c' _ _ _ further =>
          obtain ⟨rfl, rfl⟩ := List.cons.inj same
          obtain ⟨rest', rfl⟩ := ih further
            (fun d member => by cases member; exact clean c List.mem_cons_self)
            fun d member => clean d (List.mem_cons_of_mem _ member)
          exact ⟨rest', rfl⟩
      | patch gone =>
          obtain ⟨⟨opening, rfl, isOpening⟩, -⟩ := gone
          rw [outside opening rfl] at isOpening
          cases isOpening

theorem isQuote_mark : ∀ c ∈ mark, isQuote c = false := List.forall_iff_forall_mem.1 (by decide)

/-- **A value behind its opening quote** is the mark, or was there before. -/
theorem Patched.value_cases {value rest : List Char} {opening closing : Char}
    (masked : Masked (some opening) text (value ++ closing :: rest)) (filled : value ≠ [])
    (isValue : ∀ c ∈ value, isQuote c = false) (isClosing : isQuote closing = true) :
    value = mark ∨ ∃ rest', text = value ++ closing :: rest' := by
  obtain ⟨c, value, rfl⟩ := List.exists_cons_of_ne_nil filled
  rw [List.cons_append] at masked
  generalize same : c :: (value ++ closing :: rest) = result at masked
  cases masked with
  | nil => cases same
  | @keep _ c' text _ _ further =>
      obtain ⟨rfl, rfl⟩ := List.cons.inj same
      obtain ⟨rest', rfl⟩ := further.exists_of_word
        (fun d member => by cases member; exact isValue c List.mem_cons_self)
        fun d member => isValue d (List.mem_cons_of_mem _ member)
      exact .inr ⟨rest', rfl⟩
  | @patch _ _ text result gone further =>
      obtain ⟨-, quote, behind, rfl, isQuote_quote⟩ := gone
      -- the closing quote of what was replaced is the next quote of the result
      obtain ⟨result, rfl⟩ := further.exists_cons fun d member => by cases member; rfl
      have cut : (c :: value) ++ closing :: rest = mark ++ quote :: result := same
      exact .inl (eq_of_first_quote cut isValue isQuote_mark isClosing isQuote_quote).1

/-- No assignment begins where another text than a name and a sign stands before the next quote, and
none exposes a value where the next value is the mark. -/
theorem lacksHere_exposed {front value rest : List Char} {opening closing : Char}
    (isFront : ∀ c ∈ front, isQuote c = false) (isOpening : isQuote opening = true)
    (isValue : ∀ c ∈ value, isQuote c = false) (isClosing : isQuote closing = true)
    (harmless : front = [] ∨ ']' ∈ front ∨ value = mark) :
    exposed.LacksHere before (front ++ opening :: (value ++ closing :: rest)) := by
  rintro read behind same ⟨groups, reads, other⟩
  obtain ⟨name, sign, value', _, _, assigns, -, -, -, told, -⟩ := exists_assigns reads
  obtain ⟨rfl, rfl⟩ := assigns.eq_of_first_quotes same.symm isFront isOpening isValue isClosing
  rcases harmless with none | bracket | marked
  · exact assigns.name_ne_nil (List.append_eq_nil_iff.1 none).1
  · exact assigns.notMem_front (by simp) bracket
  · exact other (told.trans marked)

/-- An assignment in the result either has the mark for its value, or was there before. -/
theorem Patched.assignment_cases {read rest : List Char} {groups : Groups}
    (masked : Masked before text (read ++ rest)) (reads : assignment.Reads before read [] groups) :
    groups.text 4 = mark ∨ ∃ rest', text = read ++ rest' := by
  obtain ⟨name, sign, value, opening, closing, assigns, -, -, -, told, -⟩ := exists_assigns reads
  have isOpening := assigns.isQuote_opening
  have front : '[' ∉ name ++ sign ++ [opening] := by
    rw [List.mem_append, not_or, List.mem_singleton]
    refine ⟨assigns.notMem_front (by simp), ?_⟩
    rintro rfl
    cases isOpening
  have whole : read ++ rest = name ++ sign ++ [opening] ++ (value ++ closing :: rest) := by
    rw [assigns.read_eq]
    simp
  rw [whole] at masked
  obtain ⟨text, rfl, behind⟩ := masked.exists_of_prefix front
  rw [Pattern.lastOr_append] at behind
  rcases behind.value_cases assigns.value_ne_nil (fun c member => (assigns.isValue c member).1)
    assigns.isQuote_closing with marked | ⟨rest', rfl⟩
  · exact .inl (told.trans marked)
  · refine .inr ⟨rest', ?_⟩
    rw [assigns.read_eq]
    simp

/-- No assignment begins at a quote. -/
theorem lacksHere_exposed_of_isQuote {quote : Char} {rest : List Char}
    (isQuote_quote : isQuote quote = true) : exposed.LacksHere before (quote :: rest) := by
  rintro read behind same ⟨groups, reads, -⟩
  obtain ⟨name, sign, _, _, _, assigns, -⟩ := exists_assigns reads
  obtain ⟨c, name, rfl⟩ := List.exists_cons_of_ne_nil assigns.name_ne_nil
  rw [assigns.read_eq] at same
  obtain ⟨rfl, -⟩ := List.cons.inj same
  rw [assigns.isQuote_front quote (by simp)] at isQuote_quote
  cases isQuote_quote

/-- None begins in the mark either, whose bracket no name and sign can hold. -/
theorem lacks_exposed_mark {closing : Char} {rest : List Char} (isClosing : isQuote closing = true)
    (lacks : exposed.Lacks (Pattern.lastOr before mark) (closing :: rest)) :
    exposed.Lacks before (mark ++ closing :: rest) := by
  refine Shape.Lacks.append_of_here lacks fun passed ahead split some => ?_
  rintro read behind same ⟨groups, reads, -⟩
  obtain ⟨name, sign, value, opening, closing', assigns, -⟩ := exists_assigns reads
  rw [assigns.read_eq] at same
  have first : ahead ++ closing :: rest =
      name ++ sign ++ opening :: (value ++ [closing'] ++ behind) := by
    rw [same]
    simp
  have clean : ∀ c ∈ ahead, isQuote c = false := fun c member =>
    isQuote_mark c (by rw [split]; exact List.mem_append_right _ member)
  obtain ⟨rfl, -⟩ := eq_of_first_quote first clean assigns.isQuote_front isClosing
    assigns.isQuote_opening
  have last : (passed ++ (name ++ sign)).getLast? = Option.some ']' := by
    rw [← split]
    rfl
  rw [List.getLast?_append_of_ne_nil _ some] at last
  exact assigns.notMem_front (by simp) (List.mem_of_getLast? last)

/-- **No value of an assignment is exposed.**  An assignment in the result that was there before was
looked at and not found, or begins inside one that was found, and then it has the same value. -/
theorem lacks_exposed_of_replaced
    (replaced : assignment.Replaced maskedAssignment before text result) :
    exposed.Lacks before result := by
  induction replaced with
  | nil => exact Shape.lacks_nil exposed_isFilled
  | @keep before c text result none further ih =>
      refine Shape.lacks_cons.2 ⟨?_, ih⟩
      rintro read rest same ⟨groups, reads, other⟩
      have masked : Masked before (c :: text) (read ++ rest) :=
        same ▸ .keep trivial (masked_of_replaced further)
      rcases masked.assignment_cases reads with marked | ⟨rest', there⟩
      · exact other marked
      · exact (Pattern.matchAt_eq_none_iff rfl).1 none read rest' there ⟨groups, reads⟩
  | @swap before read text result groups here _ ih =>
      obtain ⟨read', rest, name, sign, value, opening, closing, cut, length, assigns, masked⟩ :=
        exists_of_matchAt_assignment here
      obtain ⟨rfl, rfl⟩ := List.append_inj cut length.symm
      have isOpening := assigns.isQuote_opening
      have isClosing := assigns.isQuote_closing
      have closed : exposed.Lacks (some closing) result := by
        rw [assigns.read_eq] at ih
        simpa using ih
      rw [masked]
      have begins : name ++ sign ++ opening :: (mark ++ [closing]) ++ result =
          (name ++ sign) ++ (opening :: (mark ++ closing :: result)) := by simp
      rw [begins]
      -- an assignment that begins in the name or the sign has the mark for its value
      refine Shape.Lacks.append_of_here ?_ fun passed ahead split some => ?_
      swap
      · refine lacksHere_exposed (fun c member => assigns.isQuote_front c ?_) isOpening isQuote_mark
          isClosing (.inr (.inr rfl))
        rw [split]
        exact List.mem_append_right _ member
      refine Shape.lacks_cons.2 ⟨lacksHere_exposed_of_isQuote isOpening, ?_⟩
      exact lacks_exposed_mark isClosing
        (Shape.lacks_cons.2 ⟨lacksHere_exposed_of_isQuote isClosing, closed⟩)

/-! ## All three passes -/

/-- A shape without quotes is lacking behind a mark that stands between quotes, too. -/
theorem lacks_behind_mark {shape : Shape} (filled : shape.IsFilled)
    (avoids : ∀ c, isQuote c = true → shape.Avoids c) {stretch : List Char}
    (between : BetweenQuotes before text) (lacks : shape.Lacks (lastOr before stretch) text) :
    shape.Lacks (some ']') text := by
  obtain ⟨-, closing, rest, rfl, isClosing⟩ := between
  refine Shape.lacks_cons.2 ⟨?_, (Shape.lacks_cons.1 lacks).2⟩
  intro read behind same found
  cases read with
  | nil => exact filled _ found
  | cons c read =>
      obtain ⟨rfl, -⟩ := List.cons.inj same
      exact avoids closing isClosing _ _ found List.mem_cons_self

/-- **A redacted text is free of credentials,** whatever the text was. -/
theorem isFree_redact (text : List Char) : IsFree (redact text) := by
  obtain ⟨tokens, keys⟩ := lacks_redactTokens (redactKeys text) (lacks_keyOpening_redactKeys text)
  have replaced : assignment.Replaced maskedAssignment none (redactTokens (redactKeys text))
      (redact text) := Pattern.replaced_replaceAll rfl _
  have masked := masked_of_replaced replaced
  refine isFree_iff.2 ⟨?_, ?_, lacks_exposed_of_replaced replaced⟩
  · exact lacks_of_patched passesMark_token (fun _ _ lacks => lacks) <| masked.of_lacks
      (fun _ _ _ => lacks_behind_mark passesMark_token.isFilled
        fun c quote => token_avoids (endsToken_of_isQuote quote)) tokens
  · exact lacks_of_patched passesMark_keyOpening (fun _ _ lacks => lacks) <| masked.of_lacks
      (fun _ _ _ => lacks_behind_mark passesMark_keyOpening.isFilled
        fun c quote => keyOpening_avoids_quote quote) keys

end CodeIndex.Secret
