import CodeIndex.Proofs.Secret.Redaction
import CodeIndex.Proofs.Text.Wall

/-!
# Private keys in a text that goes on

A private key is what a text can hide the most of: it goes on to the nearest line that closes it, or
to the end of the text.  So what becomes of a text depends on what stands before it, but only in one
way: a key may have been opened before and not closed.  Then all of the text up to the first closing
line is taken for a part of that key, and otherwise the text is treated as if it stood alone.

This is said of texts behind a quote, which no line that opens or closes a key can hold.

## Main definitions

* `Secret.afterKey`: what is left of a text in which a key goes on.
* `Secret.LeavesKeyOpen`: whether a text ends inside a private key.

## Main statements

* `Secret.matchAt_privateKey`: how far a private key goes.
* `Secret.redactKeys_cons`: one step of the pass that removes keys.
* `Secret.LeavesKeyOpen.exists_redactKeys`, `Secret.exists_redactKeys_of_not_leavesKeyOpen`: a text
  behind a quote.
-/

namespace CodeIndex.Secret

open CodeIndex.Text

variable {before : Option Char} {text front right : List Char} {quote : Char}

/-! ## How far a key goes -/

/-- The text behind the nearest line that closes a key. -/
def behindClosing : List Char → Option (List Char)
  | [] => none
  | c :: rest =>
    match keyClosing.matchAt none (c :: rest) with
    | some closing => some ((c :: rest).drop closing.length)
    | none => behindClosing rest

/-- **What is left of a text in which a key goes on:** the text behind the line that closes the key,
and nothing if there is none. -/
def afterKey (text : List Char) : List Char := (behindClosing text).getD []

theorem afterKey_cons (c : Char) (rest : List Char) :
    afterKey (c :: rest) =
      match keyClosing.matchAt none (c :: rest) with
      | some closing => (c :: rest).drop closing.length
      | none => afterKey rest := by
  unfold afterKey
  rw [behindClosing]
  cases keyClosing.matchAt none (c :: rest) <;> rfl

/-- What is left is the end of the text. -/
theorem afterKey_suffix (text : List Char) : afterKey text <:+ text := by
  induction text with
  | nil => exact List.suffix_refl _
  | cons c rest ih =>
      rw [afterKey_cons]
      cases keyClosing.matchAt none (c :: rest) with
      | some closing => exact List.drop_suffix _ _
      | none => exact ih.trans (List.suffix_cons _ _)

/-- The lines that open and close a key are recognized behind any character, and no part of them is
remembered. -/
theorem matchAt_keyClosing : keyClosing.matchAt before text = keyClosing.matchAt none text :=
  Pattern.matchAt_behind rfl nofun

theorem matchAt_keyOpening : keyOpening.matchAt before text = keyOpening.matchAt none text :=
  Pattern.matchAt_behind rfl nofun

/-- Nothing is left where nothing closes the key. -/
theorem afterKey_of_lacks (lacks : keyClosing.occursIn text = false) : afterKey text = [] := by
  have none : ∀ passed rest, text = passed ++ rest → keyClosing.matchAt none rest = none :=
    fun passed rest split => matchAt_keyClosing.symm.trans
      (Pattern.occursIn_eq_false_iff_matchAt.1 lacks passed rest split)
  clear lacks
  induction text with
  | nil => rfl
  | cons c rest ih =>
      rw [afterKey_cons, none [] (c :: rest) rfl]
      exact ih fun passed behind split => none (c :: passed) behind (by rw [split]; rfl)

/-- The lines that open and close a key begin with a word and a space. -/
theorem space_mem_of_line {start : String} {pattern : Pattern} {read rest : List Char}
    {groups : Groups} (spaced : ' ' ∈ start.toList)
    (reads : (Pattern.seq (.literal start) pattern).Reads before read rest groups) :
    ' ' ∈ read := by
  obtain ⟨left, right, _, _, rfl, -, begins, -⟩ := reads.of_seq
  obtain rfl := begins.of_literal
  exact List.mem_append_left _ spaced

/-- No such line is found where there is no space. -/
theorem matchAt_line_of_notMem {start : String} {pattern : Pattern} (spaced : ' ' ∈ start.toList)
    (solid : ' ' ∉ text) :
    (Pattern.seq (.literal start) pattern).matchAt before text = none := by
  rw [← Option.not_isSome_iff_eq_none, Pattern.matchAt_isSome_iff]
  rintro ⟨read, rest, groups, rfl, reads⟩
  exact solid (List.mem_append_left _ (space_mem_of_line spaced reads))

theorem matchAt_keyOpening_of_notMem (solid : ' ' ∉ text) :
    keyOpening.matchAt before text = none :=
  matchAt_line_of_notMem (by decide) solid

theorem matchAt_keyClosing_of_notMem (solid : ' ' ∉ text) :
    keyClosing.matchAt before text = none :=
  matchAt_line_of_notMem (by decide) solid

theorem behindClosing_of_notMem (solid : ' ' ∉ text) : behindClosing text = none := by
  induction text with
  | nil => rfl
  | cons c rest ih =>
      rw [behindClosing, matchAt_keyClosing_of_notMem solid]
      exact ih fun member => solid (List.mem_cons_of_mem _ member)

theorem afterKey_of_notMem (solid : ' ' ∉ text) : afterKey text = [] := by
  rw [afterKey, behindClosing_of_notMem solid]
  rfl

/-- What follows the opening of a key: as little as possible, then a closing or the end. -/
def keyRemainder : Pattern :=
  .seq (.run (fun _ => true) ⟨0, none, false⟩) (.either keyClosing .textEnd)

theorem privateKey_eq : privateKey = .seq keyOpening keyRemainder := rfl

/-- What is found at the end of a key: a closing, or else the end of the text. -/
theorem tryAt_endOfKey (offset : Nat) (groups : Groups) :
    Pattern.tryAt ⟨before, offset, text⟩ groups (.either keyClosing .textEnd)
        (fun after groups => some (⟨after.offset, groups⟩ : Pattern.Found)) =
      match keyClosing.matchAt none text with
      | some closing => some ⟨offset + closing.length, groups⟩
      | none => if text.isEmpty then some ⟨offset, groups⟩ else none := by
  have part : Pattern.tryAt ⟨before, offset, text⟩ groups keyClosing _ = _ :=
    Pattern.tryAt_eq_map ⟨before, offset, text⟩ groups
      (fun after groups => some (⟨after.offset, groups⟩ : Pattern.Found)) rfl
      (fun closing => ⟨closing.length + offset, closing.groups ++ groups⟩) fun _ _ _ => rfl
  rw [Pattern.tryAt, part, matchAt_keyClosing]
  cases here : keyClosing.matchAt none text with
  | none => rfl
  | some closing =>
      obtain ⟨_, _, -, -, reads⟩ := Pattern.exists_of_matchAt here
      rw [Option.map_some, reads.groups_eq_nil rfl, List.nil_append, Nat.add_comm, Option.some_or]

/-- Inside a key that is open, all is read up to the nearest closing. -/
theorem tryRun_insideKey {next : Place → Option Pattern.Found} {groups : Groups}
    (ends : ∀ before offset text, next ⟨before, offset, text⟩ =
      match keyClosing.matchAt none text with
      | some closing => some ⟨offset + closing.length, groups⟩
      | none => if text.isEmpty then some ⟨offset, groups⟩ else none) (offset : Nat) :
    Pattern.tryRun (fun _ => true) false next 0 none before offset text =
      some ⟨offset + (text.length - (afterKey text).length), groups⟩ := by
  induction text generalizing before offset with
  | nil =>
      rw [Pattern.tryRun, ends]
      rfl
  | cons c rest ih =>
      have further := (afterKey_suffix rest).length_le
      rw [afterKey_cons]
      simp only [Pattern.tryRun, ends, Pattern.hasRoom, Nat.zero_sub, Option.map_none, ih,
        Bool.false_eq_true, if_false, Bool.and_true, if_true, List.isEmpty_cons]
      cases here : keyClosing.matchAt none (c :: rest) with
      | some closing =>
          have inside := Pattern.length_le_of_matchAt here
          simp only [Option.some_or, List.length_drop, Nat.sub_sub_self inside]
      | none =>
          have length : offset + 1 + (rest.length - (afterKey rest).length) =
              offset + ((c :: rest).length - (afterKey rest).length) := by
            rw [List.length_cons]
            omega
          simp only [Option.none_or, length]

/-- **A private key goes on to the nearest closing.** -/
theorem matchAt_privateKey (before : Option Char) (text : List Char) :
    privateKey.matchAt before text = (keyOpening.matchAt none text).map fun opening =>
      ⟨text.length - (afterKey (text.drop opening.length)).length, []⟩ := by
  have part : Pattern.tryAt ⟨before, 0, text⟩ [] keyOpening _ = _ :=
    Pattern.tryAt_eq_map ⟨before, 0, text⟩ [] (fun after groups =>
        Pattern.tryAt after groups keyRemainder
          fun after groups => some (⟨after.offset, groups⟩ : Pattern.Found)) rfl
      (fun opening => ⟨opening.length + ((text.drop opening.length).length -
        (afterKey (text.drop opening.length)).length), opening.groups⟩)
      fun _ opening _ => by
        rw [List.append_nil, keyRemainder, Pattern.tryAt, Pattern.tryAt]
        exact tryRun_insideKey (fun _ _ _ => tryAt_endOfKey _ _) _
  rw [privateKey_eq, Pattern.matchAt, Pattern.tryAt, part, matchAt_keyOpening]
  cases here : keyOpening.matchAt none text with
  | none => rfl
  | some opening =>
      obtain ⟨_, _, -, -, reads⟩ := Pattern.exists_of_matchAt here
      have inside := Pattern.length_le_of_matchAt here
      have behind := (afterKey_suffix (text.drop opening.length)).length_le
      have length : opening.length + ((text.drop opening.length).length -
          (afterKey (text.drop opening.length)).length) =
            text.length - (afterKey (text.drop opening.length)).length := by
        rw [List.length_drop] at behind ⊢
        omega
      rw [Option.map_some, Option.map_some, reads.groups_eq_nil rfl, length]

/-- **One step of the pass that removes keys.** -/
theorem redactKeys_cons (c : Char) (rest : List Char) :
    redactKeys (c :: rest) =
      match keyOpening.matchAt none (c :: rest) with
      | some opening => mark ++ redactKeys (afterKey ((c :: rest).drop opening.length))
      | none => c :: redactKeys rest := by
  have anywhere : ∀ {before text}, privateKey.replaceFrom (fun _ => mark) before 0 text =
      redactKeys text := Pattern.replaceFrom_behind _ rfl nofun
  have here := matchAt_privateKey none (c :: rest)
  cases opens : keyOpening.matchAt none (c :: rest) with
  | none =>
      rw [opens] at here
      exact (Pattern.replaceFrom_of_none _ here).trans (congrArg (c :: ·) anywhere)
  | some opening =>
      rw [opens] at here
      refine (Pattern.replaceFrom_of_some _ rfl here).trans (congrArg (mark ++ ·) ?_)
      rw [anywhere]
      exact congrArg redactKeys
        (List.suffix_iff_eq_drop.1 ((afterKey_suffix _).trans (List.drop_suffix _ _))).symm

theorem redactKeys_of_notMem (solid : ' ' ∉ text) : redactKeys text = text := by
  induction text with
  | nil => rfl
  | cons c rest ih =>
      rw [redactKeys_cons, matchAt_keyOpening_of_notMem solid]
      exact congrArg (c :: ·) (ih fun member => solid (List.mem_cons_of_mem _ member))

/-- Whether a text ends inside a private key: what follows, as long as nothing closes the key, is
taken for a part of it. -/
def LeavesKeyOpen (text : List Char) : Prop :=
  ∀ more, keyClosing.occursIn more = false → redactKeys (text ++ more) = redactKeys text

theorem not_leavesKeyOpen_of_notMem (solid : ' ' ∉ text) : ¬LeavesKeyOpen text := by
  intro opened
  have same := opened ['x'] (by decide)
  have solid' : ' ' ∉ text ++ ['x'] := by simpa using solid
  rw [redactKeys_of_notMem solid, redactKeys_of_notMem solid'] at same
  simp at same

/-! ## Behind a quote -/

section Quote

variable (isQuote_quote : isQuote quote = true)

include isQuote_quote

theorem isWord_of_isQuote : isWord quote = false := by
  rcases eq_of_isQuote isQuote_quote with rfl | rfl <;> decide

/-- A pattern that takes no quotes stops at them. -/
theorem stopsAt_quote {pattern : Pattern} (double : pattern.takes '"' = false)
    (single : pattern.takes '\'' = false) (start : pattern.looksForStart = false)
    (inside : pattern.looksInside true = true) : pattern.StopsAt true (quote :: right) := by
  refine ⟨fun c member => ?_, start, fun _ => rfl, fun _ => inside⟩
  obtain rfl := Option.some.inj member
  refine ⟨?_, isWord_of_isQuote isQuote_quote⟩
  rcases eq_of_isQuote isQuote_quote with rfl | rfl
  · exact double
  · exact single

theorem matchAt_keyOpening_append_quote (text : List Char) :
    keyOpening.matchAt before (text ++ quote :: right) = keyOpening.matchAt before text :=
  Pattern.matchAt_append_wall text (stopsAt_quote isQuote_quote (by decide) (by decide) rfl rfl)

theorem matchAt_keyClosing_append_quote (text : List Char) :
    keyClosing.matchAt before (text ++ quote :: right) = keyClosing.matchAt before text :=
  Pattern.matchAt_append_wall text (stopsAt_quote isQuote_quote (by decide) (by decide) rfl rfl)

/-- A key that goes on before a quote may end before it or behind it. -/
theorem behindClosing_append_quote :
    behindClosing (text ++ quote :: right) =
      match behindClosing text with
      | some rest => some (rest ++ quote :: right)
      | none => behindClosing right := by
  induction text with
  | nil =>
      have none : keyClosing.matchAt none (quote :: right) = none :=
        (matchAt_keyClosing_append_quote isQuote_quote []).trans (by decide)
      simp only [List.nil_append, behindClosing, none]
  | cons c rest ih =>
      have same : keyClosing.matchAt none (c :: (rest ++ quote :: right)) =
          keyClosing.matchAt none (c :: rest) :=
        matchAt_keyClosing_append_quote isQuote_quote (c :: rest)
      rw [List.cons_append, behindClosing, behindClosing, same]
      cases here : keyClosing.matchAt none (c :: rest) with
      | none => exact ih
      | some closing =>
          have inside := Pattern.length_le_of_matchAt here
          have cut : (c :: rest ++ quote :: right).drop closing.length =
              (c :: rest).drop closing.length ++ quote :: right :=
            List.drop_append_of_le_length inside
          exact congrArg some cut

/-- A stretch without spaces is no part of the lines that open and close keys. -/
theorem afterKey_solid_append_quote (solid : ' ' ∉ text) :
    afterKey (text ++ quote :: right) = afterKey right := by
  unfold afterKey
  rw [behindClosing_append_quote isQuote_quote, behindClosing_of_notMem solid]

theorem redactKeys_solid_append_quote (solid : ' ' ∉ text) :
    redactKeys (text ++ quote :: right) = text ++ quote :: redactKeys right := by
  have none : ∀ {text}, ' ' ∉ text → keyOpening.matchAt none (text ++ quote :: right) = none :=
    fun solid => (matchAt_keyOpening_append_quote isQuote_quote _).trans
      (matchAt_keyOpening_of_notMem solid)
  induction text with
  | nil =>
      have here : keyOpening.matchAt .none (quote :: right) = .none := none List.not_mem_nil
      rw [List.nil_append, redactKeys_cons, here]
      rfl
  | cons c rest ih =>
      have here := none solid
      rw [List.cons_append] at here
      rw [List.cons_append, redactKeys_cons, here]
      exact congrArg (c :: ·) (ih fun member => solid (List.mem_cons_of_mem _ member))

/-- What stands before a quote decides whether the text behind it is inside a key. -/
theorem redactKeys_append_quote (front : List Char) :
    (∃ kept, ∀ right, redactKeys (front ++ quote :: right) =
      kept ++ mark ++ redactKeys (afterKey right)) ∨
    (∃ kept, ∀ right, redactKeys (front ++ quote :: right) =
      kept ++ quote :: redactKeys right) := by
  generalize size : front.length = length
  induction length using Nat.strongRecOn generalizing front with | ind length ih =>
  subst size
  cases front with
  | nil =>
      refine .inr ⟨[], fun right => ?_⟩
      have none : keyOpening.matchAt none (quote :: right) = none :=
        (matchAt_keyOpening_append_quote isQuote_quote []).trans (by decide)
      rw [List.nil_append, redactKeys_cons, none]
      rfl
  | cons c rest =>
      have same : ∀ right, keyOpening.matchAt none (c :: (rest ++ quote :: right)) =
          keyOpening.matchAt none (c :: rest) := fun right =>
        matchAt_keyOpening_append_quote isQuote_quote (c :: rest)
      simp only [List.cons_append, redactKeys_cons, same]
      -- the text goes on behind `passed`, wherever the next step leads to
      have onward : ∀ (passed front : List Char), front.length < (c :: rest).length →
          (∃ kept, ∀ right, passed ++ redactKeys (front ++ quote :: right) =
            kept ++ mark ++ redactKeys (afterKey right)) ∨
          (∃ kept, ∀ right, passed ++ redactKeys (front ++ quote :: right) =
            kept ++ quote :: redactKeys right) := by
        intro passed front shorter
        rcases ih _ shorter front rfl with ⟨kept, known⟩ | ⟨kept, known⟩
        · exact .inl ⟨passed ++ kept, fun right => by simp only [known, List.append_assoc]⟩
        · exact .inr ⟨passed ++ kept, fun right => by simp only [known, List.append_assoc]⟩
      cases here : keyOpening.matchAt none (c :: rest) with
      | none => exact onward [c] rest (Nat.lt_succ_self _)
      | some opening =>
          obtain ⟨read, behind, split, length, reads⟩ := Pattern.exists_of_matchAt here
          have filled : 0 < read.length := List.length_pos_iff.2 (reads.ne_nil rfl)
          have inside := Pattern.length_le_of_matchAt here
          have cut : ∀ right, (c :: rest ++ quote :: right).drop opening.length =
              (c :: rest).drop opening.length ++ quote :: right := fun right =>
            List.drop_append_of_le_length inside
          have shorter := (afterKey_suffix ((c :: rest).drop opening.length)).length_le
          simp only [← List.cons_append, cut, afterKey, behindClosing_append_quote isQuote_quote]
          unfold afterKey at shorter
          cases closes : behindClosing ((c :: rest).drop opening.length) with
          | none => exact .inl ⟨[], fun _ => rfl⟩
          | some remaining =>
              refine onward mark remaining ?_
              rw [closes, Option.getD_some, List.length_drop] at shorter
              omega

/-- **Behind a quote inside a key,** only what follows the closing of the key is left. -/
theorem LeavesKeyOpen.exists_redactKeys (opened : LeavesKeyOpen (front ++ [quote])) :
    ∃ kept, ∀ right, redactKeys (front ++ quote :: right) =
      kept ++ redactKeys (afterKey right) := by
  rcases redactKeys_append_quote isQuote_quote front with ⟨kept, known⟩ | ⟨kept, known⟩
  · exact ⟨kept ++ mark, known⟩
  · -- a letter would have stayed
    have same := opened ['x'] (by decide)
    rw [List.append_assoc, List.singleton_append, known, known] at same
    have length := congrArg List.length same
    have letter : redactKeys ['x'] = ['x'] := by decide
    have nothing : redactKeys [] = [] := rfl
    rw [letter, nothing] at length
    simp at length

/-- **Behind a quote outside of keys,** a text is treated as if it stood alone. -/
theorem exists_redactKeys_of_not_leavesKeyOpen (closed : ¬LeavesKeyOpen (front ++ [quote])) :
    ∃ kept, ∀ right, redactKeys (front ++ quote :: right) = kept ++ quote :: redactKeys right := by
  rcases redactKeys_append_quote isQuote_quote front with ⟨kept, known⟩ | known
  · refine absurd (fun more lacks => ?_) closed
    rw [List.append_assoc, List.singleton_append, known, known, afterKey_of_lacks lacks]
    rfl
  · exact known

end Quote

end CodeIndex.Secret
