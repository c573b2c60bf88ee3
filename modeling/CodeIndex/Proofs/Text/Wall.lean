import CodeIndex.Proofs.Text.Replacing

/-!
# Walls

A character that a pattern does not take is a wall for it: no match crosses the wall, and what
stands behind does not matter for what is found before it.  To the edges of words the wall is like
the end of the text if it is no part of a word.  So a text with a wall in it is replaced piece by
piece (`Pattern.replaceAll_append_wall`), and it does not matter either where the second piece
stood.

This is said of the matcher and not of what patterns read: the preferred match is the same, with its
groups.  All of it is one statement about two runs of the matcher that see the same
(`Pattern.map_tryAt`), which also tells how a pattern is matched inside another one.

## Main definitions

* `Pattern.StopsAt`: whether a pattern stops at a text.
* `Pattern.LooksLike`: places that look the same to a pattern.

## Main statements

* `Pattern.map_tryAt`
* `Pattern.matchAt_append_wall`, `Pattern.matchAt_behind`
* `Pattern.replaceAll_append_wall`, `Pattern.replaceFrom_behind`
-/

namespace CodeIndex.Text

namespace Pattern

variable {β γ : Type} {pattern : Pattern} {looks : Bool} {tail text : List Char} {ahead : Nat}

/-- Two places that look the same to a pattern that stops at `tail`.  The first one is a place of
`text`; behind the second one, `tail` follows, and its offset is counted from an earlier start.  If
the pattern `looks` back, the characters before are alike. -/
structure LooksLike (looks : Bool) (text tail : List Char) (ahead : Nat) (short long : Place) :
    Prop where
  short_rest : short.rest = text.drop short.offset
  within : short.offset ≤ text.length
  rest : long.rest = short.rest ++ tail
  offset : long.offset = short.offset + ahead
  before : looks = true → short.before.any isWord = long.before.any isWord

/-- One character further, two places that look the same still do. -/
theorem LooksLike.further {before before' : Option Char} {offset offset' : Nat} {c : Char}
    {read : List Char}
    (alike : LooksLike looks text tail ahead ⟨before, offset, c :: read⟩
      ⟨before', offset', c :: read ++ tail⟩) :
    LooksLike looks text tail ahead ⟨some c, offset + 1, read⟩
      ⟨some c, offset' + 1, read ++ tail⟩ := by
  have placed : c :: read = text.drop offset := alike.short_rest
  have there : offset' = offset + ahead := alike.offset
  refine ⟨?_, ?_, rfl, ?_, fun _ => rfl⟩
  · rw [← List.tail_drop, ← placed, List.tail_cons]
  · refine Nat.lt_of_not_le fun beyond => ?_
    rw [List.drop_eq_nil_of_le beyond] at placed
    cases placed
  · simp only
    omega

/-- Whether a pattern stops at the beginning of a text, and looks back only if it is said to. -/
structure StopsAt (pattern : Pattern) (looks : Bool) (tail : List Char) : Prop where
  wall : ∀ c ∈ tail.head?, pattern.takes c = false ∧ isWord c = false
  looksForStart : pattern.looksForStart = false
  looksBack : pattern.looksBack = true → looks = true
  looksInside : tail ≠ [] → pattern.looksInside true = true

namespace StopsAt

variable {first second : Pattern}

theorem of_seq (stops : (Pattern.seq first second).StopsAt looks tail) :
    first.StopsAt looks tail ∧ second.StopsAt looks tail := by
  obtain ⟨wall, start, back, inside⟩ := stops
  obtain ⟨start, start'⟩ := Bool.or_eq_false_iff.1 start
  constructor
  · exact ⟨fun c member => ⟨(Bool.or_eq_false_iff.1 (wall c member).1).1, (wall c member).2⟩, start,
      fun given => back (Bool.or_eq_true_iff.2 (.inl given)),
      fun filled => (Bool.and_eq_true_iff.1 (inside filled)).1⟩
  · exact ⟨fun c member => ⟨(Bool.or_eq_false_iff.1 (wall c member).1).2, (wall c member).2⟩,
      start', fun given => back (Bool.or_eq_true_iff.2 (.inr given)),
      fun filled => (Bool.and_eq_true_iff.1 (inside filled)).2⟩

theorem of_either (stops : (Pattern.either first second).StopsAt looks tail) :
    first.StopsAt looks tail ∧ second.StopsAt looks tail :=
  of_seq ⟨stops.wall, stops.looksForStart, stops.looksBack, stops.looksInside⟩

theorem of_group {index : Nat} {body : Pattern}
    (stops : (Pattern.group index body).StopsAt looks tail) : body.StopsAt looks tail :=
  ⟨stops.wall, stops.looksForStart, stops.looksBack, stops.looksInside⟩

/-- Any pattern that does not look for the start stops at the end. -/
theorem nil (start : pattern.looksForStart = false)
    (back : pattern.looksBack = true → looks = true) : pattern.StopsAt looks [] :=
  ⟨by simp, start, back, fun filled => absurd rfl filled⟩

end StopsAt

/-! ## Two runs of the matcher -/

section

variable {next : Place → Option β} {next' : Place → Option γ} {f : β → γ}

/-- A run stops at a character that it does not accept, and at the end. -/
theorem map_tryRun {accepts : Char → Bool} {greedy : Bool}
    (wall : ∀ c ∈ tail.head?, accepts c = false)
    (same : ∀ short long, LooksLike looks text tail ahead short long →
      (next short).map f = next' long)
    {least : Nat} {most : Option Nat} {before before' : Option Char} {offset offset' : Nat}
    {read read' : List Char}
    (alike : LooksLike looks text tail ahead ⟨before, offset, read⟩ ⟨before', offset', read'⟩) :
    (tryRun accepts greedy next least most before offset read).map f =
      tryRun accepts greedy next' least most before' offset' read' := by
  obtain rfl : read' = read ++ tail := alike.rest
  induction read generalizing least most before before' offset offset' with
  | nil =>
      have here := same _ _ alike
      rw [List.nil_append] at here ⊢
      cases tail with
      | nil => simp only [tryRun, apply_ite (Option.map f), here, Option.map_none]
      | cons c tail =>
          have stops := wall c rfl
          cases greedy <;> simp [tryRun, stops, apply_ite (Option.map f), here]
  | cons c read ih =>
      have here := same _ _ alike
      have further : (tryRun accepts greedy next (least - 1) (most.map (· - 1)) (some c)
          (offset + 1) read).map f = tryRun accepts greedy next' (least - 1) (most.map (· - 1))
            (some c) (offset' + 1) (read ++ tail) := ih alike.further
      rw [List.cons_append] at here ⊢
      simp only [tryRun]
      cases greedy <;>
        simp only [Option.map_or, apply_ite (Option.map f), Option.map_none, further, here]

end

/-- **Two runs of the matcher that see the same** have the same outcome, if what follows has. -/
theorem map_tryAt (stops : pattern.StopsAt looks tail) (base : Groups) (f : β → γ)
    {next : Place → Groups → Option β} {next' : Place → Groups → Option γ}
    (same : ∀ short long groups, LooksLike looks text tail ahead short long →
      (next short groups).map f = next' long (groups ++ base))
    {short long : Place} (groups : Groups) (alike : LooksLike looks text tail ahead short long) :
    (tryAt short groups pattern next).map f = tryAt long (groups ++ base) pattern next' := by
  induction pattern generalizing next next' short long groups with
  | empty => exact same _ _ _ alike
  | one accepts =>
      obtain ⟨before, offset, read⟩ := short
      obtain ⟨before', offset', read'⟩ := long
      obtain rfl : read' = read ++ tail := alike.rest
      cases read with
      | nil =>
          cases tail with
          | nil => rfl
          | cons c tail =>
              have taken : accepts c = false := (stops.wall c rfl).1
              simp [tryAt, taken]
      | cons c read =>
          have further := same _ _ groups alike.further
          simp only [tryAt, List.cons_append, apply_ite (Option.map f), Option.map_none, further]
  | run accepts count =>
      simp only [tryAt]
      exact map_tryRun (fun c member => (stops.wall c member).1)
        (fun short long alike => same short long groups alike) alike
  | seq first second ihFirst ihSecond =>
      simp only [tryAt]
      refine ihFirst stops.of_seq.1 (fun short long groups alike => ?_) groups alike
      exact ihSecond stops.of_seq.2 same groups alike
  | either first second ihFirst ihSecond =>
      simp only [tryAt, Option.map_or]
      rw [ihFirst stops.of_either.1 same groups alike, ihSecond stops.of_either.2 same groups alike]
  | group index body ih =>
      refine ih stops.of_group (fun after after' groups alike' => ?_) groups alike
      -- the text of the group ends before the wall
      have within : after.offset - short.offset ≤ short.rest.length := by
        have := alike'.within
        rw [alike.short_rest, List.length_drop]
        omega
      have length : after'.offset - long.offset = after.offset - short.offset := by
        rw [alike.offset, alike'.offset]
        omega
      rw [length, alike.rest, List.take_append_of_le_length within]
      exact same _ _ _ alike'
  | wordEdge =>
      have edge : isWordEdge short = isWordEdge long := by
        unfold isWordEdge
        rw [alike.before (stops.looksBack rfl), alike.rest]
        cases short.rest with
        | cons c read => rfl
        | nil =>
            cases tail with
            | nil => rfl
            | cons c tail => simp [(stops.wall c rfl).2]
      simp only [tryAt, edge, apply_ite (Option.map f), Option.map_none,
        same short long groups alike]
  | textStart => cases stops.looksForStart
  | textEnd =>
      cases tail with
      | nil =>
          have rest : long.rest = short.rest := by rw [alike.rest, List.append_nil]
          simp only [tryAt, rest, apply_ite (Option.map f), Option.map_none,
            same short long groups alike]
      | cons c tail => cases stops.looksInside (List.cons_ne_nil _ _)

/-! ## Matches -/

variable {before before' : Option Char} {rest : List Char} {c : Char}

/-- What is found is the same if it was looked for from the same start. -/
theorem LooksLike.map_found {short long : Place} (alike : LooksLike looks text tail 0 short long)
    (groups : Groups) :
    (some (⟨short.offset, groups⟩ : Found)).map id = some ⟨long.offset, groups ++ []⟩ := by
  rw [alike.offset, List.append_nil]
  rfl

/-- **A match does not depend on what is behind a wall.** -/
theorem matchAt_append_wall (text : List Char) (stops : pattern.StopsAt true (c :: rest)) :
    matchAt pattern before (text ++ c :: rest) = matchAt pattern before text := by
  have alike : LooksLike true text (c :: rest) 0 ⟨before, 0, text⟩ ⟨before, 0, text ++ c :: rest⟩ :=
    ⟨rfl, Nat.zero_le _, rfl, rfl, fun _ => rfl⟩
  have same : (matchAt pattern before text).map id = matchAt pattern before (text ++ c :: rest) :=
    map_tryAt stops [] id (fun _ _ groups alike => alike.map_found groups) [] alike
  rw [Option.map_id_apply] at same
  exact same.symm

/-- Of the character before a match it matters only whether it is part of a word, and that only if
the pattern looks back. -/
theorem matchAt_behind (start : pattern.looksForStart = false)
    (word : pattern.looksBack = true → before.any isWord = before'.any isWord) :
    matchAt pattern before text = matchAt pattern before' text := by
  have alike : LooksLike pattern.looksBack text [] 0 ⟨before, 0, text⟩ ⟨before', 0, text⟩ :=
    ⟨rfl, Nat.zero_le _, (List.append_nil _).symm, rfl, word⟩
  have same : (matchAt pattern before text).map id = matchAt pattern before' text :=
    map_tryAt (.nil start id) [] id (fun _ _ groups alike => alike.map_found groups) [] alike
  rw [Option.map_id_apply] at same
  exact same

/-- A pattern is matched inside another one as it is matched alone. -/
theorem tryAt_eq_map (place : Place) (groups : Groups) (next : Place → Groups → Option γ)
    (start : pattern.looksForStart = false) (total : Found → γ)
    (same : ∀ before found, found.length ≤ place.rest.length →
      next ⟨before, found.length + place.offset, place.rest.drop found.length⟩
        (found.groups ++ groups) = some (total found)) :
    tryAt place groups pattern next = (matchAt pattern place.before place.rest).map total := by
  have alike : LooksLike pattern.looksBack place.rest [] place.offset
      ⟨place.before, 0, place.rest⟩ place :=
    ⟨rfl, Nat.zero_le _, (List.append_nil _).symm, (Nat.zero_add _).symm, fun _ => rfl⟩
  refine (map_tryAt (.nil start id) groups total (fun short long added alike => ?_) [] alike).symm
  obtain ⟨before, offset, read⟩ := long
  obtain rfl : read = short.rest ++ [] := alike.rest
  obtain rfl : offset = short.offset + place.offset := alike.offset
  rw [List.append_nil, alike.short_rest]
  exact (same before ⟨short.offset, added⟩ alike.within).symm

/-! ## Replacements -/

variable (replacement : Groups → List Char)

/-- Of the character before a text it matters only whether it is part of a word. -/
theorem replaceFrom_behind (start : pattern.looksForStart = false)
    (word : pattern.looksBack = true → before.any isWord = before'.any isWord) :
    replaceFrom pattern replacement before 0 text =
      replaceFrom pattern replacement before' 0 text := by
  cases text with
  | nil => rfl
  | cons c text => simp only [replaceFrom, matchAt_behind start word]

/-- Characters that belong to a match are passed over. -/
theorem replaceFrom_skip (skip : Nat) (within : skip ≤ text.length) :
    replaceFrom pattern replacement before skip text =
      replaceFrom pattern replacement (lastOr before (text.take skip)) 0 (text.drop skip) := by
  induction text generalizing before skip with
  | nil => simp [replaceFrom]
  | cons c text ih =>
      cases skip with
      | zero => rfl
      | succ skip =>
          rw [List.take_succ_cons, lastOr_cons, List.drop_succ_cons, replaceFrom]
          exact ih skip (Nat.le_of_succ_le_succ within)

/-- A match is no longer than the text. -/
theorem length_le_of_matchAt {found : Found} (here : matchAt pattern before text = some found) :
    found.length ≤ text.length := by
  obtain ⟨read, rest, rfl, length, -⟩ := exists_of_matchAt here
  rw [← length, List.length_append]
  omega

/-- Where there is no match, a character is kept. -/
theorem replaceFrom_of_none (none : matchAt pattern before (c :: rest) = none) :
    replaceFrom pattern replacement before 0 (c :: rest) =
      c :: replaceFrom pattern replacement (some c) 0 rest := by
  rw [replaceFrom.eq_def]
  simp only [none]

/-- Where no match begins in a stretch, the stretch is kept. -/
theorem replaceFrom_append_of_none
    (none : ∀ passed ahead, text = passed ++ ahead → ahead ≠ [] →
      matchAt pattern (lastOr before passed) (ahead ++ rest) = none) :
    replaceFrom pattern replacement before 0 (text ++ rest) =
      text ++ replaceFrom pattern replacement (lastOr before text) 0 rest := by
  induction text generalizing before with
  | nil => rfl
  | cons c text ih =>
      have first : matchAt pattern before (c :: (text ++ rest)) = .none :=
        none [] (c :: text) rfl (List.cons_ne_nil _ _)
      rw [List.cons_append, lastOr_cons, replaceFrom_of_none replacement first,
        ih fun passed ahead split some => ?_]
      · rfl
      · have here := none (c :: passed) ahead (by rw [split]; rfl) some
        rwa [lastOr_cons] at here

/-- Where there is a match, it is replaced, and the text goes on behind it. -/
theorem replaceFrom_of_some {found : Found} (moves : pattern.moves = true)
    (here : matchAt pattern before text = some found) :
    replaceFrom pattern replacement before 0 text =
      replacement found.groups ++ replaceFrom pattern replacement
        (lastOr before (text.take found.length)) 0 (text.drop found.length) := by
  obtain ⟨read, rest, rfl, length, reads⟩ := exists_of_matchAt here
  obtain ⟨c, read, rfl⟩ := List.exists_cons_of_ne_nil (reads.ne_nil moves)
  obtain ⟨_, groups⟩ := found
  subst length
  have passed : replaceFrom pattern replacement (some c) read.length (read ++ rest) = _ :=
    replaceFrom_skip replacement read.length (by simp)
  rw [List.cons_append] at here ⊢
  rw [replaceFrom.eq_def]
  simp only [here, List.length_cons, List.take_succ_cons, lastOr_cons, List.drop_succ_cons]
  rw [passed]

/-- **A text with a wall in it is replaced piece by piece.** -/
theorem replaceFrom_append_wall (stops : pattern.StopsAt true (c :: rest))
    (moves : pattern.moves = true) (skip : Nat) (within : skip ≤ text.length) :
    replaceFrom pattern replacement before skip (text ++ c :: rest) =
      replaceFrom pattern replacement before skip text ++
        c :: replaceFrom pattern replacement (some c) 0 rest := by
  induction text generalizing before skip with
  | nil =>
      obtain rfl := Nat.le_zero.1 within
      -- a match at the wall would have to take it
      have none : matchAt pattern before (c :: rest) = none := by
        have here : matchAt pattern before (c :: rest) = matchAt pattern before [] :=
          matchAt_append_wall [] stops
        rw [here, ← Option.not_isSome_iff_eq_none, matchAt_isSome_iff]
        rintro ⟨read, rest, groups, same, reads⟩
        exact reads.ne_nil moves (List.append_eq_nil_iff.1 same.symm).1
      simp [replaceFrom, none]
  | cons d text ih =>
      cases skip with
      | succ skip => exact ih skip (Nat.le_of_succ_le_succ within)
      | zero =>
          have here : matchAt pattern before (d :: (text ++ c :: rest)) =
              matchAt pattern before (d :: text) :=
            matchAt_append_wall (d :: text) stops
          rw [List.cons_append, replaceFrom.eq_def, replaceFrom.eq_def]
          simp only [here]
          cases found : matchAt pattern before (d :: text) with
          | none => simp [ih 0 (Nat.zero_le _)]
          | some found' =>
              obtain ⟨length, groups⟩ := found'
              cases length with
              | zero => simp [ih 0 (Nat.zero_le _)]
              | succ length =>
                  have fits : length + 1 ≤ (d :: text).length := length_le_of_matchAt found
                  simp [ih length (Nat.le_of_succ_le_succ fits)]

theorem replaceAll_append_wall (stops : pattern.StopsAt true (c :: rest))
    (moves : pattern.moves = true) :
    replaceAll pattern replacement (text ++ c :: rest) =
      replaceAll pattern replacement text ++ c :: replaceAll pattern replacement rest := by
  have outside : (some c).any isWord = (none : Option Char).any isWord := (stops.wall c rfl).2
  rw [replaceAll, replaceFrom_append_wall replacement stops moves 0 (Nat.zero_le _),
    replaceFrom_behind replacement stops.looksForStart fun _ => outside]
  rfl

/-- Where nothing begins with a character that is no part of a word, it does not matter. -/
theorem replaceAll_cons_of_none (start : pattern.looksForStart = false)
    (outside : isWord c = false) (none : matchAt pattern none (c :: rest) = none) :
    replaceAll pattern replacement (c :: rest) = c :: replaceAll pattern replacement rest := by
  have same : (some c).any isWord = (.none : Option Char).any isWord := outside
  rw [replaceAll, replaceFrom_of_none replacement none,
    replaceFrom_behind replacement start fun _ => same]
  rfl

end Pattern

end CodeIndex.Text
