import CodeIndex.Text.Pattern
import Mathlib.Data.List.Basic
import Mathlib.Data.List.Forall2

/-!
# What patterns read

The matcher of patterns is a search: it prefers, tries again and carries on.  What it searches for
is told without any search.  `Pattern.Reads` says that a pattern reads a stretch of text, with a
character before it and more text behind it, and remembers some groups.  The matcher finds only what
the pattern reads, and finds something wherever the pattern reads anything.

Which of several readings is found is a matter of preference, and most statements do not need it.
Of a run it says that a greedy one takes the longest stretch behind which something is found, and a
lazy one the shortest.

## Main definitions

* `Pattern.Reads`
* `Pattern.takes`, `Pattern.moves`, `Pattern.looksInside`

## Main statements

* `Pattern.exists_of_matchAt`, `Pattern.matchAt_isSome_iff`: matches are readings.
* `Pattern.exists_longest_of_tryRun`, `Pattern.exists_shortest_of_tryRun`: what runs prefer.
* `Pattern.findFrom?_isSome_iff`: a pattern is found in a text that it reads somewhere.
* `Pattern.Reads.takes`, `Pattern.Reads.ne_nil`, `Pattern.Reads.of_looksInside`: what the shape of a
  pattern says about all that it reads.
-/

namespace CodeIndex.Text

namespace Pattern

/-- The character before what follows a stretch. -/
def lastOr (before : Option Char) (read : List Char) : Option Char := read.getLast?.or before

@[simp] theorem lastOr_nil (before : Option Char) : lastOr before [] = before := rfl

@[simp] theorem lastOr_cons (before : Option Char) (c : Char) (read : List Char) :
    lastOr before (c :: read) = lastOr (some c) read := by
  cases read <;> simp [lastOr, List.getLast?_cons]

@[simp] theorem lastOr_append (before : Option Char) (left right : List Char) :
    lastOr before (left ++ right) = lastOr (lastOr before left) right := by
  rw [lastOr, lastOr, lastOr, List.getLast?_append, Option.or_assoc]

/-- The character before what follows a text. -/
theorem lastOr_none (text : List Char) : lastOr none text = text.getLast? := Option.or_none

/-- **What patterns read:** a pattern reads a stretch between a character and the rest of the text,
and remembers groups, the latest first. -/
inductive Reads : Pattern → Option Char → List Char → List Char → Groups → Prop where
  | empty {before : Option Char} {rest : List Char} : Reads empty before [] rest []
  | one {accepts : Char → Bool} {before : Option Char} {c : Char} {rest : List Char}
      (fits : accepts c = true) : Reads (one accepts) before [c] rest []
  | run {accepts : Char → Bool} {count : Repeat} {before : Option Char} {read rest : List Char}
      (fits : ∀ c ∈ read, accepts c = true) (least : count.least ≤ read.length)
      (most : ∀ most ∈ count.most, read.length ≤ most) :
      Reads (run accepts count) before read rest []
  | seq {first second : Pattern} {before : Option Char} {left right rest : List Char}
      {groups groups' : Groups} :
      Reads first before left (right ++ rest) groups →
        Reads second (lastOr before left) right rest groups' →
          Reads (seq first second) before (left ++ right) rest (groups' ++ groups)
  | first {first second : Pattern} {before : Option Char} {read rest : List Char}
      {groups : Groups} :
      Reads first before read rest groups → Reads (either first second) before read rest groups
  | second {first second : Pattern} {before : Option Char} {read rest : List Char}
      {groups : Groups} :
      Reads second before read rest groups → Reads (either first second) before read rest groups
  | group {index : Nat} {body : Pattern} {before : Option Char} {read rest : List Char}
      {groups : Groups} :
      Reads body before read rest groups →
        Reads (group index body) before read rest ((index, read) :: groups)
  | wordEdge {before : Option Char} {rest : List Char}
      (edge : isWordEdge ⟨before, 0, rest⟩ = true) : Reads wordEdge before [] rest []
  | textStart {rest : List Char} : Reads textStart none [] rest []
  | textEnd {before : Option Char} : Reads textEnd before [] [] []

/-! ### Readings taken apart -/

section Inversion

variable {before : Option Char} {read rest : List Char} {groups : Groups}

theorem Reads.of_one {accepts : Char → Bool}
    (reads : Reads (.one accepts) before read rest groups) :
    ∃ c, read = [c] ∧ groups = [] ∧ accepts c = true := by
  cases reads with | one fits =>
  exact ⟨_, rfl, rfl, fits⟩

theorem Reads.of_run {accepts : Char → Bool} {count : Repeat}
    (reads : Reads (.run accepts count) before read rest groups) :
    groups = [] ∧ (∀ c ∈ read, accepts c = true) ∧ count.least ≤ read.length := by
  cases reads with | run fits least =>
  exact ⟨rfl, fits, least⟩

theorem Reads.of_seq {first second : Pattern}
    (reads : Reads (.seq first second) before read rest groups) :
    ∃ left right earlier later, read = left ++ right ∧ groups = later ++ earlier ∧
      Reads first before left (right ++ rest) earlier ∧
      Reads second (lastOr before left) right rest later := by
  cases reads with | seq first second =>
  exact ⟨_, _, _, _, rfl, rfl, first, second⟩

theorem Reads.of_group {index : Nat} {body : Pattern}
    (reads : Reads (.group index body) before read rest groups) :
    ∃ inner, groups = (index, read) :: inner ∧ Reads body before read rest inner := by
  cases reads with | group body =>
  exact ⟨_, rfl, body⟩

theorem Reads.of_wordEdge (reads : Reads .wordEdge before read rest groups) :
    read = [] ∧ groups = [] := by
  cases reads
  exact ⟨rfl, rfl⟩

theorem Reads.edge (reads : Reads .wordEdge before read rest groups) :
    isWordEdge ⟨before, 0, rest⟩ = true := by
  cases reads with | wordEdge edge =>
  exact edge

/-- Patterns in a row are read one after the other, however they are put together. -/
theorem reads_seq_assoc {first second third : Pattern} :
    Reads (.seq first (.seq second third)) before read rest groups ↔
      Reads (.seq (.seq first second) third) before read rest groups := by
  constructor
  · intro whole
    obtain ⟨left, _, _, _, rfl, rfl, reads, further⟩ := whole.of_seq
    obtain ⟨middle, right, _, _, rfl, rfl, reads', reads''⟩ := further.of_seq
    rw [List.append_assoc] at reads
    rw [← lastOr_append] at reads''
    rw [← List.append_assoc left, List.append_assoc _ _ (_ : Groups)]
    exact .seq (.seq reads reads') reads''
  · intro whole
    obtain ⟨_, right, _, _, rfl, rfl, ahead, reads''⟩ := whole.of_seq
    obtain ⟨left, middle, _, _, rfl, rfl, reads, reads'⟩ := ahead.of_seq
    rw [← List.append_assoc] at reads
    rw [lastOr_append] at reads''
    rw [List.append_assoc left, ← List.append_assoc _ _ (_ : Groups)]
    exact .seq reads (.seq reads' reads'')

theorem reads_all_append {first second : List Pattern} (some : first ≠ []) (some' : second ≠ []) :
    Reads (all (first ++ second)) before read rest groups ↔
      Reads (.seq (all first) (all second)) before read rest groups := by
  obtain ⟨q, second, rfl⟩ := List.exists_cons_of_ne_nil some'
  induction first generalizing before read rest groups with
  | nil => exact absurd rfl some
  | cons p first ih =>
      cases first with
      | nil => exact Iff.rfl
      | cons p' first =>
          refine Iff.trans ?_ reads_seq_assoc
          constructor
          · intro whole
            obtain ⟨_, _, _, _, rfl, rfl, reads, reads'⟩ := whole.of_seq
            exact .seq reads ((ih (List.cons_ne_nil _ _)).1 reads')
          · intro whole
            obtain ⟨_, _, _, _, rfl, rfl, reads, reads'⟩ := whole.of_seq
            exact .seq reads ((ih (List.cons_ne_nil _ _)).2 reads')

/-- One character after the other, each of its own class. -/
theorem reads_all_one_iff {tests : List (Char → Bool)} :
    Reads (all (tests.map one)) before read rest groups ↔
      groups = [] ∧ List.Forall₂ (fun test c => test c = true) tests read := by
  induction tests generalizing before read rest groups with
  | nil =>
      constructor
      · intro reads
        cases reads
        exact ⟨rfl, .nil⟩
      · rintro ⟨rfl, fits⟩
        cases fits
        exact .empty
  | cons test tests ih =>
      cases tests with
      | nil =>
          constructor
          · intro reads
            obtain ⟨c, rfl, rfl, fits⟩ := reads.of_one
            exact ⟨rfl, .cons fits .nil⟩
          · rintro ⟨rfl, fits⟩
            obtain ⟨c, _, first, none, rfl⟩ := List.forall₂_cons_left_iff.1 fits
            cases none
            exact .one first
      | cons next tests =>
          constructor
          · intro whole
            obtain ⟨_, _, _, _, rfl, rfl, reads, further⟩ := whole.of_seq
            obtain ⟨c, rfl, rfl, fits⟩ := reads.of_one
            obtain ⟨rfl, all⟩ := ih.1 further
            exact ⟨rfl, .cons fits all⟩
          · rintro ⟨rfl, fits⟩
            obtain ⟨c, more, first, further, rfl⟩ := List.forall₂_cons_left_iff.1 fits
            rw [← List.singleton_append]
            exact .seq (.one first) (ih.2 ⟨rfl, further⟩)

/-- A literal reads itself. -/
theorem Reads.of_literal {text : String} (reads : Reads (.literal text) before read rest groups) :
    read = text.toList := by
  have each :
      Reads (all ((text.toList.map fun e c => c == e).map .one)) before read rest groups := by
    rwa [List.map_map]
  have fits := (reads_all_one_iff.1 each).2
  rw [List.forall₂_map_left_iff] at fits
  exact (List.forall₂_eq_eq_eq ▸ fits.imp fun _ _ same => (eq_of_beq same).symm :
    text.toList = read).symm

/-- What one of several patterns reads. -/
theorem reads_anyOf_iff {patterns : List Pattern} :
    Reads (anyOf patterns) before read rest groups ↔
      ∃ pattern ∈ patterns, Reads pattern before read rest groups := by
  induction patterns with
  | nil =>
      refine iff_of_false (fun reads => ?_) (by simp)
      obtain ⟨c, -, -, fits⟩ := reads.of_one
      cases fits
  | cons pattern patterns ih =>
      cases patterns with
      | nil => simp [anyOf]
      | cons next patterns =>
          rw [List.exists_mem_cons_iff, ← ih]
          constructor
          · intro reads
            cases reads with
            | first reads => exact .inl reads
            | second reads => exact .inr reads
          · rintro (reads | reads)
            · exact .first reads
            · exact .second reads

end Inversion

/-! ## The matcher finds what patterns read -/

section Runs

variable {β : Type} {accepts : Char → Bool} {greedy : Bool} {next : Place → Option β}
variable {least : Nat} {most : Option Nat} {before : Option Char} {offset : Nat}
variable {text read rest : List Char} {found : β}

/-- The place behind a stretch, told from the place behind its first character. -/
theorem place_cons (before : Option Char) (c : Char) (read : List Char) (offset : Nat)
    (rest : List Char) :
    Place.mk (lastOr before (c :: read)) (offset + (c :: read).length) rest =
      ⟨lastOr (some c) read, offset + 1 + read.length, rest⟩ := by
  rw [lastOr_cons, List.length_cons, Nat.add_comm read.length, ← Nat.add_assoc]

/-- A stretch that a run may take, before something is found behind it. -/
structure Runs (accepts : Char → Bool) (next : Place → Option β) (least : Nat) (most : Option Nat)
    (before : Option Char) (offset : Nat) (read rest : List Char) (found : β) : Prop where
  fits : ∀ c ∈ read, accepts c = true
  least_le : least ≤ read.length
  le_most : ∀ m ∈ most, read.length ≤ m
  next_eq : next ⟨lastOr before read, offset + read.length, rest⟩ = some found

theorem runs_nil
    (stopped : (if least = 0 then next ⟨before, offset, text⟩ else none) = some found) :
    Runs accepts next least most before offset [] text found := by
  by_cases due : least = 0
  · rw [if_pos due] at stopped
    exact ⟨by simp, by simp [due], by simp, stopped⟩
  · rw [if_neg due] at stopped
    cases stopped

theorem Runs.cons {c : Char} (fits : accepts c = true) (room : hasRoom most = true)
    (runs : Runs accepts next (least - 1) (most.map (· - 1)) (some c) (offset + 1) read rest
      found) :
    Runs accepts next least most before offset (c :: read) rest found := by
  refine ⟨?_, ?_, fun m member => ?_, ?_⟩
  · simpa [fits] using runs.fits
  · have := runs.least_le
    rw [List.length_cons]
    omega
  · cases member
    have positive : m ≠ 0 := by simpa [hasRoom] using room
    have := runs.le_most (m - 1) rfl
    rw [List.length_cons]
    omega
  · rw [place_cons]
    exact runs.next_eq

/-- At each character, whatever is preferred, a run goes on or stops. -/
theorem tryRun_cons_cases {c : Char}
    (run : tryRun accepts greedy next least most before offset (c :: text) = some found) :
    (accepts c = true ∧ hasRoom most = true ∧
        tryRun accepts greedy next (least - 1) (most.map (· - 1)) (some c) (offset + 1) text =
          some found) ∨
      (if least = 0 then next ⟨before, offset, c :: text⟩ else none) = some found := by
  rw [tryRun] at run
  have further : ∀ {longer : Option β},
      (if accepts c && hasRoom most then longer else none) = some found →
        accepts c = true ∧ hasRoom most = true ∧ longer = some found := by
    intro longer went
    by_cases goes : (accepts c && hasRoom most) = true
    · rw [if_pos goes] at went
      obtain ⟨fits, room⟩ := Bool.and_eq_true_iff.1 goes
      exact ⟨fits, room, went⟩
    · rw [if_neg goes] at went
      cases went
  cases greedy with
  | true =>
      rcases Option.or_eq_some_iff.1 run with longer | ⟨-, stopped⟩
      · exact .inl (further longer)
      · exact .inr stopped
  | false =>
      rcases Option.or_eq_some_iff.1 run with stopped | ⟨-, longer⟩
      · exact .inr stopped
      · exact .inl (further longer)

/-- What is found behind a run is found behind a stretch that the run may take. -/
theorem exists_runs_of_tryRun
    (run : tryRun accepts greedy next least most before offset text = some found) :
    ∃ read rest, text = read ++ rest ∧
      Runs accepts next least most before offset read rest found := by
  induction text generalizing least most before offset with
  | nil => exact ⟨[], [], rfl, runs_nil run⟩
  | cons c text ih =>
      rcases tryRun_cons_cases run with ⟨fits, room, longer⟩ | stopped
      · obtain ⟨read, rest, rfl, runs⟩ := ih longer
        exact ⟨c :: read, rest, rfl, runs.cons fits room⟩
      · exact ⟨[], c :: text, rfl, runs_nil stopped⟩

/-- Where a run may take a stretch before something, something is found. -/
theorem tryRun_isSome (runs : Runs accepts next least most before offset read rest found) :
    (tryRun accepts greedy next least most before offset (read ++ rest)).isSome = true := by
  induction read generalizing least most before offset with
  | nil =>
      have due : least = 0 := Nat.le_zero.1 runs.least_le
      have here : next ⟨before, offset, rest⟩ = some found := runs.next_eq
      cases rest with
      | nil => simp [tryRun, due, here]
      | cons c rest => cases greedy <;> simp [tryRun, due, here]
  | cons c read ih =>
      have fits : accepts c = true := runs.fits c List.mem_cons_self
      have room : hasRoom most = true := by
        cases most with
        | none => rfl
        | some m =>
            have := runs.le_most m rfl
            rw [List.length_cons] at this
            simp only [hasRoom, bne_iff_ne]
            omega
      have longer : Runs accepts next (least - 1) (most.map (· - 1)) (some c) (offset + 1) read rest
          found := by
        refine ⟨fun d member => runs.fits d (List.mem_cons_of_mem _ member), ?_, fun m member => ?_,
          ?_⟩
        · have := runs.least_le
          rw [List.length_cons] at this
          omega
        · obtain ⟨m, given, rfl⟩ := Option.map_eq_some_iff.1 member
          have := runs.le_most m given
          rw [List.length_cons] at this
          omega
        · have := runs.next_eq
          rwa [place_cons] at this
      have further := ih longer
      cases greedy <;> simp [tryRun, fits, room, further]

/-- Where nothing is found, a run had no stretch to take. -/
theorem next_eq_none_of_tryRun
    (failed : tryRun accepts greedy next least most before offset (read ++ rest) = none)
    (fits : ∀ c ∈ read, accepts c = true) (least_le : least ≤ read.length)
    (le_most : ∀ m ∈ most, read.length ≤ m) :
    next ⟨lastOr before read, offset + read.length, rest⟩ = none := by
  refine Option.eq_none_iff_forall_ne_some.2 fun found here => ?_
  have goes : (tryRun accepts greedy next least most before offset (read ++ rest)).isSome = true :=
    tryRun_isSome ⟨fits, least_le, le_most, here⟩
  rw [failed] at goes
  cases goes

/-- **A greedy run takes the longest stretch** behind which something is found. -/
theorem exists_longest_of_tryRun
    (run : tryRun accepts true next least none before offset text = some found) :
    ∃ read rest, text = read ++ rest ∧ Runs accepts next least none before offset read rest found ∧
      ∀ read' rest', text = read' ++ rest' → (∀ c ∈ read', accepts c = true) →
        read.length < read'.length →
          next ⟨lastOr before read', offset + read'.length, rest'⟩ = none := by
  induction text generalizing least before offset with
  | nil =>
      refine ⟨[], [], rfl, runs_nil run, fun read' rest' split _ longer => ?_⟩
      obtain ⟨rfl, -⟩ := List.append_eq_nil_iff.1 split.symm
      cases longer
  | cons c text ih =>
      by_cases fits : accepts c = true
      · rw [tryRun] at run
        simp only [fits, hasRoom, Bool.and_self, if_true, Option.map_none] at run
        rcases Option.or_eq_some_iff.1 run with longer | ⟨failed, stopped⟩
        · obtain ⟨read, rest, rfl, runs, longest⟩ := ih longer
          refine ⟨c :: read, rest, rfl, runs.cons fits rfl, fun read' rest' split fits' more => ?_⟩
          obtain ⟨d, read', rfl⟩ := List.exists_cons_of_length_pos (Nat.zero_lt_of_lt more)
          obtain ⟨rfl, behind⟩ := List.cons.inj split
          rw [place_cons]
          exact longest read' rest' behind (fun d member => fits' d (List.mem_cons_of_mem c member))
            (Nat.lt_of_succ_lt_succ more)
        · -- going on has failed, and it would have tried every longer stretch
          have here : Runs accepts next least none before offset [] (c :: text) found :=
            runs_nil stopped
          refine ⟨[], c :: text, rfl, here, fun read' rest' split fits' more => ?_⟩
          obtain ⟨d, read', rfl⟩ := List.exists_cons_of_length_pos more
          obtain ⟨rfl, rfl⟩ := List.cons.inj split
          rw [place_cons]
          exact next_eq_none_of_tryRun failed
            (fun d member => fits' d (List.mem_cons_of_mem c member))
            (Nat.sub_le_of_le_add (Nat.le_trans here.least_le (Nat.zero_le _))) nofun
      · refine ⟨[], c :: text, rfl, ?_, fun read' rest' split fits' more => ?_⟩
        · rcases tryRun_cons_cases run with ⟨fits', -⟩ | stopped
          · exact absurd fits' fits
          · exact runs_nil stopped
        · obtain ⟨d, read', rfl⟩ := List.exists_cons_of_length_pos more
          obtain ⟨rfl, -⟩ := List.cons.inj split
          exact absurd (fits' c List.mem_cons_self) fits

/-- A greedy run behind which nothing fails goes as far as it can. -/
theorem exists_runs_of_tryRun_greedy (total : ∀ place, (next place).isSome = true)
    (run : tryRun accepts true next least none before offset text = some found) :
    ∃ read rest, text = read ++ rest ∧ (∀ c ∈ rest.head?, accepts c = false) ∧
      Runs accepts next least none before offset read rest found := by
  obtain ⟨read, rest, rfl, runs, longest⟩ := exists_longest_of_tryRun run
  refine ⟨read, rest, rfl, fun c first => Bool.eq_false_iff.2 fun fits => ?_, runs⟩
  obtain ⟨rest, rfl⟩ := List.head?_eq_some_iff.1 (Option.mem_def.1 first)
  have failed := longest (read ++ [c]) rest (by simp)
    (by simpa [or_imp, forall_and, fits] using runs.fits) (by simp)
  have found := total ⟨lastOr before (read ++ [c]), offset + (read ++ [c]).length, rest⟩
  rw [failed] at found
  cases found

/-- **A lazy run takes the shortest stretch** behind which something is found. -/
theorem exists_shortest_of_tryRun
    (run : tryRun accepts false next least most before offset text = some found) :
    ∃ read rest, text = read ++ rest ∧ Runs accepts next least most before offset read rest found ∧
      ∀ read' rest', text = read' ++ rest' → least ≤ read'.length → read'.length < read.length →
        next ⟨lastOr before read', offset + read'.length, rest'⟩ = none := by
  induction text generalizing least most before offset with
  | nil => exact ⟨[], [], rfl, runs_nil run, fun _ _ _ _ shorter => nomatch shorter⟩
  | cons c text ih =>
      rcases tryRun_cons_cases run with ⟨fits, room, longer⟩ | stopped
      swap
      · exact ⟨[], c :: text, rfl, runs_nil stopped, fun _ _ _ _ shorter => nomatch shorter⟩
      by_cases stop : ∃ found', (if least = 0 then next ⟨before, offset, c :: text⟩ else none) =
          some found'
      · -- stopping here was tried first
        obtain ⟨found', stopped⟩ := stop
        have same : some found' = some found := by
          rw [← run, tryRun]
          simp [stopped]
        cases same
        exact ⟨[], c :: text, rfl, runs_nil stopped, fun _ _ _ _ shorter => nomatch shorter⟩
      · obtain ⟨read, rest, rfl, runs, shortest⟩ := ih longer
        refine ⟨c :: read, rest, rfl, runs.cons fits room, fun read' rest' split due shorter => ?_⟩
        rcases read' with _ | ⟨d, read'⟩
        · obtain rfl : c :: (read ++ rest) = rest' := split
          rw [if_pos (Nat.le_zero.1 due)] at stop
          exact Option.eq_none_iff_forall_ne_some.2 fun found' here => stop ⟨found', here⟩
        · obtain ⟨rfl, behind⟩ := List.cons.inj split
          rw [place_cons]
          exact shortest read' rest' behind (Nat.sub_le_of_le_add due)
            (Nat.lt_of_succ_lt_succ shorter)

end Runs

variable {β : Type} {pattern : Pattern} {before : Option Char} {text read rest : List Char}
variable {groups : Groups}

/-- **What is found behind a pattern** is found behind a stretch that the pattern reads. -/
theorem exists_reads_of_tryAt {next : Place → Groups → Option β} {offset : Nat} {found : β}
    (here : tryAt ⟨before, offset, text⟩ groups pattern next = some found) :
    ∃ read rest added, text = read ++ rest ∧ Reads pattern before read rest added ∧
      next ⟨lastOr before read, offset + read.length, rest⟩ (added ++ groups) = some found := by
  induction pattern generalizing before offset text groups next with
  | empty => exact ⟨[], text, [], rfl, .empty, here⟩
  | one accepts =>
      cases text with
      | nil => cases here
      | cons c text =>
          by_cases fits : accepts c = true
          · refine ⟨[c], text, [], rfl, .one fits, ?_⟩
            simpa [tryAt, fits] using here
          · simp [tryAt, fits] at here
  | run accepts count =>
      obtain ⟨read, rest, rfl, runs⟩ := exists_runs_of_tryRun here
      exact ⟨read, rest, [], rfl, .run runs.fits runs.least_le runs.le_most, runs.next_eq⟩
  | seq first second ihFirst ihSecond =>
      obtain ⟨left, middle, added, rfl, reads, behind⟩ := ihFirst here
      obtain ⟨right, rest, added', rfl, reads', found⟩ := ihSecond behind
      refine ⟨left ++ right, rest, added' ++ added, (List.append_assoc ..).symm,
        .seq reads reads', ?_⟩
      rw [lastOr_append, List.length_append, ← Nat.add_assoc, List.append_assoc]
      exact found
  | either first second ihFirst ihSecond =>
      rcases Option.or_eq_some_iff.1 here with here | ⟨-, here⟩
      · obtain ⟨read, rest, added, rfl, reads, found⟩ := ihFirst here
        exact ⟨read, rest, added, rfl, .first reads, found⟩
      · obtain ⟨read, rest, added, rfl, reads, found⟩ := ihSecond here
        exact ⟨read, rest, added, rfl, .second reads, found⟩
  | group index body ih =>
      obtain ⟨read, rest, added, rfl, reads, found⟩ := ih here
      refine ⟨read, rest, (index, read) :: added, rfl, .group reads, ?_⟩
      simpa using found
  | wordEdge =>
      by_cases edge : isWordEdge ⟨before, offset, text⟩ = true
      · refine ⟨[], text, [], rfl, .wordEdge edge, ?_⟩
        simpa [tryAt, edge] using here
      · simp [tryAt, edge] at here
  | textStart =>
      cases before with
      | none => exact ⟨[], text, [], rfl, .textStart, here⟩
      | some c => cases here
  | textEnd =>
      cases text with
      | nil => exact ⟨[], [], [], rfl, .textEnd, here⟩
      | cons c text => cases here

/-- What is found behind a sequence is found behind its second part, where that was tried. -/
theorem exists_reads_of_tryAt_seq {first second : Pattern} {next : Place → Groups → Option β}
    {offset : Nat} {found : β}
    (here : tryAt ⟨before, offset, text⟩ groups (.seq first second) next = some found) :
    ∃ read rest added, text = read ++ rest ∧ Reads first before read rest added ∧
      tryAt ⟨lastOr before read, offset + read.length, rest⟩ (added ++ groups) second next =
        some found := by
  have here : tryAt ⟨before, offset, text⟩ groups first
      (fun after groups => tryAt after groups second next) = some found := here
  exact exists_reads_of_tryAt here

/-- A greedy run before another pattern takes the longest stretch behind which that one is found. -/
theorem exists_longest_of_tryAt_seq {accepts : Char → Bool} {least : Nat} {second : Pattern}
    {next : Place → Groups → Option β} {offset : Nat} {found : β}
    (here : tryAt ⟨before, offset, text⟩ groups (.seq (.run accepts ⟨least, none, true⟩) second)
      next = some found) :
    ∃ read rest, text = read ++ rest ∧ (∀ c ∈ read, accepts c = true) ∧ least ≤ read.length ∧
      tryAt ⟨lastOr before read, offset + read.length, rest⟩ groups second next = some found ∧
      ∀ read' rest', text = read' ++ rest' → (∀ c ∈ read', accepts c = true) →
        read.length < read'.length →
          tryAt ⟨lastOr before read', offset + read'.length, rest'⟩ groups second next = none := by
  obtain ⟨read, rest, rfl, runs, longest⟩ := exists_longest_of_tryRun here
  exact ⟨read, rest, rfl, runs.fits, runs.least_le, runs.next_eq, longest⟩

/-- A lazy run that is remembered, before another pattern, takes the shortest stretch behind which
that one is found. -/
theorem exists_shortest_of_tryAt_seq {accepts : Char → Bool} {index least : Nat}
    {most : Option Nat} {second : Pattern} {next : Place → Groups → Option β} {offset : Nat}
    {found : β}
    (here : tryAt ⟨before, offset, text⟩ groups
      (.seq (.group index (.run accepts ⟨least, most, false⟩)) second) next = some found) :
    ∃ read rest, text = read ++ rest ∧ (∀ c ∈ read, accepts c = true) ∧ least ≤ read.length ∧
      tryAt ⟨lastOr before read, offset + read.length, rest⟩ ((index, read) :: groups) second next =
        some found ∧
      ∀ read' rest', text = read' ++ rest' → least ≤ read'.length → read'.length < read.length →
        tryAt ⟨lastOr before read', offset + read'.length, rest'⟩ ((index, read') :: groups) second
          next = none := by
  have remembered {read rest : List Char} (split : text = read ++ rest) :
      text.take (offset + read.length - offset) = read := by
    rw [Nat.add_sub_cancel_left, split, List.take_left]
  obtain ⟨read, rest, split, runs, shortest⟩ := exists_shortest_of_tryRun here
  refine ⟨read, rest, split, runs.fits, runs.least_le, ?_, fun read' rest' split' due shorter => ?_⟩
  · simpa only [remembered split] using runs.next_eq
  · simpa only [remembered split'] using shortest read' rest' split' due shorter

/-- **Where a pattern reads something,** and something is found behind that, something is found. -/
theorem tryAt_isSome {next : Place → Groups → Option β} {offset : Nat} {added : Groups}
    (reads : Reads pattern before read rest added)
    (found : (next ⟨lastOr before read, offset + read.length, rest⟩ (added ++ groups)).isSome =
      true) :
    (tryAt ⟨before, offset, read ++ rest⟩ groups pattern next).isSome = true := by
  induction reads generalizing offset groups next with
  | empty => exact found
  | one fits => simpa [tryAt, fits] using found
  | run fits least most =>
      obtain ⟨b, found⟩ := Option.isSome_iff_exists.1 found
      exact tryRun_isSome ⟨fits, least, most, found⟩
  | seq _ _ ihFirst ihSecond =>
      rw [List.append_assoc]
      refine ihFirst (ihSecond ?_)
      rwa [lastOr_append, List.length_append, ← Nat.add_assoc, List.append_assoc] at found
  | first _ ih => simp [tryAt, ih found]
  | second _ ih => simp [tryAt, ih found]
  | group _ ih =>
      refine ih ?_
      simpa using found
  | wordEdge edge =>
      have edge : isWordEdge ⟨_, offset, _⟩ = true := edge
      simpa [tryAt, edge] using found
  | textStart => simpa [tryAt] using found
  | textEnd => simpa [tryAt] using found

/-! ## Matches are readings -/

/-- A match at a place is a stretch that the pattern reads there. -/
theorem exists_of_matchAt {found : Found} (here : matchAt pattern before text = some found) :
    ∃ read rest, text = read ++ rest ∧ read.length = found.length ∧
      Reads pattern before read rest found.groups := by
  obtain ⟨read, rest, added, rfl, reads, same⟩ := exists_reads_of_tryAt here
  obtain rfl := Option.some.inj same
  refine ⟨read, rest, rfl, (Nat.zero_add _).symm, ?_⟩
  rw [List.append_nil]
  exact reads

/-- There is a match at a place if and only if the pattern reads something there. -/
theorem matchAt_isSome_iff :
    (matchAt pattern before text).isSome = true ↔
      ∃ read rest groups, text = read ++ rest ∧ Reads pattern before read rest groups := by
  constructor
  · intro some
    obtain ⟨found, here⟩ := Option.isSome_iff_exists.1 some
    obtain ⟨read, rest, rfl, -, reads⟩ := exists_of_matchAt here
    exact ⟨read, rest, _, rfl, reads⟩
  · rintro ⟨read, rest, groups, rfl, reads⟩
    exact tryAt_isSome reads rfl

/-- **A pattern is found in a text** if and only if it reads some stretch of it. -/
theorem findFrom?_isSome_iff :
    (findFrom? pattern before text).isSome = true ↔
      ∃ passed read rest groups, text = passed ++ read ++ rest ∧
        Reads pattern (lastOr before passed) read rest groups := by
  induction text generalizing before with
  | nil =>
      rw [findFrom?, matchAt_isSome_iff]
      constructor
      · rintro ⟨read, rest, groups, same, reads⟩
        exact ⟨[], read, rest, groups, same, reads⟩
      · rintro ⟨passed, read, rest, groups, same, reads⟩
        obtain ⟨none, -⟩ := List.append_eq_nil_iff.1 same.symm
        obtain ⟨rfl, rfl⟩ := List.append_eq_nil_iff.1 none
        exact ⟨[], rest, groups, same, reads⟩
  | cons c text ih =>
      rw [findFrom?, Option.isSome_or, Bool.or_eq_true, matchAt_isSome_iff, ih]
      constructor
      · rintro (⟨read, rest, groups, same, reads⟩ | ⟨passed, read, rest, groups, rfl, reads⟩)
        · exact ⟨[], read, rest, groups, same, reads⟩
        · refine ⟨c :: passed, read, rest, groups, rfl, ?_⟩
          rw [lastOr_cons]
          exact reads
      · rintro ⟨passed, read, rest, groups, same, reads⟩
        cases passed with
        | nil => exact .inl ⟨read, rest, groups, same, reads⟩
        | cons d passed =>
            obtain ⟨rfl, rfl⟩ := List.cons.inj same
            rw [lastOr_cons] at reads
            exact .inr ⟨passed, read, rest, groups, rfl, reads⟩

/-- A pattern that reads the start of the text first is found at the start or not at all. -/
theorem find?_textStart (body : Pattern) (text : List Char) :
    find? (.seq .textStart body) text = matchAt (.seq .textStart body) none text := by
  cases text with
  | nil => rfl
  | cons c text =>
      have later : findFrom? (.seq .textStart body) (some c) text = none := by
        refine Option.not_isSome_iff_eq_none.1 fun goes => ?_
        obtain ⟨passed, read, rest, groups, -, reads⟩ := findFrom?_isSome_iff.1 goes
        obtain ⟨_, _, _, _, -, -, start, -⟩ := reads.of_seq
        generalize same : lastOr (some c) passed = before at start
        cases start
        cases passed <;> simp [lastOr] at same
      rw [find?, findFrom?, later, Option.or_none]

/-! ## What is in the text that a pattern reads -/

/-- Whether a pattern takes a character anywhere. -/
def takes (c : Char) : Pattern → Bool
  | empty | wordEdge | textStart | textEnd => false
  | one accepts | run accepts _ => accepts c
  | seq first second | either first second => takes c first || takes c second
  | group _ body => takes c body

/-- What a pattern reads consists of characters that it takes. -/
theorem Reads.takes (reads : Reads pattern before read rest groups) :
    ∀ c ∈ read, pattern.takes c = true := by
  induction reads with
  | empty | wordEdge | textStart | textEnd => simp
  | one fits => simpa [Pattern.takes] using fits
  | run fits => exact fits
  | seq _ _ ihFirst ihSecond =>
      intro c member
      rw [Pattern.takes, Bool.or_eq_true]
      exact (List.mem_append.1 member).imp (ihFirst c) (ihSecond c)
  | first _ ih =>
      intro c member
      rw [Pattern.takes, ih c member, Bool.true_or]
  | second _ ih =>
      intro c member
      rw [Pattern.takes, ih c member, Bool.or_true]
  | group _ ih => exact ih

/-- Whether a pattern reads at least one character. -/
def moves : Pattern → Bool
  | empty | wordEdge | textStart | textEnd => false
  | one _ => true
  | run _ count => count.least != 0
  | seq first second => moves first || moves second
  | either first second => moves first && moves second
  | group _ body => moves body

theorem Reads.ne_nil (reads : Reads pattern before read rest groups)
    (moves : pattern.moves = true) :
    read ≠ [] := by
  induction reads with
  | empty | wordEdge | textStart | textEnd => cases moves
  | one => exact List.cons_ne_nil _ _
  | run _ least =>
      rintro rfl
      simp only [Pattern.moves, bne_iff_ne] at moves
      exact moves (Nat.le_zero.1 least)
  | seq _ _ ihFirst ihSecond =>
      rw [Pattern.moves, Bool.or_eq_true] at moves
      rw [Ne, List.append_eq_nil_iff, not_and_or]
      exact moves.imp ihFirst ihSecond
  | first _ ih => exact ih (Bool.and_eq_true_iff.1 moves).1
  | second _ ih => exact ih (Bool.and_eq_true_iff.1 moves).2
  | group _ ih => exact ih moves

/-- Whether a pattern remembers a group. -/
def remembers : Pattern → Bool
  | empty | one _ | run _ _ | wordEdge | textStart | textEnd => false
  | seq first second | either first second => remembers first || remembers second
  | group _ _ => true

theorem Reads.groups_eq_nil (reads : Reads pattern before read rest groups)
    (none : pattern.remembers = false) : groups = [] := by
  induction reads with
  | empty | one | run | wordEdge | textStart | textEnd => rfl
  | seq _ _ ihFirst ihSecond =>
      obtain ⟨first, second⟩ := Bool.or_eq_false_iff.1 none
      rw [ihFirst first, ihSecond second, List.append_nil]
  | first _ ih => exact ih (Bool.or_eq_false_iff.1 none).1
  | second _ ih => exact ih (Bool.or_eq_false_iff.1 none).2
  | group => cases none

/-- Whether a pattern looks at nothing behind what it reads, or only at the next character if it is
known that there is one (`followed`). -/
def looksInside (followed : Bool) : Pattern → Bool
  | empty | one _ | run _ _ | textStart => true
  | seq first second => looksInside (followed || second.moves) first && looksInside followed second
  | either first second => looksInside followed first && looksInside followed second
  | group _ body => looksInside followed body
  | wordEdge => followed
  | textEnd => false

/-- **What a pattern reads does not depend on what is behind,** if it does not look there. -/
theorem Reads.of_looksInside {rest' : List Char} {followed : Bool}
    (reads : Reads pattern before read rest groups)
    (inside : pattern.looksInside followed = true)
    (same : followed = true → rest.head? = rest'.head?) :
    Reads pattern before read rest' groups := by
  induction reads generalizing rest' followed with
  | empty => exact .empty
  | one fits => exact .one fits
  | run fits least most => exact .run fits least most
  | seq _ reads ihFirst ihSecond =>
      obtain ⟨first, second⟩ := Bool.and_eq_true_iff.1 inside
      refine .seq (ihFirst first fun given => ?_) (ihSecond second same)
      -- if the second part moves, its first character is what the first part may look at
      rcases Bool.or_eq_true_iff.1 given with given | moves
      · rw [List.head?_append, List.head?_append, same given]
      · obtain ⟨c, right, rfl⟩ := List.exists_cons_of_ne_nil (reads.ne_nil moves)
        rfl
  | first _ ih => exact .first (ih (Bool.and_eq_true_iff.1 inside).1 same)
  | second _ ih => exact .second (ih (Bool.and_eq_true_iff.1 inside).2 same)
  | group _ ih => exact .group (ih inside same)
  | wordEdge edge =>
      refine .wordEdge ?_
      rw [isWordEdge, ← same inside]
      exact edge
  | textStart => exact .textStart
  | textEnd => cases inside

/-- Whether a pattern looks at the character before what it reads, or for the start of the text. -/
def looksBack : Pattern → Bool
  | empty | one _ | run _ _ | textEnd => false
  | seq first second | either first second => looksBack first || looksBack second
  | group _ body => looksBack body
  | wordEdge | textStart => true

/-- Whether a pattern looks for the start of the text. -/
def looksForStart : Pattern → Bool
  | empty | one _ | run _ _ | textEnd | wordEdge => false
  | seq first second | either first second => looksForStart first || looksForStart second
  | group _ body => looksForStart body
  | textStart => true

/-- **What a pattern reads does not depend on what is before,** as far as it does not look there. -/
theorem Reads.of_looksBack {before' : Option Char} (reads : Reads pattern before read rest groups)
    (ahead : pattern.looksForStart = false)
    (same : pattern.looksBack = true → before.any isWord = before'.any isWord) :
    Reads pattern before' read rest groups := by
  induction reads generalizing before' with
  | empty => exact .empty
  | one fits => exact .one fits
  | run fits least most => exact .run fits least most
  | @seq _ _ _ left _ _ _ _ _ _ ihFirst ihSecond =>
      obtain ⟨first, second⟩ := Bool.or_eq_false_iff.1 ahead
      refine .seq (ihFirst first fun given => same (Bool.or_eq_true_iff.2 (.inl given)))
        (ihSecond second fun given => ?_)
      -- behind a stretch that is not empty, the character before is the same anyway
      cases left with
      | nil => exact same (Bool.or_eq_true_iff.2 (.inr given))
      | cons c left => rw [lastOr_cons, lastOr_cons]
  | first _ ih =>
      exact .first (ih (Bool.or_eq_false_iff.1 ahead).1
        fun given => same (Bool.or_eq_true_iff.2 (.inl given)))
  | second _ ih =>
      exact .second (ih (Bool.or_eq_false_iff.1 ahead).2
        fun given => same (Bool.or_eq_true_iff.2 (.inr given)))
  | group _ ih => exact .group (ih ahead same)
  | wordEdge edge =>
      refine .wordEdge ?_
      rw [isWordEdge, ← same rfl]
      exact edge
  | textStart => cases ahead
  | textEnd => exact .textEnd

theorem Reads.anywhere {rest' : List Char} (reads : Reads pattern before read rest groups)
    (inside : pattern.looksInside false = true) : Reads pattern before read rest' groups :=
  reads.of_looksInside inside (by simp)

end Pattern

end CodeIndex.Text
