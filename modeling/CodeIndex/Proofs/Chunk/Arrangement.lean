import CodeIndex.Proofs.Chunk.Borders
import CodeIndex.Proofs.Chunk.Parts
import Mathlib.Data.List.Forall2
import Mathlib.Data.List.Sort

/-!
# What a partition keeps of its spans

A walk over a tree emits spans in any order.  They may overlap, and several may start on one row.
`Span.normalize` makes a partition of the file of them all the same, and what it keeps can be said
without the steps in which the partition is made.  There is a piece for every row of the file on
which some span starts, in the order of these rows.  A piece holds what is known about the earliest
of the spans that start on its row: the earliest in the list, so that sorting by rows must leave
those that start on one row in their order (`Span.earliest?_mergeSort`).  Where the spans end has no
say.  A piece ends right above the next one, the last one at the bottom, and the first one begins at
the top.

That leaves no choice (`Span.Arranges.unique`).  Spans that lie end to end from the first row to the
last are an arrangement of themselves, and so a partition is left as it is.

## Main definitions

* `Span.startRows`: the rows on which spans start.
* `Span.earliest?`: the earliest of the spans that start on a row.
* `Span.Arranges`: what a partition keeps.

## Main statements

* `Span.arranges_normalize`, `Span.Arranges.unique`: there is one arrangement of some spans.
* `Span.normalize_eq_self_iff`: what is left as it is.
* `Span.normalize_keeps_earliest`
-/

namespace CodeIndex.Span

/-- The rows up to `lastRow` on which some span starts, each of them once, in ascending order. -/
def startRows (spans : List Span) (lastRow : Nat) : List Nat :=
  (List.range (lastRow + 1)).filter fun row => spans.any (·.start == row)

/-- The earliest in the list of the spans that start on a row. -/
def earliest? (spans : List Span) (row : Nat) : Option Span :=
  spans.find? (·.start == row)

/-- Whether a piece stands for the earliest of the spans that start on a row. -/
def RendersEarliest (spans : List Span) (row : Nat) (piece : Span) : Prop :=
  ∃ span ∈ earliest? spans row, piece.Renders span.part

/-- **What a partition keeps of some spans.**  Its pieces begin on the rows on which spans start,
the first one at the top instead; each stands for the earliest of the spans that start on its row,
and ends right above the next piece or at the bottom. -/
structure Arranges (spans : List Span) (lastRow : Nat) (pieces : List Span) : Prop where
  starts : pieces.map (·.start) = (startRows spans lastRow).modifyHead fun _ => 0
  renders : List.Forall₂ (RendersEarliest spans) (startRows spans lastRow) pieces
  closed : pieces.IsChain fun a b => a.stop + 1 = b.start
  last : ∀ piece ∈ pieces.getLast?, piece.stop = lastRow

variable {spans pieces pieces' : List Span} {span : Span} {first lastRow past row : Nat}

/-! ## Rows on which spans start -/

theorem mem_startRows_iff :
    row ∈ startRows spans lastRow ↔ row ≤ lastRow ∧ ∃ span ∈ spans, span.start = row := by
  rw [startRows, List.mem_filter, List.mem_range, Nat.lt_succ_iff, List.any_eq_true]
  simp only [beq_iff_eq]

theorem pairwise_startRows (spans : List Span) (lastRow : Nat) :
    (startRows spans lastRow).Pairwise (· < ·) :=
  List.pairwise_lt_range.filter _

/-- Ascending rows are the rows on which spans start if they have the same members. -/
theorem map_start_eq_startRows {kept : List Span}
    (ascending : kept.Pairwise fun a b => a.start < b.start)
    (same : ∀ row, (∃ span ∈ kept, span.start = row) ↔
      row ≤ lastRow ∧ ∃ span ∈ spans, span.start = row) :
    kept.map (·.start) = startRows spans lastRow := by
  refine (List.pairwise_map.2 ascending).eq_of_mem_iff (pairwise_startRows spans lastRow) ?_
  intro row
  rw [List.mem_map, mem_startRows_iff, same]

/-! ## The earliest span of a row -/

theorem earliest?_cons_start : earliest? (span :: spans) span.start = some span :=
  List.find?_cons_of_pos (beq_self_eq_true span.start)

theorem earliest?_cons_of_ne (other : span.start ≠ row) :
    earliest? (span :: spans) row = earliest? spans row :=
  List.find?_cons_of_neg (by simpa using other)

/-- Of spans that start on different rows, each is the earliest of its own. -/
theorem earliest?_start (ascending : spans.Pairwise fun a b => a.start < b.start)
    (member : span ∈ spans) : earliest? spans span.start = some span := by
  induction spans with
  | nil => cases member
  | cons head rest ih =>
      obtain ⟨before, ascending⟩ := List.pairwise_cons.1 ascending
      rcases List.mem_cons.1 member with rfl | later
      · exact earliest?_cons_start
      · rw [earliest?_cons_of_ne (Nat.ne_of_lt (before span later)), ih ascending later]

/-- Spans that start below the file do not matter to a row of the file. -/
theorem earliest?_filter (inside : row ≤ lastRow) :
    earliest? (spans.filter (·.start ≤ lastRow)) row = earliest? spans row := by
  rw [earliest?, List.find?_filter, earliest?]
  congr 1
  funext span
  by_cases here : span.start = row <;> simp [here, inside]

/-- **Sorting is stable:** the spans that start on one row stay in their order. -/
theorem filter_mergeSort (spans : List Span) (row : Nat) :
    (spans.mergeSort startsBy).filter (·.start == row) = spans.filter (·.start == row) := by
  have alike : (spans.filter (·.start == row)).Pairwise fun a b => startsBy a b = true := by
    refine List.pairwise_of_forall_mem_list fun a here b here' => ?_
    simp only [List.mem_filter, beq_iff_eq] at here here'
    simp [startsBy, here.2, here'.2]
  have kept : (spans.filter (·.start == row)).Sublist (spans.mergeSort startsBy) :=
    List.sublist_mergeSort startsBy_trans startsBy_total alike List.filter_sublist
  have among := kept.filter (·.start == row)
  simp only [List.filter_filter, Bool.and_self] at among
  have perm := (List.mergeSort_perm spans startsBy).filter (·.start == row)
  exact (among.eq_of_length perm.length_eq.symm).symm

theorem earliest?_mergeSort (spans : List Span) (row : Nat) :
    earliest? (spans.mergeSort startsBy) row = earliest? spans row := by
  rw [earliest?, ← List.head?_filter, filter_mergeSort, List.head?_filter, earliest?]

theorem earliest?_dropWhile {above : Span → Bool}
    (elsewhere : ∀ span ∈ spans, above span = true → span.start ≠ row) :
    earliest? (spans.dropWhile above) row = earliest? spans row := by
  induction spans with
  | nil => rfl
  | cons head rest ih =>
      by_cases dropped : above head = true
      · rw [List.dropWhile_cons_of_pos dropped,
          earliest?_cons_of_ne (elsewhere head List.mem_cons_self dropped)]
        exact ih fun span member => elsewhere span (List.mem_cons_of_mem head member)
      · rw [List.dropWhile_cons_of_neg dropped]

/-- Of neighbours that start on one row, the earliest is kept. -/
theorem earliest?_distinctStarts (sorted : spans.Pairwise fun a b => a.start ≤ b.start) :
    earliest? (distinctStarts spans) row = earliest? spans row := by
  induction spans with
  | nil => rfl
  | cons head rest ih =>
      obtain ⟨before, sorted⟩ := List.pairwise_cons.1 sorted
      rw [distinctStarts]
      by_cases here : head.start = row
      · rw [← here, earliest?_cons_start, earliest?_cons_start]
      · rw [earliest?_cons_of_ne here, earliest?_cons_of_ne here, ← ih sorted]
        -- what is dropped behind the head starts on the row of the head
        refine earliest?_dropWhile fun other member above => ?_
        have below := before other ((distinctStarts_sublist rest).subset member)
        have above := of_decide_eq_true above
        omega

/-! ## Spans that are kept -/

/-- The earliest spans of their rows, in the order of the rows. -/
def kept (spans : List Span) (lastRow : Nat) : List Span :=
  distinctStarts ((spans.filter (·.start ≤ lastRow)).mergeSort startsBy)

theorem normalize_eq (spans : List Span) (lastRow : Nat) :
    normalize spans lastRow = startAt 0 (closeGaps lastRow (kept spans lastRow)) := rfl

theorem map_start_kept (spans : List Span) (lastRow : Nat) :
    (kept spans lastRow).map (·.start) = startRows spans lastRow := by
  refine map_start_eq_startRows (ascending_kept spans lastRow) fun row => ⟨?_, ?_⟩
  · rintro ⟨span, member, rfl⟩
    obtain ⟨listed, inside⟩ := mem_of_mem_kept member
    exact ⟨inside, span, listed, rfl⟩
  · rintro ⟨inside, span, listed, rfl⟩
    refine exists_start_distinctStarts ?_ (sorted_mergeSort _)
    simpa using ⟨listed, inside⟩

theorem earliest?_of_mem_kept (member : span ∈ kept spans lastRow) :
    earliest? spans span.start = some span := by
  have inside := (mem_of_mem_kept member).2
  calc earliest? spans span.start
      = earliest? (kept spans lastRow) span.start := by
        rw [kept, earliest?_distinctStarts (sorted_mergeSort _), earliest?_mergeSort,
          earliest?_filter inside]
    _ = some span := earliest?_start (ascending_kept spans lastRow) member

/-! ## Spans that lie end to end -/

theorem map_start_startAt (row : Nat) (spans : List Span) :
    (startAt row spans).map (·.start) = (spans.map (·.start)).modifyHead fun _ => row := by
  cases spans <;> rfl

/-- Each span of a tiling ends right above the next one. -/
theorem Tiles.isChain (tiles : Tiles first past spans) :
    spans.IsChain fun a b => a.stop + 1 = b.start := by
  induction spans generalizing first with
  | nil => exact .nil
  | cons span spans ih =>
      obtain ⟨-, -, rest⟩ := tiles
      cases spans with
      | nil => exact .singleton span
      | cons next spans => exact .cons_cons rest.1.symm (ih rest)

/-- The last span of a tiling ends where the tiling does. -/
theorem Tiles.stop_getLast? (tiles : Tiles first past spans) :
    ∀ span ∈ spans.getLast?, span.stop + 1 = past := by
  induction spans generalizing first with
  | nil => simp
  | cons span spans ih =>
      obtain ⟨-, -, rest⟩ := tiles
      cases spans with
      | nil => simpa using show span.stop + 1 = past from rest
      | cons next spans =>
          rw [List.getLast?_cons_cons]
          exact ih rest

/-! ## Arrangements -/

/-- **A partition is an arrangement** of the spans that it is made of. -/
theorem arranges_normalize (spans : List Span) (lastRow : Nat) :
    Arranges spans lastRow (normalize spans lastRow) := by
  have renders : List.Forall₂ Renders (normalize spans lastRow) ((kept spans lastRow).map part) :=
    renders_startAt_zero <| renders_closeGaps (ascending_kept spans lastRow) fun span member =>
      (mem_of_mem_kept member).2
  refine ⟨?_, ?_, ?_, fun piece isLast => ?_⟩
  · rw [normalize_eq, map_start_startAt, map_closeGaps fun _ _ => rfl, map_start_kept]
  · rw [← map_start_kept, List.forall₂_map_left_iff]
    refine List.Forall₂.imp (fun span piece both => ⟨span, both⟩)
      ((List.forall₂_and_left _ _).2 ⟨fun span => earliest?_of_mem_kept, ?_⟩)
    exact List.forall₂_map_left_iff.1 renders.flip
  · rcases tiles_normalize spans lastRow with none | tiles
    · rw [none]
      exact .nil
    · exact tiles.isChain
  · rcases tiles_normalize spans lastRow with none | tiles
    · simp [none] at isLast
    · exact Nat.succ.inj (tiles.stop_getLast? piece isLast)

/-- What stands for the earliest span of one row is the same but for where it lies. -/
theorem RendersEarliest.part_eq {piece piece' : Span} (renders : RendersEarliest spans row piece)
    (renders' : RendersEarliest spans row piece') (start : piece.start = piece'.start) :
    piece.part = piece'.part := by
  obtain ⟨span, found, renders⟩ := renders
  obtain ⟨span', found', renders'⟩ := renders'
  obtain rfl : span = span' := Option.some.inj (found.symm.trans found')
  simp only [part, start, renders.kind, renders.symbol, renders.parent, renders.annotations,
    renders'.kind, renders'.symbol, renders'.parent, renders'.annotations]

theorem map_part_eq {rows : List Nat} (renders : List.Forall₂ (RendersEarliest spans) rows pieces)
    (renders' : List.Forall₂ (RendersEarliest spans) rows pieces')
    (starts : pieces.map (·.start) = pieces'.map (·.start)) :
    pieces.map part = pieces'.map part := by
  induction renders generalizing pieces' with
  | nil =>
      cases renders'
      rfl
  | cons head _ ih =>
      cases renders' with
      | cons head' rest' =>
          obtain ⟨start, starts⟩ := List.cons.inj starts
          rw [List.map_cons, List.map_cons, head.part_eq head' start, ih rest' starts]

theorem eq_of_part_eq {piece piece' : Span} (same : piece.part = piece'.part)
    (stop : piece.stop = piece'.stop) : piece = piece' := by
  cases piece
  cases piece'
  simp_all [part]

/-- Where pieces end follows from where they begin. -/
theorem eq_of_map_part_eq (same : pieces.map part = pieces'.map part)
    (closed : pieces.IsChain fun a b => a.stop + 1 = b.start)
    (closed' : pieces'.IsChain fun a b => a.stop + 1 = b.start)
    (last : ∀ piece ∈ pieces.getLast?, piece.stop = lastRow)
    (last' : ∀ piece ∈ pieces'.getLast?, piece.stop = lastRow) : pieces = pieces' := by
  induction pieces generalizing pieces' with
  | nil => exact (List.map_eq_nil_iff.1 same.symm).symm
  | cons piece pieces ih =>
      obtain ⟨piece', rest', rfl, samePart, sameRest⟩ := List.map_eq_cons_iff.1 same.symm
      cases pieces with
      | nil =>
          obtain rfl := List.map_eq_nil_iff.1 sameRest
          have stop : piece.stop = piece'.stop :=
            (last piece rfl).trans (last' piece' rfl).symm
          rw [eq_of_part_eq samePart.symm stop]
      | cons next pieces =>
          obtain ⟨next', rest', rfl, sameNext, -⟩ := List.map_eq_cons_iff.1 sameRest
          obtain ⟨meets, closed⟩ := List.isChain_cons_cons.1 closed
          obtain ⟨meets', closed'⟩ := List.isChain_cons_cons.1 closed'
          have start : next'.start = next.start := congrArg Part.lead sameNext
          have stop : piece.stop = piece'.stop := by omega
          rw [List.getLast?_cons_cons] at last last'
          rw [eq_of_part_eq samePart.symm stop, ih sameRest.symm closed closed' last last']

/-- **Some spans have one arrangement only.** -/
theorem Arranges.unique (arranges : Arranges spans lastRow pieces)
    (arranges' : Arranges spans lastRow pieces') : pieces = pieces' := by
  have starts := arranges.starts.trans arranges'.starts.symm
  exact eq_of_map_part_eq (map_part_eq arranges.renders arranges'.renders starts)
    arranges.closed arranges'.closed arranges.last arranges'.last

theorem Arranges.eq_nil_iff (arranges : Arranges spans lastRow pieces) :
    pieces = [] ↔ ∀ span ∈ spans, lastRow < span.start := by
  have none : pieces = [] ↔ startRows spans lastRow = [] := by
    rw [← List.length_eq_zero_iff, ← arranges.renders.length_eq, List.length_eq_zero_iff]
  rw [none, List.eq_nil_iff_forall_not_mem]
  constructor
  · intro absent span member
    exact Nat.lt_of_not_le fun inside =>
      absent span.start (mem_startRows_iff.2 ⟨inside, span, member, rfl⟩)
  · intro below row listed
    obtain ⟨inside, span, member, rfl⟩ := mem_startRows_iff.1 listed
    exact Nat.not_lt_of_le inside (below span member)

/-- Spans that lie end to end, from the first row to the last, arrange themselves. -/
theorem Tiles.arranges_self (tiles : Tiles 0 (lastRow + 1) spans) :
    Arranges spans lastRow spans := by
  have partitions := tiles.partitions
  have starts : spans.map (·.start) = startRows spans lastRow := by
    refine map_start_eq_startRows partitions.ascending fun row => ⟨?_, And.right⟩
    rintro ⟨span, member, rfl⟩
    have := tiles.bounds span member
    exact ⟨by omega, span, member, rfl⟩
  refine ⟨?_, ?_, tiles.isChain,
    fun piece isLast => Nat.succ.inj (tiles.stop_getLast? piece isLast)⟩
  · rw [← starts]
    cases spans with
    | nil => rfl
    | cons span spans => rw [List.map_cons, List.modifyHead_cons, tiles.1]
  · rw [← starts, List.forall₂_map_left_iff, List.forall₂_same]
    intro span member
    exact ⟨span, earliest?_start partitions.ascending member,
      ⟨Nat.le_refl _, partitions.start_le_stop span member⟩, rfl, rfl, rfl, rfl⟩

/-- **What is left as it is:** spans that lie end to end already, and nothing. -/
theorem normalize_eq_self_iff :
    normalize spans lastRow = spans ↔ spans = [] ∨ Tiles 0 (lastRow + 1) spans := by
  constructor
  · intro same
    rw [← same]
    exact tiles_normalize spans lastRow
  · rintro (rfl | tiles)
    · exact (arranges_normalize [] lastRow).eq_nil_iff.2 (by simp)
    · exact (arranges_normalize spans lastRow).unique tiles.arranges_self

/-- **A partition keeps the earliest span of each row.**  Of some spans, in whatever order, it is
the one arrangement; it is empty if and only if all of them start below the file; and it is left as
it is. -/
theorem normalize_keeps_earliest (spans : List Span) (lastRow : Nat) :
    (∀ pieces, pieces = normalize spans lastRow ↔ Arranges spans lastRow pieces) ∧
      (normalize spans lastRow = [] ↔ ∀ span ∈ spans, lastRow < span.start) ∧
      normalize (normalize spans lastRow) lastRow = normalize spans lastRow := by
  have arranges := arranges_normalize spans lastRow
  refine ⟨fun pieces => ⟨?_, fun others => others.unique arranges⟩, arranges.eq_nil_iff, ?_⟩
  · rintro rfl
    exact arranges
  · exact normalize_eq_self_iff.2 (tiles_normalize spans lastRow)

-- of the two spans that start on row 5, the earlier one in the list is kept
example : normalize [rows 5 7 .constructor, rows 2 3 .classLike, rows 5 9 .method,
    rows 13 14 .method] 12 = [rows 0 4 .classLike, rows 5 12 .constructor] := by cbv

end CodeIndex.Span
