import CodeIndex.Chunk.Component
import CodeIndex.Chunk.Heading
import CodeIndex.Chunk.Statement
import Mathlib.Data.List.Basic

/-!
# Spans that lie end to end

What a splitter says about a file is turned into a *tiling* before any text is attached: spans that
lie end to end, from the first row of the file to the last.  Two very different routes lead there.
The syntax splitter emits whatever its walk over a tree comes across, in any order and with gaps and
overlaps, and leaves it to `normalize` to make a tiling of it (`tiles_normalize`).  The two line
splitters emit sections of ascending rows, which are a tiling from the start (`tiles_sections`), and
merge small neighbours, which keeps it one (`tiles_mergeGreedy`).

`Tiles` follows the recursion of the splitters: each span begins where the one before ended.  What a
reader wants to know of a tiling is `Partitions`: spans in order, inside the file, and each row in
exactly one of them.  `Tiles.partitions` is the way from the one to the other.
-/

namespace CodeIndex

namespace Span

/-- Spans that lie end to end, the first one beginning on row `first` and the last one ending right
before row `past`. -/
def Tiles : Nat → Nat → List Span → Prop
  | first, past, [] => first = past
  | first, past, span :: spans =>
    span.start = first ∧ span.start ≤ span.stop ∧ Tiles (span.stop + 1) past spans

/-- Whether a row belongs to a span. -/
def Contains (span : Span) (row : Nat) : Prop := span.start ≤ row ∧ row ≤ span.stop

/-- **A partition of the rows below `rows`.**  Spans come in ascending order, none is empty or
reaches out of the file, and every row belongs to exactly one of them. -/
structure Partitions (rows : Nat) (spans : List Span) : Prop where
  ascending : spans.Pairwise fun a b => a.start < b.start
  start_le_stop : ∀ span ∈ spans, span.start ≤ span.stop
  stop_lt : ∀ span ∈ spans, span.stop < rows
  existsUnique : ∀ row < rows, ∃! span, span ∈ spans ∧ span.Contains row

/-! ## From a tiling to a partition -/

section Partition

variable {first past : Nat} {spans : List Span}

theorem Tiles.first_le (tiles : Tiles first past spans) : first ≤ past := by
  induction spans generalizing first with
  | nil => exact Nat.le_of_eq tiles
  | cons span spans ih =>
      obtain ⟨start, nonempty, rest⟩ := tiles
      have := ih rest
      omega

/-- Every span of a tiling lies between its ends and holds at least one row. -/
theorem Tiles.bounds (tiles : Tiles first past spans) :
    ∀ span ∈ spans, first ≤ span.start ∧ span.start ≤ span.stop ∧ span.stop < past := by
  induction spans generalizing first with
  | nil => simp
  | cons span spans ih =>
      obtain ⟨start, nonempty, rest⟩ := tiles
      have beyond := rest.first_le
      intro other member
      rcases List.mem_cons.1 member with rfl | member
      · omega
      · have := ih rest other member
        omega

/-- The spans of a tiling are disjoint and in order. -/
theorem Tiles.disjoint (tiles : Tiles first past spans) :
    spans.Pairwise fun a b => a.stop < b.start := by
  induction spans generalizing first with
  | nil => exact .nil
  | cons span spans ih =>
      obtain ⟨_, _, rest⟩ := tiles
      refine List.pairwise_cons.2 ⟨fun other member => ?_, ih rest⟩
      have := rest.bounds other member
      omega

/-- Every row between the ends of a tiling belongs to one of its spans. -/
theorem Tiles.exists_contains (tiles : Tiles first past spans) {row : Nat} (above : first ≤ row)
    (below : row < past) : ∃ span ∈ spans, span.Contains row := by
  induction spans generalizing first with
  | nil =>
      have : first = past := tiles
      omega
  | cons span spans ih =>
      obtain ⟨start, _, rest⟩ := tiles
      by_cases inside : row ≤ span.stop
      · exact ⟨span, List.mem_cons_self, by omega, inside⟩
      · obtain ⟨other, member, contains⟩ := ih rest (by omega)
        exact ⟨other, List.mem_cons_of_mem _ member, contains⟩

/-- No row belongs to two spans of a disjoint list. -/
theorem eq_of_contains (disjoint : spans.Pairwise fun a b => a.stop < b.start) {a b : Span}
    {row : Nat} (ha : a ∈ spans) (hb : b ∈ spans) (inA : a.Contains row) (inB : b.Contains row) :
    a = b := by
  induction spans with
  | nil => cases ha
  | cons span spans ih =>
      obtain ⟨before, rest⟩ := List.pairwise_cons.1 disjoint
      obtain ⟨startA, stopA⟩ := inA
      obtain ⟨startB, stopB⟩ := inB
      rcases List.mem_cons.1 ha with rfl | laterA <;> rcases List.mem_cons.1 hb with rfl | laterB
      · rfl
      · have := before b laterB
        omega
      · have := before a laterA
        omega
      · exact ih rest laterA laterB

/-- **A tiling from the first row on is a partition of the rows.** -/
theorem Tiles.partitions {rows : Nat} (tiles : Tiles 0 rows spans) : Partitions rows spans where
  ascending := tiles.disjoint.imp_of_mem fun {a b} memberA _ before => by
    have := tiles.bounds a memberA
    omega
  start_le_stop span member := (tiles.bounds span member).2.1
  stop_lt span member := (tiles.bounds span member).2.2
  existsUnique row below := by
    obtain ⟨span, member, contains⟩ := tiles.exists_contains (Nat.zero_le row) below
    refine ⟨span, ⟨member, contains⟩, fun other found => ?_⟩
    exact eq_of_contains tiles.disjoint found.1 member found.2 contains

end Partition

/-! ## Closing gaps -/

/-- What stands right behind a span in `distinctStarts` starts later. -/
theorem ascending_distinctStarts {spans : List Span}
    (sorted : spans.Pairwise fun a b => a.start ≤ b.start) :
    (distinctStarts spans).Pairwise fun a b => a.start < b.start := by
  induction spans with
  | nil => exact .nil
  | cons span spans ih =>
      have rest := ih (List.pairwise_cons.1 sorted).2
      refine List.pairwise_cons.2 ⟨?_, rest.sublist (List.dropWhile_sublist _)⟩
      cases dropped : (distinctStarts spans).dropWhile (·.start ≤ span.start) with
      | nil => simp
      | cons next others =>
          -- the first survivor starts below `span`, and the others start below that one
          have later : span.start < next.start := by
            have kept := List.head_dropWhile_not (fun s : Span => decide (s.start ≤ span.start))
              (l := distinctStarts spans) (by simp [dropped])
            simpa [dropped] using kept
          have below := rest.sublist (dropped ▸ List.dropWhile_sublist
            (l := distinctStarts spans) (fun s : Span => decide (s.start ≤ span.start)))
          intro other member
          rcases List.mem_cons.1 member with rfl | member
          · exact later
          · exact Nat.lt_trans later ((List.pairwise_cons.1 below).1 other member)

theorem distinctStarts_sublist (spans : List Span) : (distinctStarts spans).Sublist spans := by
  induction spans with
  | nil => exact .slnil
  | cons span spans ih => exact ((List.dropWhile_sublist _).trans ih).cons_cons span

/-- Spans that start on ascending rows lie end to end once each is closed right before the next. -/
theorem tiles_closeGaps {lastRow : Nat} (span : Span) (spans : List Span)
    (ascending : (span :: spans).Pairwise fun a b => a.start < b.start)
    (inside : ∀ other ∈ span :: spans, other.start ≤ lastRow) :
    Tiles span.start (lastRow + 1) (closeGaps lastRow (span :: spans)) := by
  induction spans generalizing span with
  | nil => exact ⟨rfl, inside span List.mem_cons_self, rfl⟩
  | cons next spans ih =>
      obtain ⟨before, rest⟩ := List.pairwise_cons.1 ascending
      have later := before next List.mem_cons_self
      refine ⟨rfl, Nat.le_sub_one_of_lt later, ?_⟩
      have closed : next.start - 1 + 1 = next.start := by omega
      show Tiles (next.start - 1 + 1) _ _
      rw [closed]
      exact ih next rest fun other member => inside other (List.mem_cons_of_mem _ member)

/-- Closing gaps changes only where spans stop. -/
theorem map_closeGaps {α : Type} {f : Span → α}
    (apart : ∀ (span : Span) (stop : Nat), f { span with stop } = f span) (lastRow : Nat)
    (spans : List Span) : (closeGaps lastRow spans).map f = spans.map f := by
  induction spans with
  | nil => rfl
  | cons span spans ih =>
      cases spans with
      | nil => exact congrArg (fun first => [first]) (apart span lastRow)
      | cons next spans =>
          rw [closeGaps, List.map_cons, ih, apart, ← List.map_cons]

theorem Tiles.startAt {first past row : Nat} {spans : List Span} (tiles : Tiles first past spans)
    (nonempty : spans ≠ []) (above : row ≤ first) : Tiles row past (startAt row spans) := by
  cases spans with
  | nil => exact absurd rfl nonempty
  | cons span spans =>
      obtain ⟨start, _, rest⟩ := tiles
      exact ⟨rfl, show row ≤ span.stop by omega, rest⟩

theorem startsBy_trans (a b c : Span) (ab : a.startsBy b = true) (bc : b.startsBy c = true) :
    a.startsBy c = true := by
  simp only [startsBy, decide_eq_true_eq] at *
  omega

theorem startsBy_total (a b : Span) : (a.startsBy b || b.startsBy a) = true := by
  simp only [startsBy, Bool.or_eq_true, decide_eq_true_eq]
  omega

/-- Sorted spans start on rows that do not descend. -/
theorem sorted_mergeSort (spans : List Span) :
    (spans.mergeSort startsBy).Pairwise fun a b => a.start ≤ b.start :=
  (List.pairwise_mergeSort startsBy_trans startsBy_total spans).imp of_decide_eq_true

/-- The spans that `normalize` keeps start on ascending rows. -/
theorem ascending_kept (spans : List Span) (lastRow : Nat) :
    (distinctStarts ((spans.filter (·.start ≤ lastRow)).mergeSort startsBy)).Pairwise
      fun a b => a.start < b.start :=
  ascending_distinctStarts (sorted_mergeSort _)

/-- The spans that `normalize` keeps are some of those that start inside the file. -/
theorem mem_of_mem_kept {spans : List Span} {lastRow : Nat} {span : Span}
    (kept : span ∈ distinctStarts ((spans.filter (·.start ≤ lastRow)).mergeSort startsBy)) :
    span ∈ spans ∧ span.start ≤ lastRow := by
  have member := (distinctStarts_sublist _).subset kept
  simpa using (List.mergeSort_perm _ _).mem_iff.1 member

/-- **Whatever spans it is given, `normalize` makes a tiling of them,** unless none of them starts
inside the file. -/
theorem tiles_normalize (spans : List Span) (lastRow : Nat) :
    normalize spans lastRow = [] ∨ Tiles 0 (lastRow + 1) (normalize spans lastRow) := by
  have ascending := ascending_kept spans lastRow
  have inside : ∀ span ∈ distinctStarts
      ((spans.filter (·.start ≤ lastRow)).mergeSort startsBy), span.start ≤ lastRow :=
    fun span kept => (mem_of_mem_kept kept).2
  unfold normalize
  cases distinct : distinctStarts ((spans.filter (·.start ≤ lastRow)).mergeSort startsBy) with
  | nil => exact .inl rfl
  | cons span others =>
      rw [distinct] at ascending inside
      refine .inr ((tiles_closeGaps span others ascending inside).startAt ?_ (Nat.zero_le _))
      cases others <;> simp [closeGaps]

/-! ## Sections and their mergers -/

/-- Sections of ascending rows lie end to end. -/
theorem tiles_sections {lastRow : Nat} {make : Nat → Nat → Span}
    (make_start : ∀ start stop, (make start stop).start = start)
    (make_stop : ∀ start stop, (make start stop).stop = max start stop) (row : Nat)
    (rows : List Nat) (ascending : (row :: rows).Pairwise (· < ·))
    (inside : ∀ other ∈ row :: rows, other ≤ lastRow) :
    Tiles row (lastRow + 1) (sections lastRow make (row :: rows)) := by
  induction rows generalizing row with
  | nil =>
      have := inside row List.mem_cons_self
      refine ⟨make_start _ _, ?_, ?_⟩
      · rw [make_start, make_stop]
        omega
      · show (make row lastRow).stop + 1 = lastRow + 1
        rw [make_stop]
        omega
  | cons next rows ih =>
      obtain ⟨before, rest⟩ := List.pairwise_cons.1 ascending
      have later := before next List.mem_cons_self
      have closed : (make row (next - 1)).stop + 1 = next := by
        rw [make_stop]
        omega
      refine ⟨make_start _ _, ?_, ?_⟩
      · rw [make_start, make_stop]
        omega
      · rw [closed]
        exact ih next rest fun other member => inside other (List.mem_cons_of_mem _ member)

/-- Two neighbours in a tiling may be joined. -/
theorem Tiles.join {first past : Nat} {span next : Span} {spans : List Span}
    (tiles : Tiles first past (span :: next :: spans)) :
    Tiles first past ({ span with stop := next.stop } :: spans) := by
  obtain ⟨start, nonempty, nextStart, nextNonempty, rest⟩ := tiles
  exact ⟨start, show span.start ≤ next.stop by omega, rest⟩

theorem tiles_mergeInto (lines : List (List Char)) {first past : Nat} (span : Span) (chars : Nat)
    (spans : List Span) (tiles : Tiles first past (span :: spans)) :
    Tiles first past (mergeInto lines span chars spans) := by
  induction spans generalizing first span chars with
  | nil => exact tiles
  | cons next spans ih =>
      unfold mergeInto
      dsimp only
      split
      -- a merger reaches from the start of `span` to the stop of `next`
      · exact ih _ _ tiles.join
      · exact ⟨tiles.1, tiles.2.1, ih next _ tiles.2.2⟩

/-- Merging neighbours keeps spans end to end. -/
theorem tiles_mergeGreedy (lines : List (List Char)) {first past : Nat} {spans : List Span}
    (tiles : Tiles first past spans) : Tiles first past (mergeGreedy lines spans) := by
  cases spans with
  | nil => exact tiles
  | cons span spans => exact tiles_mergeInto lines span _ spans tiles

/-- The rows that pass a test ascend and are rows of the file. -/
theorem rowsWhere_ascending (test : List Char → Bool) (lines : List (List Char)) :
    (rowsWhere test lines).Pairwise (· < ·) ∧ ∀ row ∈ rowsWhere test lines, row < lines.length := by
  constructor
  · have rows : lines.zipIdx.Pairwise fun a b => a.2 < b.2 := by
      rw [← List.pairwise_map (f := Prod.snd), List.zipIdx_map_snd]
      exact List.pairwise_lt_range'
    exact List.pairwise_map.2 (rows.sublist List.filter_sublist)
  · intro row member
    obtain ⟨⟨line, row⟩, found, rfl⟩ := List.mem_map.1 member
    have := List.mem_zipIdx (List.mem_filter.1 found).1
    simpa using this.2.1

/-- Sections that begin at ascending rows of a file, the first one moved to the top, tile it. -/
theorem tiles_sections_fromTop {rowCount : Nat} {make : Nat → Nat → Span} {row : Nat}
    {rows : List Nat} (make_start : ∀ start stop, (make start stop).start = start)
    (make_stop : ∀ start stop, (make start stop).stop = max start stop)
    (ascending : (row :: rows).Pairwise (· < ·)) (inside : ∀ other ∈ row :: rows,
      other < rowCount) :
    Tiles 0 rowCount (sections (rowCount - 1) make (0 :: rows)) := by
  obtain ⟨before, rest⟩ := List.pairwise_cons.1 ascending
  have file : rowCount - 1 + 1 = rowCount := by
    have := inside row List.mem_cons_self
    omega
  have fromTop : (0 :: rows).Pairwise (· < ·) :=
    List.pairwise_cons.2 ⟨fun other member => Nat.lt_of_le_of_lt (Nat.zero_le row)
      (before other member), rest⟩
  have insideFromTop : ∀ other ∈ 0 :: rows, other ≤ rowCount - 1 := by
    intro other member
    rcases List.mem_cons.1 member with rfl | member
    · exact Nat.zero_le _
    · have := inside other (List.mem_cons_of_mem _ member)
      omega
  have tiles := tiles_sections make_start make_stop 0 rows fromTop insideFromTop
  rwa [file] at tiles

/-- They still tile it when small neighbours have been merged. -/
theorem tiles_merged_sections {lines : List (List Char)} {make : Nat → Nat → Span} {row : Nat}
    {rows : List Nat} (make_start : ∀ start stop, (make start stop).start = start)
    (make_stop : ∀ start stop, (make start stop).stop = max start stop)
    (ascending : (row :: rows).Pairwise (· < ·)) (inside : ∀ other ∈ row :: rows,
      other < lines.length) :
    Tiles 0 lines.length
      (mergeGreedy lines (sections (lines.length - 1) make (0 :: rows))) :=
  tiles_mergeGreedy lines (tiles_sections_fromTop make_start make_stop ascending inside)

end Span

/-! ## The splitters -/

namespace Statement

/-- An SQL script is tiled by its sections, if it has any. -/
theorem tiles_split (lines : List (List Char)) :
    split lines = [] ∨ Span.Tiles 0 lines.length (split lines) := by
  obtain ⟨ascending, inside⟩ := Span.rowsWhere_ascending isOpening lines
  unfold split
  cases rows : Span.rowsWhere isOpening lines with
  | nil => exact .inl rfl
  | cons row rows' =>
      rw [rows] at ascending inside
      exact .inr (Span.tiles_merged_sections (fun _ _ => rfl) (fun _ _ => rfl)
        ascending inside)

end Statement

namespace Heading

/-- Headings are found from the top down, on rows of the document. -/
theorem headingsFrom_ascending (inFence : Bool) (row : Nat) (lines : List (List Char)) :
    (headingsFrom inFence row lines).Pairwise (fun a b => a.1 < b.1) ∧
      ∀ entry ∈ headingsFrom inFence row lines,
        row ≤ entry.1 ∧ entry.1 < row + lines.length := by
  induction lines generalizing inFence row with
  | nil => simp [headingsFrom]
  | cons line lines ih =>
      -- the fence may open or close on this line, so the induction is on all states of it
      have weaken : ∀ fence, ∀ entry ∈ headingsFrom fence (row + 1) lines,
          row + 1 ≤ entry.1 ∧ entry.1 < row + (line :: lines).length := by
        intro fence entry member
        have := (ih fence (row + 1)).2 entry member
        simp only [List.length_cons]
        omega
      simp only [headingsFrom]
      split
      · exact ⟨(ih _ _).1, fun entry member => by have := weaken _ entry member; omega⟩
      · split
        · refine ⟨List.pairwise_cons.2 ⟨fun entry member => (weaken _ entry member).1,
            (ih _ _).1⟩, fun entry member => ?_⟩
          rcases List.mem_cons.1 member with rfl | member
          · simp
          · have := weaken _ entry member
            omega
        · exact ⟨(ih _ _).1, fun entry member => by have := weaken _ entry member; omega⟩

/-- A document is tiled by its sections, if it has any. -/
theorem tiles_split (lines : List (List Char)) :
    split lines = [] ∨ Span.Tiles 0 lines.length (split lines) := by
  obtain ⟨ascending, inside⟩ := headingsFrom_ascending false 0 lines
  unfold split
  dsimp only
  cases found : (headings lines).map (·.1) with
  | nil => exact .inl rfl
  | cons row rows =>
      have ascending : (row :: rows).Pairwise (· < ·) := by
        rw [← found]
        exact List.pairwise_map.2 ascending
      have inside : ∀ other ∈ row :: rows, other < lines.length := by
        intro other member
        rw [← found] at member
        obtain ⟨entry, listed, rfl⟩ := List.mem_map.1 member
        simpa using (inside entry listed).2
      exact .inr (Span.tiles_merged_sections (fun _ _ => rfl) (fun _ _ => rfl) ascending inside)

end Heading

namespace Declaration

/-- A file is tiled by its declarations, whatever its tree looks like, if there are any. -/
theorem tiles_splitTree (table : NodeTable) (root : SyntaxTree) (lastRow : Nat) :
    splitTree table root lastRow = [] ∨
      Span.Tiles 0 (lastRow + 1) (splitTree table root lastRow) := by
  unfold splitTree
  dsimp only
  split
  · exact Span.tiles_normalize _ lastRow
  · exact .inl rfl

end Declaration

end CodeIndex
