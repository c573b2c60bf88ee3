import CodeIndex.Proofs.Chunk.Creation
import CodeIndex.Proofs.Chunk.Tiling

/-!
# Sections and their mergers

SQL scripts and Markdown documents are split alike.  There are rows on which sections begin; a
section reaches to the row before the next such row, and the first one also holds what precedes it.
Small sections are merged with their neighbours, from the top.  What comes of it is `IsMerged`:
spans are made of whole sections, one that is made of several is small, and none could have been
extended by the section behind it.

The merger keeps a running count of characters instead of measuring a span anew.  Sizes of adjacent
ranges add up, since every line is counted with its end (`charsOf_add`); so the count is the size of
the open span, and a step of merging can be said without it (`mergeGreedy_cons_cons`).  From there
on the proofs speak of sizes only.

A section and its rows are said without the list of all sections: between its first and its last row
there is exactly one row on which a section begins.  The name of an SQL section is that in the first
creating line between these rows.

## Main definitions

* `Outline`, `Outline.IsSection`: where sections begin, and what their rows are.
* `Outline.IsMerged`: what spans of merged sections are.

## Main statements

* `Span.mergeGreedy_cons_cons`
* `Outline.isMerger_of_mem_mergeGreedy`, `Outline.isChain_mergeGreedy`
* `Outline.isMerged`: sections of ascending rows, merged.
* `sections_merged`: the two splitters.
-/

namespace CodeIndex

/-- What a document tells about its sections: on which of its rows one begins, and whether something
is the name of the section between two rows. -/
structure Outline where
  lines : List (List Char)
  IsStart (row : Nat) : Prop
  IsName (first last : Nat) (name : Option String) : Prop

namespace Outline

variable (outline : Outline)

/-- **Whether rows are those of a section.** -/
structure IsSection (first last : Nat) : Prop where
  /-- The first section begins at the top, and every other one where it starts. -/
  begins : first = 0 ∨ outline.IsStart first ∧ ∃ row < first, outline.IsStart row
  one : ∃! row, outline.IsStart row ∧ first ≤ row ∧ row ≤ last
  ends : outline.IsStart (last + 1) ∨ last + 1 = outline.lines.length

/-- Whether the first section of a span ends on a row. -/
structure Leads (span : Span) (last : Nat) : Prop where
  isSection : outline.IsSection span.start last
  le : last ≤ span.stop

/-- **Whether a span is made of whole sections,** of one or of few, and named after the first. -/
structure IsMerger (span : Span) : Prop where
  ends : outline.IsStart (span.stop + 1) ∨ span.stop + 1 = outline.lines.length
  /-- A span of several sections is small; one section alone may be of any size. -/
  one_or_small : outline.IsSection span.start span.stop ∨
    Span.charsOf outline.lines span.start span.stop ≤ Span.maxChunkChars
  named : ∃ last, outline.Leads span last ∧ outline.IsName span.start last span.symbol

/-- Whether a span is too large for the first section of the next one. -/
def IsFull (span next : Span) : Prop :=
  ∃ last, outline.Leads next last ∧ Span.maxChunkChars < Span.charsOf outline.lines span.start last

/-- **What the spans of a document are** whose sections have been merged. -/
structure IsMerged (spans : List Span) : Prop where
  nil_iff : spans = [] ↔ ∀ row, ¬outline.IsStart row
  /-- No row is lost, and none is in two spans. -/
  tiles : spans = [] ∨ Span.Tiles 0 outline.lines.length spans
  begins : ∀ span ∈ spans.tail, outline.IsStart span.start
  mergers : ∀ span ∈ spans, outline.IsMerger span
  maximal : spans.IsChain outline.IsFull

end Outline

/-! ## Counting characters -/

namespace Span

/-- Counting may begin with any number. -/
theorem foldl_chars (chars : Nat) (lines : List (List Char)) :
    lines.foldl (fun chars line => chars + (line.length + 1)) chars =
      chars + lines.foldl (fun chars line => chars + (line.length + 1)) 0 := by
  induction lines generalizing chars with
  | nil => rfl
  | cons line lines ih =>
      rw [List.foldl_cons, List.foldl_cons, ih, ih (0 + (line.length + 1)), Nat.zero_add,
        Nat.add_assoc]

/-- **Sizes of adjacent ranges of lines add up.** -/
theorem charsOf_add (lines : List (List Char)) {start middle stop : Nat}
    (above : start ≤ middle + 1) (below : middle ≤ stop) :
    charsOf lines start middle + charsOf lines (middle + 1) stop = charsOf lines start stop := by
  have rows : stop + 1 - start = (middle + 1 - start) + (stop + 1 - (middle + 1)) := by omega
  unfold charsOf
  rw [rows, List.take_add, List.drop_drop, Nat.add_sub_cancel' above, List.foldl_append]
  exact (foldl_chars _ _).symm

/-! ## Merging -/

section Merging

variable {first past : Nat} {span next : Span} {spans : List Span}

/-- **What a step of merging does:** it joins two neighbours that are small together.  The running
count of characters is the size of the open span. -/
theorem mergeGreedy_cons_cons (lines : List (List Char))
    (tiles : Tiles first past (span :: next :: spans)) :
    mergeGreedy lines (span :: next :: spans) =
      if charsOf lines span.start next.stop ≤ maxChunkChars then
        mergeGreedy lines ({ span with stop := next.stop } :: spans)
      else span :: mergeGreedy lines (next :: spans) := by
  obtain ⟨-, nonempty, nextStart, nextNonempty, -⟩ := tiles
  have together : charsOf lines span.start span.stop + charsOf lines next.start next.stop =
      charsOf lines span.start next.stop := by
    rw [nextStart]
    exact charsOf_add lines (by omega) (by omega)
  rw [mergeGreedy, mergeInto, together]
  rfl

/-- Merging does not move the top, and makes the first span no smaller. -/
theorem exists_head_mergeGreedy (lines : List (List Char))
    (tiles : Tiles first past (span :: spans)) :
    ∃ head rest, mergeGreedy lines (span :: spans) = head :: rest ∧ head.start = span.start ∧
      span.stop ≤ head.stop := by
  induction spans generalizing span with
  | nil => exact ⟨span, [], rfl, rfl, Nat.le_refl _⟩
  | cons next spans ih =>
      rw [mergeGreedy_cons_cons lines tiles]
      split
      · obtain ⟨head, rest, same, start, reaches⟩ := ih tiles.join
        have reaches : next.stop ≤ head.stop := reaches
        have later := tiles.2.2.bounds next List.mem_cons_self
        exact ⟨head, rest, same, start, by omega⟩
      · exact ⟨span, _, rfl, rfl, Nat.le_refl _⟩

end Merging

end Span

namespace Outline

variable {outline : Outline} {span next : Span} {spans : List Span} {first past : Nat}

/-- Whether a span is one section and has its name. -/
structure IsUnit (outline : Outline) (span : Span) : Prop where
  isSection : outline.IsSection span.start span.stop
  named : outline.IsName span.start span.stop span.symbol

theorem IsUnit.isMerger (unit : outline.IsUnit span) : outline.IsMerger span where
  ends := unit.isSection.ends
  one_or_small := .inl unit.isSection
  named := ⟨span.stop, ⟨unit.isSection, Nat.le_refl _⟩, unit.named⟩

/-- A merger may take in the next section if both together are small. -/
theorem IsMerger.join (merger : outline.IsMerger span) (unit : outline.IsUnit next)
    (later : span.stop ≤ next.stop)
    (small : Span.charsOf outline.lines span.start next.stop ≤ Span.maxChunkChars) :
    outline.IsMerger { span with stop := next.stop } where
  ends := unit.isSection.ends
  one_or_small := .inr small
  named := by
    obtain ⟨last, leads, name⟩ := merger.named
    exact ⟨last, ⟨leads.isSection, Nat.le_trans leads.le later⟩, name⟩

/-- **Merging makes spans of whole sections,** small ones if of several. -/
theorem isMerger_of_mem_mergeGreedy (tiles : Span.Tiles first past (span :: spans))
    (merger : outline.IsMerger span) (units : ∀ unit ∈ spans, outline.IsUnit unit) :
    ∀ merged ∈ Span.mergeGreedy outline.lines (span :: spans), outline.IsMerger merged := by
  induction spans generalizing first span with
  | nil =>
      intro merged member
      rwa [List.mem_singleton.1 member]
  | cons next spans ih =>
      have unit := units next List.mem_cons_self
      have others := fun other member => units other (List.mem_cons_of_mem next member)
      rw [Span.mergeGreedy_cons_cons _ tiles]
      split
      · rename_i small
        have later := tiles.2.2.bounds next List.mem_cons_self
        exact ih tiles.join (merger.join unit (by omega) small) others
      · intro merged member
        rcases List.mem_cons.1 member with rfl | member
        · exact merger
        · exact ih tiles.2.2 unit.isMerger others merged member

/-- **Merging goes as far as it can:** no span leaves room for the section behind it. -/
theorem isChain_mergeGreedy (tiles : Span.Tiles first past (span :: spans))
    (units : ∀ unit ∈ spans, outline.IsUnit unit) :
    (Span.mergeGreedy outline.lines (span :: spans)).IsChain outline.IsFull := by
  induction spans generalizing first span with
  | nil => exact .singleton span
  | cons next spans ih =>
      have unit := units next List.mem_cons_self
      have others := fun other member => units other (List.mem_cons_of_mem next member)
      rw [Span.mergeGreedy_cons_cons _ tiles]
      split
      · exact ih tiles.join others
      · rename_i full
        have further := ih tiles.2.2 others
        -- the span behind begins with the section that did not fit
        obtain ⟨head, rest, same, start, reaches⟩ :=
          Span.exists_head_mergeGreedy outline.lines tiles.2.2
        rw [same] at further ⊢
        refine .cons_cons ⟨next.stop, ⟨?_, reaches⟩, Nat.lt_of_not_le full⟩ further
        rw [start]
        exact unit.isSection

/-! ## Sections of ascending rows -/

/-- **The sections of ascending rows are sections,** if sections begin on these rows and on no
others further down. -/
theorem isUnit_of_mem_sections {make : Nat → Nat → Span} {row : Nat} {rows : List Nat}
    (make_start : ∀ start stop, (make start stop).start = start)
    (make_stop : ∀ start stop, (make start stop).stop = max start stop)
    (make_name : ∀ first last, outline.IsSection first last →
      outline.IsName first last (make first last).symbol)
    (begins : first = 0 ∨ outline.IsStart first ∧ ∃ row < first, outline.IsStart row)
    (starts : ∀ other ≥ first, outline.IsStart other ↔ other ∈ row :: rows)
    (above : first ≤ row) (ascending : (row :: rows).Pairwise (· < ·))
    (inside : ∀ other ∈ row :: rows, other < outline.lines.length) :
    ∀ span ∈ Span.sections (outline.lines.length - 1) make (first :: rows),
      outline.IsUnit span := by
  have unit : ∀ first last, first ≤ last → outline.IsSection first last →
      outline.IsUnit (make first last) := by
    intro first last le isSection
    have stop : (make first last).stop = last := by rw [make_stop, Nat.max_eq_right le]
    have name := make_name first last isSection
    exact ⟨by rwa [make_start, stop], by rwa [make_start, stop]⟩
  induction rows generalizing first row with
  | nil =>
      have reach := inside row List.mem_cons_self
      intro span member
      obtain rfl := List.mem_singleton.1 member
      refine unit _ _ (by omega) ⟨begins, ⟨row, ⟨?_, above, by omega⟩, ?_⟩, .inr (by omega)⟩
      · exact (starts row above).2 List.mem_cons_self
      · rintro other ⟨isStart, later, -⟩
        simpa using (starts other later).1 isStart
  | cons next rows ih =>
      obtain ⟨before, rest⟩ := List.pairwise_cons.1 ascending
      have later := before next List.mem_cons_self
      have rowStarts : outline.IsStart row := (starts row above).2 List.mem_cons_self
      have nextStarts : outline.IsStart next := (starts next (by omega)).2 (by simp)
      intro span member
      rcases List.mem_cons.1 member with rfl | member
      · refine unit _ _ (by omega) ⟨begins, ⟨row, ⟨rowStarts, above, by omega⟩, ?_⟩, .inl ?_⟩
        · rintro other ⟨isStart, here, within⟩
          -- the rows behind `next` are behind this section
          rcases List.mem_cons.1 ((starts other here).1 isStart) with same | behind
          · exact same
          · rcases List.mem_cons.1 behind with rfl | behind
            · omega
            · have := (List.pairwise_cons.1 rest).1 other behind
              omega
        · rwa [Nat.sub_add_cancel (by omega)]
      · refine ih (.inr ⟨nextStarts, row, later, rowStarts⟩) (fun other here => ?_)
          (Nat.le_refl _) rest (fun other member => inside other (List.mem_cons_of_mem _ member))
          span member
        rw [starts other (by omega), List.mem_cons]
        exact or_iff_right (by omega)

/-- Merged spans are mergers that begin with sections. -/
theorem start_of_mem_tail (tiles : Span.Tiles 0 past spans)
    (mergers : ∀ span ∈ spans, outline.IsMerger span) :
    ∀ span ∈ spans.tail, outline.IsStart span.start := by
  cases spans with
  | nil => simp
  | cons head spans =>
      obtain ⟨-, -, rest⟩ := tiles
      intro span member
      obtain ⟨last, leads, -⟩ := (mergers span (List.mem_cons_of_mem head member)).named
      rcases leads.isSection.begins with top | ⟨start, -⟩
      · have := rest.bounds span member
        omega
      · exact start

/-- **What merged sections are,** of any document that is split along rows. -/
theorem isMerged {make : Nat → Nat → Span} {starts : List Nat}
    (make_start : ∀ start stop, (make start stop).start = start)
    (make_stop : ∀ start stop, (make start stop).stop = max start stop)
    (make_name : ∀ first last, outline.IsSection first last →
      outline.IsName first last (make first last).symbol)
    (isStart_iff : ∀ row, outline.IsStart row ↔ row ∈ starts)
    (ascending : starts.Pairwise (· < ·)) (inside : ∀ row ∈ starts, row < outline.lines.length) :
    outline.IsMerged <|
      match starts with
      | [] => []
      | _ :: rows =>
        Span.mergeGreedy outline.lines
          (Span.sections (outline.lines.length - 1) make (0 :: rows)) := by
  cases starts with
  | nil =>
      have none : ∀ row, ¬outline.IsStart row := by simp [isStart_iff]
      exact ⟨by simpa using none, .inl rfl, by simp, by simp, .nil⟩
  | cons row rows =>
      have units := isUnit_of_mem_sections make_start make_stop make_name (.inl rfl)
        (fun other _ => isStart_iff other) (Nat.zero_le row) ascending inside
      have tiles := Span.tiles_sections_fromTop make_start make_stop ascending inside
      have merged := Span.tiles_mergeGreedy outline.lines tiles
      have start : outline.IsStart row := (isStart_iff row).2 List.mem_cons_self
      have filled := inside row List.mem_cons_self
      dsimp only
      generalize Span.sections (outline.lines.length - 1) make (0 :: rows) = sections at *
      cases sections with
      | nil => exact absurd tiles (by unfold Span.Tiles; omega)
      | cons span spans =>
          have others := fun other member => units other (List.mem_cons_of_mem span member)
          have mergers := isMerger_of_mem_mergeGreedy tiles
            (units span List.mem_cons_self).isMerger others
          obtain ⟨head, rest, same, -⟩ := Span.exists_head_mergeGreedy outline.lines tiles
          refine ⟨iff_of_false ?_ fun none => none row start, .inr merged,
            start_of_mem_tail merged mergers, mergers, isChain_mergeGreedy tiles others⟩
          rw [same]
          exact List.cons_ne_nil _ _

end Outline

/-! ## The splitters -/

namespace Statement

/-- Where the sections of an SQL script begin, and that they are named after what their first
creating line creates. -/
def outline (lines : List (List Char)) : Outline where
  lines
  IsStart row := ∃ line ∈ lines[row]?, Starts line
  IsName := IsFirstCreation lines

theorem isStart_iff (lines : List (List Char)) (row : Nat) :
    (outline lines).IsStart row ↔ row ∈ Span.rowsWhere isOpening lines := by
  simp only [outline, Span.rowsWhere, List.mem_map, List.mem_filter, Prod.exists,
    exists_eq_right, List.mem_zipIdx_iff_getElem?, Option.mem_def, isOpening_iff]

theorem split_isMerged (lines : List (List Char)) : (outline lines).IsMerged (split lines) := by
  obtain ⟨ascending, inside⟩ := Span.rowsWhere_ascending isOpening lines
  exact Outline.isMerged (fun _ _ => rfl) (fun _ _ => rfl)
    (fun first last _ => isFirstCreation_findSome? lines first last) (isStart_iff lines)
    ascending inside

end Statement

namespace Heading

/-- Where the sections of a document begin, and that they are named after their headings. -/
def outline (lines : List (List Char)) : Outline where
  lines
  IsStart row := ∃ title, (row, title) ∈ headings lines
  IsName first last name :=
    ∃ row title, (row, title) ∈ headings lines ∧ first ≤ row ∧ row ≤ last ∧ name = some title

theorem isStart_iff (lines : List (List Char)) (row : Nat) :
    (outline lines).IsStart row ↔ row ∈ (headings lines).map (·.1) := by
  simp [outline]

/-- The first heading from the beginning of a section on is that of the section. -/
theorem isName_find? {lines : List (List Char)} {first last : Nat}
    (isSection : (outline lines).IsSection first last) :
    (outline lines).IsName first last
      (((headings lines).find? fun entry => first ≤ entry.1).map (·.2)) := by
  obtain ⟨row, ⟨⟨title, listed⟩, above, below⟩, -⟩ := isSection.one
  cases found : (headings lines).find? fun entry => first ≤ entry.1 with
  | none => simpa [above] using List.find?_eq_none.1 found _ listed
  | some entry =>
      obtain ⟨later, before, after, same, earlier⟩ := List.find?_eq_some_iff_append.1 found
      have ascending : (headings lines).Pairwise (fun a b => a.1 < b.1) :=
        (headingsFrom_ascending false 0 lines).1
      rw [same, List.pairwise_append, List.pairwise_cons] at ascending
      have reach : entry.1 ≤ row := by
        rw [same] at listed
        rcases List.mem_append.1 listed with listed | listed
        · simpa [above] using earlier _ listed
        · rcases List.mem_cons.1 listed with rfl | listed
          · exact Nat.le_refl _
          · exact Nat.le_of_lt (ascending.2.1.1 _ listed)
      exact ⟨entry.1, entry.2, List.mem_of_find?_eq_some found, by simpa using later,
        Nat.le_trans reach below, rfl⟩

theorem split_isMerged (lines : List (List Char)) : (outline lines).IsMerged (split lines) := by
  obtain ⟨ascending, inside⟩ := headingsFrom_ascending false 0 lines
  refine Outline.isMerged (fun _ _ => rfl) (fun _ _ => rfl) (fun _ _ => isName_find?)
    (isStart_iff lines) (List.pairwise_map.2 ascending) ?_
  intro row member
  obtain ⟨entry, listed, rfl⟩ := List.mem_map.1 member
  have below := (inside entry listed).2
  rwa [Nat.zero_add] at below

end Heading

/-- **SQL scripts and Markdown documents are cut where sections begin, and merged as far as they
can be.** -/
theorem sections_merged (lines : List (List Char)) :
    (Statement.outline lines).IsMerged (Statement.split lines) ∧
      (Heading.outline lines).IsMerged (Heading.split lines) :=
  ⟨Statement.split_isMerged lines, Heading.split_isMerged lines⟩

/-- A script that creates a view and a table with much text behind each, and then uses the table. -/
def Statement.script : List (List Char) :=
  ["-- reports".toList, "create or replace view \"reporting\".\"daily\" as".toList,
    List.replicate 3000 '-', "  CREATE TABLE IF NOT EXISTS [users] (id int);".toList,
    List.replicate 3000 '-', "insert into users values (1);".toList,
    "grant select on users to reader;".toList]

theorem sections_merged_script :
    (Statement.split Statement.script).map (fun span => (span.start, span.stop, span.symbol)) =
        [(0, 2, some "reporting\".\"daily"), (3, 4, some "users"), (5, 6, none)] ∧
      (Statement.outline Statement.script).IsMerged (Statement.split Statement.script) :=
  ⟨by decide +kernel, (sections_merged Statement.script).1⟩

end CodeIndex
