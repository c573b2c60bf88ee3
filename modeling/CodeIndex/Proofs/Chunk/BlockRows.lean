import CodeIndex.Proofs.Chunk.StartLine
import Mathlib.Data.List.Forall2

/-!
# Rows of a component

The spans of a component are those of its blocks.  A template block is one span on exactly its rows,
and a style block has none.  The spans of a script block tile its rows, from the one on which the
opening tag begins to the one on which the closing tag ends (`tiles_scriptSpans`), although they
come from a tree of the body alone: the parts of the body tile its rows, these rows are moved down
to where the body stands in the document, and the first and the last part are stretched over the
tags.

That the rows are moved by the right number is said without the number.  A part that begins on some
row of the body becomes a span that begins on that row of the document on which the characters of
this row of the body stand (`StandsOn`).

## Main definitions

* `Component.IsSplit`: what the spans of a block are.

## Main statements

* `Component.tiles_scriptSpans`
* `Component.split_blockwise`: what the spans of a component are, and where its chunks lie.
-/

namespace CodeIndex

open CodeIndex.Text

/-! ## Tilings that are moved and stretched -/

namespace Span

variable {first past : Nat} {spans : List Span}

theorem tiles_append {before after : List Span} :
    Tiles first past (before ++ after) ↔ ∃ row, Tiles first row before ∧ Tiles row past after := by
  induction before generalizing first with
  | nil => simp [Tiles]
  | cons span before ih =>
      simp only [List.cons_append, Tiles, ih, and_assoc, exists_and_left]

/-- A tiling on other rows. -/
theorem Tiles.move (tiles : Tiles first past spans) (shift : Nat) {move : Span → Span}
    (start : ∀ span ∈ spans, (move span).start = span.start + shift)
    (stop : ∀ span ∈ spans, (move span).stop = span.stop + shift) :
    Tiles (first + shift) (past + shift) (spans.map move) := by
  induction spans generalizing first with
  | nil => exact congrArg (· + shift) tiles
  | cons span spans ih =>
      obtain ⟨starts, nonempty, rest⟩ := tiles
      have here := start span List.mem_cons_self
      have there := stop span List.mem_cons_self
      refine ⟨by rw [here, starts], by omega, ?_⟩
      rw [there, Nat.add_right_comm]
      exact ih rest (fun other member => start other (List.mem_cons_of_mem _ member))
        fun other member => stop other (List.mem_cons_of_mem _ member)

/-- Whether two spans know the same about what they hold. -/
structure KnowsLike (a b : Span) : Prop where
  kind : a.kind = b.kind
  symbol : a.symbol = b.symbol
  parent : a.parent = b.parent
  annotations : a.annotations = b.annotations

end Span

namespace Text

/-- On every row that holds a line there is a character, if only the one that ends the line. -/
theorem exists_position_of_row {text : List Char} {row : Nat} (below : row < (lines text).length) :
    ∃ position < text.length, (text.take position).count '\n' = row := by
  have general : ∀ line, row < (linesFrom line text).length →
      (∃ position < text.length, (text.take position).count '\n' = row) ∨ row = 0 ∧ line ≠ [] := by
    clear below
    induction text generalizing row with
    | nil =>
        intro line below
        cases line with
        | nil => exact absurd below (Nat.not_lt_zero _)
        | cons c line => exact .inr ⟨by simpa [linesFrom] using below, List.cons_ne_nil _ _⟩
    | cons c text ih =>
        intro line below
        cases row with
        | zero => exact .inl ⟨0, Nat.zero_lt_succ _, rfl⟩
        | succ row =>
            unfold linesFrom at below
            split at below
            · rename_i newline
              subst newline
              obtain ⟨position, inside, count⟩ | ⟨-, some⟩ :=
                ih [] (Nat.lt_of_succ_lt_succ below)
              · refine .inl ⟨position + 1, Nat.succ_lt_succ inside, ?_⟩
                rw [List.take_succ_cons, List.count_cons_self, count]
              · exact absurd rfl some
            · rename_i other
              obtain ⟨position, inside, count⟩ | ⟨zero, -⟩ := ih (c :: line) below
              · refine .inl ⟨position + 1, Nat.succ_lt_succ inside, ?_⟩
                rw [List.take_succ_cons, List.count_cons_of_ne other, count]
              · cases zero
  exact (general [] below).resolve_right fun impossible => impossible.2 rfl

/-- A text that is not empty has lines. -/
theorem lines_ne_nil {text : List Char} (some : text ≠ []) : lines text ≠ [] := by
  have general : ∀ line, line ≠ [] ∨ text ≠ [] → linesFrom line text ≠ [] := by
    clear some
    induction text with
    | nil =>
        rintro (_ | ⟨c, line⟩) (some | some)
        · exact absurd rfl some
        · exact absurd rfl some
        · exact List.cons_ne_nil _ _
        · exact List.cons_ne_nil _ _
    | cons c text ih =>
        intro line _
        unfold linesFrom
        split
        · exact List.cons_ne_nil _ _
        · exact ih (c :: line) (.inl (List.cons_ne_nil _ _))
  exact general [] (.inr some)

end Text

namespace Component

/-! ## Rows of a script -/

variable {readScript : List Char → SyntaxTree} {text : List Char} {block : Block}

/-- The body of a script is its text behind the line feed that was taken off. -/
theorem body_eq (text : List Char) (block : Block) :
    (text.take block.bodyEnd).drop block.bodyStart =
      List.replicate (scriptText text block).2 '\n' ++ (scriptText text block).1 := by
  unfold scriptText
  split
  · rename_i rest same
    exact same
  · rfl

/-- **Rows of a script are rows of the document,** counted from the row on which its text begins. -/
theorem rowOf_script (text : List Char) (block : Block) {position : Nat}
    (inside : position ≤ (scriptText text block).1.length) :
    rowOf text (block.bodyStart + (scriptText text block).2 + position) =
      rowOf text block.bodyStart + (scriptText text block).2 +
        rowOf (scriptText text block).1 position := by
  let skipped := (scriptText text block).2
  let inner := (scriptText text block).1
  have body : (text.take block.bodyEnd).drop block.bodyStart =
      List.replicate skipped '\n' ++ inner := body_eq text block
  have within : skipped + position ≤ block.bodyEnd - block.bodyStart := by
    have := congrArg List.length body
    simp at this
    have : position ≤ inner.length := inside
    omega
  have front : (text.drop block.bodyStart).take (skipped + position) =
      List.replicate skipped '\n' ++ inner.take position := by
    have := congrArg (List.take (skipped + position)) body
    rw [List.drop_take, List.take_take, Nat.min_eq_left within] at this
    have cut : ((List.replicate skipped '\n') ++ inner).take
        ((List.replicate skipped '\n').length + position) = _ :=
      List.take_length_add_append position
    rw [List.length_replicate] at cut
    rw [this, cut]
  rw [Nat.add_assoc, rowOf_eq_add text (Nat.le_add_right block.bodyStart (skipped + position)),
    List.drop_take, Nat.add_sub_cancel_left, front, List.count_append,
    List.count_replicate_self, Nat.add_assoc]
  rfl

/-- Whether a span begins on that row of the document on which a row of a script stands: the row on
which a part of the script begins. -/
structure StandsOn (text : List Char) (block : Block) (part span : Span) : Prop where
  exists_position : ∃ position < (scriptText text block).1.length,
    rowOf (scriptText text block).1 position = part.start
  row_iff : ∀ position ≤ (scriptText text block).1.length,
    rowOf text (block.bodyStart + (scriptText text block).2 + position) = span.start ↔
      rowOf (scriptText text block).1 position = part.start

theorem standsOn_of_start {part span : Span}
    (below : part.start < (lines (scriptText text block).1).length)
    (start : span.start = part.start + (rowOf text block.bodyStart + (scriptText text block).2)) :
    StandsOn text block part span := by
  refine ⟨exists_position_of_row below, fun position inside => ?_⟩
  rw [rowOf_script text block inside]
  omega

/-! ## Spans of a script -/

/-- The parts of a script, moved to the rows of the document, and stretched to its end. -/
theorem tiles_moved {first past shift closeRow : Nat} {parts : List Span} {last : Span}
    (tiles : Span.Tiles first past (parts ++ [last])) (reach : past + shift ≤ closeRow + 1) :
    Span.Tiles (first + shift) (closeRow + 1) (moved shift closeRow parts last) := by
  obtain ⟨row, before, starts, nonempty, ends⟩ := Span.tiles_append.1 tiles
  have ends : last.stop + 1 = past := ends
  refine Span.tiles_append.2 ⟨row + shift, before.move shift (fun _ _ => rfl) fun part member => ?_,
    ?_, ?_, rfl⟩
  · have := before.bounds part member
    show min (part.stop + shift) closeRow = part.stop + shift
    omega
  · show last.start + shift = row + shift
    omega
  · show last.start + shift ≤ closeRow
    omega

/-- **A tiling of the rows of a body, moved and stretched over the tags,** is a tiling. -/
theorem tiles_stretch {past shift openRow closeRow : Nat} {parts : List Span}
    (tiles : Span.Tiles 0 past parts) (some : parts ≠ []) (above : openRow ≤ shift)
    (reach : past + shift ≤ closeRow + 1) :
    Span.Tiles openRow (closeRow + 1) (stretch shift openRow closeRow parts) := by
  obtain ⟨before, last, rfl⟩ := (List.eq_nil_or_concat parts).resolve_left some
  rw [List.concat_eq_append] at tiles ⊢
  rw [stretch_append_singleton]
  refine (tiles_moved tiles reach).startAt ?_ (by omega)
  simp [moved]

/-- The rows that the parts of a script tile end no later than its closing tag. -/
theorem length_lines_script_le (lies : block.LiesIn text) :
    (lines (scriptText text block).1).length - 1 +
        (rowOf text block.bodyStart + (scriptText text block).2) ≤
      rowOf text (block.closed - 1) := by
  have body := lies.body_le
  have reach : rowOf text block.bodyEnd ≤ rowOf text (block.closed - 1) :=
    rowOf_mono text (by have := lies.end_lt; omega)
  have inner := rowOf_scriptText text body
  have := length_lines_le (scriptText text block).1
  omega

/-- The one span of a script that is not split. -/
def wholeScript (text : List Char) (block : Block) : Span :=
  Span.rows (rowOf text block.opened) (rowOf text (block.closed - 1)) .script

/-- **What the spans of a script block are.** -/
structure IsScriptSplit (readScript : List Char → SyntaxTree) (text : List Char) (block : Block)
    (spans : List Span) : Prop where
  /-- They lie end to end, from the row of the opening tag to that of the closing tag. -/
  tiles : Span.Tiles (rowOf text block.opened) (rowOf text (block.closed - 1) + 1) spans
  /-- A small script is one piece. -/
  small : (scriptText text block).1.length ≤ Span.maxChunkChars → spans = [wholeScript text block]
  /-- The spans of a large script are the parts of its tree, on the rows of the document on which
  these stand; only the first one begins with the tag.  Without parts the script is one piece. -/
  large : Span.maxChunkChars < (scriptText text block).1.length →
    ∀ parts, parts = Declaration.splitTree Language.scriptTable
        (readScript (scriptText text block).1) ((lines (scriptText text block).1).length - 1) →
      parts = [] ∧ spans = [wholeScript text block] ∨
        List.Forall₂ Span.KnowsLike parts spans ∧
          List.Forall₂ (StandsOn text block) parts.tail spans.tail

/-- What is moved knows what it knew, and begins so many rows further down. -/
theorem forall₂_moved (shift closeRow : Nat) (parts : List Span) (last : Span) :
    List.Forall₂ (fun part span => span.start = part.start + shift ∧ part.KnowsLike span)
      (parts ++ [last]) (moved shift closeRow parts last) := by
  unfold moved
  refine List.rel_append ?_ (.cons ⟨rfl, rfl, rfl, rfl, rfl⟩ .nil)
  rw [List.forall₂_map_right_iff]
  exact List.forall₂_same.2 fun part _ => ⟨rfl, rfl, rfl, rfl, rfl⟩

/-- Parts that are stretched over the tags know what they knew, and all but the first one begin so
many rows further down. -/
theorem forall₂_stretch (shift openRow closeRow : Nat) (parts : List Span) :
    List.Forall₂ Span.KnowsLike parts (stretch shift openRow closeRow parts) ∧
      List.Forall₂ (fun part span => span.start = part.start + shift) parts.tail
        (stretch shift openRow closeRow parts).tail := by
  rcases List.eq_nil_or_concat parts with rfl | ⟨before, last, rfl⟩
  · exact ⟨.nil, .nil⟩
  · rw [List.concat_eq_append, stretch_append_singleton]
    generalize before ++ [last] = parts, moved shift closeRow before last = spans,
      forall₂_moved shift closeRow before last = alike
    cases alike with
    | nil => exact ⟨.nil, .nil⟩
    | cons first others =>
        refine ⟨.cons ⟨first.2.kind, first.2.symbol, first.2.parent, first.2.annotations⟩
          (others.imp fun _ _ both => both.2), others.imp fun _ _ both => both.1⟩

theorem tiles_rows {openRow closeRow : Nat} (le : openRow ≤ closeRow) (kind : ChunkKind) :
    Span.Tiles openRow (closeRow + 1) [Span.rows openRow closeRow kind] :=
  ⟨rfl, Nat.le_max_left _ _, congrArg (· + 1) (Nat.max_eq_right le)⟩

theorem openRow_le_closeRow (lies : block.LiesIn text) :
    rowOf text block.opened ≤ rowOf text (block.closed - 1) := by
  have opened := lies.opened_lt
  have body := lies.body_le
  have closed := lies.end_lt
  exact rowOf_mono text (by omega)

/-- **The spans of a script tile the rows of its block.** -/
theorem tiles_scriptSpans (readScript : List Char → SyntaxTree) (lies : block.LiesIn text) :
    Span.Tiles (rowOf text block.opened) (rowOf text (block.closed - 1) + 1)
      (scriptSpans readScript text block) := by
  have whole := tiles_rows (openRow_le_closeRow lies) .script
  rw [scriptSpans_eq]
  rcases tiles_scriptParts readScript text block with none | tiles
  · rwa [none]
  · split
    · exact whole
    · rename_i some
      have top : rowOf text block.opened ≤ rowOf text block.bodyStart :=
        rowOf_mono text (Nat.le_of_lt lies.opened_lt)
      have reach := length_lines_script_le lies
      exact tiles_stretch tiles (by simpa using some) (by omega) (by omega)

/-- What the spans of a script block are. -/
theorem isScriptSplit_scriptSpans (readScript : List Char → SyntaxTree)
    (lies : block.LiesIn text) :
    IsScriptSplit readScript text block (scriptSpans readScript text block) := by
  refine ⟨tiles_scriptSpans readScript lies, fun small => ?_, ?_⟩
  · have none : scriptParts readScript text block = [] := if_pos small
    rw [scriptSpans_eq, none]
    rfl
  · rintro large parts rfl
    have same : scriptParts readScript text block = _ := if_neg (Nat.not_le_of_lt large)
    rw [scriptSpans_eq, same]
    generalize Declaration.splitTree _ _ _ = parts at same
    by_cases none : parts = []
    · exact .inl ⟨none, by rw [none]; rfl⟩
    · rw [if_neg (by simpa using none)]
      obtain ⟨alike, moved⟩ := forall₂_stretch
        (rowOf text block.bodyStart + (scriptText text block).2) (rowOf text block.opened)
        (rowOf text (block.closed - 1)) parts
      refine .inr ⟨alike, ?_⟩
      have tiles := (tiles_scriptParts readScript text block).resolve_left (by rwa [same])
      rw [same] at tiles
      have some : lines (scriptText text block).1 ≠ [] :=
        lines_ne_nil (List.ne_nil_of_length_pos (Nat.lt_of_le_of_lt (Nat.zero_le _) large))
      have rows := List.length_pos_of_ne_nil some
      have below : ∀ part ∈ parts.tail, part.start < (lines (scriptText text block).1).length := by
        intro part member
        have := tiles.bounds part (List.mem_of_mem_tail member)
        omega
      exact ((List.forall₂_and_left _ _).2 ⟨below, moved⟩).imp fun part span both =>
        standsOn_of_start both.1 both.2

/-! ## Spans of a component -/

/-- **What the spans of a block are,** by its kind. -/
def IsSplit (readScript : List Char → SyntaxTree) (text : List Char) (block : Block)
    (spans : List Span) : Prop :=
  match block.kind with
  | .template => ∃ span, spans = [span] ∧ span.kind = .template ∧
      span.start = rowOf text block.opened ∧ span.stop = rowOf text (block.closed - 1)
  | .script => IsScriptSplit readScript text block spans
  | .style => spans = []

/-- Whether the rows of a span are rows of a block, and of one that is no style. -/
def InBlock (text : List Char) (span : Span) : Prop :=
  ∃ block ∈ blocks text, block.kind ≠ .style ∧ rowOf text block.opened ≤ span.start ∧
    span.start ≤ span.stop ∧ span.stop ≤ rowOf text (block.closed - 1)

theorem isSplit_spansOf (readScript : List Char → SyntaxTree) (lies : block.LiesIn text) :
    IsSplit readScript text block (spansOf readScript text block) := by
  unfold IsSplit spansOf
  cases block.kind with
  | template => exact ⟨_, rfl, rfl, rfl, Nat.max_eq_right (openRow_le_closeRow lies)⟩
  | script => exact isScriptSplit_scriptSpans readScript lies
  | style => rfl

theorem inBlock_of_mem_split {span : Span} (member : span ∈ split readScript text) :
    InBlock text span := by
  obtain ⟨block, listed, member⟩ := List.mem_flatMap.1 member
  have lies := liesIn_of_mem_blocks listed
  have rows := openRow_le_closeRow lies
  unfold spansOf at member
  split at member
  · rename_i kind
    obtain rfl := List.mem_singleton.1 member
    have bounds := (tiles_rows rows .template).bounds _ List.mem_cons_self
    exact ⟨block, listed, by rw [kind]; decide, bounds.1, bounds.2.1, Nat.le_of_lt_succ bounds.2.2⟩
  · rename_i kind
    have bounds := (tiles_scriptSpans readScript lies).bounds _ member
    exact ⟨block, listed, by rw [kind]; decide, bounds.1, bounds.2.1, Nat.le_of_lt_succ bounds.2.2⟩
  · cases member

/-- The row of a closing tag is a row of the document. -/
theorem closeRow_lt (lies : block.LiesIn text) :
    rowOf text (block.closed - 1) < (lines text).length := by
  obtain ⟨line, there, -⟩ := exists_line_of_bracket lies.closes (by decide)
  exact (List.getElem?_eq_some_iff.1 there).1

theorem stop_lt_of_mem_split {span : Span} (member : span ∈ split readScript text) :
    span.stop < (lines text).length := by
  obtain ⟨block, listed, -, -, -, stop⟩ := inBlock_of_mem_split member
  exact Nat.lt_of_le_of_lt stop (closeRow_lt (liesIn_of_mem_blocks listed))

/-- **Spans of a component stay in their blocks,** whatever tree is read from a script: every block
has its own, on its rows, and these are all.  So every chunk lies in a template or in a script,
unless the component is not split and is one chunk. -/
theorem split_blockwise (read : SyntaxReader) (content path : String)
    (component : Language.ofPath? path = some .vue) :
    (∃ pieces, split (read .typescript) content.toList = pieces.flatten ∧
        List.Forall₂ (IsSplit (read .typescript) content.toList) (blocks content.toList) pieces) ∧
      (∀ span ∈ split (read .typescript) content.toList, InBlock content.toList span) ∧
      ∀ chunk ∈ chunkFile read content path, InBlock content.toList chunk.span ∨
        chunk.kind = .file ∧ (content.toList.length ≤ Span.maxChunkChars ∨
          split (read .typescript) content.toList = []) := by
  refine ⟨⟨(blocks content.toList).map (spansOf (read .typescript) content.toList), ?_, ?_⟩,
    fun span => inBlock_of_mem_split, fun chunk member => ?_⟩
  · rw [split, List.flatMap_def]
  · rw [List.forall₂_map_right_iff]
    exact List.forall₂_same.2 fun block listed =>
      isSplit_spansOf _ (liesIn_of_mem_blocks listed)
  · have notBlank : ¬isBlankString content := by
      intro blank
      rw [chunkFile_eq_nil_of_blank read path blank] at member
      cases member
    rcases spansOf_cases read .vue content.toList (lines content.toList) with
      ⟨why, whole⟩ | ⟨-, parts⟩
    · have said := List.mem_map_of_mem (f := fun chunk => (chunk.startLine, chunk.kind)) member
      rw [map_chunkFile read component notBlank, whole] at said
      obtain ⟨span, kept, same⟩ := List.mem_map.1 said
      obtain rfl := List.mem_singleton.1 (List.mem_filter.1 kept).1
      exact .inr ⟨(Prod.mk.inj same).2.symm, why⟩
    · unfold isBlankString at notBlank
      have assembled : chunkFile read content path =
          assemble path .vue (lines content.toList) (split (read .typescript) content.toList) := by
        simp [chunkFile, component, notBlank, parts, splitSpans]
      rw [assembled] at member
      obtain ⟨span, listed, same, -⟩ := mem_assemble (fun _ => stop_lt_of_mem_split) member
      exact .inl (same ▸ inBlock_of_mem_split listed)

/-- A component of seven rows, with an opening tag on two of them. -/
def card : String :=
  "<template>\n  <p>é</p>\n</template>\n<script\n  setup>\nlet a = 1\n</script><style>p</style>"

theorem split_blockwise_card :
    Language.ofPath? "Card.vue" = some .vue ∧
      (split (fun _ => strayTree) card.toList).map
          (fun span => (span.start, span.stop, span.kind)) =
        [(0, 2, .template), (3, 6, .script)] ∧
      (∃ pieces, split (fun _ => strayTree) card.toList = pieces.flatten ∧
        List.Forall₂ (IsSplit (fun _ => strayTree) card.toList) (blocks card.toList) pieces) ∧
      (∀ span ∈ split (fun _ => strayTree) card.toList, InBlock card.toList span) ∧
      ∀ chunk ∈ chunkFile (fun _ _ => strayTree) card "Card.vue", InBlock card.toList chunk.span ∨
        chunk.kind = .file ∧ (card.toList.length ≤ Span.maxChunkChars ∨
          split (fun _ => strayTree) card.toList = []) :=
  ⟨by decide, by decide +kernel, split_blockwise (fun _ _ => strayTree) card "Card.vue" (by decide)⟩

end Component

end CodeIndex
