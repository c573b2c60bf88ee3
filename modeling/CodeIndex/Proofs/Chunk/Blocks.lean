import CodeIndex.Proofs.Chunk.Coverage
import Mathlib.Data.List.Pairwise

/-!
# Blocks of a component

A component is the one kind of file whose spans are no partition: each block is split on its own,
and the spans of all blocks are put one behind the other.  This module says where the spans of a
block lie.  A block `LiesIn` a text with its opening tag at one end and its closing tag at the
other, and blocks follow each other in the text (`FollowFrom`).  Seen by rows, the spans of a
block make a `RowSplit`: they begin on ascending rows between the rows of the two tags, the first
one on the row of the opening tag, and the last one reaches the row of the closing tag.

Neither the first nor the last of them can be blank, since they hold the ends of the two tags.  That
is why rows decide about chunks here, where blank spans are left out: `filled_head` and
`filled_last`.

## Main statements

* `Component.followFrom_blocks`: blocks lie in the text, one behind the other.
* `Component.rowSplit_spansOf`: where the spans of a block begin and end.
* `Component.filled_head`, `Component.filled_last`: ends of a block are no white space.
-/

namespace CodeIndex

open CodeIndex.Text

/-! ## Characters and the lines they stand on -/

namespace Text

/-- The line under way comes first, and is not blank if it was not. -/
theorem head_linesFrom {line : List Char} (notBlank : ¬isBlankText line) (text : List Char) :
    ∃ first, (linesFrom line text)[0]? = some first ∧ ¬isBlankText first := by
  induction text generalizing line with
  | nil =>
      cases line with
      | nil => exact absurd rfl notBlank
      | cons c line => exact ⟨(c :: line).reverse, rfl, by rwa [isBlankText_reverse]⟩
  | cons c text ih =>
      unfold linesFrom
      split
      · refine ⟨_, rfl, ?_⟩
        rwa [isBlankText_reverse, isBlankText_dropReturn]
      · refine ih fun blank => notBlank ?_
        rw [isBlankText, List.all_cons, Bool.and_eq_true] at blank
        exact blank.2

/-- The line with a character that is no white space is not blank.  Lines are counted by line
feeds. -/
theorem exists_line_of_char {text : List Char} {position : Nat} {c : Char}
    (found : text[position]? = some c) (notBlank : isBlank c = false) (line : List Char) :
    ∃ holder, (linesFrom line text)[(text.take position).count '\n']? = some holder ∧
      ¬isBlankText holder := by
  induction text generalizing position line with
  | nil => cases found
  | cons d text ih =>
      cases position with
      | zero =>
          obtain rfl : d = c := by simpa using found
          have noNewline : d ≠ '\n' := by
            rintro rfl
            exact absurd notBlank (by decide)
          unfold linesFrom
          rw [if_neg noNewline]
          refine head_linesFrom (fun blank => ?_) text
          rw [isBlankText, List.all_cons, notBlank] at blank
          cases blank
      | succ position =>
          rw [List.getElem?_cons_succ] at found
          unfold linesFrom
          by_cases newline : d = '\n'
          · subst newline
            rw [if_pos rfl, List.take_succ_cons, List.count_cons_self, List.getElem?_cons_succ]
            exact ih found []
          · rw [if_neg newline, List.take_succ_cons, List.count_cons_of_ne newline]
            exact ih found (d :: line)

/-- A text has at most one line more than line feeds. -/
theorem length_lines_le (text : List Char) : (lines text).length ≤ text.count '\n' + 1 := by
  have general : ∀ line, (linesFrom line text).length ≤ text.count '\n' + 1 := by
    induction text with
    | nil =>
        intro line
        cases line <;> simp [linesFrom]
    | cons c text ih =>
        intro line
        unfold linesFrom
        split
        · rename_i newline
          subst newline
          rw [List.length_cons, List.count_cons_self]
          exact Nat.succ_le_succ (ih [])
        · rename_i other
          rw [List.count_cons_of_ne other]
          exact ih (c :: line)
  exact general []

theorem exists_of_startsWith {start text : List Char} (starts : startsWith start text = true) :
    ∃ rest, text = start ++ rest := by
  obtain ⟨rest, same⟩ := List.isPrefixOf_iff_prefix.1 starts
  exact ⟨rest, same.symm⟩

end Text

/-- Whether a span is not blank, and so becomes a chunk. -/
def isFilled (textLines : List (List Char)) (span : Span) : Bool :=
  !isBlankText (spanText textLines span)

/-- A span with a line that is not blank is filled. -/
theorem isFilled_of_line {textLines : List (List Char)} {span : Span} {row : Nat}
    {line : List Char} (there : textLines[row]? = some line) (notBlank : ¬isBlankText line)
    (lower : span.start ≤ row) (upper : row ≤ span.stop) : isFilled textLines span = true := by
  obtain ⟨below, rfl⟩ := List.getElem?_eq_some_iff.1 there
  rw [isFilled, Bool.not_eq_true', Bool.eq_false_iff, spanText, isBlankText_joinWith_newline]
  intro blank
  refine notBlank (List.all_eq_true.1 blank _ ?_)
  refine List.mem_iff_getElem?.2 ⟨row - span.start, ?_⟩
  have inside : row - span.start < min span.stop (textLines.length - 1) + 1 - span.start := by
    omega
  rw [List.getElem?_take_of_lt inside, List.getElem?_drop, Nat.add_sub_cancel' lower]
  exact there

/-- What chunks say about lines and kinds is what filled spans say. -/
theorem map_assemble (path : String) (language : Language) (textLines : List (List Char))
    (spans : List Span) :
    (assemble path language textLines spans).map (fun chunk => (chunk.startLine, chunk.kind)) =
      (spans.filter (isFilled textLines)).map fun span => (span.start + 1, span.kind) := by
  have kept : (filledSpans textLines spans).map (·.1) = spans.filter (isFilled textLines) := by
    rw [filledSpans, List.filter_map, List.map_map]
    exact List.map_id _
  rw [← kept, ← List.zipIdx_map_fst 0 (filledSpans textLines spans), List.map_map, List.map_map,
    assemble, List.map_map]
  rfl

namespace Component

/-! ## Where blocks lie -/

/-- **Whether a block lies in a text,** from an opening tag to the end of a closing one. -/
structure Block.LiesIn (block : Block) (text : List Char) : Prop where
  opened_lt : block.opened < block.bodyStart
  body_le : block.bodyStart ≤ block.bodyEnd
  end_lt : block.bodyEnd < block.closed
  opens : text[block.opened]? = some '<'
  closes : text[block.closed - 1]? = some '>'

theorem here_of_distance {here : List Char → Bool} {text : List Char} {size : Nat}
    (found : distance? here text = some size) : here (text.drop size) = true := by
  induction text generalizing size with
  | nil =>
      unfold distance? at found
      split at found
      · cases found
        assumption
      · cases found
  | cons c text ih =>
      unfold distance? at found
      split at found
      · cases found
        assumption
      · obtain ⟨size, further, rfl⟩ := Option.map_eq_some_iff.1 found
        exact ih further

/-- The end of a template is a closing tag, however deep templates are nested. -/
theorem closing_of_templateEnd {depth : Nat} {text : List Char} {size : Nat}
    (found : templateEnd? depth text = some size) :
    startsWith BlockKind.template.closing (text.drop size) = true := by
  induction text generalizing depth size with
  | nil => cases found
  | cons c text ih =>
      unfold templateEnd? at found
      split at found
      · obtain ⟨size, further, rfl⟩ := Option.map_eq_some_iff.1 found
        exact ih further
      · split at found
        · rename_i closes
          cases depth with
          | zero =>
              cases found
              exact closes
          | succ depth =>
              obtain ⟨size, further, rfl⟩ := Option.map_eq_some_iff.1 found
              exact ih further
        · obtain ⟨size, further, rfl⟩ := Option.map_eq_some_iff.1 found
          exact ih further

theorem closing_of_bodyEnd {kind : BlockKind} {body : List Char} {size : Nat}
    (found : bodyEnd? kind body = some size) :
    startsWith kind.closing (body.drop size) = true := by
  cases kind with
  | template => exact closing_of_templateEnd found
  | script => exact here_of_distance found
  | style => exact here_of_distance found

theorem head_of_opensHere {kind : BlockKind} {text : List Char} (opens : opensHere kind text) :
    text[0]? = some '<' := by
  unfold opensHere BlockKind.opening at opens
  cases text with
  | nil => cases opens
  | cons c text =>
      by_cases bracket : '<' = c
      · rw [← bracket]
        rfl
      · simp [stripStart?, bracket] at opens

/-- A block that is found at a position begins there and lies in the text. -/
theorem liesIn_of_block {kind : BlockKind} {text : List Char} {offset : Nat} {block : Block}
    (opens : opensHere kind (text.drop offset))
    (found : block? kind offset (text.drop offset) = some block) :
    block.opened = offset ∧ block.LiesIn text := by
  unfold block? at found
  simp only [Option.bind_eq_bind, Option.bind_eq_some_iff, Option.pure_def,
    Option.some.injEq] at found
  obtain ⟨tagEnd, -, size, ends, rfl⟩ := found
  obtain ⟨rest, closing⟩ := exists_of_startsWith (closing_of_bodyEnd ends)
  have long : 0 < kind.closing.length := by
    cases kind <;> decide
  refine ⟨rfl, ?_, Nat.le_add_right _ _, ?_, ?_, ?_⟩
  · dsimp only
    omega
  · dsimp only
    omega
  · have head := head_of_opensHere opens
    rwa [List.getElem?_drop, Nat.add_zero] at head
  · -- the last character of the closing tag
    rw [List.drop_drop, List.drop_drop] at closing
    have last : kind.closing[kind.closing.length - 1]? = some '>' := by
      cases kind <;> decide
    have place : offset + tagEnd + 1 + size + kind.closing.length - 1 =
        offset + (tagEnd + 1 + size) + (kind.closing.length - 1) := by omega
    dsimp only
    rw [place, ← List.getElem?_drop, closing, List.getElem?_append_left (by omega)]
    exact last

/-- **Whether blocks lie in a text from some position on,** one behind the other. -/
structure FollowFrom (text : List Char) (position : Nat) (blocks : List Block) : Prop where
  lies : ∀ block ∈ blocks, position ≤ block.opened ∧ block.LiesIn text
  ordered : blocks.Pairwise fun a b => a.closed ≤ b.opened

namespace FollowFrom

variable {text : List Char} {position : Nat} {block : Block} {blocks : List Block}

theorem nil (text : List Char) (position : Nat) : FollowFrom text position [] :=
  ⟨fun _ member => absurd member List.not_mem_nil, .nil⟩

theorem of_le (follow : FollowFrom text position blocks) {position' : Nat}
    (le : position' ≤ position) : FollowFrom text position' blocks :=
  ⟨fun block member => ⟨Nat.le_trans le (follow.lies block member).1,
    (follow.lies block member).2⟩, follow.ordered⟩

theorem cons (lies : block.LiesIn text) (behind : FollowFrom text block.closed blocks) :
    FollowFrom text block.opened (block :: blocks) := by
  have opened := lies.opened_lt
  have body := lies.body_le
  have closed := lies.end_lt
  constructor
  · intro other member
    rcases List.mem_cons.1 member with rfl | later
    · exact ⟨Nat.le_refl _, lies⟩
    · exact (behind.of_le (by omega)).lies other later
  · rw [List.pairwise_cons]
    exact ⟨fun other member => (behind.lies other member).1, behind.ordered⟩

end FollowFrom

/-- Blocks follow behind what is skipped. -/
theorem followFrom_blocksFrom {text rest : List Char} {offset skip : Nat}
    (suffix : rest = text.drop offset) :
    FollowFrom text (offset + skip) (blocksFrom offset skip rest) := by
  induction rest generalizing offset skip with
  | nil => exact .nil text _
  | cons c rest ih =>
      have further : rest = text.drop (offset + 1) := by
        rw [← List.drop_drop, ← suffix, List.drop_one, List.tail_cons]
      unfold blocksFrom
      cases skip with
      | succ skip => exact (ih further).of_le (by omega)
      | zero =>
          dsimp only
          split
          · exact (ih further).of_le (by omega)
          · rename_i kind opens
            split
            · exact .nil text _
            · rename_i block found
              rw [suffix] at opens found
              obtain ⟨rfl, lies⟩ := liesIn_of_block (by simpa using List.find?_some opens) found
              have opened := lies.opened_lt
              have body := lies.body_le
              have closed := lies.end_lt
              exact .cons lies ((ih further).of_le (by omega))

theorem followFrom_blocks (text : List Char) : FollowFrom text 0 (blocks text) := by
  have whole : FollowFrom text (0 + 0) (blocksFrom 0 0 text) := followFrom_blocksFrom rfl
  exact whole

/-- Blocks follow each other in the text. -/
theorem blocks_ordered (text : List Char) :
    (blocks text).Pairwise fun a b => a.closed ≤ b.opened :=
  (followFrom_blocks text).ordered

theorem liesIn_of_mem_blocks {text : List Char} {block : Block} (member : block ∈ blocks text) :
    block.LiesIn text :=
  ((followFrom_blocks text).lies block member).2

/-! ## Rows of a block -/

variable {text : List Char} {block : Block}

theorem rowOf_mono (text : List Char) {a b : Nat} (le : a ≤ b) : rowOf text a ≤ rowOf text b :=
  (List.take_prefix_take_left le).sublist.count_le _

/-- The rows of a piece are the line feeds in it. -/
theorem rowOf_eq_add (text : List Char) {a b : Nat} (le : a ≤ b) :
    rowOf text b = rowOf text a + ((text.take b).drop a).count '\n' := by
  have front : (text.take b).take a = text.take a := by
    rw [List.take_take, Nat.min_eq_left le]
  unfold rowOf
  rw [← front, ← List.count_append, List.take_append_drop]

/-- **Where the spans of a block begin and end,** if its tags stand on rows `openRow` and
`closeRow`. -/
structure RowSplit (openRow closeRow : Nat) (spans : List Span) : Prop where
  ascending : spans.Pairwise fun a b => a.start < b.start
  inside : ∀ span ∈ spans, openRow ≤ span.start ∧ span.start ≤ closeRow
  head : ∀ first ∈ spans.head?, first.start = openRow ∧ openRow ≤ first.stop
  last : ∀ last ∈ spans.getLast?, last.stop = closeRow

theorem rowSplit_rows {openRow closeRow : Nat} (le : openRow ≤ closeRow) (kind : ChunkKind) :
    RowSplit openRow closeRow [Span.rows openRow closeRow kind] := by
  have stop : max openRow closeRow = closeRow := Nat.max_eq_right le
  refine ⟨List.pairwise_singleton .., ?_, ?_, ?_⟩
  · simp [Span.rows, le]
  · simp [Span.rows, le]
  · simp [Span.rows, stop]

theorem RowSplit.start_le_last {openRow closeRow : Nat} {spans : List Span}
    (split : RowSplit openRow closeRow spans) {last : Span} (ends : last ∈ spans.getLast?) :
    ∀ span ∈ spans, span.start ≤ last.start := by
  obtain ⟨before, rfl⟩ := List.getLast?_eq_some_iff.1 ends
  intro span member
  rcases List.mem_append.1 member with member | member
  · exact Nat.le_of_lt
      ((List.pairwise_append.1 split.ascending).2.2 span member last List.mem_cons_self)
  · exact Nat.le_of_eq (congrArg _ (List.mem_singleton.1 member))

/-- Spans that begin on ascending rows inside a block, the first one moved to its top. -/
theorem rowSplit_startAt {openRow closeRow : Nat} {spans : List Span}
    (ascending : spans.Pairwise fun a b => a.start < b.start)
    (inside : ∀ span ∈ spans, openRow ≤ span.start ∧ span.start ≤ closeRow)
    (nonempty : ∀ span ∈ spans, span.start ≤ span.stop)
    (last : ∀ last ∈ spans.getLast?, last.stop = closeRow) :
    RowSplit openRow closeRow (Span.startAt openRow spans) := by
  cases spans with
  | nil => exact ⟨.nil, by simp [Span.startAt], by simp [Span.startAt], by simp [Span.startAt]⟩
  | cons span spans =>
      obtain ⟨before, rest⟩ := List.pairwise_cons.1 ascending
      have place := inside span List.mem_cons_self
      have reaches := nonempty span List.mem_cons_self
      unfold Span.startAt
      refine ⟨List.pairwise_cons.2 ⟨fun other member => ?_, rest⟩, fun other member => ?_,
        fun first isFirst => ?_, fun final isLast => ?_⟩
      · exact Nat.lt_of_le_of_lt place.1 (before other member)
      · rcases List.mem_cons.1 member with rfl | member
        · exact ⟨Nat.le_refl _, Nat.le_trans place.1 place.2⟩
        · exact inside other (List.mem_cons_of_mem _ member)
      · obtain rfl : _ = first := by simpa using isFirst
        exact ⟨rfl, Nat.le_trans place.1 reaches⟩
      · cases spans with
        | nil =>
            obtain rfl : _ = final := by simpa using isLast
            exact last span (by simp)
        | cons next spans =>
            rw [List.getLast?_cons_cons] at isLast
            exact last final (by rwa [List.getLast?_cons_cons])

/-- The parts of a script, the last one named apart, moved to the rows of their block and reaching
its end. -/
def moved (shift closeRow : Nat) (parts : List Span) (last : Span) : List Span :=
  (parts.map fun part =>
    { part with start := part.start + shift, stop := min (part.stop + shift) closeRow }) ++
    [{ last with start := last.start + shift, stop := closeRow }]

theorem stretch_append_singleton (shift openRow closeRow : Nat) (parts : List Span) (last : Span) :
    stretch shift openRow closeRow (parts ++ [last]) =
      Span.startAt openRow (moved shift closeRow parts last) := by
  unfold stretch moved
  simp

theorem map_start_moved (shift closeRow : Nat) (parts : List Span) (last : Span) :
    (moved shift closeRow parts last).map (·.start) =
      (parts ++ [last]).map (·.start + shift) := by
  simp [moved]

/-- A moved span is a part on other rows, cut where the block ends or reaching there. -/
theorem exists_part_of_mem_moved {shift closeRow : Nat} {parts : List Span} {last span : Span}
    (member : span ∈ moved shift closeRow parts last) :
    ∃ part ∈ parts ++ [last], span.start = part.start + shift ∧
      (span.stop = min (part.stop + shift) closeRow ∨ span.stop = closeRow) := by
  rcases List.mem_append.1 member with member | member
  · obtain ⟨part, listed, rfl⟩ := List.mem_map.1 member
    exact ⟨part, List.mem_append_left _ listed, rfl, .inl rfl⟩
  · obtain rfl := List.mem_singleton.1 member
    exact ⟨last, List.mem_append_right _ List.mem_cons_self, rfl, .inr rfl⟩

/-- **A tiling of the inner rows of a block, stretched over its tags,** begins and ends there. -/
theorem rowSplit_stretch {shift openRow closeRow past : Nat} {parts : List Span}
    (tiles : Span.Tiles 0 past parts) (above : openRow ≤ shift)
    (below : ∀ part ∈ parts, part.start + shift ≤ closeRow) :
    RowSplit openRow closeRow (stretch shift openRow closeRow parts) := by
  rcases List.eq_nil_or_concat parts with rfl | ⟨before, last, rfl⟩
  · exact ⟨.nil, by simp [stretch], by simp [stretch], by simp [stretch]⟩
  · rw [List.concat_eq_append] at tiles below ⊢
    rw [stretch_append_singleton]
    refine rowSplit_startAt ?_ (fun span member => ?_) (fun span member => ?_) ?_
    · rw [← List.pairwise_map, map_start_moved, List.pairwise_map]
      exact tiles.partitions.ascending.imp fun lt => Nat.add_lt_add_right lt shift
    · obtain ⟨part, listed, start, -⟩ := exists_part_of_mem_moved member
      have := below part listed
      omega
    · obtain ⟨part, listed, start, stop⟩ := exists_part_of_mem_moved member
      have := below part listed
      have := tiles.partitions.start_le_stop part listed
      omega
    · simp [moved]

/-! ## Scripts -/

/-- The text of a script without the line feed behind its opening tag, and the number of line feeds
that were taken off. -/
def scriptText (text : List Char) (block : Block) : List Char × Nat :=
  match (text.take block.bodyEnd).drop block.bodyStart with
  | '\n' :: rest => (rest, 1)
  | inner => (inner, 0)

/-- The spans of a large script on its own; none if it is small or holds no declaration. -/
def scriptParts (readScript : List Char → SyntaxTree) (text : List Char) (block : Block) :
    List Span :=
  let inner := (scriptText text block).1
  if inner.length ≤ Span.maxChunkChars then []
  else Declaration.splitTree Language.scriptTable (readScript inner) ((lines inner).length - 1)

theorem scriptSpans_eq (readScript : List Char → SyntaxTree) (text : List Char) (block : Block) :
    scriptSpans readScript text block =
      if (scriptParts readScript text block).isEmpty then
        [Span.rows (rowOf text block.opened) (rowOf text (block.closed - 1)) .script]
      else
        stretch (rowOf text block.bodyStart + (scriptText text block).2) (rowOf text block.opened)
          (rowOf text (block.closed - 1)) (scriptParts readScript text block) := rfl

/-- No line feed of a script is lost. -/
theorem rowOf_scriptText (text : List Char) (body : block.bodyStart ≤ block.bodyEnd) :
    rowOf text block.bodyEnd = rowOf text block.bodyStart + (scriptText text block).2 +
      (scriptText text block).1.count '\n' := by
  rw [rowOf_eq_add text body, Nat.add_assoc]
  congr 1
  unfold scriptText
  split
  · rename_i rest same
    rw [same, List.count_cons_self, Nat.add_comm]
  · simp

/-- The parts of a script tile rows that it has. -/
theorem tiles_scriptParts (readScript : List Char → SyntaxTree) (text : List Char)
    (block : Block) : scriptParts readScript text block = [] ∨
      Span.Tiles 0 ((lines (scriptText text block).1).length - 1 + 1)
        (scriptParts readScript text block) := by
  unfold scriptParts
  dsimp only
  split
  · exact .inl rfl
  · exact Declaration.tiles_splitTree _ _ _

/-- **Where the spans of a block begin and end.** -/
theorem rowSplit_spansOf (readScript : List Char → SyntaxTree) (lies : block.LiesIn text) :
    RowSplit (rowOf text block.opened) (rowOf text (block.closed - 1))
      (spansOf readScript text block) := by
  have opened := lies.opened_lt
  have body := lies.body_le
  have closed := lies.end_lt
  have rows : rowOf text block.opened ≤ rowOf text (block.closed - 1) :=
    rowOf_mono text (by omega)
  unfold spansOf
  split
  · exact rowSplit_rows rows _
  · rw [scriptSpans_eq]
    rcases tiles_scriptParts readScript text block with none | tiles
    · rw [none]
      exact rowSplit_rows rows _
    · split
      · exact rowSplit_rows rows _
      · have top : rowOf text block.opened ≤ rowOf text block.bodyStart :=
          rowOf_mono text (by omega)
        have reach : rowOf text block.bodyEnd ≤ rowOf text (block.closed - 1) :=
          rowOf_mono text (by omega)
        have inner := rowOf_scriptText text body
        refine rowSplit_stretch tiles (by omega) fun part member => ?_
        have := tiles.bounds part member
        have := length_lines_le (scriptText text block).1
        omega
  · exact ⟨.nil, by simp, by simp, by simp⟩

/-! ## Filled spans -/

/-- The row of the bracket of a tag holds more than white space. -/
theorem exists_line_of_bracket {position : Nat} {c : Char} (found : text[position]? = some c)
    (bracket : isBlank c = false) :
    ∃ line, (lines text)[rowOf text position]? = some line ∧ ¬isBlankText line :=
  exists_line_of_char found bracket []

/-- **The first span of a block is filled:** the opening tag stands in it. -/
theorem filled_head {readScript : List Char → SyntaxTree} (lies : block.LiesIn text) {first : Span}
    (isFirst : first ∈ (spansOf readScript text block).head?) :
    isFilled (lines text) first = true := by
  obtain ⟨start, stop⟩ := (rowSplit_spansOf readScript lies).head first isFirst
  obtain ⟨line, there, notBlank⟩ := exists_line_of_bracket lies.opens (by decide)
  exact isFilled_of_line there notBlank (Nat.le_of_eq start) stop

/-- **The last span of a block is filled:** the closing tag ends in it. -/
theorem filled_last {readScript : List Char → SyntaxTree} (lies : block.LiesIn text) {last : Span}
    (isLast : last ∈ (spansOf readScript text block).getLast?) :
    isFilled (lines text) last = true := by
  have split := rowSplit_spansOf readScript lies
  have stop := split.last last isLast
  have start := split.inside last (List.mem_of_getLast? isLast)
  obtain ⟨line, there, notBlank⟩ := exists_line_of_bracket lies.closes (by decide)
  exact isFilled_of_line there notBlank start.2 (Nat.le_of_eq stop.symm)

/-- The filled spans of a component, block by block. -/
theorem filter_split (readScript : List Char → SyntaxTree) (text : List Char)
    (keep : Span → Bool) :
    (split readScript text).filter keep =
      (blocks text).flatMap fun block => (spansOf readScript text block).filter keep :=
  List.filter_flatMap

end Component

end CodeIndex
