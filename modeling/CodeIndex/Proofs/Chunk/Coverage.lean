import CodeIndex.Chunk.File
import CodeIndex.Proofs.Chunk.Tiling

/-!
# Chunks cover their file

The chunks of a file are the spans of a partition of its lines, without those that hold white space
only.  The partition comes from `Span.Tiles`, for every language but one: a component is cut into
blocks, and what lies between blocks belongs to none of them.

Nothing is assumed of the reader of syntax.  A tree may place its nodes on rows that the file does
not have, in any order; `Span.tiles_normalize` does not look at where spans come from.

## Main statements

* `tiles_spansOf`: before text is attached, spans tile the file.
* `isBlankText_lines`: a text is blank if and only if its lines are.
* `chunkFile_isChunking`: what the chunks of a file are.
-/

namespace CodeIndex

open CodeIndex.Text

/-! ## Blank text, line by line -/

namespace Text

theorem isBlankText_append (a b : List Char) :
    isBlankText (a ++ b) = (isBlankText a && isBlankText b) := by
  simp [isBlankText]

@[simp] theorem isBlankText_reverse (text : List Char) :
    isBlankText text.reverse = isBlankText text := by
  simp [isBlankText]

/-- The carriage return that a line end takes away is white space. -/
theorem isBlankText_dropReturn (line : List Char) :
    isBlankText (dropReturn line) = isBlankText line := by
  unfold dropReturn
  split
  · have : isBlank '\r' = true := by decide
    simp [isBlankText, this]
  · rfl

/-- Lines are blank together with the text that they are the lines of, since line ends are white
space. -/
theorem all_isBlankText_linesFrom (line text : List Char) :
    (linesFrom line text).all isBlankText = (isBlankText line && isBlankText text) := by
  induction text generalizing line with
  | nil =>
      cases line with
      | nil => rfl
      | cons c line =>
          have none : isBlankText [] = true := rfl
          simp [linesFrom, none, ← isBlankText_reverse (c :: line)]
  | cons c text ih =>
      unfold linesFrom
      split
      · rename_i newline
        subst newline
        have blank : isBlank '\n' = true := by decide
        have none : isBlankText [] = true := rfl
        rw [List.all_cons, ih, isBlankText_reverse, isBlankText_dropReturn, none]
        simp [isBlankText, blank]
      · rw [ih]
        simp only [isBlankText, List.all_cons]
        rw [Bool.and_left_comm, Bool.and_assoc]

/-- **A text is blank if and only if all its lines are.** -/
theorem isBlankText_lines (text : List Char) :
    (lines text).all isBlankText = isBlankText text := by
  rw [lines, all_isBlankText_linesFrom]
  rfl

theorem isBlankText_joinWith_newline (pieces : List (List Char)) :
    isBlankText (joinWith ['\n'] pieces) = pieces.all isBlankText := by
  induction pieces with
  | nil => rfl
  | cons piece pieces ih =>
      have newline : isBlankText ['\n'] = true := by decide
      cases pieces with
      | nil => simp [joinWith]
      | cons next pieces =>
          have joined : joinWith ['\n'] (piece :: next :: pieces) =
              piece ++ ['\n'] ++ joinWith ['\n'] (next :: pieces) := rfl
          rw [joined, isBlankText_append, isBlankText_append, ih, newline, Bool.and_true]
          rfl

end Text

/-! ## Spans of a file -/

/-- **Before text is attached, spans tile the file,** for every language that is not cut into
blocks. -/
theorem tiles_spansOf (read : SyntaxReader) {language : Language} (notBlocks : language ≠ .vue)
    (text : List Char) {textLines : List (List Char)} (nonempty : textLines ≠ []) :
    Span.Tiles 0 textLines.length (spansOf read language text textLines) := by
  have file : textLines.length - 1 + 1 = textLines.length := by
    have := List.length_pos_of_ne_nil nonempty
    omega
  have split : splitSpans read language text textLines = [] ∨
      Span.Tiles 0 textLines.length (splitSpans read language text textLines) := by
    have trees := fun table tree =>
      Declaration.tiles_splitTree table tree (textLines.length - 1)
    rw [file] at trees
    -- all tree splitters end in `normalize`, whatever their tables of nodes are
    cases language with
    | sql => exact Statement.tiles_split textLines
    | markdown => exact Heading.tiles_split textLines
    | vue => exact absurd rfl notBlocks
    | java => exact trees _ _
    | typescript => exact trees _ _
    | javascript => exact trees _ _
    | python => exact trees _ _
    | rust => exact trees _ _
  have whole : Span.Tiles 0 textLines.length [Span.rows 0 (textLines.length - 1) .file] := by
    refine ⟨rfl, Nat.zero_le _, ?_⟩
    show max 0 (textLines.length - 1) + 1 = textLines.length
    omega
  unfold spansOf
  dsimp only
  by_cases small : text.length ≤ Span.maxChunkChars
  · simpa [small] using whole
  · rcases split with none | tiles
    · simpa [small, none] using whole
    · cases parts : splitSpans read language text textLines with
      | nil => simpa [small, parts] using whole
      | cons part parts' => simpa [small, parts] using parts ▸ tiles

/-! ## Chunks of a file -/

/-- The span that a chunk was made of. -/
def Chunk.span (chunk : Chunk) : Span where
  start := chunk.startLine - 1
  stop := chunk.endLine - 1
  kind := chunk.kind
  symbol := chunk.symbol
  parent := chunk.parent
  annotations := chunk.annotations

/-- Whether a line, counted from one, belongs to a chunk. -/
def Chunk.HasLine (chunk : Chunk) (line : Nat) : Prop :=
  chunk.startLine ≤ line ∧ line ≤ chunk.endLine

/-- **What the chunks of a file are,** given its lines and the spans that it was split into. -/
structure IsChunking (textLines : List (List Char)) (spans : List Span) (chunks : List Chunk) :
    Prop where
  /-- Before text is attached, the spans are a partition of the lines. -/
  partitions : Span.Partitions textLines.length spans
  /-- The chunks are the spans whose text is not blank, in order. -/
  spans_eq : chunks.map Chunk.span =
    spans.filter fun span => !((textLines.take (span.stop + 1)).drop span.start).all isBlankText
  nonempty : chunks ≠ []
  /-- Line ranges lie in the file, in order, and share no line. -/
  ordered : chunks.Pairwise fun a b => a.endLine < b.startLine
  inside : ∀ chunk ∈ chunks, 1 ≤ chunk.startLine ∧ chunk.startLine ≤ chunk.endLine ∧
    chunk.endLine ≤ textLines.length
  /-- The text of a chunk is its lines with line feeds between them. -/
  content_eq : ∀ chunk ∈ chunks, chunk.content.toList =
    joinWith ['\n'] ((textLines.take chunk.endLine).drop (chunk.startLine - 1))
  /-- A line of no chunk holds white space only. -/
  outside : ∀ row (below : row < textLines.length),
    (∀ chunk ∈ chunks, ¬chunk.HasLine (row + 1)) → isBlankText textLines[row]
  numbered : ∀ position (below : position < chunks.length),
    chunks[position].index = position ∧ chunks[position].total = chunks.length

section Assembly

variable {textLines : List (List Char)} {span : Span}

/-- A span inside the file is cut out of its lines as it stands. -/
theorem spanText_eq (inside : span.stop < textLines.length) :
    spanText textLines span =
      joinWith ['\n'] ((textLines.take (span.stop + 1)).drop span.start) := by
  have within : min span.stop (textLines.length - 1) = span.stop := by omega
  rw [spanText, within, List.drop_take]

theorem mem_assemble {path : String} {language : Language} {spans : List Span} {chunk : Chunk}
    (inside : ∀ span ∈ spans, span.stop < textLines.length)
    (member : chunk ∈ assemble path language textLines spans) :
    ∃ span ∈ spans, chunk.span = span ∧ chunk.startLine = span.start + 1 ∧
      chunk.endLine = span.stop + 1 ∧ chunk.content = String.ofList (spanText textLines span) := by
  obtain ⟨⟨⟨span, text⟩, index⟩, found, rfl⟩ := List.mem_map.1 member
  have filled := (List.mem_filter.1 (List.fst_mem_of_mem_zipIdx found)).1
  obtain ⟨other, listed, same⟩ := List.mem_map.1 filled
  obtain ⟨rfl, rfl⟩ := Prod.mk.inj same
  have within : min other.stop (textLines.length - 1) = other.stop := by
    have := inside other listed
    omega
  exact ⟨other, listed, by simp [Chunk.span, within], rfl, by simp [within], rfl⟩

/-- The spans of the chunks are those that are not blank. -/
theorem map_span_assemble (path : String) (language : Language) {spans : List Span}
    (inside : ∀ span ∈ spans, span.stop < textLines.length) :
    (assemble path language textLines spans).map Chunk.span =
      spans.filter fun span =>
        !((textLines.take (span.stop + 1)).drop span.start).all isBlankText := by
  have kept : (filledSpans textLines spans).map (·.1) =
      spans.filter fun span => !isBlankText (spanText textLines span) := by
    rw [filledSpans, List.filter_map, List.map_map]
    exact List.map_id _
  have blank : ∀ span ∈ spans, (!isBlankText (spanText textLines span)) =
      !((textLines.take (span.stop + 1)).drop span.start).all isBlankText := by
    intro span member
    rw [spanText_eq (inside span member), isBlankText_joinWith_newline]
  rw [← List.filter_congr blank, ← kept, ← List.zipIdx_map_fst 0 (filledSpans textLines spans),
    List.map_map, assemble, List.map_map]
  refine List.map_congr_left fun entry member => ?_
  obtain ⟨⟨span, text⟩, index⟩ := entry
  have filled := (List.mem_filter.1 (List.fst_mem_of_mem_zipIdx member)).1
  obtain ⟨other, listed, same⟩ := List.mem_map.1 filled
  obtain ⟨rfl, -⟩ := Prod.mk.inj same
  have within : min other.stop (textLines.length - 1) = other.stop := by
    have := inside other listed
    omega
  simp [Chunk.span, within]

theorem assemble_numbered (path : String) (language : Language) (spans : List Span)
    (position : Nat) (below : position < (assemble path language textLines spans).length) :
    (assemble path language textLines spans)[position].index = position ∧
      (assemble path language textLines spans)[position].total =
        (assemble path language textLines spans).length := by
  constructor <;> simp [assemble]

/-- A row that is not blank belongs to a chunk: the span around it is not blank either, so it was
kept. -/
theorem exists_hasLine_assemble (path : String) (language : Language) {spans : List Span}
    (tiles : Span.Tiles 0 textLines.length spans) {row : Nat} (below : row < textLines.length)
    (notBlankRow : ¬isBlankText textLines[row]) :
    ∃ chunk ∈ assemble path language textLines spans, chunk.HasLine (row + 1) := by
  have partitions := tiles.partitions
  obtain ⟨span, ⟨member, contains⟩, -⟩ := partitions.existsUnique row below
  have inside := partitions.stop_lt span member
  have kept : span ∈ (assemble path language textLines spans).map Chunk.span := by
    rw [map_span_assemble path language partitions.stop_lt, List.mem_filter]
    refine ⟨member, ?_⟩
    rw [Bool.not_eq_true', Bool.eq_false_iff]
    intro blank
    refine notBlankRow (List.all_eq_true.1 blank _ ?_)
    -- the row is one of the lines of its span
    have position : row - span.start < ((textLines.take (span.stop + 1)).drop
        span.start).length := by
      simp only [List.length_drop, List.length_take]
      unfold Span.Contains at contains
      omega
    refine List.mem_iff_getElem.2 ⟨row - span.start, position, ?_⟩
    have : span.start + (row - span.start) = row := Nat.add_sub_cancel' contains.1
    simp [this]
  obtain ⟨chunk, listed, same⟩ := List.mem_map.1 kept
  obtain ⟨other, -, same', start, stop, -⟩ := mem_assemble partitions.stop_lt listed
  obtain rfl : other = span := same'.symm.trans same
  unfold Span.Contains at contains
  exact ⟨chunk, listed, by unfold Chunk.HasLine; omega⟩

/-- Chunks assembled from a partition of a text that is not blank. -/
theorem isChunking_assemble (path : String) (language : Language) {spans : List Span}
    (tiles : Span.Tiles 0 textLines.length spans) (notBlank : ¬textLines.all isBlankText) :
    IsChunking textLines spans (assemble path language textLines spans) := by
  have partitions := tiles.partitions
  have places : ∀ chunk ∈ assemble path language textLines spans, ∃ span ∈ spans,
      chunk.span = span ∧ chunk.startLine = span.start + 1 ∧ chunk.endLine = span.stop + 1 ∧
        chunk.content = String.ofList (spanText textLines span) :=
    fun chunk => mem_assemble partitions.stop_lt
  have filtered := map_span_assemble path language partitions.stop_lt
  refine ⟨partitions, filtered, ?_, ?_, ?_, ?_, ?_, assemble_numbered path language spans⟩
  · obtain ⟨line, member, notBlankLine⟩ := by
      simpa only [List.all_eq_true, not_forall, exists_prop] using notBlank
    obtain ⟨row, below, rfl⟩ := List.mem_iff_getElem.1 member
    obtain ⟨chunk, listed, -⟩ := exists_hasLine_assemble path language tiles below notBlankLine
    exact List.ne_nil_of_mem listed
  · -- chunks keep the order of their spans
    have disjoint : ((assemble path language textLines spans).map Chunk.span).Pairwise
        fun a b => a.stop < b.start := filtered ▸ tiles.disjoint.sublist List.filter_sublist
    refine (List.pairwise_map.1 disjoint).imp_of_mem fun {a b} memberA memberB before => ?_
    obtain ⟨spanA, -, sameA, -, stopA, -⟩ := places a memberA
    obtain ⟨spanB, -, sameB, startB, -⟩ := places b memberB
    rw [sameA, sameB] at before
    omega
  · intro chunk member
    obtain ⟨span, listed, -, start, stop, -⟩ := places chunk member
    have := partitions.start_le_stop span listed
    have := partitions.stop_lt span listed
    omega
  · intro chunk member
    obtain ⟨span, listed, -, start, stop, content⟩ := places chunk member
    rw [content, String.toList_ofList, spanText_eq (partitions.stop_lt span listed), start, stop]
    rfl
  · intro row below outside
    by_contra notBlankRow
    obtain ⟨chunk, listed, hasLine⟩ :=
      exists_hasLine_assemble path language tiles below notBlankRow
    exact outside chunk listed hasLine

end Assembly

/-- A file that has chunks had them assembled. -/
theorem chunkFile_cases (read : SyntaxReader) (content path : String) :
    chunkFile read content path = [] ∨ ∃ language spans,
      Language.ofPath? path = some language ∧
        chunkFile read content path = assemble path language (lines content.toList) spans := by
  unfold chunkFile
  cases known : Language.ofPath? path with
  | none => exact .inl rfl
  | some language =>
      by_cases blank : isBlankText content.toList
      · exact .inl (by simp [blank])
      · refine .inr ⟨language, spansOf read language content.toList (lines content.toList), rfl, ?_⟩
        simp [blank]

/-- The chunks of a file carry its path. -/
theorem path_of_mem_chunkFile {read : SyntaxReader} {content path : String} {chunk : Chunk}
    (member : chunk ∈ chunkFile read content path) : chunk.path = path := by
  rcases chunkFile_cases read content path with none | ⟨language, spans, -, assembled⟩
  · rw [none] at member
    cases member
  · rw [assembled] at member
    obtain ⟨entry, -, rfl⟩ := List.mem_map.1 member
    rfl

/-- Chunks are numbered from zero and know how many they are, for every language. -/
theorem chunkFile_numbered (read : SyntaxReader) (content path : String) (position : Nat)
    (below : position < (chunkFile read content path).length) :
    (chunkFile read content path)[position].index = position ∧
      (chunkFile read content path)[position].total = (chunkFile read content path).length := by
  rcases chunkFile_cases read content path with none | ⟨language, spans, -, assembled⟩
  · simp [none] at below
  · simp only [assembled] at below ⊢
    exact assemble_numbered path language spans position below

theorem chunkFile_eq_nil_of_blank (read : SyntaxReader) {content : String} (path : String)
    (blank : isBlankString content) : chunkFile read content path = [] := by
  unfold isBlankString at blank
  unfold chunkFile
  split
  · rfl
  · simp [blank]

/-- The chunks of a file that is not blank, and no component. -/
theorem isChunking_chunkFile (read : SyntaxReader) {content path : String} {language : Language}
    (known : Language.ofPath? path = some language) (notBlocks : language ≠ .vue)
    (notBlank : ¬isBlankString content) :
    IsChunking (lines content.toList)
      (spansOf read language content.toList (lines content.toList))
      (chunkFile read content path) := by
  have notBlankLines : ¬(lines content.toList).all isBlankText := by
    rw [isBlankText_lines]
    exact notBlank
  have nonempty : lines content.toList ≠ [] := by
    intro empty
    rw [empty] at notBlankLines
    exact notBlankLines rfl
  unfold isBlankString at notBlank
  have chunks : chunkFile read content path =
      assemble path language (lines content.toList)
        (spansOf read language content.toList (lines content.toList)) := by
    simp [chunkFile, known, notBlank]
  rw [chunks]
  exact isChunking_assemble path language (tiles_spansOf read notBlocks _ nonempty) notBlankLines

/-- Chunks of a file that is no component begin one below the other. -/
theorem chunkFile_startLine_lt_of_ne (read : SyntaxReader) (content path : String)
    (notBlocks : Language.ofPath? path ≠ some .vue) :
    (chunkFile read content path).Pairwise fun a b => a.startLine < b.startLine := by
  cases known : Language.ofPath? path with
  | none => simp [chunkFile, known]
  | some language =>
      rw [known, ne_eq, Option.some.injEq] at notBlocks
      by_cases blank : isBlankString content
      · rw [chunkFile_eq_nil_of_blank read path blank]
        exact .nil
      · have chunking := isChunking_chunkFile read known notBlocks blank
        refine chunking.ordered.imp_of_mem fun {a b} member _ before => ?_
        exact Nat.lt_of_le_of_lt (chunking.inside a member).2.1 before

/-- So they begin on different lines. -/
theorem chunkFile_nodup_startLine (read : SyntaxReader) (content path : String)
    (notBlocks : Language.ofPath? path ≠ some .vue) :
    ((chunkFile read content path).map (·.startLine)).Nodup :=
  List.pairwise_map.2 ((chunkFile_startLine_lt_of_ne read content path notBlocks).imp Nat.ne_of_lt)

/-- **The chunks of a file are a partition of its lines without the blank parts,** whatever the
reader of syntax makes of the text.  A blank file has no chunks.  A component is left out, since
what lies between its blocks belongs to no chunk. -/
theorem chunkFile_isChunking (read : SyntaxReader) (content path : String) {language : Language}
    (known : Language.ofPath? path = some language) (notBlocks : language ≠ .vue) :
    (isBlankString content → chunkFile read content path = []) ∧
      (¬isBlankString content →
        IsChunking (lines content.toList)
          (spansOf read language content.toList (lines content.toList))
          (chunkFile read content path)) :=
  ⟨chunkFile_eq_nil_of_blank read path, isChunking_chunkFile read known notBlocks⟩

/-- A tree that fits no text of one line: its first declaration ends above its start, on rows that
are not there, and the second one covers everything. -/
def strayTree : SyntaxTree :=
  .node "program" none ⟨0, 0⟩ ⟨9, 0⟩ ""
    [.node "class_declaration" none ⟨7, 0⟩ ⟨2, 0⟩ "" [],
      .node "class_declaration" none ⟨0, 5⟩ ⟨9, 9⟩ "" []]

/-- A text of one line that is too large for one chunk, with a tree that does not fit it. -/
theorem chunkFile_isChunking_strayTree :
    Language.ofPath? "A.java" = some .java ∧ Language.java ≠ .vue ∧
      ¬isBlankString (String.ofList (List.replicate 3001 'a')) ∧
      IsChunking (lines (List.replicate 3001 'a'))
        (spansOf (fun _ _ => strayTree) .java (List.replicate 3001 'a')
          (lines (List.replicate 3001 'a')))
        (chunkFile (fun _ _ => strayTree) (String.ofList (List.replicate 3001 'a')) "A.java") := by
  have known : Language.ofPath? "A.java" = some .java := by decide
  have notBlank : ¬isBlankString (String.ofList (List.replicate 3001 'a')) := by
    rw [isBlankString, String.toList_ofList]
    decide
  have chunking := (chunkFile_isChunking (fun _ _ => strayTree)
    (String.ofList (List.replicate 3001 'a')) "A.java" known (by decide)).2 notBlank
  rw [String.toList_ofList] at chunking
  exact ⟨known, by decide, notBlank, chunking⟩

end CodeIndex
