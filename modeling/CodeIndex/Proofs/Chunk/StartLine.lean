import CodeIndex.Proofs.Chunk.Blocks

/-!
# Lines on which chunks begin

Chunks of a file come in the order of the lines on which they begin.  Of a file that is no
component, no two begin on one line.  A component is different: the pieces of one block begin on
different lines, but its last piece may begin on the line on which the next block opens, and then
two chunks of the file have one line.

`Component.PiecesAscend` says that this does not happen, and it is the exact condition
(`chunkFile_startLine_lt_iff`): the first and the last piece of a block are never blank, so that
none of the pieces that it speaks of can be missing among the chunks.

## Main statements

* `chunkFile_startLine_le`: chunks come in order.
* `chunkFile_startLine_lt_iff`: when they begin on different lines.
-/

namespace CodeIndex

open CodeIndex.Text

/-! ## Spans and chunks of a file -/

/-- What the chunks of a file say about lines and kinds. -/
theorem map_chunkFile (read : SyntaxReader) {content path : String} {language : Language}
    (known : Language.ofPath? path = some language) (notBlank : ¬isBlankString content) :
    (chunkFile read content path).map (fun chunk => (chunk.startLine, chunk.kind)) =
      ((spansOf read language content.toList (lines content.toList)).filter
        (isFilled (lines content.toList))).map fun span => (span.start + 1, span.kind) := by
  unfold isBlankString at notBlank
  rw [← map_assemble path language]
  simp [chunkFile, known, notBlank]

/-- The spans of a file are those of its language if it is large and can be split, and the whole
file else. -/
theorem spansOf_cases (read : SyntaxReader) (language : Language) (text : List Char)
    (textLines : List (List Char)) :
    ((text.length ≤ Span.maxChunkChars ∨ splitSpans read language text textLines = []) ∧
        spansOf read language text textLines = [Span.rows 0 (textLines.length - 1) .file]) ∨
      Span.maxChunkChars < text.length ∧
        spansOf read language text textLines = splitSpans read language text textLines := by
  unfold spansOf
  dsimp only
  by_cases small : text.length ≤ Span.maxChunkChars
  · exact .inl ⟨.inl small, by simp [small]⟩
  · cases parts : splitSpans read language text textLines with
    | nil => exact .inl ⟨.inr rfl, by simp [small]⟩
    | cons part parts' => exact .inr ⟨Nat.lt_of_not_le small, by simp [small]⟩

/-! ## Pieces of a component -/

namespace Component

variable {readScript : List Char → SyntaxTree} {text : List Char}

/-- **Whether the pieces of a component begin on ascending rows:** the last piece of a block above
the first pieces of all later blocks. -/
def PiecesAscend (readScript : List Char → SyntaxTree) (text : List Char) : Prop :=
  (blocks text).Pairwise fun a b =>
    ∀ last ∈ (spansOf readScript text a).getLast?, ∀ first ∈ (spansOf readScript text b).head?,
      last.start < first.start

instance (readScript : List Char → SyntaxTree) (text : List Char) :
    Decidable (PiecesAscend readScript text) :=
  inferInstanceAs (Decidable (List.Pairwise _ _))

/-- A text without a character that is no white space has no blocks. -/
theorem blocks_of_blank (blank : isBlankText text) : blocks text = [] := by
  rw [List.eq_nil_iff_forall_not_mem]
  intro block member
  obtain ⟨below, bracket⟩ := List.getElem?_eq_some_iff.1 (liesIn_of_mem_blocks member).opens
  have isBlank := List.all_eq_true.1 blank _ (List.getElem_mem below)
  rw [bracket] at isBlank
  exact absurd isBlank (by decide)

/-- A later block opens no higher than an earlier one closes. -/
theorem rows_ordered (text : List Char) : (blocks text).Pairwise fun a b =>
    rowOf text (a.closed - 1) ≤ rowOf text b.opened :=
  (blocks_ordered text).imp fun le => rowOf_mono text (by omega)

/-- Pieces come in order, those of one block and those of different blocks. -/
theorem split_start_le (readScript : List Char → SyntaxTree) (text : List Char) :
    (split readScript text).Pairwise fun a b => a.start ≤ b.start := by
  unfold split
  rw [List.pairwise_flatMap]
  refine ⟨fun block member => ?_,
    (rows_ordered text).imp_of_mem fun {a b} inA inB le x hx y hy => ?_⟩
  · exact (rowSplit_spansOf readScript (liesIn_of_mem_blocks member)).ascending.imp Nat.le_of_lt
  · have above := (rowSplit_spansOf readScript (liesIn_of_mem_blocks inA)).inside x hx
    have below := (rowSplit_spansOf readScript (liesIn_of_mem_blocks inB)).inside y hy
    omega

/-- **The filled pieces of a component begin on different rows** if and only if all its pieces
ascend. -/
theorem filled_start_lt_iff (readScript : List Char → SyntaxTree) (text : List Char) :
    ((split readScript text).filter (isFilled (lines text))).Pairwise
        (fun a b => a.start < b.start) ↔ PiecesAscend readScript text := by
  rw [filter_split, List.pairwise_flatMap]
  constructor
  · rintro ⟨-, between⟩
    refine between.imp_of_mem fun {a b} inA inB lt last isLast first isFirst => ?_
    -- neither piece is blank, so both are among the filled ones
    refine lt last (List.mem_filter.2 ⟨List.mem_of_getLast? isLast, ?_⟩) first
      (List.mem_filter.2 ⟨List.mem_of_head? isFirst, ?_⟩)
    · exact filled_last (liesIn_of_mem_blocks inA) isLast
    · exact filled_head (liesIn_of_mem_blocks inB) isFirst
  · intro ascend
    refine ⟨fun block member => ?_, List.Pairwise.imp_of_mem ?_ ascend⟩
    · exact (rowSplit_spansOf readScript (liesIn_of_mem_blocks member)).ascending.filter _
    · intro a b inA inB lt x hx y hy
      have splitA := rowSplit_spansOf readScript (liesIn_of_mem_blocks inA)
      have splitB := rowSplit_spansOf readScript (liesIn_of_mem_blocks inB)
      have hx := (List.mem_filter.1 hx).1
      have hy := (List.mem_filter.1 hy).1
      -- between `x` and `y` stand the last piece of `a` and the first one of `b`
      cases lastOfA : (spansOf readScript text a).getLast? with
      | none =>
          rw [List.getLast?_eq_none_iff.1 lastOfA] at hx
          cases hx
      | some last =>
          cases firstOfB : (spansOf readScript text b).head? with
          | none =>
              rw [List.head?_eq_none_iff.1 firstOfB] at hy
              cases hy
          | some first =>
              have := splitA.start_le_last lastOfA x hx
              have := lt last lastOfA first firstOfB
              have := (splitB.head first firstOfB).1
              have := (splitB.inside y hy).1
              omega

/-- A component that is not split has pieces that ascend. -/
theorem piecesAscend_of_split_eq_nil (none : split readScript text = []) :
    PiecesAscend readScript text := by
  rw [← filled_start_lt_iff, none]
  exact .nil

end Component

/-! ## Start lines of a file -/

/-- **When the chunks of a file begin on different lines:** always if it is no component, or a small
one, and for a large component if and only if its pieces ascend. -/
def StartLinesAscend (read : SyntaxReader) (content path : String) : Prop :=
  Language.ofPath? path = some .vue → Span.maxChunkChars < content.toList.length →
    Component.PiecesAscend (read .typescript) content.toList

/-- Start lines are ordered as the starts of filled spans are. -/
theorem pairwise_startLine_iff (read : SyntaxReader) {content path : String} {language : Language}
    (known : Language.ofPath? path = some language) (notBlank : ¬isBlankString content)
    (order : Nat → Nat → Prop) (shifted : ∀ a b, order (a + 1) (b + 1) ↔ order a b) :
    ((chunkFile read content path).Pairwise fun a b => order a.startLine b.startLine) ↔
      ((spansOf read language content.toList (lines content.toList)).filter
        (isFilled (lines content.toList))).Pairwise fun a b => order a.start b.start := by
  have said := congrArg (List.map Prod.fst) (map_chunkFile read known notBlank)
  rw [List.map_map, List.map_map] at said
  have lines : (chunkFile read content path).Pairwise
      (fun a b => order a.startLine b.startLine) ↔
        ((chunkFile read content path).map (·.startLine)).Pairwise order := List.pairwise_map.symm
  rw [lines]
  show (List.map (Prod.fst ∘ fun chunk : Chunk => (chunk.startLine, chunk.kind)) _).Pairwise
    order ↔ _
  rw [said, List.pairwise_map]
  simp only [Function.comp_apply, shifted]

/-- **Chunks of a file come in the order of the lines on which they begin,** for every language. -/
theorem chunkFile_startLine_le (read : SyntaxReader) (content path : String) :
    (chunkFile read content path).Pairwise fun a b => a.startLine ≤ b.startLine := by
  by_cases blocks : Language.ofPath? path = some .vue
  · by_cases blank : isBlankString content
    · rw [chunkFile_eq_nil_of_blank read path blank]
      exact .nil
    · rw [pairwise_startLine_iff read blocks blank (· ≤ ·) (by simp)]
      refine List.Pairwise.filter _ ?_
      rcases spansOf_cases read .vue content.toList (lines content.toList) with
        ⟨-, whole⟩ | ⟨-, split⟩
      · rw [whole]
        exact List.pairwise_singleton ..
      · rw [split]
        exact Component.split_start_le _ _
  · exact (chunkFile_startLine_lt_of_ne read content path blocks).imp Nat.le_of_lt

/-- **When chunks of a file begin on different lines.** -/
theorem chunkFile_startLine_lt_iff (read : SyntaxReader) (content path : String) :
    ((chunkFile read content path).Pairwise fun a b => a.startLine < b.startLine) ↔
      StartLinesAscend read content path := by
  unfold StartLinesAscend
  by_cases blocks : Language.ofPath? path = some .vue
  · by_cases blank : isBlankString content
    · rw [chunkFile_eq_nil_of_blank read path blank]
      refine ⟨fun _ _ _ => ?_, fun _ => .nil⟩
      rw [Component.PiecesAscend, Component.blocks_of_blank blank]
      exact .nil
    · rw [pairwise_startLine_iff read blocks blank (· < ·) (by simp)]
      rcases spansOf_cases read .vue content.toList (lines content.toList) with
        ⟨why, whole⟩ | ⟨large, split⟩
      · rw [whole]
        refine ⟨fun _ _ large => ?_, fun _ => (List.pairwise_singleton ..).filter _⟩
        rcases why with small | none
        · exact absurd large (Nat.not_lt_of_le small)
        · exact Component.piecesAscend_of_split_eq_nil none
      · rw [split]
        exact (Component.filled_start_lt_iff _ _).trans
          ⟨fun ascend _ _ => ascend, fun ascend => ascend blocks large⟩
  · exact ⟨fun _ isBlocks => absurd isBlocks blocks,
      fun _ => chunkFile_startLine_lt_of_ne read content path blocks⟩

end CodeIndex
