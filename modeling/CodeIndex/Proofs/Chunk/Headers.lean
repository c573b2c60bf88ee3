import CodeIndex.Proofs.Chunk.StartLine

/-!
# Headers

A splitter along declarations makes one header, for the rows above the first declaration, and it
makes it on row 0.  Whatever is said about the other rows, only the first span of a partition begins
there, so that the header, if it is not dropped, is the first span (`noHeader_tail_splitTree`).  The
other splitters make no headers.

A file that is no component therefore has at most one header chunk, and it is the first chunk.  A
component is split block by block, and each of its scripts may have a header of its own:
`countP_isHeader_component` counts them.

## Main statements

* `Declaration.noHeader_tail_splitTree`: of the spans of a tree only the first can be a header.
* `noHeader_tail_chunkFile`: so it is with the chunks of a file that is no component.
* `countP_isHeader_component`: a component has one header for each block that has one.
-/

namespace CodeIndex

open CodeIndex.Text

/-! ## Spans that are no headers -/

/-- Whether none of some spans is a header. -/
def NoHeader (spans : List Span) : Prop := ∀ span ∈ spans, span.kind ≠ .header

namespace NoHeader

variable {a b : List Span} {span : Span}

theorem nil : NoHeader [] := fun _ member => absurd member List.not_mem_nil

theorem singleton (other : span.kind ≠ .header) : NoHeader [span] := by
  intro _ member
  rwa [List.mem_singleton.1 member]

theorem append (first : NoHeader a) (second : NoHeader b) : NoHeader (a ++ b) :=
  fun span member => (List.mem_append.1 member).elim (first span) (second span)

theorem of_subset (clean : NoHeader a) (subset : b ⊆ a) : NoHeader b :=
  fun span member => clean span (subset member)

/-- Whether there is a header shows in the kinds alone. -/
theorem of_map_kind (clean : NoHeader a) (same : b.map (·.kind) = a.map (·.kind)) : NoHeader b := by
  intro span member
  have kind : span.kind ∈ a.map (·.kind) := same ▸ List.mem_map_of_mem member
  obtain ⟨other, listed, same⟩ := List.mem_map.1 kind
  exact same ▸ clean other listed

end NoHeader

theorem ChunkKind.ofNode_ne_header (kind : String) : ofNode kind ≠ .header := by
  unfold ofNode
  repeat' split
  all_goals decide

/-! ## Splitting along declarations -/

namespace Declaration

variable (table : NodeTable)

theorem kindOf_ne_header (tree : SyntaxTree) : kindOf table tree ≠ .header := by
  unfold kindOf
  dsimp only
  split
  · decide
  · exact ChunkKind.ofNode_ne_header _

theorem memberKind_ne_header (declaration : SyntaxTree) : memberKind declaration ≠ .header := by
  unfold memberKind
  split
  · decide
  · split
    · decide
    · decide
    · exact ChunkKind.ofNode_ne_header _

/-- Members of a class are no headers, as far as a walk has come. -/
theorem MemberWalk.step_noHeader {walk : MemberWalk} (className : Option String)
    (member : SyntaxTree) (clean : NoHeader (walk.methods ++ walk.nested)) :
    NoHeader ((walk.step table className member).methods ++
      (walk.step table className member).nested) := by
  have methods : NoHeader walk.methods := clean.of_subset (List.subset_append_left _ _)
  have nested : NoHeader walk.nested := clean.of_subset (List.subset_append_right _ _)
  unfold MemberWalk.step
  dsimp only
  split
  · exact clean
  · split
    · exact (methods.append (.singleton (memberKind_ne_header _))).append nested
    · split
      · exact clean
      · split
        · exact methods.append (nested.append (.singleton (ChunkKind.ofNode_ne_header _)))
        · exact clean

theorem foldl_memberStep_noHeader (className : Option String) (members : List SyntaxTree)
    {walk : MemberWalk} (clean : NoHeader (walk.methods ++ walk.nested)) :
    NoHeader ((members.foldl (MemberWalk.step table className) walk).methods ++
      (members.foldl (MemberWalk.step table className) walk).nested) := by
  induction members generalizing walk with
  | nil => exact clean
  | cons member members ih => exact ih (MemberWalk.step_noHeader table className member clean)

theorem map_kind_extendLast (row : Nat) (spans : List Span) :
    (extendLast row spans).map (·.kind) = spans.map (·.kind) := by
  induction spans with
  | nil => rfl
  | cons span spans ih =>
      cases spans with
      | nil => rfl
      | cons next spans => exact congrArg (span.kind :: ·) ih

/-- Members of a class are no headers. -/
theorem splitClass_noHeader {tree : SyntaxTree} {start : Nat} {parts : ClassParts}
    (found : splitClass table tree start = some parts) : NoHeader parts.members := by
  unfold splitClass at found
  obtain ⟨-, -, found⟩ := Option.bind_eq_some_iff.1 found
  obtain ⟨body, -, found⟩ := Option.bind_eq_some_iff.1 found
  obtain ⟨first, -, found⟩ := Option.bind_eq_some_iff.1 found
  obtain rfl := Option.some.inj found
  have start : NoHeader (MemberWalk.start.methods ++ MemberWalk.start.nested) := .nil
  have walked := foldl_memberStep_noHeader table (nameOf (unwrap table tree))
    (membersOf table body) start
  have methods := walked.of_subset (List.subset_append_left _ _)
  have nested := walked.of_subset (List.subset_append_right _ _)
  exact (methods.of_map_kind (map_kind_extendLast _ _)).append nested

/-- The spans of a declaration are no headers. -/
theorem declarationSpans_noHeader (root tree : SyntaxTree) (start : Nat) (pending : List String)
    (isFirst : Bool) : NoHeader (declarationSpans table root tree start pending isFirst).1 := by
  have kind := kindOf_ne_header table tree
  unfold declarationSpans
  dsimp only
  cases found : splitClass table tree start with
  | none => exact .singleton kind
  | some parts =>
      have members := splitClass_noHeader table found
      obtain ⟨head, parts⟩ := parts
      cases head with
      | none => exact members
      | some rows =>
          dsimp only
          split
          · exact members
          · exact NoHeader.append (.singleton kind) members

/-- What a walk has come across is no header; the header is made when it is over. -/
theorem Walk.step_noHeader (root : SyntaxTree) {walk : Walk} (tree : SyntaxTree)
    (clean : NoHeader (walk.spans ++ walk.statement.toList)) :
    NoHeader ((walk.step table root tree).spans ++
      (walk.step table root tree).statement.toList) := by
  have spans : NoHeader walk.spans := clean.of_subset (List.subset_append_left _ _)
  unfold Walk.step
  split
  · exact clean
  · exact (clean.append (declarationSpans_noHeader table _ _ _ _ _)).append .nil
  all_goals
    split
    · refine spans.append (.singleton ?_)
      -- a statement is a statement, be it begun here or longer than before
      cases begun : walk.statement with
      | none => exact (by decide : ChunkKind.statement ≠ .header)
      | some span => exact clean span (List.mem_append_right _ (by simp [begun]))
    · exact clean

theorem foldl_step_noHeader (root : SyntaxTree) (trees : List SyntaxTree) {walk : Walk}
    (clean : NoHeader (walk.spans ++ walk.statement.toList)) :
    NoHeader ((trees.foldl (Walk.step table root) walk).spans ++
      (trees.foldl (Walk.step table root) walk).statement.toList) := by
  induction trees generalizing walk with
  | nil => exact clean
  | cons tree trees ih => exact ih (Walk.step_noHeader table root tree clean)

end Declaration

/-! ## Headers of a partition -/

namespace Span

/-- Of the spans of a partition only the first can be a header, if all headers begin on row 0. -/
theorem noHeader_tail_normalize {spans : List Span} (lastRow : Nat)
    (top : ∀ span ∈ spans, span.kind = .header → span.start = 0) :
    NoHeader (normalize spans lastRow).tail := by
  have ascending := ascending_kept spans lastRow
  have known : ∀ span ∈ distinctStarts ((spans.filter (·.start ≤ lastRow)).mergeSort startsBy),
      span ∈ spans := fun span kept => (mem_of_mem_kept kept).1
  unfold normalize
  generalize distinctStarts ((spans.filter (·.start ≤ lastRow)).mergeSort startsBy) = kept at *
  have moved : ∀ list, (startAt 0 list).tail = list.tail := by
    intro list
    cases list <;> rfl
  intro span member
  rw [moved] at member
  -- closing gaps changes neither starts nor kinds
  have said : (span.start, span.kind) ∈
      ((closeGaps lastRow kept).map fun span => (span.start, span.kind)).tail := by
    rw [← List.map_tail]
    exact List.mem_map_of_mem member
  rw [map_closeGaps fun _ _ => rfl] at said
  cases kept with
  | nil => cases said
  | cons first rest =>
      obtain ⟨other, listed, same⟩ := List.mem_map.1 said
      obtain ⟨start, kind⟩ := Prod.mk.inj same
      intro header
      have lt := (List.pairwise_cons.1 ascending).1 other listed
      have zero := top other (known other (List.mem_cons_of_mem _ listed)) (kind.trans header)
      omega

/-! ## Sections -/

theorem mem_sections {lastRow : Nat} {make : Nat → Nat → Span} {rows : List Nat} {span : Span}
    (member : span ∈ sections lastRow make rows) : ∃ start stop, span = make start stop := by
  induction rows with
  | nil => cases member
  | cons row rows ih =>
      cases rows with
      | nil => exact ⟨row, lastRow, List.mem_singleton.1 member⟩
      | cons next rows =>
          rcases List.mem_cons.1 member with rfl | member
          · exact ⟨row, next - 1, rfl⟩
          · exact ih member

/-- A merged span is of the kind of its first part. -/
theorem noHeader_mergeGreedy (lines : List (List Char)) {spans : List Span}
    (clean : NoHeader spans) : NoHeader (mergeGreedy lines spans) := by
  have general : ∀ spans span chars, span.kind ≠ .header → NoHeader spans →
      NoHeader (mergeInto lines span chars spans) := by
    intro spans
    induction spans with
    | nil => exact fun span chars other _ => .singleton other
    | cons next spans ih =>
        intro span chars other clean
        have rest : NoHeader spans := clean.of_subset (List.subset_cons_self _ _)
        unfold mergeInto
        dsimp only
        split
        · exact ih { span with stop := next.stop } _ other rest
        · exact NoHeader.append (.singleton other)
            (ih next _ (clean next List.mem_cons_self) rest)
  cases spans with
  | nil => exact .nil
  | cons span spans =>
      exact general spans span _ (clean span List.mem_cons_self)
        (clean.of_subset (List.subset_cons_self _ _))

theorem noHeader_sections {lines : List (List Char)} {lastRow : Nat} {make : Nat → Nat → Span}
    (other : ∀ start stop, (make start stop).kind ≠ .header) (rows : List Nat) :
    NoHeader (mergeGreedy lines (sections lastRow make rows)) := by
  refine noHeader_mergeGreedy lines fun span member => ?_
  obtain ⟨start, stop, rfl⟩ := mem_sections member
  exact other start stop

end Span

theorem Statement.noHeader_split (lines : List (List Char)) : NoHeader (split lines) := by
  unfold split
  split
  · exact .nil
  · exact Span.noHeader_sections (fun _ _ => (by decide : ChunkKind.statement ≠ .header)) _

theorem Heading.noHeader_split (lines : List (List Char)) : NoHeader (split lines) := by
  unfold split
  dsimp only
  split
  · exact .nil
  · exact Span.noHeader_sections (fun _ _ => (by decide : ChunkKind.other ≠ .header)) _

/-- **Of the spans of a tree only the first can be a header,** whatever the tree looks like. -/
theorem Declaration.noHeader_tail_splitTree (table : NodeTable) (root : SyntaxTree)
    (lastRow : Nat) : NoHeader (splitTree table root lastRow).tail := by
  have start : NoHeader (Walk.start.spans ++ Walk.start.statement.toList) := .nil
  have walked := foldl_step_noHeader table root root.children start
  unfold splitTree
  dsimp only
  split
  · refine Span.noHeader_tail_normalize lastRow fun span member header => ?_
    rcases List.mem_append.1 member with member | member
    · exact absurd header (walked span member)
    · obtain ⟨last, -, rfl⟩ := Option.map_eq_some_iff.1 (Option.mem_toList.1 member)
      rfl
  · exact .nil

/-! ## Headers of a file that is no component -/

/-- What passes a test behind the first that does is behind the first. -/
theorem tail_filter_subset (keep : Span → Bool) (spans : List Span) :
    (spans.filter keep).tail ⊆ spans.tail := by
  cases spans with
  | nil => exact List.Subset.refl _
  | cons span spans =>
      have rest : spans.filter keep ⊆ spans := List.filter_sublist.subset
      by_cases kept : keep span
      · rw [List.filter_cons_of_pos kept]
        exact rest
      · rw [List.filter_cons_of_neg kept]
        exact fun _ member => rest (List.mem_of_mem_tail member)

/-- Of the spans of a file that is no component only the first can be a header. -/
theorem noHeader_tail_spansOf (read : SyntaxReader) {language : Language}
    (notBlocks : language ≠ .vue) (text : List Char) (textLines : List (List Char)) :
    NoHeader (spansOf read language text textLines).tail := by
  rcases spansOf_cases read language text textLines with ⟨-, whole⟩ | ⟨-, split⟩
  · rw [whole]
    exact .nil
  · rw [split]
    have trees := fun table tree =>
      Declaration.noHeader_tail_splitTree table tree (textLines.length - 1)
    cases language with
    | sql => exact (Statement.noHeader_split textLines).of_subset (List.tail_sublist _).subset
    | markdown => exact (Heading.noHeader_split textLines).of_subset (List.tail_sublist _).subset
    | vue => exact absurd rfl notBlocks
    | java => exact trees _ _
    | typescript => exact trees _ _
    | javascript => exact trees _ _
    | python => exact trees _ _
    | rust => exact trees _ _

/-- The kinds of the chunks of a file are those of its filled spans. -/
theorem map_kind_chunkFile (read : SyntaxReader) {content path : String} {language : Language}
    (known : Language.ofPath? path = some language) (notBlank : ¬isBlankString content) :
    (chunkFile read content path).map (·.kind) =
      ((spansOf read language content.toList (lines content.toList)).filter
        (isFilled (lines content.toList))).map (·.kind) := by
  have said := congrArg (List.map Prod.snd) (map_chunkFile read known notBlank)
  rwa [List.map_map, List.map_map] at said

/-- **Of the chunks of a file that is no component only the first can be a header.** -/
theorem noHeader_tail_chunkFile (read : SyntaxReader) (content path : String)
    (notBlocks : Language.ofPath? path ≠ some .vue) :
    ∀ chunk ∈ (chunkFile read content path).tail, chunk.isHeader = false := by
  cases known : Language.ofPath? path with
  | none => simp [chunkFile, known]
  | some language =>
      rw [known, ne_eq, Option.some.injEq] at notBlocks
      by_cases blank : isBlankString content
      · simp [chunkFile_eq_nil_of_blank read path blank]
      · intro chunk member
        have kind : chunk.kind ∈ ((chunkFile read content path).map (·.kind)).tail := by
          rw [← List.map_tail]
          exact List.mem_map_of_mem member
        rw [map_kind_chunkFile read known blank, ← List.map_tail] at kind
        obtain ⟨span, listed, same⟩ := List.mem_map.1 kind
        have other := noHeader_tail_spansOf read notBlocks content.toList (lines content.toList)
          span (tail_filter_subset _ _ listed)
        rw [Chunk.isHeader, beq_eq_false_iff_ne, ← same]
        exact other

/-! ## Headers of a component -/

/-- Whether a span is a header. -/
def Span.isHeader (span : Span) : Bool := span.kind == .header

theorem NoHeader.countP_eq_zero {spans : List Span} (clean : NoHeader spans) :
    spans.countP Span.isHeader = 0 :=
  List.countP_eq_zero.2 fun span member => by simpa [Span.isHeader] using clean span member

namespace Component

variable {readScript : List Char → SyntaxTree} {text : List Char} {block : Block}

/-- **Whether a block has a header.** -/
def hasHeader (readScript : List Char → SyntaxTree) (text : List Char) (block : Block) : Bool :=
  (spansOf readScript text block).any Span.isHeader

/-- Stretching keeps kinds. -/
theorem map_kind_stretch (shift openRow closeRow : Nat) (parts : List Span) :
    (stretch shift openRow closeRow parts).map (·.kind) = parts.map (·.kind) := by
  have startAt : ∀ list, (Span.startAt openRow list).map (·.kind) = list.map (·.kind) := by
    intro list
    cases list <;> rfl
  rcases List.eq_nil_or_concat parts with rfl | ⟨before, last, rfl⟩
  · rfl
  · rw [List.concat_eq_append, stretch_append_singleton, startAt, moved]
    simp

/-- Of the spans of a block only the first can be a header. -/
theorem noHeader_tail_spansOf (readScript : List Char → SyntaxTree) (text : List Char)
    (block : Block) : NoHeader (spansOf readScript text block).tail := by
  unfold spansOf
  split
  · exact .nil
  · rw [scriptSpans_eq]
    split
    · exact .nil
    · have parts : NoHeader (scriptParts readScript text block).tail := by
        unfold scriptParts
        dsimp only
        split
        · exact .nil
        · exact Declaration.noHeader_tail_splitTree _ _ _
      refine parts.of_map_kind ?_
      rw [List.map_tail, List.map_tail, map_kind_stretch]
  · exact .nil

/-- A block brings one header chunk if it has a header, and none else: the header is its first
span, and that is not blank. -/
theorem countP_filled_spansOf (lies : block.LiesIn text) :
    ((spansOf readScript text block).filter (isFilled (lines text))).countP Span.isHeader =
      if hasHeader readScript text block then 1 else 0 := by
  have clean := noHeader_tail_spansOf readScript text block
  unfold hasHeader
  cases spans : spansOf readScript text block with
  | nil => rfl
  | cons first rest =>
      rw [spans] at clean
      have filled : isFilled (lines text) first = true :=
        filled_head lies (by rw [spans]; exact rfl)
      have none : rest.any Span.isHeader = false := by
        rw [List.any_eq_false]
        intro span member
        simpa [Span.isHeader] using clean span member
      have kept : NoHeader (rest.filter (isFilled (lines text))) :=
        clean.of_subset (List.filter_sublist.subset)
      rw [List.filter_cons_of_pos filled, List.countP_cons, kept.countP_eq_zero, List.any_cons,
        none, Bool.or_false, Nat.zero_add]

/-- What is counted piece by piece. -/
theorem countP_flatMap_of_ite {α β : Type} {test : β → Bool} {has : α → Bool} {f : α → List β}
    {list : List α} (each : ∀ a ∈ list, (f a).countP test = if has a then 1 else 0) :
    (list.flatMap f).countP test = list.countP has := by
  induction list with
  | nil => rfl
  | cons a list ih =>
      rw [List.flatMap_cons, List.countP_append, each a List.mem_cons_self,
        ih fun b member => each b (List.mem_cons_of_mem _ member), List.countP_cons, Nat.add_comm]

/-- **A component has one header for each block that has one.** -/
theorem countP_filled_split (readScript : List Char → SyntaxTree) (text : List Char) :
    ((split readScript text).filter (isFilled (lines text))).countP Span.isHeader =
      (blocks text).countP (hasHeader readScript text) := by
  rw [filter_split]
  exact countP_flatMap_of_ite fun block member =>
    countP_filled_spansOf (liesIn_of_mem_blocks member)

end Component

/-! ## Counting headers -/

/-- **How many headers a component has:** none if it is small, and else one for each of its blocks
that has a header. -/
def headersOf (read : SyntaxReader) (content : String) : Nat :=
  if content.toList.length ≤ Span.maxChunkChars then 0
  else (Component.blocks content.toList).countP
    (Component.hasHeader (read .typescript) content.toList)

/-- Header chunks are filled spans that are headers. -/
theorem countP_isHeader_eq (read : SyntaxReader) {content path : String} {language : Language}
    (known : Language.ofPath? path = some language) (notBlank : ¬isBlankString content) :
    (chunkFile read content path).countP Chunk.isHeader =
      ((spansOf read language content.toList (lines content.toList)).filter
        (isFilled (lines content.toList))).countP Span.isHeader := by
  have kinds := congrArg (List.countP (· == ChunkKind.header))
    (map_kind_chunkFile read known notBlank)
  rw [List.countP_map, List.countP_map] at kinds
  exact kinds

/-- **A component has as many header chunks as it has blocks with a header.** -/
theorem countP_isHeader_component (read : SyntaxReader) {content path : String}
    (isBlocks : Language.ofPath? path = some .vue) :
    (chunkFile read content path).countP Chunk.isHeader = headersOf read content := by
  unfold headersOf
  by_cases blank : isBlankString content
  · rw [chunkFile_eq_nil_of_blank read path blank, Component.blocks_of_blank blank]
    simp
  · rw [countP_isHeader_eq read isBlocks blank]
    have noHeader : NoHeader [Span.rows 0 ((lines content.toList).length - 1) .file] :=
      .singleton (by decide : ChunkKind.file ≠ .header)
    rcases spansOf_cases read .vue content.toList (lines content.toList) with
      ⟨why, whole⟩ | ⟨large, split⟩
    · rw [whole, (noHeader.of_subset (List.filter_sublist.subset)).countP_eq_zero]
      rcases why with small | none
      · rw [if_pos small]
      · rw [← Component.countP_filled_split]
        have none : Component.split (read .typescript) content.toList = [] := none
        simp [none]
    · rw [split, if_neg (Nat.not_le_of_lt large)]
      exact Component.countP_filled_split _ _

/-- **When a file has at most one header chunk:** always if it is no component. -/
theorem countP_isHeader_le_one_iff (read : SyntaxReader) (content path : String) :
    (chunkFile read content path).countP Chunk.isHeader ≤ 1 ↔
      (Language.ofPath? path = some .vue → headersOf read content ≤ 1) := by
  by_cases isBlocks : Language.ofPath? path = some .vue
  · rw [countP_isHeader_component read isBlocks]
    exact ⟨fun le _ => le, fun le => le isBlocks⟩
  · refine ⟨fun _ vue => absurd vue isBlocks, fun _ => ?_⟩
    have tail := noHeader_tail_chunkFile read content path isBlocks
    cases chunks : chunkFile read content path with
    | nil => exact Nat.zero_le _
    | cons first rest =>
        rw [chunks] at tail
        have none : rest.countP Chunk.isHeader = 0 :=
          List.countP_eq_zero.2 fun chunk member => by simp [tail chunk member]
        rw [List.countP_cons, none]
        split <;> omega

end CodeIndex
