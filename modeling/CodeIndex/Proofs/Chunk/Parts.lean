import CodeIndex.Proofs.Chunk.Headers
import CodeIndex.Proofs.Chunk.Order
import CodeIndex.Proofs.Chunk.Places

/-!
# The parts of a syntax tree

What becomes of a syntax tree is said place by place.  A declaration that is not taken apart is one
part.  One that is, a class with methods, has a part for each method and for each class behind the
first method, and one for its head, if there are rows above the first method; the head of the first
declaration goes to the header of the file.  Behind the first declaration, nodes that are no
declarations are one part as long as they follow each other.  The rows above the first declaration
are the header.

Spans that begin on different rows of the file are all kept, one for each part, each with what is
known about its part and with the row on which the part begins.

## Main definitions

* `partsAt`, `headerParts`, `parts`
* `pushed`: the spans that the splitter makes a partition of.
* `Span.Renders`: a span that stands for a part.

## Main statements

* `map_part_pushed`: the spans that are made, one for each part.
* `Span.exists_renders_normalize`: what a partition keeps.
* `splitTree_renders_parts`
-/

namespace CodeIndex

/-! ## What a partition keeps -/

/-- **Whether a span stands for a part:** it holds the row on which the part begins, and what is
known about it. -/
structure Span.Renders (span : Span) (part : Part) : Prop where
  contains : span.Contains part.lead
  kind : span.kind = part.kind
  symbol : span.symbol = part.symbol
  parent : span.parent = part.parent
  annotations : span.annotations = part.annotations

namespace Span

variable {spans : List Span} {lastRow : Nat}

theorem renders_closeGaps (ascending : spans.Pairwise fun a b => a.start < b.start)
    (within : ∀ span ∈ spans, span.start ≤ lastRow) :
    List.Forall₂ Renders (closeGaps lastRow spans) (spans.map part) := by
  induction spans with
  | nil => exact .nil
  | cons span spans ih =>
      obtain ⟨before, ascending⟩ := List.pairwise_cons.1 ascending
      have rest := ih ascending fun other member => within other (List.mem_cons_of_mem _ member)
      cases spans with
      | nil =>
          exact .cons ⟨⟨Nat.le_refl _, within span List.mem_cons_self⟩, rfl, rfl, rfl, rfl⟩ .nil
      | cons next spans =>
          have first := before next List.mem_cons_self
          exact .cons ⟨⟨Nat.le_refl _, Nat.le_sub_one_of_lt first⟩, rfl, rfl, rfl, rfl⟩ rest

theorem renders_startAt_zero {parts : List Part} (renders : List.Forall₂ Renders spans parts) :
    List.Forall₂ Renders (startAt 0 spans) parts := by
  cases renders with
  | nil => exact .nil
  | cons first rest =>
      exact .cons ⟨⟨Nat.zero_le _, first.contains.2⟩, first.kind, first.symbol, first.parent,
        first.annotations⟩ rest

end Span

namespace Declaration

/-! ## Parts of a tree -/

variable (table : NodeTable)

/-- Whether a node of the top level is a declaration. -/
def isBoundary (tree : SyntaxTree) : Bool := roleOf table tree = .boundary

/-- Whether a node of the top level is neither a declaration nor a comment or annotation. -/
def isStatement (tree : SyntaxTree) : Bool :=
  roleOf table tree = .header ∨ roleOf table tree = .other

/-- The last sibling before a place that is neither a comment nor an annotation. -/
def lastBefore (before : List SyntaxTree) : Option SyntaxTree :=
  (before.filter fun tree => !isAttachment table tree).getLast?

/-- The row on which a node of the top level begins, attachments included. -/
def topLead (place : Place) : Nat := rowOf (attachmentsOf table place.before) place.node

/-- Whether a declaration is a class that is taken apart, with rows above its first method. -/
def hasHead (place : Place) : Bool :=
  (splitMembers table place.node).any fun members =>
    (firstMethodLead table members).any (topLead table place < ·)

/-- What a declaration becomes if it is not taken apart, and what its head becomes if it is. -/
def declarationPart (root : SyntaxTree) (place : Place) : Part where
  lead := topLead table place
  kind := kindOf table place.node
  symbol := nameOf (unwrap table place.node)
  parent := parentSymbol table (wrappersOf table place.node ++ [root])
  annotations := noteTexts table place.before ++ annotationsOf table place.node

/-- The parts of a declaration.  The head of the first declaration goes to the header. -/
def declarationParts (root : SyntaxTree) (place : Place) : List Part :=
  match splitMembers table place.node with
  | none => [declarationPart table root place]
  | some members =>
    (if hasHead table place && place.before.any (isBoundary table) then
      [declarationPart table root place] else []) ++
    memberParts table (nameOf (unwrap table place.node)) members

/-- Whether a node is the first of some statements that follow each other behind a declaration. -/
def beginsStatements (place : Place) : Bool :=
  isStatement table place.node && (lastBefore table place.before).any (isBoundary table)

/-- The parts that begin at a place. -/
def partsAt (root : SyntaxTree) (place : Place) : List Part :=
  if isBoundary table place.node then declarationParts table root place
  else if beginsStatements table place then [⟨topLead table place, .statement, none, none, []⟩]
  else []

/-- Whether rows of a node go to the header of the file: a statement before the first declaration,
or the head of that. -/
def joinsHeader (place : Place) : Bool :=
  !place.before.any (isBoundary table) &&
    (isStatement table place.node || isBoundary table place.node && hasHead table place)

/-- The header of a file with a declaration, if any rows go there. -/
def headerParts (root : SyntaxTree) : List Part :=
  if root.children.any (isBoundary table) && (places root.children).any (joinsHeader table) then
    [⟨0, .header, none, none, []⟩]
  else []

/-- **The parts of a tree,** the header last. -/
def parts (root : SyntaxTree) : List Part :=
  (places root.children).flatMap (partsAt table root) ++ headerParts table root

variable {table}

/-! ## Declarations -/

variable (table) in
/-- **What becomes of a declaration,** and whether its head goes to the header. -/
theorem map_part_declarationSpans (root : SyntaxTree) (place : Place) :
    (declarationSpans table root place.node (topLead table place) (noteTexts table place.before)
      !place.before.any (isBoundary table)).1.map Span.part = declarationParts table root place ∧
    (declarationSpans table root place.node (topLead table place) (noteTexts table place.before)
      !place.before.any (isBoundary table)).2.isSome =
        (!place.before.any (isBoundary table) && hasHead table place) := by
  unfold declarationSpans declarationParts hasHead
  dsimp only
  cases split : splitMembers table place.node with
  | none =>
      rw [splitClass_eq_none split]
      exact ⟨rfl, by simp⟩
  | some members =>
      obtain ⟨first, spans, lead, made, known⟩ := map_part_splitClass split (topLead table place)
      rw [made]
      simp only [Option.any_some, lead]
      cases seen : place.before.any (isBoundary table) <;>
        by_cases rows : topLead table place < first <;>
        simp [rows, known, declarationPart, Span.part, Span.rows]

/-! ## The walk over the top level -/

section Append

variable {before : List SyntaxTree} {tree : SyntaxTree}

theorem isAttachment_of_role (role : roleOf table tree = .attachment) :
    isAttachment table tree = true := by
  by_contra other
  unfold roleOf at role
  rw [if_neg other] at role
  split at role
  · cases role
  · split at role <;> cases role

theorem isStatement_of_role (role : roleOf table tree = .header ∨ roleOf table tree = .other) :
    isAttachment table tree = false ∧ isBoundary table tree = false ∧
      isStatement table tree = true := by
  refine ⟨isAttachment_eq_false ?_, ?_, ?_⟩
  · rcases role with role | role <;> simp [role]
  · rcases role with role | role <;> simp [isBoundary, role]
  · rcases role with role | role <;> simp [isStatement, role]

theorem lastBefore_append_attachment (attached : isAttachment table tree = true) :
    lastBefore table (before ++ [tree]) = lastBefore table before := by
  simp [lastBefore, attached]

theorem lastBefore_append_other (other : isAttachment table tree = false) :
    lastBefore table (before ++ [tree]) = some tree := by
  simp [lastBefore, other]

/-- Nothing stands right behind a declaration if there is none. -/
theorem any_lastBefore_eq_false (none : before.any (isBoundary table) = false) :
    (lastBefore table before).any (isBoundary table) = false := by
  cases found : lastBefore table before with
  | none => rfl
  | some last =>
      have member := List.mem_of_mem_filter (List.mem_of_getLast? found)
      exact Bool.eq_false_iff.2 (List.any_eq_false.1 none last member)

end Append

namespace Walk

/-- **What a walk has come to behind some nodes** of the top level: each of its fields is a function
of them. -/
structure Recounts (table : NodeTable) (root : SyntaxTree) (before : List SyntaxTree)
    (walk : Walk) : Prop where
  parts : (walk.spans ++ walk.statement.toList).map Span.part =
    (places before).flatMap (partsAt table root)
  statement : walk.statement.isSome =
    (walk.boundarySeen && !(lastBefore table before).any (isBoundary table))
  headerEnd : walk.headerEnd.isSome = (places before).any (joinsHeader table)
  pendingStart : walk.pendingStart = (attachmentsOf table before).head?.map (·.firstRow)
  pendingAnnotations : walk.pendingAnnotations = noteTexts table before
  boundarySeen : walk.boundarySeen = before.any (isBoundary table)

theorem recounts_start (root : SyntaxTree) : Recounts table root [] .start :=
  ⟨rfl, rfl, rfl, rfl, rfl, rfl⟩

namespace Recounts

variable {root : SyntaxTree} {before : List SyntaxTree} {walk : Walk} {tree : SyntaxTree}
variable (recounts : Recounts table root before walk)

include recounts

theorem pendingStart_getD :
    walk.pendingStart.getD tree.firstRow = topLead table ⟨before, tree⟩ := by
  rw [recounts.pendingStart, getD_head?, topLead]

theorem step_attachment (role : roleOf table tree = .attachment) :
    Recounts table root (before ++ [tree]) (walk.step table root tree) := by
  have attached := isAttachment_of_role role
  have noBoundary : isBoundary table tree = false := by simp [isBoundary, role]
  have noStatement : isStatement table tree = false := by simp [isStatement, role]
  have noPart : partsAt table root ⟨before, tree⟩ = [] := by
    simp [partsAt, beginsStatements, noBoundary, noStatement]
  have noHeader : joinsHeader table ⟨before, tree⟩ = false := by
    simp [joinsHeader, noBoundary, noStatement]
  have stepped : walk.step table root tree = { walk with
      pendingStart := some (walk.pendingStart.getD tree.firstRow)
      pendingAnnotations := walk.pendingAnnotations ++
        if isAnnotationNode table tree then [Text.trimmed tree.text] else [] } := by
    simp only [Walk.step, role]
  rw [stepped]
  constructor
  · simpa [noPart] using recounts.parts
  · simpa [lastBefore_append_attachment attached] using recounts.statement
  · simpa [noHeader] using recounts.headerEnd
  · rw [attachmentsOf_append_attachment attached, head?_append_singleton, recounts.pendingStart]
  · rw [noteTexts_append_attachment attached, recounts.pendingAnnotations]
  · simpa [noBoundary] using recounts.boundarySeen

theorem step_boundary (role : roleOf table tree = .boundary) :
    Recounts table root (before ++ [tree]) (walk.step table root tree) := by
  have other : isAttachment table tree = false := isAttachment_eq_false (by simp [role])
  have boundary : isBoundary table tree = true := by simp [isBoundary, role]
  have noStatement : isStatement table tree = false := by simp [isStatement, role]
  have found : partsAt table root ⟨before, tree⟩ = declarationParts table root ⟨before, tree⟩ :=
    if_pos boundary
  have header : joinsHeader table ⟨before, tree⟩ =
      (!before.any (isBoundary table) && hasHead table ⟨before, tree⟩) := by
    simp [joinsHeader, boundary, noStatement]
  obtain ⟨made, head⟩ := map_part_declarationSpans table root ⟨before, tree⟩
  let spans := declarationSpans table root tree (topLead table ⟨before, tree⟩)
    (noteTexts table before) !before.any (isBoundary table)
  have stepped : walk.step table root tree =
      ⟨walk.spans ++ walk.statement.toList ++ spans.1, laterRow walk.headerEnd spans.2, none, [],
        none, true⟩ := by
    simp only [Walk.step, role, recounts.pendingStart_getD, recounts.pendingAnnotations,
      recounts.boundarySeen, spans]
  rw [stepped]
  constructor
  · rw [Option.toList_none, List.append_nil, List.map_append, recounts.parts, made,
      places_append_singleton, List.flatMap_append, List.flatMap_singleton, found]
  · simp [lastBefore_append_other other, boundary]
  · rw [isSome_laterRow, recounts.headerEnd, head, places_append_singleton, List.any_append,
      List.any_cons, List.any_nil, Bool.or_false, header]
  · rw [attachmentsOf_append_other other]
    rfl
  · rw [noteTexts_append_other other]
  · simp [boundary]

/-- Nodes before the first declaration. -/
theorem step_header (role : roleOf table tree = .header ∨ roleOf table tree = .other)
    (unseen : walk.boundarySeen = false) :
    Recounts table root (before ++ [tree]) (walk.step table root tree) := by
  obtain ⟨other, noBoundary, statement⟩ := isStatement_of_role role
  have none : before.any (isBoundary table) = false := recounts.boundarySeen.symm.trans unseen
  have noPart : partsAt table root ⟨before, tree⟩ = [] := by
    simp [partsAt, beginsStatements, noBoundary, any_lastBefore_eq_false none]
  have header : joinsHeader table ⟨before, tree⟩ = true := by
    simp [joinsHeader, statement, none]
  have stepped : walk.step table root tree =
      { walk with
        headerEnd := some tree.lastRow
        pendingStart := .none
        pendingAnnotations := [] } := by
    rcases role with role | role <;> simp [Walk.step, role, unseen]
  rw [stepped]
  constructor
  · simpa [noPart] using recounts.parts
  · simpa [unseen] using recounts.statement
  · simp [header]
  · rw [attachmentsOf_append_other other]
    rfl
  · rw [noteTexts_append_other other]
  · simpa [noBoundary] using recounts.boundarySeen

/-- Statements behind a declaration are kept as one span, begun here or before. -/
theorem with_statement (role : roleOf table tree = .header ∨ roleOf table tree = .other)
    (seen : walk.boundarySeen = true) (span : Span)
    (parts : (walk.spans ++ [span]).map Span.part =
      (places before).flatMap (partsAt table root) ++ partsAt table root ⟨before, tree⟩) :
    Recounts table root (before ++ [tree])
      { walk with statement := some span, pendingStart := none, pendingAnnotations := [] } := by
  obtain ⟨other, noBoundary, -⟩ := isStatement_of_role role
  have noHeader : joinsHeader table ⟨before, tree⟩ = false := by
    simp [joinsHeader, ← recounts.boundarySeen, seen]
  constructor
  · rw [places_append_singleton, List.flatMap_append, List.flatMap_singleton]
    exact parts
  · simp [lastBefore_append_other other, noBoundary, seen]
  · simpa [noHeader] using recounts.headerEnd
  · rw [attachmentsOf_append_other other]
    rfl
  · rw [noteTexts_append_other other]
  · simpa [noBoundary] using recounts.boundarySeen

/-- Nodes behind a declaration. -/
theorem step_statement (role : roleOf table tree = .header ∨ roleOf table tree = .other)
    (seen : walk.boundarySeen = true) :
    Recounts table root (before ++ [tree]) (walk.step table root tree) := by
  obtain ⟨-, noBoundary, statement⟩ := isStatement_of_role role
  have grouped := recounts.statement
  rw [seen, Bool.true_and] at grouped
  have parts := recounts.parts
  cases begun : walk.statement with
  | none =>
      have behind : (lastBefore table before).any (isBoundary table) = true := by
        simpa [begun] using grouped
      have found : partsAt table root ⟨before, tree⟩ =
          [⟨topLead table ⟨before, tree⟩, .statement, none, none, []⟩] := by
        simp [partsAt, beginsStatements, noBoundary, statement, behind]
      have stepped : walk.step table root tree = { walk with
          statement := some (Span.rows (topLead table ⟨before, tree⟩) tree.lastRow .statement)
          pendingStart := none
          pendingAnnotations := [] } := by
        rcases role with role | role <;>
          simp [Walk.step, role, seen, begun, recounts.pendingStart_getD]
      rw [begun, Option.toList_none, List.append_nil] at parts
      rw [stepped]
      refine recounts.with_statement role seen _ ?_
      rw [List.map_append, parts, found]
      rfl
  | some span =>
      -- the statements go on
      have behind : (lastBefore table before).any (isBoundary table) = false := by
        simpa [begun] using grouped
      have noPart : partsAt table root ⟨before, tree⟩ = [] := by
        simp [partsAt, beginsStatements, noBoundary, behind]
      have stepped : walk.step table root tree = { walk with
          statement := some { span with stop := tree.lastRow }
          pendingStart := none
          pendingAnnotations := [] } := by
        rcases role with role | role <;> simp [Walk.step, role, seen, begun]
      rw [begun] at parts
      rw [stepped]
      refine recounts.with_statement role seen _ ?_
      rw [noPart, List.append_nil, ← parts, List.map_append, List.map_append]
      rfl

end Recounts

/-- **A walk over the top level is a function of the nodes there.** -/
theorem recounts_foldl (table : NodeTable) (root : SyntaxTree) (trees : List SyntaxTree) :
    Recounts table root trees (trees.foldl (step table root) .start) := by
  induction trees using List.reverseRecOn with
  | nil => exact recounts_start root
  | append_singleton trees tree ih =>
      rw [List.foldl_append]
      cases role : roleOf table tree with
      | attachment => exact ih.step_attachment role
      | boundary => exact ih.step_boundary role
      | header =>
          cases seen : (trees.foldl (step table root) .start).boundarySeen with
          | false => exact ih.step_header (.inl role) seen
          | true => exact ih.step_statement (.inl role) seen
      | other =>
          cases seen : (trees.foldl (step table root) .start).boundarySeen with
          | false => exact ih.step_header (.inr role) seen
          | true => exact ih.step_statement (.inr role) seen

end Walk

end Declaration

end CodeIndex
