import CodeIndex.Proofs.Chunk.Borders

/-!
# The pieces of a syntax tree

The splitter walks over the top level of a tree, and over the members of the classes there.  From
time to time it begins a span: for a declaration, for the head of a class, for a method, for a class
behind a method, and for the first of some statements.  These nodes are the *pieces* of the tree.
Each of them has a row on which its span begins, its *lead*: the row of its first attachment, or its
own first row if it has none.

Pieces are listed here in the order of the tree, while the walks gather spans of several sorts in
several lists.  Both come to the same: spans begin on the leads of the pieces, and on the top row of
the file if it has a header.

## Main definitions

* `splitMembers`: the members of a declaration that is taken apart.
* `memberPieces`, `declarationPieces`, `treePieces`: pieces with their leads.
* `declarations`: the declarations that ought to stay whole.

## Main statements

* `splitClass_of_splitMembers`: what becomes of a declaration that is taken apart.
* `Walk.begins_foldl`: the rows on which spans begin.
* `together_splitTree_iff`: which rows stay together.
-/

namespace CodeIndex.Declaration

/-- A node for which a span begins. -/
structure Piece where
  /-- The row on which the span begins. -/
  lead : Nat
  node : SyntaxTree
  /-- Whether the node is a declaration that ought to stay whole. -/
  isWhole : Bool

variable (table : NodeTable)

/-- Whether a member of a class is a method. -/
def isMethod (member : SyntaxTree) : Bool :=
  !isAttachment table member && table.methods.contains (unwrap table member).kind

/-- The members of a declaration that is taken apart: a class with a method. -/
def splitMembers (tree : SyntaxTree) : Option (List SyntaxTree) :=
  if isClassLike table (unwrap table tree) then
    (((unwrap table tree).child? "body").map (membersOf table)).filter (·.any (isMethod table))
  else none

/-- What ought to stay whole of a declaration: its methods if it is taken apart, and otherwise all
of it. -/
def declarationsOf (tree : SyntaxTree) : List SyntaxTree :=
  match splitMembers table tree with
  | none => [tree]
  | some members => members.filter (isMethod table)

/-- The declarations of a tree that ought to stay whole. -/
def declarations (root : SyntaxTree) : List SyntaxTree :=
  (root.children.filter (roleOf table · = .boundary)).flatMap (declarationsOf table)

/-! ## Pieces -/

/-- The piece that a member of a class is, if it is one, and the row on which the attachments of the
next member begin, if it has any.  Before the member they begin on row `lead`.  Behind a method,
which `seen` tells, a class is a piece and a field is an attachment. -/
def memberStep (lead : Option Nat) (seen : Bool) (member : SyntaxTree) :
    Option Piece × Option Nat :=
  let row := lead.getD member.firstRow
  if isAttachment table member then (none, some row)
  else if isMethod table member then (some ⟨row, member, true⟩, none)
  else if !seen then (none, none)
  else if isClassLike table (unwrap table member) then (some ⟨row, member, false⟩, none)
  else (none, some row)

/-- The pieces among members of a class. -/
def memberPieces (lead : Option Nat) (seen : Bool) : List SyntaxTree → List Piece
  | [] => []
  | member :: members =>
    let found := memberStep table lead seen member
    found.1.toList ++ memberPieces found.2 (seen || found.1.isSome) members

/-- The row on which the span of the first method of a class begins. -/
def firstLead (members : List SyntaxTree) : Option Nat :=
  (memberPieces table none false members).head?.map (·.lead)

/-- The pieces of a declaration of the top level with attachments from row `row` on.  The head of a
class, if it has rows, is a piece; that of the first declaration joins the header of the file, which
begins at the top. -/
def declarationPieces (tree : SyntaxTree) (row : Nat) (isFirst : Bool) : List Piece :=
  match splitMembers table tree with
  | none => [⟨row, tree, true⟩]
  | some members =>
    (if (firstLead table members).any (row < ·) then [⟨if isFirst then 0 else row, tree, false⟩]
      else []) ++ memberPieces table none false members

/-- What a node of the top level finds before it. -/
structure Before where
  /-- The row on which its attachments begin. -/
  lead : Option Nat
  /-- Whether there is a declaration. -/
  seen : Bool
  /-- Whether there are statements behind the last declaration. -/
  grouped : Bool

/-- The pieces of a node of the top level, and what the next node finds.  Statements that follow
each other are one piece; before the first declaration they are none. -/
def treeStep (before : Before) (tree : SyntaxTree) : List Piece × Before :=
  let row := before.lead.getD tree.firstRow
  match roleOf table tree with
  | .attachment => ([], { before with lead := some row })
  | .boundary => (declarationPieces table tree row !before.seen, ⟨none, true, false⟩)
  | .header | .other =>
    if before.seen then
      (if before.grouped then [] else [⟨row, tree, false⟩], ⟨none, true, true⟩)
    else ([], { before with lead := none })

/-- The pieces among nodes of the top level. -/
def treePieces (before : Before) : List SyntaxTree → List Piece
  | [] => []
  | tree :: trees =>
    let found := treeStep table before tree
    found.1 ++ treePieces found.2 trees

/-- The pieces of a tree. -/
def pieces (root : SyntaxTree) : List Piece :=
  treePieces table ⟨none, false, false⟩ root.children

variable {table}

theorem splitMembers_eq_some_iff {tree : SyntaxTree} {members : List SyntaxTree} :
    splitMembers table tree = some members ↔
      isClassLike table (unwrap table tree) = true ∧
        ∃ body, (unwrap table tree).child? "body" = some body ∧ membersOf table body = members ∧
          members.any (isMethod table) = true := by
  rw [splitMembers, Option.ite_none_right_eq_some, Option.filter_eq_some_iff,
    Option.map_eq_some_iff]
  refine and_congr_right fun _ => ⟨?_, ?_⟩
  · rintro ⟨⟨body, there, rfl⟩, method⟩
    exact ⟨body, there, rfl, method⟩
  · rintro ⟨body, there, rfl, method⟩
    exact ⟨⟨body, there, rfl⟩, method⟩

/-! ## Spans of members -/

namespace MemberWalk

/-- Whether a walk over members has begun a span on a row. -/
def Begins (walk : MemberWalk) (row : Nat) : Prop :=
  ∃ span ∈ walk.methods ++ walk.nested, span.start = row

/-- **A member begins a span if it is a piece,** on its lead. -/
theorem step_eq (className : Option String) (walk : MemberWalk) (member : SyntaxTree) :
    (∀ row, (step table className walk member).Begins row ↔ walk.Begins row ∨
      ∃ piece ∈ (memberStep table walk.pendingStart walk.firstMethod.isSome member).1.toList,
        piece.lead = row) ∧
    (step table className walk member).pendingStart =
      (memberStep table walk.pendingStart walk.firstMethod.isSome member).2 ∧
    (step table className walk member).firstMethod = walk.firstMethod.or
      ((memberStep table walk.pendingStart walk.firstMethod.isSome member).1.map (·.lead)) := by
  by_cases attached : isAttachment table member
  · simp [step, memberStep, Begins, attached]
  by_cases method : (unwrap table member).kind ∈ table.methods
  · refine ⟨fun row => ?_, ?_, ?_⟩
    · simp [step, memberStep, isMethod, Begins, Span.rows, attached, method, or_and_right,
        exists_or, or_assoc]
      exact or_congr_right or_comm
    · simp [step, memberStep, isMethod, attached, method]
    · cases first : walk.firstMethod <;>
        simp [step, memberStep, isMethod, attached, method, first]
  cases first : walk.firstMethod with
  | none => simp [step, memberStep, isMethod, Begins, attached, method, first]
  | some lead =>
      by_cases classLike : isClassLike table (unwrap table member)
      · simp [step, memberStep, isMethod, Begins, Span.rows, attached, method, classLike, first,
          or_and_right, exists_or, or_assoc]
      · simp [step, memberStep, isMethod, Begins, attached, method, classLike, first]

variable (table) in
/-- **A walk over members begins spans on the leads of their pieces,** and knows the first one. -/
theorem foldl_step_eq (className : Option String) (members : List SyntaxTree) (walk : MemberWalk) :
    (∀ row, (members.foldl (step table className) walk).Begins row ↔ walk.Begins row ∨
      ∃ piece ∈ memberPieces table walk.pendingStart walk.firstMethod.isSome members,
        piece.lead = row) ∧
    (members.foldl (step table className) walk).firstMethod = walk.firstMethod.or
      ((memberPieces table walk.pendingStart walk.firstMethod.isSome members).head?.map
        (·.lead)) := by
  induction members generalizing walk with
  | nil => simp [memberPieces]
  | cons member members ih =>
      obtain ⟨begins, first⟩ := ih (step table className walk member)
      obtain ⟨begins', pending, first'⟩ := step_eq className walk member
      have seen : (step table className walk member).firstMethod.isSome =
          (walk.firstMethod.isSome ||
            (memberStep table walk.pendingStart walk.firstMethod.isSome member).1.isSome) := by
        rw [first', Option.isSome_or, Option.isSome_map]
      rw [List.foldl_cons]
      rw [seen, pending] at begins first
      refine ⟨fun row => ?_, ?_⟩
      · rw [begins, begins']
        simp only [memberPieces, List.mem_append, or_and_right, exists_or, or_assoc]
      · rw [first, first', Option.or_assoc]
        simp only [memberPieces]
        cases (memberStep table walk.pendingStart walk.firstMethod.isSome member).1 <;> rfl

end MemberWalk

/-- There are pieces among members if there is a method among them. -/
theorem memberPieces_eq_nil_iff {lead : Option Nat} {members : List SyntaxTree} :
    memberPieces table lead false members = [] ↔ members.any (isMethod table) = false := by
  induction members generalizing lead with
  | nil => simp [memberPieces]
  | cons member members ih =>
      by_cases attached : isAttachment table member
      · simp [memberPieces, memberStep, isMethod, attached, ih]
      · by_cases method : isMethod table member
        · simp [memberPieces, memberStep, attached, method]
        · simp [memberPieces, memberStep, attached, method, ih]

/-- Reaching further down moves no start. -/
theorem map_start_extendLast (row : Nat) (spans : List Span) :
    (extendLast row spans).map (·.start) = spans.map (·.start) := by
  induction spans with
  | nil => rfl
  | cons span spans ih =>
      cases spans with
      | nil => rfl
      | cons next spans => exact congrArg (span.start :: ·) ih

theorem firstLead_eq_none_iff {members : List SyntaxTree} :
    firstLead table members = none ↔ members.any (isMethod table) = false := by
  rw [firstLead, Option.map_eq_none_iff, List.head?_eq_none_iff, memberPieces_eq_nil_iff]

/-- How a declaration is taken apart, by its body. -/
theorem splitClass_eq (tree : SyntaxTree) (start : Nat) :
    splitClass table tree start =
      if isClassLike table (unwrap table tree) then
        ((unwrap table tree).child? "body").bind fun body =>
          let walk := (membersOf table body).foldl
            (MemberWalk.step table (nameOf (unwrap table tree))) .start
          (firstLead table (membersOf table body)).map fun first =>
            ⟨if start < first then some (start, first - 1) else none,
              extendLast tree.lastRow walk.methods ++ walk.nested⟩
      else none := by
  show ((guard (isClassLike table (unwrap table tree) = true) : Option Unit) >>= _) = _
  unfold guard
  by_cases classLike : isClassLike table (unwrap table tree)
  · rw [if_pos classLike, if_pos classLike]
    cases there : (unwrap table tree).child? "body" with
    | none => rfl
    | some body =>
        have first : firstLead table (membersOf table body) = _ :=
          ((MemberWalk.foldl_step_eq table (nameOf (unwrap table tree)) (membersOf table body)
            .start).2.trans (Option.none_or ..)).symm
        rw [Option.bind_some, first, Option.map_eq_bind]
        rfl
  · rw [if_neg classLike, if_neg classLike]
    rfl

/-- A declaration that is not taken apart stays in one piece. -/
theorem splitClass_eq_none {tree : SyntaxTree} (whole : splitMembers table tree = none)
    (start : Nat) : splitClass table tree start = none := by
  rw [splitClass_eq]
  split
  · rename_i classLike
    rw [splitMembers, if_pos classLike] at whole
    cases there : (unwrap table tree).child? "body" with
    | none => rfl
    | some body =>
        have none : (membersOf table body).any (isMethod table) = false := by
          simpa [there] using whole
        rw [Option.bind_some, firstLead_eq_none_iff.2 none]
        rfl
  · rfl

/-- **What becomes of a declaration that is taken apart:** a head, if there are rows before the span
of the first method, and spans that begin on the leads of the pieces. -/
theorem splitClass_of_splitMembers {tree : SyntaxTree} {members : List SyntaxTree}
    (split : splitMembers table tree = some members) (start : Nat) :
    ∃ first spans, firstLead table members = some first ∧
      splitClass table tree start =
        some ⟨if start < first then some (start, first - 1) else none, spans⟩ ∧
      ∀ row, (∃ span ∈ spans, span.start = row) ↔
        ∃ piece ∈ memberPieces table none false members, piece.lead = row := by
  obtain ⟨classLike, body, there, rfl, method⟩ := splitMembers_eq_some_iff.1 split
  let walk := (membersOf table body).foldl
    (MemberWalk.step table (nameOf (unwrap table tree))) .start
  cases lead : firstLead table (membersOf table body) with
  | none => simp [firstLead_eq_none_iff.1 lead] at method
  | some first =>
      refine ⟨first, extendLast tree.lastRow walk.methods ++ walk.nested, rfl, ?_, fun row => ?_⟩
      · rw [splitClass_eq, if_pos classLike, there, Option.bind_some, lead, Option.map_some]
      · have begins := (MemberWalk.foldl_step_eq table (nameOf (unwrap table tree))
          (membersOf table body) .start).1 row
        have same : (∃ span ∈ extendLast tree.lastRow walk.methods ++ walk.nested,
            span.start = row) ↔ walk.Begins row := by
          simp only [← List.mem_map, List.map_append, map_start_extendLast, MemberWalk.Begins]
        rw [same, begins]
        simp [MemberWalk.Begins, MemberWalk.start]

/-! ## Spans of the top level -/

/-- Nodes of the header are no pieces, and of several statements the first one is. -/
theorem treeStep_of_statement (before : Before) {tree : SyntaxTree}
    (role : roleOf table tree = .header ∨ roleOf table tree = .other) :
    treeStep table before tree =
      if before.seen then
        (if before.grouped then [] else [⟨before.lead.getD tree.firstRow, tree, false⟩],
          ⟨none, true, true⟩)
      else ([], { before with lead := none }) := by
  rcases role with role | role <;> simp only [treeStep, role]

variable (table) in
/-- A declaration begins spans on the leads of its pieces, unless its head joins the header. -/
theorem begins_declarationSpans (root tree : SyntaxTree) (start : Nat) (pending : List String)
    (isFirst : Bool) :
    (∀ piece ∈ declarationPieces table tree start isFirst,
      (∃ span ∈ (declarationSpans table root tree start pending isFirst).1,
        span.start = piece.lead) ∨
      (declarationSpans table root tree start pending isFirst).2.isSome ∧ piece.lead = 0) ∧
    ∀ span ∈ (declarationSpans table root tree start pending isFirst).1,
      ∃ piece ∈ declarationPieces table tree start isFirst, piece.lead = span.start := by
  unfold declarationPieces declarationSpans
  dsimp only
  cases whole : splitMembers table tree with
  | none =>
      rw [splitClass_eq_none whole]
      simp [Span.rows]
  | some members =>
      obtain ⟨first, spans, lead, split, begins⟩ := splitClass_of_splitMembers whole start
      have forward : ∀ piece ∈ memberPieces table none false members,
          ∃ span ∈ spans, span.start = piece.lead :=
        fun piece member => (begins piece.lead).2 ⟨piece, member, rfl⟩
      have backward : ∀ span ∈ spans,
          ∃ piece ∈ memberPieces table none false members, piece.lead = span.start :=
        fun span member => (begins span.start).1 ⟨span, member, rfl⟩
      rw [split]
      by_cases rows : start < first
      · cases isFirst with
        | false =>
            simp only [rows, lead, Option.any_some, decide_true, if_true, Bool.false_eq_true,
              if_false, List.singleton_append, List.forall_mem_cons]
            refine ⟨⟨.inl ⟨_, List.mem_cons_self, rfl⟩, fun piece member => ?_⟩,
              ⟨_, List.mem_cons_self, rfl⟩, fun span member => ?_⟩
            · obtain ⟨span, listed, same⟩ := forward piece member
              exact .inl ⟨span, List.mem_cons_of_mem _ listed, same⟩
            · obtain ⟨piece, listed, same⟩ := backward span member
              exact ⟨piece, List.mem_cons_of_mem _ listed, same⟩
        | true =>
            simp only [rows, lead, Option.any_some, decide_true, if_true,
              List.singleton_append, List.forall_mem_cons]
            refine ⟨⟨.inr (by simp), fun piece member => .inl (forward piece member)⟩,
              fun span member => ?_⟩
            obtain ⟨piece, listed, same⟩ := backward span member
            exact ⟨piece, List.mem_cons_of_mem _ listed, same⟩
      · simpa [rows, lead] using ⟨forward, backward⟩

namespace Walk

/-- Whether a walk, if it ended here, would begin a span on a row. -/
def Begins (walk : Walk) (row : Nat) : Prop := ∃ span ∈ walk.finish, span.start = row

/-- What the next node of the top level finds before it. -/
def before (walk : Walk) : Before :=
  ⟨walk.pendingStart, walk.boundarySeen, walk.statement.isSome⟩

theorem begins_iff {walk : Walk} {row : Nat} :
    walk.Begins row ↔ (∃ span ∈ walk.spans, span.start = row) ∨
      (∃ span ∈ walk.statement, span.start = row) ∨ walk.headerEnd.isSome = true ∧ row = 0 := by
  unfold Begins finish
  cases walk.headerEnd with
  | none => simp [or_and_right, exists_or]
  | some last => simp [or_and_right, exists_or, Span.rows, eq_comm]

theorem isSome_laterRow (a b : Option Nat) : (laterRow a b).isSome = (a.isSome || b.isSome) := by
  cases a <;> cases b <;> rfl

/-- What a node of the top level ought to do to a walk: it begins spans on the leads of its pieces,
and possibly on the top row of the file, and no span is lost. -/
structure Reads (table : NodeTable) (tree : SyntaxTree) (walk walk' : Walk) : Prop where
  keeps : ∀ row, walk.Begins row → walk'.Begins row
  begins : ∀ piece ∈ (treeStep table walk.before tree).1, walk'.Begins piece.lead
  only : ∀ row, walk'.Begins row → row = 0 ∨ walk.Begins row ∨
    ∃ piece ∈ (treeStep table walk.before tree).1, piece.lead = row
  before_eq : walk'.before = (treeStep table walk.before tree).2

/-- Further nodes of the header, and statements, begin at most one span. -/
theorem reads_step_statement (root : SyntaxTree) (walk : Walk) (tree : SyntaxTree)
    (role : roleOf table tree = .header ∨ roleOf table tree = .other) :
    Reads table tree walk (step table root walk tree) := by
  by_cases seen : walk.boundarySeen
  · cases statement : walk.statement with
    | none =>
        have stepped : step table root walk tree =
            { walk with
              statement :=
                some (Span.rows (walk.pendingStart.getD tree.firstRow) tree.lastRow .statement)
              pendingStart := none
              pendingAnnotations := [] } := by
          rcases role with role | role <;> simp [step, role, seen, statement]
        have found : treeStep table walk.before tree =
            ([⟨walk.pendingStart.getD tree.firstRow, tree, false⟩], ⟨none, true, true⟩) := by
          simp [treeStep_of_statement _ role, before, seen, statement]
        refine ⟨fun row => ?_, ?_, fun row => ?_, ?_⟩
        · simp [stepped, begins_iff, statement]
          grind
        · simp [stepped, found, begins_iff, Span.rows]
        · simp [stepped, found, begins_iff, statement, Span.rows]
          grind
        · rw [found, stepped]
          simp [before, seen]
    | some span =>
        -- further statements go with the span of the first
        have stepped : step table root walk tree =
            { walk with
              statement := some { span with stop := tree.lastRow }
              pendingStart := none
              pendingAnnotations := [] } := by
          rcases role with role | role <;> simp [step, role, seen, statement]
        have found : treeStep table walk.before tree = ([], ⟨none, true, true⟩) := by
          simp [treeStep_of_statement _ role, before, seen, statement]
        refine ⟨fun row => ?_, ?_, fun row => ?_, ?_⟩
        · simp [stepped, begins_iff, statement]
        · simp [found]
        · simp [stepped, begins_iff, statement]
          grind
        · rw [found, stepped]
          simp [before, seen]
  · have stepped : step table root walk tree =
        { walk with
          headerEnd := some tree.lastRow, pendingStart := none, pendingAnnotations := [] } := by
      rcases role with role | role <;> simp [step, role, seen]
    have found : treeStep table walk.before tree = ([], { walk.before with lead := none }) := by
      simp [treeStep_of_statement _ role, before, seen]
    refine ⟨fun row => ?_, ?_, fun row => ?_, ?_⟩
    · simp [stepped, begins_iff]
      grind
    · simp [found]
    · simp [stepped, begins_iff]
      grind
    · rw [found, stepped]
      simp [before]

variable (table) in
/-- **A node of the top level begins spans on the leads of its pieces.** -/
theorem reads_step (root : SyntaxTree) (walk : Walk) (tree : SyntaxTree) :
    Reads table tree walk (step table root walk tree) := by
  cases role : roleOf table tree with
  | attachment =>
      refine ⟨fun row => ?_, ?_, fun row => ?_, ?_⟩
      · simp [step, role, begins_iff]
      · simp [treeStep, role]
      · simp [step, role, begins_iff]
        grind
      · simp [step, treeStep, role, before]
  | boundary =>
      obtain ⟨forward, backward⟩ := begins_declarationSpans table root tree
        (walk.pendingStart.getD tree.firstRow) walk.pendingAnnotations !walk.boundarySeen
      let made := declarationSpans table root tree (walk.pendingStart.getD tree.firstRow)
        walk.pendingAnnotations !walk.boundarySeen
      have stepped : step table root walk tree =
          ⟨walk.spans ++ walk.statement.toList ++ made.1, laterRow walk.headerEnd made.2, none, [],
            none, true⟩ := by
        simp only [step, role, made]
      have found : treeStep table walk.before tree =
          (declarationPieces table tree (walk.pendingStart.getD tree.firstRow) !walk.boundarySeen,
            ⟨none, true, false⟩) := by
        simp only [treeStep, role, before]
      refine ⟨fun row => ?_, fun piece member => ?_, fun row => ?_, ?_⟩
      · simp [stepped, begins_iff, or_and_right, exists_or, isSome_laterRow]
        grind
      · rw [found] at member
        have := forward piece member
        simp [stepped, begins_iff, or_and_right, exists_or, isSome_laterRow]
        grind
      · simp [stepped, begins_iff, or_and_right, exists_or, isSome_laterRow, found]
        grind
      · rw [found, stepped]
        rfl
  | header => exact reads_step_statement root walk tree (.inl role)
  | other => exact reads_step_statement root walk tree (.inr role)

variable (table) in
/-- **A walk over the top level begins spans on the leads of the pieces,** and possibly on the top
row of the file. -/
theorem begins_foldl (root : SyntaxTree) (trees : List SyntaxTree) (walk : Walk) :
    (∀ row, walk.Begins row → (trees.foldl (step table root) walk).Begins row) ∧
    (∀ piece ∈ treePieces table walk.before trees,
      (trees.foldl (step table root) walk).Begins piece.lead) ∧
    ∀ row, (trees.foldl (step table root) walk).Begins row → row = 0 ∨ walk.Begins row ∨
      ∃ piece ∈ treePieces table walk.before trees, piece.lead = row := by
  induction trees generalizing walk with
  | nil => exact ⟨fun _ => id, fun _ none => absurd none List.not_mem_nil, fun _ => .inr ∘ .inl⟩
  | cons tree trees ih =>
      have read := reads_step table root walk tree
      obtain ⟨keeps, begins, only⟩ := ih (step table root walk tree)
      rw [read.before_eq] at begins only
      refine ⟨fun row earlier => keeps row (read.keeps row earlier), fun piece member => ?_,
        fun row begun => ?_⟩
      · rcases List.mem_append.1 member with now | later
        · exact keeps _ (read.begins piece now)
        · exact begins piece later
      · rcases only row begun with top | begun | ⟨piece, member, lead⟩
        · exact .inl top
        · rcases read.only row begun with top | earlier | ⟨piece, member, lead⟩
          · exact .inl top
          · exact .inr (.inl earlier)
          · exact .inr (.inr ⟨piece, List.mem_append_left _ member, lead⟩)
        · exact .inr (.inr ⟨piece, List.mem_append_right _ member, lead⟩)

/-- There was a declaration in a walk if there is one among the nodes. -/
theorem boundarySeen_foldl (root : SyntaxTree) (trees : List SyntaxTree) (walk : Walk) :
    (trees.foldl (step table root) walk).boundarySeen =
      (walk.boundarySeen || trees.any (roleOf table · = .boundary)) := by
  induction trees generalizing walk with
  | nil => simp
  | cons tree trees ih =>
      rw [List.foldl_cons, ih, List.any_cons, ← Bool.or_assoc]
      congr 1
      cases role : roleOf table tree with
      | boundary => simp [step, role]
      | attachment => simp [step, role]
      | header => cases seen : walk.boundarySeen <;> simp [step, role, seen]
      | other => cases seen : walk.boundarySeen <;> simp [step, role, seen]

end Walk

/-- Without a declaration there is no piece. -/
theorem treePieces_eq_nil {trees : List SyntaxTree}
    (none : trees.any (roleOf table · = .boundary) = false) (lead : Option Nat) (grouped : Bool) :
    treePieces table ⟨lead, false, grouped⟩ trees = [] := by
  induction trees generalizing lead grouped with
  | nil => rfl
  | cons tree trees ih =>
      rw [List.any_cons, Bool.or_eq_false_iff] at none
      cases role : roleOf table tree with
      | boundary => simp [role] at none
      | attachment => simp [treePieces, treeStep, role, ih none.2]
      | header => simp [treePieces, treeStep, role, ih none.2]
      | other => simp [treePieces, treeStep, role, ih none.2]

/-- **Where a tree is split.**  Two rows below the lead of some piece stay together if and only if
no piece has its lead behind the first and not behind the second. -/
theorem together_splitTree_iff {root : SyntaxTree} {lastRow row row' : Nat}
    (below : ∃ piece ∈ pieces table root, piece.lead ≤ row) (le : row ≤ row')
    (inside : row' ≤ lastRow) :
    Span.Together (splitTree table root lastRow) row row' ↔
      ∀ piece ∈ pieces table root, ¬(row < piece.lead ∧ piece.lead ≤ row') := by
  let walk := root.children.foldl (Walk.step table root) .start
  obtain ⟨-, begins, only⟩ := Walk.begins_foldl table root root.children .start
  obtain ⟨piece, member, lead⟩ := below
  have seen : walk.boundarySeen = true := by
    rw [Walk.boundarySeen_foldl]
    by_contra none
    have none := Bool.eq_false_iff.2 none
    rw [show pieces table root = [] from treePieces_eq_nil none .none false] at member
    cases member
  have split : splitTree table root lastRow = Span.normalize walk.finish lastRow := if_pos seen
  obtain ⟨span, listed, start⟩ := begins piece member
  rw [split, Span.together_normalize_iff ⟨span, listed, by omega⟩ le inside]
  constructor
  · intro none piece member cut
    obtain ⟨span, listed, start⟩ := begins piece member
    exact none span listed (by omega)
  · intro none span listed cut
    rcases only span.start ⟨span, listed, rfl⟩ with top | ⟨_, earlier, _⟩ | ⟨piece, member, start⟩
    · omega
    · cases earlier
    · exact none piece member (by omega)

end CodeIndex.Declaration
