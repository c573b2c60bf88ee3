import CodeIndex.Chunk.Language
import CodeIndex.Chunk.Span
import CodeIndex.Syntax.Tree

/-!
# Splitting along declarations

A syntax tree is split at the declarations of its top level. Imports, comments on top and whatever
else precedes the first declaration are the header of the file. A class is split further: the rows
up to its first method are one piece and every method is one. Comments and annotations travel with
the declaration that follows them.

The splitter emits spans that may overlap or leave gaps; `Span.normalize` makes a partition of them.
A tree without declarations is not split at all.

## Main definitions

* `Role`: what a top-level node is to the splitter.
* `splitClass`: a class as header rows and members.
* `splitTree`: the spans of a whole tree.
-/

namespace CodeIndex.Declaration

/-- What a top-level node is to the splitter. -/
inductive Role where
  | header
  | boundary
  | attachment
  | other
deriving DecidableEq

/-- The node kinds of variable declarations. -/
def variableKinds : List String := ["lexical_declaration", "variable_declaration"]

/-- The node kinds of values that make a variable a function. -/
def functionValues : List String :=
  ["arrow_function", "function_expression", "function", "generator_function"]

/-- The names that constructors have in languages without a node kind for them. -/
def constructorNames : List String := ["constructor", "__init__"]

/-- Whether a node declares a variable whose value is a function. -/
def isFunctionVariable (tree : SyntaxTree) : Bool :=
  variableKinds.contains tree.kind && tree.children.any fun declarator =>
    declarator.kind == "variable_declarator" &&
      (declarator.child? "value").any fun value => functionValues.contains value.kind

variable (table : NodeTable)

/-- Comments and annotations. -/
def isAttachment (tree : SyntaxTree) : Bool :=
  table.comment.contains tree.kind || table.annotations.contains tree.kind

/-- Annotations. -/
def isAnnotationNode (tree : SyntaxTree) : Bool := table.annotations.contains tree.kind

/-- Declarations whose body is split. -/
def isClassLike (tree : SyntaxTree) : Bool := table.classLike.contains tree.kind

/-- The role of a top-level node. -/
def roleOf (tree : SyntaxTree) : Role :=
  if isAttachment table tree then .attachment
  else if table.boundary.contains tree.kind || isFunctionVariable tree then .boundary
  else if table.header.contains tree.kind then .header
  else .other

/-- The declaration inside a wrapper, and inside wrappers in it. -/
def unwrap (tree : SyntaxTree) : SyntaxTree :=
  match table.wrappers.lookup tree.kind with
  | none => tree
  | some label =>
    match _h : tree.child? label with
    | some inner => unwrap inner
    | none => tree
termination_by sizeOf tree
decreasing_by exact SyntaxTree.sizeOf_child?_lt ‹_›

/-- The wrappers around the declaration that `unwrap` finds, the innermost first. -/
def wrappersOf (tree : SyntaxTree) : List SyntaxTree :=
  match table.wrappers.lookup tree.kind with
  | none => []
  | some label =>
    match _h : tree.child? label with
    | some inner => wrappersOf inner ++ [tree]
    | none => []
termination_by sizeOf tree
decreasing_by exact SyntaxTree.sizeOf_child?_lt ‹_›

/-- The name of a declaration: its name, or the type that it is about, or the name of its first
variable. -/
def nameOf (tree : SyntaxTree) : Option String :=
  match (tree.child? "name").or (tree.child? "type") with
  | some name => some name.text
  | none =>
    if variableKinds.contains tree.kind then
      ((tree.children.find? (·.kind == "variable_declarator")).bind (·.child? "name")).map (·.text)
    else none

/-- The name of the nearest class-like node among `around`, which lists enclosing nodes from the
inside. -/
def parentSymbol (around : List SyntaxTree) : Option String :=
  (around.find? (isClassLike table)).bind nameOf

/-- The kind of chunk that a top-level node becomes. -/
def kindOf (tree : SyntaxTree) : ChunkKind :=
  let declaration := unwrap table tree
  if isFunctionVariable declaration then .function else .ofNode declaration.kind

/-- The annotations that a node holds itself, or in its modifiers. -/
def annotationsIn (tree : SyntaxTree) : List String :=
  tree.children.flatMap fun child =>
    if isAnnotationNode table child then [Text.trimmed child.text]
    else if child.kind == "modifiers" then
      (child.children.filter (isAnnotationNode table)).map fun note =>
        Text.trimmed note.text
    else []

/-- The annotations that a node and the declaration inside it hold. -/
def annotationsOf (tree : SyntaxTree) : List String :=
  annotationsIn table tree ++
    (if (wrappersOf table tree).isEmpty then [] else annotationsIn table (unwrap table tree))

/-- The kind of chunk that a method becomes. -/
def memberKind (declaration : SyntaxTree) : ChunkKind :=
  if (nameOf declaration).any constructorNames.contains then .constructor
  else
    match ChunkKind.ofNode declaration.kind with
    | .function | .other => .method
    | kind => kind

/-- The members of a class body, those of its containers included. -/
def membersOf (body : SyntaxTree) : List SyntaxTree :=
  body.children.flatMap fun child =>
    if table.memberContainers.contains child.kind then child.children else [child]

/-- A class taken apart: the rows before its first method, if there are any, and its members. -/
structure ClassParts where
  head : Option (Nat × Nat)
  members : List Span

/-- The state of a walk over the members of a class. -/
structure MemberWalk where
  /-- The spans of the methods so far. -/
  methods : List Span
  /-- The spans of the classes inside so far. -/
  nested : List Span
  /-- The row on which the span of the first method starts. -/
  firstMethod : Option Nat
  /-- The row on which the attachments of the next member start. -/
  pendingStart : Option Nat
  /-- The annotations among them. -/
  pendingAnnotations : List String

/-- The walk before the first member. -/
def MemberWalk.start : MemberWalk := ⟨[], [], none, none, []⟩

/-- One member of a class. -/
def MemberWalk.step (className : Option String) (walk : MemberWalk) (member : SyntaxTree) :
    MemberWalk :=
  let row := member.firstRow
  let inner := unwrap table member
  if isAttachment table member then
    { walk with
      pendingStart := some (walk.pendingStart.getD row)
      pendingAnnotations := walk.pendingAnnotations ++
        if isAnnotationNode table member then [Text.trimmed member.text] else [] }
  else if table.methods.contains inner.kind then
    let start := walk.pendingStart.getD row
    let span : Span :=
      { Span.rows start member.lastRow (memberKind inner) with
        symbol := nameOf inner
        parent := className
        annotations := walk.pendingAnnotations ++ annotationsOf table member }
    { walk with
      methods := walk.methods ++ [span]
      firstMethod := some (walk.firstMethod.getD start)
      pendingStart := none
      pendingAnnotations := [] }
  else if walk.firstMethod.isNone then
    { walk with pendingStart := none, pendingAnnotations := [] }
  else if isClassLike table inner then
    let span : Span :=
      { Span.rows (walk.pendingStart.getD row) member.lastRow (.ofNode inner.kind) with
        symbol := nameOf inner
        parent := className
        annotations := annotationsOf table member }
    { walk with
      nested := walk.nested ++ [span]
      pendingStart := none
      pendingAnnotations := [] }
  else
    -- a field between methods travels with the next method
    { walk with pendingStart := some (walk.pendingStart.getD row), pendingAnnotations := [] }

/-- The spans with the last one reaching at least `row`. -/
def extendLast (row : Nat) : List Span → List Span
  | [] => []
  | [span] => [{ span with stop := max span.stop row }]
  | span :: spans => span :: extendLast row spans

/-- Takes a class apart whose span starts at `start`. A declaration that is not class-like or has
no methods stays whole. -/
def splitClass (tree : SyntaxTree) (start : Nat) : Option ClassParts := do
  let declaration := unwrap table tree
  guard (isClassLike table declaration)
  let body ← declaration.child? "body"
  let walk := (membersOf table body).foldl (MemberWalk.step table (nameOf declaration)) .start
  let first ← walk.firstMethod
  return {
    head := if start < first then some (start, first - 1) else none
    members := extendLast tree.lastRow walk.methods ++ walk.nested }

/-- The state of a walk over the top level of a file. -/
structure Walk where
  /-- The spans so far. -/
  spans : List Span
  /-- The last row of the header, once there is one. -/
  headerEnd : Option Nat
  /-- The row on which the attachments of the next node start. -/
  pendingStart : Option Nat
  /-- The annotations among them. -/
  pendingAnnotations : List String
  /-- The statements since the last declaration. -/
  statement : Option Span
  /-- Whether there was a declaration. -/
  boundarySeen : Bool

/-- The walk before the first node. -/
def Walk.start : Walk := ⟨[], none, none, [], none, false⟩

/-- The spans of a declaration that starts, attachments included, at `start`, and the last header
row that it brings. The head of a class that is the first declaration goes to the header. -/
def declarationSpans (root tree : SyntaxTree) (start : Nat) (pending : List String)
    (isFirst : Bool) : List Span × Option Nat :=
  let declaration := unwrap table tree
  let described (start stop : Nat) : Span :=
    { Span.rows start stop (kindOf table tree) with
      symbol := nameOf declaration
      parent := parentSymbol table (wrappersOf table tree ++ [root])
      annotations := pending ++ annotationsOf table tree }
  match splitClass table tree start with
  | none => ([described start tree.lastRow], none)
  | some ⟨none, members⟩ => (members, none)
  | some ⟨some (first, last), members⟩ =>
    if isFirst then (members, some last) else (described first last :: members, none)

/-- The larger of two rows, either of which may be missing. -/
def laterRow : Option Nat → Option Nat → Option Nat
  | some a, some b => some (max a b)
  | a, none => a
  | none, b => b

/-- One node of the top level. -/
def Walk.step (root : SyntaxTree) (walk : Walk) (tree : SyntaxTree) : Walk :=
  match roleOf table tree with
  | .attachment =>
    { walk with
      pendingStart := some (walk.pendingStart.getD tree.firstRow)
      pendingAnnotations := walk.pendingAnnotations ++
        if isAnnotationNode table tree then [Text.trimmed tree.text] else [] }
  | .boundary =>
    let (spans, headerEnd) := declarationSpans table root tree
      (walk.pendingStart.getD tree.firstRow) walk.pendingAnnotations !walk.boundarySeen
    { spans := walk.spans ++ walk.statement.toList ++ spans
      headerEnd := laterRow walk.headerEnd headerEnd
      pendingStart := none
      pendingAnnotations := []
      statement := none
      boundarySeen := true }
  | .header | .other =>
    if walk.boundarySeen then
      { walk with
        statement := some <|
          match walk.statement with
          | some span => { span with stop := tree.lastRow }
          | none =>
            Span.rows (walk.pendingStart.getD tree.firstRow) tree.lastRow .statement
        pendingStart := none
        pendingAnnotations := [] }
    else
      { walk with headerEnd := some tree.lastRow, pendingStart := none, pendingAnnotations := [] }

/-- The spans that a finished walk leaves, the header last. -/
def Walk.finish (walk : Walk) : List Span :=
  walk.spans ++ walk.statement.toList ++
    (walk.headerEnd.map fun last => Span.rows 0 last .header).toList

/-- The spans of a tree over a text whose last row is `lastRow`; none if the tree holds no
declaration. -/
def splitTree (root : SyntaxTree) (lastRow : Nat) : List Span :=
  let walk := root.children.foldl (Walk.step table root) .start
  if walk.boundarySeen then Span.normalize walk.finish lastRow else []

end CodeIndex.Declaration
