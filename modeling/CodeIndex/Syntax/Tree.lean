/-!
# Syntax trees

What a reader of source code hands over: nodes with a kind, a place, the label under which the
parent holds them and their children. Only nodes that mean something to a reader of the code are
there; punctuation is not. The text of a node is kept where somebody asks for it, that is, for
names and annotations.
-/

namespace CodeIndex

/-- A place in a source text, row and column counted from zero. -/
structure Position where
  row : Nat
  column : Nat
deriving DecidableEq

/-- A node of a syntax tree. -/
inductive SyntaxTree where
  | node (kind : String) (label : Option String) (start stop : Position) (text : String)
    (children : List SyntaxTree)

namespace SyntaxTree

/-- The kind of a node. -/
def kind : SyntaxTree → String
  | node kind _ _ _ _ _ => kind

/-- The label under which the parent holds a node. -/
def label : SyntaxTree → Option String
  | node _ label _ _ _ _ => label

/-- Where a node begins. -/
def start : SyntaxTree → Position
  | node _ _ start _ _ _ => start

/-- Where a node ends: the place after its last character. -/
def stop : SyntaxTree → Position
  | node _ _ _ stop _ _ => stop

/-- The text of a node. -/
def text : SyntaxTree → String
  | node _ _ _ _ text _ => text

/-- The children of a node in document order. -/
def children : SyntaxTree → List SyntaxTree
  | node _ _ _ _ _ children => children

/-- The first child that a node holds under a label. -/
def child? (tree : SyntaxTree) (label : String) : Option SyntaxTree :=
  tree.children.find? fun child => child.label == some label

/-- The first row of a node. -/
def firstRow (tree : SyntaxTree) : Nat := tree.start.row

/-- The last row of a node. A node that ends with a line end does not own the row after it. -/
def lastRow (tree : SyntaxTree) : Nat :=
  if tree.stop.column == 0 && tree.start.row < tree.stop.row then tree.stop.row - 1
  else tree.stop.row

theorem sizeOf_child?_lt {tree child : SyntaxTree} {label : String}
    (h : tree.child? label = some child) : sizeOf child < sizeOf tree := by
  obtain ⟨_, _, _, _, _, children⟩ := tree
  have := List.sizeOf_lt_of_mem (List.mem_of_find?_eq_some h)
  simp only [SyntaxTree.children, node.sizeOf_spec] at this ⊢
  omega

end SyntaxTree

end CodeIndex
