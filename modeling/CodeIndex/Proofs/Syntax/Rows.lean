import CodeIndex.Chunk.Declaration
import Mathlib.Data.List.Pairwise
import Mathlib.Data.List.Flatten

/-!
# The rows of a syntax tree

The nodes of a syntax tree stand on rows of a text: children on rows of their parent, and siblings
in document order, so that neighbours share one row at most.  All that the splitter looks up in such
a tree stays on the rows of the node that it starts from: the declaration inside wrappers, a body,
and the members of a class.

## Main definitions

* `SyntaxTree.InRows`: nodes that stand on some rows in document order.
* `SyntaxTree.IsOrderly`: whether all nodes of a tree do so.

## Main statements

* `SyntaxTree.IsOrderly.membersOf`: the members of a class stand on its rows in document order.
-/

namespace CodeIndex

namespace SyntaxTree

/-- Whether a row is one of the rows of a node. -/
def HasRow (tree : SyntaxTree) (row : Nat) : Prop := tree.firstRow ≤ row ∧ row ≤ tree.lastRow

/-- Nodes that stand on the rows from `first` to `last` in document order. -/
structure InRows (first last : Nat) (nodes : List SyntaxTree) : Prop where
  rows : ∀ node ∈ nodes,
    first ≤ node.firstRow ∧ node.firstRow ≤ node.lastRow ∧ node.lastRow ≤ last
  ordered : nodes.Pairwise fun a b => a.lastRow ≤ b.firstRow

/-- **Whether the nodes of a tree stand on their rows:** children on those of their parent, in
document order, and so on. -/
inductive IsOrderly : SyntaxTree → Prop
  | intro {tree : SyntaxTree} (children : InRows tree.firstRow tree.lastRow tree.children)
    (below : ∀ child ∈ tree.children, IsOrderly child) : IsOrderly tree

variable {tree : SyntaxTree} {first last : Nat} {nodes : List SyntaxTree}

namespace InRows

theorem nil (first last : Nat) : InRows first last [] := ⟨by simp, .nil⟩

theorem cons_iff {node : SyntaxTree} :
    InRows first last (node :: nodes) ↔
      (first ≤ node.firstRow ∧ node.firstRow ≤ node.lastRow ∧ node.lastRow ≤ last) ∧
        (∀ other ∈ nodes, node.lastRow ≤ other.firstRow) ∧ InRows first last nodes := by
  constructor
  · rintro ⟨rows, ordered⟩
    obtain ⟨before, ordered⟩ := List.pairwise_cons.1 ordered
    exact ⟨rows node List.mem_cons_self, before,
      fun other member => rows other (List.mem_cons_of_mem _ member), ordered⟩
  · rintro ⟨here, before, rows, ordered⟩
    exact ⟨List.forall_mem_cons.2 ⟨here, rows⟩, List.pairwise_cons.2 ⟨before, ordered⟩⟩

theorem singleton (le : tree.firstRow ≤ tree.lastRow) :
    InRows tree.firstRow tree.lastRow [tree] :=
  ⟨by simpa using le, List.pairwise_singleton _ _⟩

/-- Nodes on rows among other rows stand on those, too. -/
theorem mono (inRows : InRows first last nodes) {first' last' : Nat} (lower : first' ≤ first)
    (upper : last ≤ last') : InRows first' last' nodes := by
  refine ⟨fun node member => ?_, inRows.ordered⟩
  have := inRows.rows node member
  omega

/-- Nodes that are replaced by nodes on their rows stay in document order. -/
theorem flatMap (inRows : InRows first last nodes) {f : SyntaxTree → List SyntaxTree}
    (inside : ∀ node ∈ nodes, InRows node.firstRow node.lastRow (f node)) :
    InRows first last (nodes.flatMap f) := by
  refine ⟨fun node member => ?_, List.pairwise_flatMap.2 ⟨fun node member =>
    (inside node member).ordered, inRows.ordered.imp_of_mem fun {a b} ha hb before x hx y hy => ?_⟩⟩
  · obtain ⟨outer, listed, member⟩ := List.mem_flatMap.1 member
    have := inRows.rows outer listed
    have := (inside outer listed).rows node member
    omega
  · have := (inside a ha).rows x hx
    have := (inside b hb).rows y hy
    omega

end InRows

namespace IsOrderly

theorem children (orderly : tree.IsOrderly) : InRows tree.firstRow tree.lastRow tree.children := by
  cases orderly
  assumption

theorem of_mem (orderly : tree.IsOrderly) {child : SyntaxTree} (member : child ∈ tree.children) :
    child.IsOrderly := by
  obtain ⟨_, below⟩ := orderly
  exact below child member

theorem of_child? (orderly : tree.IsOrderly) {label : String} {child : SyntaxTree}
    (there : tree.child? label = some child) :
    child.IsOrderly ∧ tree.firstRow ≤ child.firstRow ∧ child.lastRow ≤ tree.lastRow := by
  have member := List.mem_of_find?_eq_some there
  have := orderly.children.rows child member
  exact ⟨orderly.of_mem member, this.1, this.2.2⟩

/-- The declaration inside wrappers stands on their rows. -/
theorem unwrap (orderly : tree.IsOrderly) (table : NodeTable) :
    (Declaration.unwrap table tree).IsOrderly ∧
      tree.firstRow ≤ (Declaration.unwrap table tree).firstRow ∧
      (Declaration.unwrap table tree).lastRow ≤ tree.lastRow := by
  induction tree using Declaration.unwrap.induct table with
  | case1 tree plain =>
      rw [Declaration.unwrap, plain]
      exact ⟨orderly, Nat.le_refl _, Nat.le_refl _⟩
  | case2 tree label wrapper inner there ih =>
      obtain ⟨below, lower, upper⟩ := orderly.of_child? there
      obtain ⟨inside, lower', upper'⟩ := ih below
      have unwrapped : Declaration.unwrap table tree = Declaration.unwrap table inner := by
        rw [Declaration.unwrap, wrapper]
        dsimp only
        split
        · rename_i other there'
          rw [Option.some.inj (there.symm.trans there')]
        · rename_i missing
          cases there.symm.trans missing
      rw [unwrapped]
      exact ⟨inside, by omega, by omega⟩
  | case3 tree label wrapper missing =>
      have whole : Declaration.unwrap table tree = tree := by
        rw [Declaration.unwrap, wrapper]
        dsimp only
        split
        · rename_i other there
          cases missing.symm.trans there
        · rfl
      rw [whole]
      exact ⟨orderly, Nat.le_refl _, Nat.le_refl _⟩

/-- The members of a body stand on its rows. -/
theorem membersOf (orderly : tree.IsOrderly) (table : NodeTable) :
    InRows tree.firstRow tree.lastRow (Declaration.membersOf table tree) := by
  refine orderly.children.flatMap fun child member => ?_
  split
  · exact (orderly.of_mem member).children
  · exact .singleton (orderly.children.rows child member).2.1

end IsOrderly

end SyntaxTree

end CodeIndex
