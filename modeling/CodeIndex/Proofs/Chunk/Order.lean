import CodeIndex.Proofs.Chunk.Pieces
import CodeIndex.Proofs.Syntax.Rows

/-!
# The order of pieces

In a tree whose nodes stand on their rows the leads of the pieces ascend, and no piece has its lead
above the last row of a declaration before it.  It may have its lead on that row, however, if its
first attachment begins there.  How far the nodes are apart is a parameter, `gap`: it is zero in
general, and one if no attachment begins on the last row of a node before it.

## Main definitions

* `HasOwnRows`: whether nodes other than attachments stand on rows of their own.
* `HasLayout`: how far they are apart from what follows them.
* `Piece.Before`: the order of pieces.

## Main statements

* `pairwise_before_pieces`: the pieces of a tree are in order.
-/

namespace CodeIndex.Declaration

variable (table : NodeTable)

/-- Whether siblings other than attachments stand on rows of their own. -/
def IsSpread (siblings : List SyntaxTree) : Prop :=
  siblings.Pairwise fun a b =>
    isAttachment table a = false → isAttachment table b = false → a.lastRow < b.firstRow

instance (siblings : List SyntaxTree) : Decidable (IsSpread table siblings) :=
  inferInstanceAs (Decidable (siblings.Pairwise _))

/-- Whether siblings other than attachments end `gap` rows before what follows them begins. -/
def HasGap (gap : Nat) (siblings : List SyntaxTree) : Prop :=
  siblings.Pairwise fun a b => isAttachment table a = false → a.lastRow + gap ≤ b.firstRow

/-- Whether the nodes of a tree stand on their rows, and those other than attachments on rows of
their own, at the top level and in the classes that are taken apart there. -/
structure HasOwnRows (root : SyntaxTree) : Prop where
  orderly : root.IsOrderly
  top_spread : IsSpread table root.children
  members_spread : ∀ tree ∈ root.children, ∀ members, splitMembers table tree = some members →
    IsSpread table members

/-- How far nodes on rows of their own are apart. -/
structure HasLayout (gap : Nat) (root : SyntaxTree) : Prop extends HasOwnRows table root where
  top_gap : HasGap table gap root.children
  members_gap : ∀ tree ∈ root.children, ∀ members, splitMembers table tree = some members →
    HasGap table gap members

variable {table}

/-- **The order of pieces:** leads ascend, and a declaration ends `gap` rows before the next lead
and before the next declaration begins. -/
structure Piece.Before (gap : Nat) (a b : Piece) : Prop where
  lead_le : a.lead ≤ b.lead
  gap_le : a.isWhole = true → a.node.lastRow + gap ≤ b.lead
  last_lt : a.isWhole = true → b.isWhole = true → a.node.lastRow < b.node.firstRow

/-- Whether a piece that is a declaration stands on some rows, and its lead above it. -/
structure Piece.IsWithin (first last : Nat) (piece : Piece) : Prop where
  lead_le : piece.lead ≤ last
  lead_le_first : piece.isWhole = true → piece.lead ≤ piece.node.firstRow
  first_le : piece.isWhole = true → first ≤ piece.node.firstRow
  first_le_last : piece.isWhole = true → piece.node.firstRow ≤ piece.node.lastRow
  last_le : piece.isWhole = true → piece.node.lastRow ≤ last

theorem hasGap_zero {first last : Nat} {siblings : List SyntaxTree}
    (inRows : SyntaxTree.InRows first last siblings) : HasGap table 0 siblings := by
  refine inRows.ordered.imp fun {a b} ordered _ => ?_
  exact ordered

/-- Siblings are apart if no attachment begins on the last row of another node before it. -/
theorem hasGap_one {siblings : List SyntaxTree} (spread : IsSpread table siblings)
    (clear : siblings.Pairwise fun a b => isAttachment table a = false →
      isAttachment table b = true → a.lastRow < b.firstRow) : HasGap table 1 siblings := by
  refine (clear.and spread).imp fun {a b} apart node => ?_
  cases attached : isAttachment table b with
  | true => exact apart.1 node attached
  | false => exact apart.2 node attached

/-! ## Members -/

variable {gap first last bound : Nat} {lead : Option Nat} {seen : Bool}
  {member : SyntaxTree} {members : List SyntaxTree}

theorem le_getD {row : Nat} (leads : ∀ l ∈ lead, bound ≤ l) (le : bound ≤ row) :
    bound ≤ lead.getD row := by
  cases lead with
  | none => exact le
  | some l => exact leads l rfl

theorem getD_le {row : Nat} (leads : ∀ l ∈ lead, l ≤ bound) (le : row ≤ bound) :
    lead.getD row ≤ bound := by
  cases lead with
  | none => exact le
  | some l => exact leads l rfl

variable (table) in
/-- What a member comes to: it is a piece with its lead, and nothing goes with the next one, or it
is none. -/
theorem memberStep_cases (lead : Option Nat) (seen : Bool) (member : SyntaxTree) :
    (∃ isWhole, memberStep table lead seen member =
        (some ⟨lead.getD member.firstRow, member, isWhole⟩, none) ∧
        isAttachment table member = false ∧ isWhole = isMethod table member) ∨
      (memberStep table lead seen member).1 = none ∧ isMethod table member = false ∧
        ∀ l ∈ (memberStep table lead seen member).2, l = lead.getD member.firstRow := by
  unfold memberStep
  dsimp only
  split
  · rename_i attached
    exact .inr ⟨rfl, by simp [isMethod, attached], by simp⟩
  · rename_i attached
    have attached := Bool.eq_false_iff.2 attached
    split
    · rename_i method
      exact .inl ⟨true, rfl, attached, method.symm⟩
    · rename_i method
      have method := Bool.eq_false_iff.2 method
      split
      · exact .inr ⟨rfl, method, by simp⟩
      · split
        · exact .inl ⟨false, rfl, attached, method.symm⟩
        · exact .inr ⟨rfl, method, by simp⟩

variable (table) in
/-- No lead is above where the members begin. -/
theorem le_lead_of_mem_memberPieces (lead : Option Nat) (seen : Bool)
    (leads : ∀ l ∈ lead, bound ≤ l)
    (rows : ∀ member ∈ members, bound ≤ member.firstRow) :
    ∀ piece ∈ memberPieces table lead seen members, bound ≤ piece.lead := by
  induction members generalizing lead seen with
  | nil => simp [memberPieces]
  | cons member members ih =>
      rw [List.forall_mem_cons] at rows
      have le := le_getD leads rows.1
      intro piece found
      rcases List.mem_append.1 found with now | later
      · rcases memberStep_cases table lead seen member with
          ⟨isWhole, step, -⟩ | ⟨none, -, -⟩
        · obtain rfl : piece = _ := by simpa [step] using now
          exact le
        · simp [none] at now
      · refine ih _ _ (fun l next => ?_) rows.2 piece later
        rcases memberStep_cases table lead seen member with
          ⟨isWhole, step, -⟩ | ⟨-, -, same⟩
        · simp [step] at next
        · rw [same l next]
          exact le

/-- The pieces of members are among them, and no attachments. -/
theorem node_of_mem_memberPieces :
    ∀ piece ∈ memberPieces table lead seen members,
      piece.node ∈ members ∧ isAttachment table piece.node = false := by
  induction members generalizing lead seen with
  | nil => simp [memberPieces]
  | cons member members ih =>
      intro piece found
      rcases List.mem_append.1 found with now | later
      · rcases memberStep_cases table lead seen member with
          ⟨isWhole, step, node, -⟩ | ⟨none, -, -⟩
        · obtain rfl : piece = _ := by simpa [step] using now
          exact ⟨List.mem_cons_self, node⟩
        · simp [none] at now
      · exact (ih piece later).imp_left (List.mem_cons_of_mem _)

/-- Those of them that ought to stay whole are the methods. -/
theorem map_node_memberPieces (lead : Option Nat) (seen : Bool) (members : List SyntaxTree) :
    ((memberPieces table lead seen members).filter (·.isWhole)).map (·.node) =
      members.filter (isMethod table) := by
  induction members generalizing lead seen with
  | nil => rfl
  | cons member members ih =>
      rw [memberPieces, List.filter_append, List.map_append, ih]
      rcases memberStep_cases table lead seen member with
        ⟨isWhole, step, -, rfl⟩ | ⟨none, method, -⟩
      · cases method : isMethod table member <;> simp [step, method]
      · simp [none, method]

/-- **The pieces of members are in order,** and on their rows. -/
theorem pairwise_before_memberPieces (lead : Option Nat) (seen : Bool)
    (inRows : SyntaxTree.InRows first last members)
    (spread : IsSpread table members) (gapped : HasGap table gap members)
    (leads : ∀ l ∈ lead, ∀ member ∈ members, l ≤ member.firstRow) :
    (memberPieces table lead seen members).Pairwise (Piece.Before gap) ∧
      ∀ piece ∈ memberPieces table lead seen members, piece.IsWithin first last := by
  induction members generalizing lead seen with
  | nil => simp [memberPieces]
  | cons member members ih =>
      obtain ⟨⟨lower, le, upper⟩, behind, inRows⟩ := SyntaxTree.InRows.cons_iff.1 inRows
      obtain ⟨apart, spread⟩ := List.pairwise_cons.1 spread
      obtain ⟨gapAfter, gapped⟩ := List.pairwise_cons.1 gapped
      have row_le : lead.getD member.firstRow ≤ member.firstRow :=
        getD_le (fun l there => leads l there member List.mem_cons_self) (Nat.le_refl _)
      rcases memberStep_cases table lead seen member with
        ⟨isWhole, step, node, -⟩ | ⟨none, -, next⟩
      · have rest := ih .none true inRows spread gapped (by simp)
        have leadsAfter := le_lead_of_mem_memberPieces table .none true (by simp)
          (fun other there => gapAfter other there node)
        have found : memberPieces table lead seen (member :: members) =
            ⟨lead.getD member.firstRow, member, isWhole⟩ ::
              memberPieces table .none true members := by
          simp [memberPieces, step]
        rw [found, List.pairwise_cons, List.forall_mem_cons]
        refine ⟨⟨fun piece there => ⟨?_, fun _ => leadsAfter piece there, fun _ _ => ?_⟩, rest.1⟩,
          ⟨by dsimp only; omega, fun _ => row_le, fun _ => lower, fun _ => le, fun _ => upper⟩,
          rest.2⟩
        · have := leadsAfter piece there
          dsimp only
          omega
        · obtain ⟨listed, other⟩ := node_of_mem_memberPieces piece there
          exact apart piece.node listed node other
      · have found : memberPieces table lead seen (member :: members) =
            memberPieces table (memberStep table lead seen member).2 seen members := by
          simp [memberPieces, none]
        rw [found]
        refine ih _ seen inRows spread gapped fun l there other listed => ?_
        have := behind other listed
        rw [next l there]
        omega

/-! ## Declarations -/

/-- The members of a declaration that is taken apart stand on its rows. -/
theorem inRows_of_splitMembers {tree : SyntaxTree} (orderly : tree.IsOrderly)
    (split : splitMembers table tree = some members) :
    SyntaxTree.InRows tree.firstRow tree.lastRow members := by
  obtain ⟨_, body, there, rfl, _⟩ := splitMembers_eq_some_iff.1 split
  obtain ⟨inside, lower, upper⟩ := orderly.unwrap table
  obtain ⟨inside', lower', upper'⟩ := inside.of_child? there
  exact (inside'.membersOf table).mono (by omega) (by omega)

/-- **The pieces of a declaration are in order,** on its rows, and not above its attachments. -/
theorem pairwise_before_declarationPieces {tree : SyntaxTree} {row : Nat} (orderly : tree.IsOrderly)
    (le : tree.firstRow ≤ tree.lastRow) (rowLe : row ≤ tree.firstRow)
    (spread : ∀ members, splitMembers table tree = some members → IsSpread table members)
    (gapped : ∀ members, splitMembers table tree = some members → HasGap table gap members)
    (isFirst : Bool) :
    (declarationPieces table tree row isFirst).Pairwise (Piece.Before gap) ∧
      (∀ piece ∈ declarationPieces table tree row isFirst,
        piece.IsWithin tree.firstRow tree.lastRow) ∧
      (isFirst = false → ∀ piece ∈ declarationPieces table tree row isFirst, row ≤ piece.lead) := by
  unfold declarationPieces
  cases split : splitMembers table tree with
  | none =>
      refine ⟨List.pairwise_singleton _ _, ?_, fun _ => ?_⟩
      · rw [List.forall_mem_singleton]
        exact ⟨Nat.le_trans rowLe le, fun _ => rowLe, fun _ => Nat.le_refl _, fun _ => le,
          fun _ => Nat.le_refl _⟩
      · rw [List.forall_mem_singleton]
  | some members =>
      have inRows := inRows_of_splitMembers orderly split
      obtain ⟨ordered, within⟩ := pairwise_before_memberPieces .none false inRows
        (spread members split) (gapped members split) (by simp)
      have below := le_lead_of_mem_memberPieces table .none false (by simp)
        fun member there => (inRows.rows member there).1
      dsimp only
      split
      · have top : (if isFirst then 0 else row) ≤ row := by
          split <;> omega
        rw [List.singleton_append, List.pairwise_cons]
        refine ⟨⟨fun piece there => ⟨?_, by simp, by simp⟩, ordered⟩, ?_, ?_⟩
        · have := below piece there
          dsimp only
          omega
        · rw [List.forall_mem_cons]
          exact ⟨⟨by dsimp only; omega, by simp, by simp, by simp, by simp⟩, within⟩
        · rintro rfl
          rw [List.forall_mem_cons]
          exact ⟨Nat.le_refl _, fun piece there => Nat.le_trans rowLe (below piece there)⟩
      · exact ⟨ordered, within, fun _ piece there => Nat.le_trans rowLe (below piece there)⟩

/-! ## The top level -/

/-- What a node of the top level has to be like for its pieces to be in order. -/
structure IsLaidOut (table : NodeTable) (gap : Nat) (tree : SyntaxTree) : Prop where
  orderly : tree.IsOrderly
  spread : ∀ members, splitMembers table tree = some members → IsSpread table members
  gapped : ∀ members, splitMembers table tree = some members → HasGap table gap members

theorem isAttachment_eq_false {tree : SyntaxTree} (role : roleOf table tree ≠ .attachment) :
    isAttachment table tree = false := by
  refine Bool.eq_false_iff.2 fun attached => role ?_
  rw [roleOf, if_pos attached]

variable (table) in
/-- What goes with the next node begins where the attachments of this one do. -/
theorem lead_treeStep (before : Before) (tree : SyntaxTree) :
    ∀ l ∈ (treeStep table before tree).2.lead, l = before.lead.getD tree.firstRow := by
  unfold treeStep
  dsimp only
  split
  · simp
  · simp
  all_goals split <;> simp

/-- The pieces of a node of the top level: none, or some in order on its rows. -/
theorem treeStep_cases {tree : SyntaxTree} (laidOut : IsLaidOut table gap tree)
    (le : tree.firstRow ≤ tree.lastRow) (before : Before)
    (rowLe : before.lead.getD tree.firstRow ≤ tree.firstRow) :
    (treeStep table before tree).1 = [] ∧ (treeStep table before tree).2.seen = before.seen ∨
      isAttachment table tree = false ∧
        (treeStep table before tree).1.Pairwise (Piece.Before gap) ∧
        (∀ piece ∈ (treeStep table before tree).1,
          piece.IsWithin tree.firstRow tree.lastRow) ∧
        (before.seen = true → ∀ piece ∈ (treeStep table before tree).1,
          before.lead.getD tree.firstRow ≤ piece.lead) ∧
        (treeStep table before tree).2.lead = none ∧
        (treeStep table before tree).2.seen = true := by
  by_cases attached : roleOf table tree = .attachment
  · exact .inl (by simp [treeStep, attached])
  have node := isAttachment_eq_false attached
  by_cases boundary : roleOf table tree = .boundary
  · obtain ⟨ordered, within, above⟩ := pairwise_before_declarationPieces
      laidOut.orderly le rowLe laidOut.spread laidOut.gapped !before.seen
    simp only [treeStep, boundary]
    exact .inr ⟨node, ordered, within, fun seen => above (by simp [seen]), trivial, trivial⟩
  · have statement : roleOf table tree = .header ∨ roleOf table tree = .other := by
      cases role : roleOf table tree <;> simp_all
    rw [treeStep_of_statement before statement]
    by_cases seen : before.seen = true
    · by_cases grouped : before.grouped = true
      · exact .inl (by simp [seen, grouped])
      · rw [if_pos seen, if_neg grouped]
        refine .inr ⟨node, List.pairwise_singleton _ _, ?_, fun _ => ?_, rfl, rfl⟩
        · rw [List.forall_mem_singleton]
          exact ⟨Nat.le_trans rowLe le, by simp, by simp, by simp, by simp⟩
        · rw [List.forall_mem_singleton]
    · exact .inl (by simp [seen])

/-- **The pieces of nodes of the top level are in order,** each stands on the rows of a node, and
behind a declaration no lead is above where the nodes begin. -/
theorem pairwise_before_treePieces {trees : List SyntaxTree}
    (laidOut : ∀ tree ∈ trees, IsLaidOut table gap tree)
    (inRows : SyntaxTree.InRows first last trees) (spread : IsSpread table trees)
    (gapped : HasGap table gap trees) (before : Before)
    (leads : ∀ l ∈ before.lead, ∀ tree ∈ trees, l ≤ tree.firstRow) :
    (treePieces table before trees).Pairwise (Piece.Before gap) ∧
      (∀ piece ∈ treePieces table before trees, ∃ tree ∈ trees, isAttachment table tree = false ∧
        piece.IsWithin tree.firstRow tree.lastRow) ∧
      (before.seen = true → ∀ bound, (∀ l ∈ before.lead, bound ≤ l) →
        (∀ tree ∈ trees, bound ≤ tree.firstRow) →
        ∀ piece ∈ treePieces table before trees, bound ≤ piece.lead) := by
  induction trees generalizing before with
  | nil => simp [treePieces]
  | cons tree trees ih =>
      rw [List.forall_mem_cons] at laidOut
      obtain ⟨⟨lower, le, upper⟩, behind, inRows⟩ := SyntaxTree.InRows.cons_iff.1 inRows
      obtain ⟨apart, spread⟩ := List.pairwise_cons.1 spread
      obtain ⟨gapAfter, gapped⟩ := List.pairwise_cons.1 gapped
      have rowLe : before.lead.getD tree.firstRow ≤ tree.firstRow :=
        getD_le (fun l there => leads l there tree List.mem_cons_self) (Nat.le_refl _)
      have ih := ih laidOut.2 inRows spread gapped (treeStep table before tree).2
      rw [treePieces]
      rcases treeStep_cases laidOut.1 le before rowLe with
        ⟨none, seen⟩ | ⟨node, ordered, within, above, next, seen⟩
      · -- an attachment, a node of the header or a further statement: there is nothing new
        have next := lead_treeStep table before tree
        obtain ⟨ordered, within, above⟩ := ih fun l there other listed => by
          have := behind other listed
          rw [next l there]
          omega
        simp only [none, List.nil_append]
        refine ⟨ordered, fun piece there => ?_, fun was bound bounds rows => ?_⟩
        · obtain ⟨other, listed, found⟩ := within piece there
          exact ⟨other, List.mem_cons_of_mem _ listed, found⟩
        · rw [List.forall_mem_cons] at rows
          refine above (seen.trans was) bound (fun l there => ?_) rows.2
          rw [next l there]
          exact le_getD bounds rows.1
      · obtain ⟨ordered', within', above'⟩ := ih (by simp [next])
        have later := above' seen (tree.lastRow + gap) (by simp [next])
          fun other listed => gapAfter other listed node
        refine ⟨List.pairwise_append.2 ⟨ordered, ordered', fun a here b there => ?_⟩,
          fun piece there => ?_, fun was bound bounds rows piece there => ?_⟩
        · have a_within := within a here
          have b_later := later b there
          refine ⟨?_, fun whole => ?_, fun whole whole' => ?_⟩
          · have := a_within.lead_le
            omega
          · have := a_within.last_le whole
            omega
          · obtain ⟨other, listed, node', b_within⟩ := within' b there
            have := a_within.last_le whole
            have := b_within.first_le whole'
            have := apart other listed node node'
            omega
        · rcases List.mem_append.1 there with here | there
          · exact ⟨tree, List.mem_cons_self, node, within piece here⟩
          · obtain ⟨other, listed, found⟩ := within' piece there
            exact ⟨other, List.mem_cons_of_mem _ listed, found⟩
        · rw [List.forall_mem_cons] at rows
          rcases List.mem_append.1 there with here | there
          · exact Nat.le_trans (le_getD bounds rows.1) (above was piece here)
          · exact above' seen bound (by simp [next]) rows.2 piece there

/-- **The pieces of a tree are in order,** and on its rows. -/
theorem pairwise_before_pieces {root : SyntaxTree} (layout : HasLayout table gap root) :
    (pieces table root).Pairwise (Piece.Before gap) ∧
      ∀ piece ∈ pieces table root, piece.IsWithin root.firstRow root.lastRow := by
  have inRows := layout.orderly.children
  obtain ⟨ordered, within, -⟩ := pairwise_before_treePieces
    (fun tree member => ⟨layout.orderly.of_mem member, layout.members_spread tree member,
      layout.members_gap tree member⟩)
    inRows layout.top_spread layout.top_gap ⟨none, false, false⟩ (by simp)
  refine ⟨ordered, fun piece there => ?_⟩
  obtain ⟨tree, member, _, found⟩ := within piece there
  have rows := inRows.rows tree member
  refine ⟨Nat.le_trans found.lead_le rows.2.2, found.lead_le_first,
    fun whole => Nat.le_trans rows.1 (found.first_le whole), found.first_le_last,
    fun whole => Nat.le_trans (found.last_le whole) rows.2.2⟩

end CodeIndex.Declaration
