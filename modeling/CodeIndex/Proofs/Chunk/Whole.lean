import CodeIndex.Proofs.Chunk.Order

/-!
# Declarations stay whole

Chunk borders ought neither to cut a declaration nor to put it together with another one, and the
fields of a class before its first method ought to be in its head.  This is so unless the
attachments of a piece begin too early: a comment behind a declaration, on its last row, is an
attachment of what follows, and the span of that begins on this row.

## Main definitions

* `leadingFields`: the fields of a class before its first method.
* `KeepsDeclarations`: whether the borders of a tree respect its declarations.
* `Piece.IsClearOf`, `HasClearHeads`: whether no attachment begins too early.
* `IsDetached`: whether no attachment begins on the last row of a node before it.

## Main statements

* `keepsDeclarations_iff`: borders respect declarations if and only if no attachment begins too
  early.
-/

namespace CodeIndex.Declaration

open CodeIndex.Span (Together)

variable (table : NodeTable)

/-- The fields of a class before its first method. -/
def leadingFields (members : List SyntaxTree) : List SyntaxTree :=
  (members.takeWhile (!isMethod table ·)).filter (!isAttachment table ·)

/-- Whether a node of a class is in the head that the class is given, wherever its attachments
begin. -/
def IsInHead (tree field : SyntaxTree) : Prop :=
  ∀ start ≤ tree.firstRow, ∃ first last spans,
    splitClass table tree start = some ⟨some (first, last), spans⟩ ∧
      first ≤ field.firstRow ∧ field.lastRow ≤ last

/-- **Whether the borders of a tree respect its declarations:** each of them is in one span, which
no other declaration shares and which its attachments are in, too, and the fields of a class before
its first method are in its head, and with no method. -/
structure KeepsDeclarations (root : SyntaxTree) (lastRow : Nat) : Prop where
  whole : ∀ node ∈ declarations table root, ∀ row row', node.HasRow row → node.HasRow row' →
    Together (splitTree table root lastRow) row row'
  alone : (declarations table root).Pairwise fun a b => ∀ row row', a.HasRow row → b.HasRow row' →
    ¬Together (splitTree table root lastRow) row row'
  attached : ∀ piece ∈ pieces table root, piece.isWhole = true →
    Together (splitTree table root lastRow) piece.lead piece.node.firstRow
  heads : ∀ tree ∈ root.children, roleOf table tree = .boundary →
    ∀ members, splitMembers table tree = some members → ∀ field ∈ leadingFields table members,
      IsInHead table tree field ∧
        ∀ method ∈ members, isMethod table method = true → ∀ row row', field.HasRow row →
          method.HasRow row' → ¬Together (splitTree table root lastRow) row row'

/-- Whether a piece does not begin on the last row of a declaration before it; it may do so only if
it is no declaration, and the other one has a single row with its attachments. -/
def Piece.IsClearOf (a b : Piece) : Prop :=
  a.isWhole = true → b.lead = a.node.lastRow → a.lead = a.node.lastRow ∧ b.isWhole = false

/-- Whether the first methods of classes begin behind the fields before them. -/
def HasClearHeads (root : SyntaxTree) : Prop :=
  ∀ tree ∈ root.children, roleOf table tree = .boundary →
    ∀ members, splitMembers table tree = some members → ∀ field ∈ leadingFields table members,
      ∀ lead ∈ firstLead table members, field.lastRow < lead

/-- Whether no attachment begins on the last row of another node before it, at the top level and in
the classes that are taken apart there. -/
structure IsDetached (root : SyntaxTree) : Prop where
  top : root.children.Pairwise fun a b =>
    isAttachment table a = false → isAttachment table b = true → a.lastRow < b.firstRow
  members : ∀ tree ∈ root.children, ∀ members, splitMembers table tree = some members →
    members.Pairwise fun a b =>
      isAttachment table a = false → isAttachment table b = true → a.lastRow < b.firstRow

variable {table} {root : SyntaxTree} {lastRow : Nat}

/-! ## Declarations and pieces -/

theorem map_node_declarationPieces (tree : SyntaxTree) (row : Nat) (isFirst : Bool) :
    ((declarationPieces table tree row isFirst).filter (·.isWhole)).map (·.node) =
      declarationsOf table tree := by
  unfold declarationPieces declarationsOf
  cases splitMembers table tree with
  | none => rfl
  | some members =>
      dsimp only
      rw [List.filter_append, List.map_append, map_node_memberPieces]
      split <;> simp

/-- The pieces of a tree that ought to stay whole are its declarations. -/
theorem map_node_pieces (root : SyntaxTree) :
    ((pieces table root).filter (·.isWhole)).map (·.node) = declarations table root := by
  have general : ∀ (trees : List SyntaxTree) (before : Before),
      ((treePieces table before trees).filter (·.isWhole)).map (·.node) =
        (trees.filter (roleOf table · = .boundary)).flatMap (declarationsOf table) := by
    intro trees
    induction trees with
    | nil => exact fun _ => rfl
    | cons tree trees ih =>
        intro before
        rw [treePieces, List.filter_append, List.map_append, ih]
        by_cases boundary : roleOf table tree = .boundary
        · simp [treeStep, boundary, map_node_declarationPieces]
        · have none : (treeStep table before tree).1.filter (·.isWhole) = [] := by
            unfold treeStep
            cases role : roleOf table tree with
            | boundary => exact absurd role boundary
            | attachment => rfl
            | header => cases before.seen <;> cases before.grouped <;> rfl
            | other => cases before.seen <;> cases before.grouped <;> rfl
          simp [none, boundary]
  exact general _ _

/-- The pieces of a declaration of the top level are pieces of the tree, with a lead that is not
below it. -/
theorem exists_declarationPieces_subset (orderly : root.IsOrderly) {tree : SyntaxTree}
    (member : tree ∈ root.children) (boundary : roleOf table tree = .boundary) :
    ∃ row isFirst, row ≤ tree.firstRow ∧
      declarationPieces table tree row isFirst ⊆ pieces table root := by
  have general : ∀ (trees : List SyntaxTree) (before : Before) (first last : Nat),
      SyntaxTree.InRows first last trees → tree ∈ trees →
      (∀ l ∈ before.lead, ∀ other ∈ trees, l ≤ other.firstRow) →
      ∃ row isFirst, row ≤ tree.firstRow ∧
        declarationPieces table tree row isFirst ⊆ treePieces table before trees := by
    intro trees
    induction trees with
    | nil => intro _ _ _ _ none; cases none
    | cons other trees ih =>
        intro before first last inRows listed leads
        obtain ⟨⟨_, le, _⟩, behind, inRows⟩ := SyntaxTree.InRows.cons_iff.1 inRows
        have rowLe : before.lead.getD other.firstRow ≤ other.firstRow :=
          getD_le (fun l there => leads l there other List.mem_cons_self) (Nat.le_refl _)
        rcases List.mem_cons.1 listed with rfl | listed
        · refine ⟨_, !before.seen, rowLe, fun piece found => List.mem_append_left _ ?_⟩
          simpa only [treeStep, boundary] using found
        · obtain ⟨row, isFirst, rowLe', subset⟩ := ih (treeStep table before other).2 first last
            inRows listed fun l there next member => by
              have := behind next member
              rw [lead_treeStep table before other l there]
              omega
          exact ⟨row, isFirst, rowLe', fun piece found => List.mem_append_right _ (subset found)⟩
  exact general _ _ _ _ orderly.children member (by simp)

/-! ## Borders and pieces -/

theorem HasOwnRows.layout (rows : HasOwnRows table root) : HasLayout table 0 root :=
  { rows with
    top_gap := hasGap_zero rows.orderly.children
    members_gap := fun _ member _ split =>
      hasGap_zero (inRows_of_splitMembers (rows.orderly.of_mem member) split) }

theorem HasOwnRows.layout_one (rows : HasOwnRows table root) (detached : IsDetached table root) :
    HasLayout table 1 root :=
  { rows with
    top_gap := hasGap_one rows.top_spread detached.top
    members_gap := fun tree member members split =>
      hasGap_one (rows.members_spread tree member members split)
        (detached.members tree member members split) }

/-- No lead cuts a declaration that the pieces behind it are clear of: what comes before it has its
lead above it. -/
theorem uncut_of_isClearOf {listed : List Piece} (ordered : listed.Pairwise (Piece.Before 0))
    (clear : listed.Pairwise Piece.IsClearOf) :
    ∀ x ∈ listed, ∀ y ∈ listed, x.isWhole = true →
      ¬(x.lead < y.lead ∧ y.lead ≤ x.node.lastRow) := by
  refine List.Pairwise.forall_of_forall_of_flip (fun x _ _ => by omega) ?_ ?_
  · refine (ordered.and clear).imp fun {x y} ⟨before, isClear⟩ whole cut => ?_
    have := before.gap_le whole
    have := (isClear whole (by omega)).1
    omega
  · refine ordered.imp fun {x y} before whole cut => ?_
    have := before.lead_le
    omega

/-- **Spans hold declarations with their attachments, and no two of them, if and only if pieces are
clear of the declarations before them.** -/
theorem together_pieces_iff (rows : HasOwnRows table root) (inside : root.lastRow ≤ lastRow) :
    ((∀ a ∈ pieces table root, a.isWhole = true →
        Together (splitTree table root lastRow) a.lead a.node.lastRow) ∧
      (pieces table root).Pairwise fun a b => a.isWhole = true → b.isWhole = true →
        ¬Together (splitTree table root lastRow) a.node.lastRow b.node.firstRow) ↔
      (pieces table root).Pairwise Piece.IsClearOf := by
  obtain ⟨ordered, within⟩ := pairwise_before_pieces rows.layout
  -- between two rows of a declaration, and between two declarations, only leads are borders
  have together_iff : ∀ a ∈ pieces table root, ∀ row row', a.lead ≤ row → row ≤ row' →
      row' ≤ root.lastRow → (Together (splitTree table root lastRow) row row' ↔
        ∀ piece ∈ pieces table root, ¬(row < piece.lead ∧ piece.lead ≤ row')) :=
    fun a member row row' lead le upper =>
      together_splitTree_iff ⟨a, member, lead⟩ le (Nat.le_trans upper inside)
  constructor
  · rintro ⟨whole, alone⟩
    refine (ordered.and alone).imp_of_mem
      fun {a b} memberA memberB ⟨before, apart⟩ wholeA same => ?_
    have := (within a memberA).lead_le_first wholeA
    have := (within a memberA).first_le_last wholeA
    have uncut := (together_iff a memberA _ _ (Nat.le_refl _) (by omega)
      ((within a memberA).last_le wholeA)).1 (whole a memberA wholeA) b memberB
    refine ⟨by omega, Bool.eq_false_iff.2 fun wholeB => apart wholeA wholeB ?_⟩
    have := before.last_lt wholeA wholeB
    have := (within b memberB).first_le_last wholeB
    have := (within b memberB).last_le wholeB
    refine (together_iff a memberA _ _ (by omega) (by omega) (by omega)).2
      fun piece member cut => ?_
    refine (together_iff b memberB _ _ (Nat.le_refl _) (by omega) (by omega)).1
      (whole b memberB wholeB) piece member ?_
    omega
  · intro clear
    refine ⟨fun a memberA wholeA => ?_, ?_⟩
    · have := (within a memberA).lead_le_first wholeA
      have := (within a memberA).first_le_last wholeA
      exact (together_iff a memberA _ _ (Nat.le_refl _) (by omega)
        ((within a memberA).last_le wholeA)).2 fun piece member =>
          uncut_of_isClearOf ordered clear a memberA piece member wholeA
    · refine (ordered.and clear).imp_of_mem
        fun {a b} memberA memberB ⟨before, isClear⟩ wholeA wholeB together => ?_
      have := before.gap_le wholeA
      have := before.last_lt wholeA wholeB
      have := (within a memberA).lead_le_first wholeA
      have := (within a memberA).first_le_last wholeA
      have := (within b memberB).lead_le_first wholeB
      have := (within b memberB).first_le_last wholeB
      have := (within b memberB).last_le wholeB
      have uncut := (together_iff a memberA _ _ (by omega) (by omega) (by omega)).1 together b
        memberB
      have same : b.lead = a.node.lastRow := by omega
      have := (isClear wholeA same).2
      simp [wholeB] at this

/-- So it is with the declarations of a tree and their rows. -/
theorem keeps_pieces_iff (rows : HasOwnRows table root) (inside : root.lastRow ≤ lastRow) :
    ((∀ node ∈ declarations table root, ∀ row row', node.HasRow row → node.HasRow row' →
        Together (splitTree table root lastRow) row row') ∧
      ((declarations table root).Pairwise fun a b => ∀ row row', a.HasRow row → b.HasRow row' →
        ¬Together (splitTree table root lastRow) row row') ∧
      ∀ piece ∈ pieces table root, piece.isWhole = true →
        Together (splitTree table root lastRow) piece.lead piece.node.firstRow) ↔
      (pieces table root).Pairwise Piece.IsClearOf := by
  obtain ⟨ordered, within⟩ := pairwise_before_pieces rows.layout
  rw [← together_pieces_iff rows inside, ← map_node_pieces, List.pairwise_map,
    List.pairwise_filter]
  have nodes : ∀ node ∈ ((pieces table root).filter (·.isWhole)).map (·.node),
      ∃ a ∈ pieces table root, a.isWhole = true ∧ a.node = node := by
    intro node member
    obtain ⟨a, listed, rfl⟩ := List.mem_map.1 member
    obtain ⟨listed, whole⟩ := List.mem_filter.1 listed
    exact ⟨a, listed, whole, rfl⟩
  constructor
  · rintro ⟨whole, alone, attached⟩
    refine ⟨fun a member isWhole => ?_,
      alone.imp_of_mem fun {a b} memberA memberB apart wholeA wholeB =>
        apart wholeA wholeB _ _ ⟨(within a memberA).first_le_last wholeA, Nat.le_refl _⟩
          ⟨Nat.le_refl _, (within b memberB).first_le_last wholeB⟩⟩
    have lead := (within a member).lead_le_first isWhole
    have le := (within a member).first_le_last isWhole
    have upper := (within a member).last_le isWhole
    -- no border above its first row, and none below
    have above := (together_splitTree_iff ⟨a, member, Nat.le_refl _⟩ lead (by omega)).1
      (attached a member isWhole)
    have below := (together_splitTree_iff ⟨a, member, lead⟩ le (by omega)).1
      (whole a.node (List.mem_map_of_mem (List.mem_filter.2 ⟨member, isWhole⟩)) _ _
        ⟨Nat.le_refl _, le⟩ ⟨le, Nat.le_refl _⟩)
    refine (together_splitTree_iff ⟨a, member, Nat.le_refl _⟩ (by omega) (by omega)).2
      fun piece listed cut => ?_
    have := above piece listed
    have := below piece listed
    omega
  · rintro ⟨whole, alone⟩
    refine ⟨fun node listed row row' has has' => ?_, (ordered.and alone).imp ?_,
      fun a member isWhole => ?_⟩
    · obtain ⟨a, member, isWhole, rfl⟩ := nodes node listed
      have lead := (within a member).lead_le_first isWhole
      exact (whole a member isWhole).mono ⟨Nat.le_trans lead has.1, has.2⟩
        ⟨Nat.le_trans lead has'.1, has'.2⟩
    · rintro a b ⟨before, apart⟩ wholeA wholeB row row' ⟨_, upper⟩ ⟨lower, _⟩ together
      have := before.last_lt wholeA wholeB
      exact apart wholeA wholeB (together.mono (by omega) (by omega))
    · have lead := (within a member).lead_le_first isWhole
      have le := (within a member).first_le_last isWhole
      exact (whole a member isWhole).mono ⟨Nat.le_refl _, by omega⟩ ⟨lead, le⟩

/-! ## Heads of classes -/

/-- A method of a class stands below the lead of the first one. -/
theorem firstLead_le {tree method : SyntaxTree} {members : List SyntaxTree} {lead : Nat}
    (inRows : SyntaxTree.InRows tree.firstRow tree.lastRow members)
    (spread : IsSpread table members) (first : lead ∈ firstLead table members)
    (member : method ∈ members) (isMethod : isMethod table method = true) :
    lead ≤ method.firstRow := by
  obtain ⟨ordered, within⟩ :=
    pairwise_before_memberPieces none false inRows spread (hasGap_zero inRows) (by simp)
  have listed : method ∈
      ((memberPieces table none false members).filter (·.isWhole)).map (·.node) := by
    rw [map_node_memberPieces]
    exact List.mem_filter.2 ⟨member, isMethod⟩
  obtain ⟨piece, found, rfl⟩ := List.mem_map.1 listed
  obtain ⟨listed, whole⟩ := List.mem_filter.1 found
  obtain ⟨head, found, rfl⟩ := Option.map_eq_some_iff.1 first
  refine Nat.le_trans ?_ ((within piece listed).lead_le_first whole)
  cases all : memberPieces table none false members with
  | nil => simp [all] at found
  | cons other rest =>
      rw [all] at found ordered listed
      obtain rfl := Option.some.inj found
      rcases List.mem_cons.1 listed with rfl | listed
      · exact Nat.le_refl _
      · exact ((List.pairwise_cons.1 ordered).1 piece listed).lead_le

/-- **Fields before the first method are in the head of their class, and with no method, if and only
if the first method begins behind them.** -/
theorem heads_iff (rows : HasOwnRows table root) (inside : root.lastRow ≤ lastRow)
    {tree : SyntaxTree} (child : tree ∈ root.children) (boundary : roleOf table tree = .boundary)
    {members : List SyntaxTree} (split : splitMembers table tree = some members)
    {field : SyntaxTree} (member : field ∈ members) :
    (IsInHead table tree field ∧
      ∀ method ∈ members, isMethod table method = true → ∀ row row', field.HasRow row →
        method.HasRow row' → ¬Together (splitTree table root lastRow) row row') ↔
      ∀ lead ∈ firstLead table members, field.lastRow < lead := by
  have treeRows := rows.orderly.children.rows tree child
  have inRows := inRows_of_splitMembers (rows.orderly.of_mem child) split
  have fieldRows := inRows.rows field member
  obtain ⟨lead, _, first, _⟩ := splitClass_of_splitMembers split tree.firstRow
  rw [first]
  constructor
  · rintro ⟨inHead, -⟩ _ ⟨⟩
    obtain ⟨start, stop, spans, found, _, last⟩ := inHead tree.firstRow (Nat.le_refl _)
    obtain ⟨lead', spans', first', found', -⟩ := splitClass_of_splitMembers split tree.firstRow
    obtain rfl := Option.some.inj (first.symm.trans first')
    have parts := found.symm.trans found'
    split at parts
    · simp only [Option.some.injEq, ClassParts.mk.injEq, Prod.mk.injEq] at parts
      omega
    · simp at parts
  · intro below
    have below := below lead rfl
    refine ⟨fun start le => ?_, fun method listed isMethod row row' has has' together => ?_⟩
    · obtain ⟨lead', spans', first', found', -⟩ := splitClass_of_splitMembers split start
      obtain rfl := Option.some.inj (first.symm.trans first')
      rw [if_pos (by omega)] at found'
      exact ⟨start, lead - 1, spans', found', by omega, by omega⟩
    · -- the lead of the first method is a border between the field and the method
      obtain ⟨row₀, isFirst, rowLe, subset⟩ :=
        exists_declarationPieces_subset rows.orderly child boundary
      have pieces_eq : declarationPieces table tree row₀ isFirst =
          ⟨if isFirst then 0 else row₀, tree, false⟩ :: memberPieces table none false members := by
        have begins : row₀ < lead := by omega
        simp [declarationPieces, split, first, begins]
      rw [pieces_eq, List.cons_subset] at subset
      obtain ⟨head, found, rfl⟩ := Option.map_eq_some_iff.1 first
      have methodBelow := firstLead_le inRows (rows.members_spread tree child members split) first
        listed isMethod
      have methodRows := inRows.rows method listed
      obtain ⟨lower₀, upper⟩ := has
      obtain ⟨lower, upper'⟩ := has'
      have top : (if isFirst then 0 else row₀) ≤ row := by
        split <;> omega
      have none := (together_splitTree_iff ⟨_, subset.1, top⟩ (by omega) (by omega)).1 together
      exact none head (subset.2 (List.mem_of_head? found)) ⟨by omega, by omega⟩

/-- Behind a field before the first method no piece begins. -/
theorem le_lead_of_leadingField {gap : Nat} {members : List SyntaxTree} (lead : Option Nat)
    (gapped : HasGap table gap members) {field : SyntaxTree}
    (member : field ∈ leadingFields table members) :
    ∀ piece ∈ memberPieces table lead false members, field.lastRow + gap ≤ piece.lead := by
  induction members generalizing lead with
  | nil => simp [leadingFields] at member
  | cons other members ih =>
      obtain ⟨gapAfter, gapped⟩ := List.pairwise_cons.1 gapped
      obtain ⟨listed, node⟩ := List.mem_filter.1 member
      by_cases method : isMethod table other = true
      · simp [method] at listed
      have listed : field = other ∨ field ∈ leadingFields table members := by
        rw [List.takeWhile_cons_of_pos (by simpa using method), List.mem_cons] at listed
        exact listed.imp_right fun listed => List.mem_filter.2 ⟨listed, node⟩
      by_cases attached : isAttachment table other = true
      · have found : memberPieces table lead false (other :: members) =
            memberPieces table (some (lead.getD other.firstRow)) false members := by
          simp [memberPieces, memberStep, attached]
        rw [found]
        refine ih _ gapped (listed.resolve_left ?_)
        rintro rfl
        simp [attached] at node
      · have found : memberPieces table lead false (other :: members) =
            memberPieces table none false members := by
          simp [memberPieces, memberStep, attached, method]
        rw [found]
        rcases listed with rfl | listed
        · exact le_lead_of_mem_memberPieces table _ _ (by simp) fun next there =>
            gapAfter next there (by simpa using attached)
        · exact ih none gapped listed

/-! ## Main statement -/

/-- **When chunk borders respect declarations.**  Let the nodes of a tree stand on their rows, and
those other than comments and annotations on rows of their own.  Then borders keep declarations
whole, apart from each other and with their attachments, and fields in the heads of classes, if and
only if every piece begins behind the declarations before it, or on the single row of one without
being a declaration itself, and every first method begins behind the fields before it.  So it is if
no comment and no annotation begins on the last row of another node before it. -/
theorem keepsDeclarations_iff (table : NodeTable) (root : SyntaxTree) {lastRow : Nat}
    (rows : HasOwnRows table root) (inside : root.lastRow ≤ lastRow) :
    (KeepsDeclarations table root lastRow ↔
      (pieces table root).Pairwise Piece.IsClearOf ∧ HasClearHeads table root) ∧
    (IsDetached table root → KeepsDeclarations table root lastRow) := by
  have exactly : KeepsDeclarations table root lastRow ↔
      (pieces table root).Pairwise Piece.IsClearOf ∧ HasClearHeads table root := by
    rw [← keeps_pieces_iff rows inside]
    have heads : ∀ tree ∈ root.children, roleOf table tree = .boundary →
        ∀ members, splitMembers table tree = some members →
        ∀ field ∈ leadingFields table members, _ :=
      fun tree child boundary members split field member =>
        heads_iff rows inside child boundary split
          ((List.takeWhile_sublist _).subset (List.mem_filter.1 member).1)
    constructor
    · rintro ⟨whole, alone, attached, held⟩
      exact ⟨⟨whole, alone, attached⟩, fun tree child boundary members split field member =>
        (heads tree child boundary members split field member).1
          (held tree child boundary members split field member)⟩
    · rintro ⟨⟨whole, alone, attached⟩, clear⟩
      exact ⟨whole, alone, attached, fun tree child boundary members split field member =>
        (heads tree child boundary members split field member).2
          (clear tree child boundary members split field member)⟩
  refine ⟨exactly, fun detached => exactly.2 ⟨?_, ?_⟩⟩
  · refine (pairwise_before_pieces (rows.layout_one detached)).1.imp
      fun {a b} before whole same => ?_
    have := before.gap_le whole
    omega
  · intro tree child boundary members split field member lead first
    obtain ⟨piece, found, rfl⟩ := Option.map_eq_some_iff.1 first
    exact le_lead_of_leadingField none
      ((rows.layout_one detached).members_gap tree child members split)
      member piece (List.mem_of_head? found)

/-- A function on some rows. -/
def functionOn (first last : Nat) : SyntaxTree :=
  .node "function_declaration" none ⟨first, 0⟩ ⟨last, 1⟩ "" []

/-- Two functions, the first of which ends on row 2, and a comment on a row between them. -/
def commented (row : Nat) : SyntaxTree :=
  .node "program" none ⟨0, 0⟩ ⟨6, 0⟩ ""
    [functionOn 0 2, .node "comment" none ⟨row, 2⟩ ⟨row, 8⟩ "" [], functionOn 4 5]

theorem splitMembers_eq_none {tree : SyntaxTree} (plain : table.wrappers.lookup tree.kind = none)
    (other : isClassLike table tree = false) : splitMembers table tree = none := by
  have inner : unwrap table tree = tree := by
    rw [unwrap, plain]
  rw [splitMembers, inner, other]
  rfl

theorem splitMembers_commented {row : Nat} {tree : SyntaxTree}
    (child : tree ∈ (commented row).children) : splitMembers Language.scriptTable tree = none := by
  have cases : tree = functionOn 0 2 ∨ tree = .node "comment" none ⟨row, 2⟩ ⟨row, 8⟩ "" [] ∨
      tree = functionOn 4 5 := by simpa [commented, SyntaxTree.children] using child
  rcases cases with rfl | rfl | rfl <;> exact splitMembers_eq_none rfl rfl

theorem hasOwnRows_commented (row : Nat) (between : row = 2 ∨ row = 3) :
    HasOwnRows Language.scriptTable (commented row) where
  orderly := by
    have leaf : ∀ kind start stop, (SyntaxTree.node kind none start stop "" []).IsOrderly :=
      fun _ _ _ => .intro (.nil _ _) (by simp [SyntaxTree.children])
    refine .intro ?_ ?_
    · rcases between with rfl | rfl <;> constructor <;> decide
    · intro child member
      have cases : child = functionOn 0 2 ∨ child = .node "comment" none ⟨row, 2⟩ ⟨row, 8⟩ "" [] ∨
          child = functionOn 4 5 := by simpa [commented, SyntaxTree.children] using member
      rcases cases with rfl | rfl | rfl <;> exact leaf _ _ _
  top_spread := by
    rcases between with rfl | rfl <;> decide
  members_spread tree child members split := by
    rw [splitMembers_commented child] at split
    cases split

/-- A comment on the last row of a function begins too early, one on a row of its own does not. -/
theorem keepsDeclarations_iff_commented :
    HasOwnRows Language.scriptTable (commented 2) ∧
      ¬KeepsDeclarations Language.scriptTable (commented 2) 5 ∧
      HasOwnRows Language.scriptTable (commented 3) ∧
      KeepsDeclarations Language.scriptTable (commented 3) 5 := by
  have late := hasOwnRows_commented 2 (.inl rfl)
  have apart := hasOwnRows_commented 3 (.inr rfl)
  have whole : ∀ first last, splitMembers Language.scriptTable (functionOn first last) = none :=
    fun _ _ => splitMembers_eq_none rfl rfl
  refine ⟨late, fun keeps => ?_, apart, ?_⟩
  · have clear := ((keepsDeclarations_iff Language.scriptTable (commented 2) late
      (Nat.le_refl 5)).1.1 keeps).1
    have pieces_eq : pieces Language.scriptTable (commented 2) =
        [⟨0, functionOn 0 2, true⟩, ⟨2, functionOn 4 5, true⟩] := by
      have found : pieces Language.scriptTable (commented 2) =
          declarationPieces Language.scriptTable (functionOn 0 2) 0 true ++
            (declarationPieces Language.scriptTable (functionOn 4 5) 2 false ++ []) := rfl
      rw [found, declarationPieces, declarationPieces, whole, whole]
      rfl
    rw [pieces_eq, List.pairwise_cons] at clear
    exact absurd (clear.1 _ List.mem_cons_self rfl rfl).2 (by decide)
  · refine (keepsDeclarations_iff Language.scriptTable (commented 3) apart (Nat.le_refl 5)).2
      ⟨by decide, fun tree child members split => ?_⟩
    rw [splitMembers_commented child] at split
    cases split

end CodeIndex.Declaration
