import CodeIndex.Proofs.Chunk.Pieces
import Mathlib.Data.List.DropRight

/-!
# Places among siblings

A walk over siblings carries along what has not found its declaration yet: the row on which the next
span is to begin, and the annotations that it is to have.  Whatever happened to them on the way, at
each node they are a function of what stands before it.  A node with the siblings before it is a
*place*, and what becomes of the node is said of its place: the annotations right before it are
those behind the last sibling that is neither a comment nor an annotation.

Here this is done for the members of a class.  Methods, and classes behind the first method, become
parts, each with its own lead, symbol, parent and annotations, and the state of the walk is read off
the members so far (`MemberWalk.Recounts`).

## Main definitions

* `Place`, `places`: nodes with the siblings before them.
* `Part`: what is known about a span, apart from where it ends.
* `methodPart`, `nestedPart`: the parts of a class.

## Main statements

* `MemberWalk.recounts_foldl`: a walk over members is a function of the members.
* `map_part_splitClass`: the members of a class that is taken apart.
* `notes_sublist`: an annotation belongs to one method at most.
-/

namespace CodeIndex

/-- What is known about a span from the start: the row on which it begins, and what it holds. -/
structure Part where
  lead : Nat
  kind : ChunkKind
  symbol : Option String
  parent : Option String
  annotations : List String
deriving DecidableEq

/-- What is known about a span, apart from where it ends. -/
def Span.part (span : Span) : Part :=
  ⟨span.start, span.kind, span.symbol, span.parent, span.annotations⟩

namespace Declaration

/-! ## Places -/

/-- A node, and the siblings that stand before it. -/
structure Place where
  before : List SyntaxTree
  node : SyntaxTree

/-- The places of some siblings that stand behind others. -/
def placesFrom (before : List SyntaxTree) : List SyntaxTree → List Place
  | [] => []
  | tree :: trees => ⟨before, tree⟩ :: placesFrom (before ++ [tree]) trees

/-- The places of some siblings. -/
def places (siblings : List SyntaxTree) : List Place := placesFrom [] siblings

theorem placesFrom_append_singleton (before siblings : List SyntaxTree) (tree : SyntaxTree) :
    placesFrom before (siblings ++ [tree]) =
      placesFrom before siblings ++ [⟨before ++ siblings, tree⟩] := by
  induction siblings generalizing before with
  | nil => simp [placesFrom]
  | cons first siblings ih => simp [placesFrom, ih]

@[simp] theorem places_nil : places [] = [] := rfl

@[simp] theorem places_append_singleton (siblings : List SyntaxTree) (tree : SyntaxTree) :
    places (siblings ++ [tree]) = places siblings ++ [⟨siblings, tree⟩] :=
  placesFrom_append_singleton [] siblings tree

variable (table : NodeTable)

/-- The comments and annotations right before a place. -/
def attachmentsOf (before : List SyntaxTree) : List SyntaxTree :=
  before.rtakeWhile (isAttachment table)

/-- The annotations right before a place: those behind the last sibling that is no attachment. -/
def notesBefore (before : List SyntaxTree) : List SyntaxTree :=
  (attachmentsOf table before).filter (isAnnotationNode table)

/-- The texts of the annotations right before a place. -/
def noteTexts (before : List SyntaxTree) : List String :=
  (notesBefore table before).map fun note => Text.trimmed note.text

/-- The row on which some nodes begin, or the one behind them if there are none. -/
def rowOf (companions : List SyntaxTree) (node : SyntaxTree) : Nat :=
  (companions.head?.getD node).firstRow

/-! ## Parts of a class -/

/-- The siblings before a member that begin its span: attachments, and behind a method everything
since the last method or class. -/
def companionsOf (before : List SyntaxTree) : List SyntaxTree :=
  if before.any (isMethod table) then
    before.rtakeWhile fun member => isAttachment table member ||
      !(isMethod table member || isClassLike table (unwrap table member))
  else attachmentsOf table before

/-- The row on which the span of a member begins. -/
def memberLead (place : Place) : Nat := rowOf (companionsOf table place.before) place.node

/-- Whether a member is a class behind the first method. -/
def isNestedClass (place : Place) : Bool :=
  place.before.any (isMethod table) && !isAttachment table place.node &&
    !isMethod table place.node && isClassLike table (unwrap table place.node)

/-- The places of the methods among members. -/
def methodPlaces (members : List SyntaxTree) : List Place :=
  (places members).filter fun place => isMethod table place.node

/-- The places of the classes behind the first method. -/
def nestedPlaces (members : List SyntaxTree) : List Place :=
  (places members).filter (isNestedClass table)

/-- **What a method becomes:** a part with its name, the name of its class, and the annotations
right before it and in it. -/
def methodPart (className : Option String) (place : Place) : Part where
  lead := memberLead table place
  kind := memberKind (unwrap table place.node)
  symbol := nameOf (unwrap table place.node)
  parent := className
  annotations := noteTexts table place.before ++ annotationsOf table place.node

/-- What a class behind the first method becomes. -/
def nestedPart (className : Option String) (place : Place) : Part where
  lead := memberLead table place
  kind := .ofNode (unwrap table place.node).kind
  symbol := nameOf (unwrap table place.node)
  parent := className
  annotations := annotationsOf table place.node

/-- The parts of a class that is taken apart: its methods, and the classes behind the first one. -/
def memberParts (className : Option String) (members : List SyntaxTree) : List Part :=
  (methodPlaces table members).map (methodPart table className) ++
    (nestedPlaces table members).map (nestedPart table className)

/-- The row on which the span of the first method begins. -/
def firstMethodLead (members : List SyntaxTree) : Option Nat :=
  (methodPlaces table members).head?.map (memberLead table)

variable {table}

section Append

variable {before : List SyntaxTree} {tree : SyntaxTree}

theorem attachmentsOf_append_attachment (attached : isAttachment table tree = true) :
    attachmentsOf table (before ++ [tree]) = attachmentsOf table before ++ [tree] :=
  List.rtakeWhile_concat_pos _ _ _ attached

theorem attachmentsOf_append_other (other : isAttachment table tree = false) :
    attachmentsOf table (before ++ [tree]) = [] :=
  List.rtakeWhile_concat_neg _ _ _ (by simp [other])

theorem notesBefore_append_attachment (attached : isAttachment table tree = true) :
    notesBefore table (before ++ [tree]) =
      notesBefore table before ++ [tree].filter (isAnnotationNode table) := by
  rw [notesBefore, attachmentsOf_append_attachment attached, List.filter_append, notesBefore]

theorem notesBefore_append_other (other : isAttachment table tree = false) :
    notesBefore table (before ++ [tree]) = [] := by
  rw [notesBefore, attachmentsOf_append_other other]
  rfl

theorem noteTexts_append_attachment (attached : isAttachment table tree = true) :
    noteTexts table (before ++ [tree]) = noteTexts table before ++
      if isAnnotationNode table tree then [Text.trimmed tree.text] else [] := by
  rw [noteTexts, notesBefore_append_attachment attached, List.map_append]
  by_cases note : isAnnotationNode table tree <;> simp [note, noteTexts]

theorem noteTexts_append_other (other : isAttachment table tree = false) :
    noteTexts table (before ++ [tree]) = [] := by
  rw [noteTexts, notesBefore_append_other other]
  rfl

/-- What begins at the first of some nodes begins there also if one more is added. -/
theorem head?_append_singleton (companions : List SyntaxTree) (tree : SyntaxTree) :
    (companions ++ [tree]).head?.map (·.firstRow) =
      some ((companions.head?.map (·.firstRow)).getD tree.firstRow) := by
  cases companions <;> rfl

theorem getD_head? (companions : List SyntaxTree) (tree : SyntaxTree) :
    (companions.head?.map (·.firstRow)).getD tree.firstRow = rowOf companions tree := by
  cases companions <;> rfl

theorem companionsOf_append_attachment (attached : isAttachment table tree = true) :
    companionsOf table (before ++ [tree]) = companionsOf table before ++ [tree] := by
  have noMethod : isMethod table tree = false := by simp [isMethod, attached]
  unfold companionsOf
  rw [List.any_append, List.any_cons, noMethod]
  split
  · rename_i seen
    rw [if_pos (by simpa using seen), List.rtakeWhile_concat_pos _ _ _ (by simp [attached])]
  · rename_i none
    rw [if_neg (by simpa using none), attachmentsOf_append_attachment attached]

theorem companionsOf_append_method (method : isMethod table tree = true) :
    companionsOf table (before ++ [tree]) = [] := by
  have other : isAttachment table tree = false := by
    rw [isMethod, Bool.and_eq_true, Bool.not_eq_true'] at method
    exact method.1
  unfold companionsOf
  rw [if_pos (by simp [method]), List.rtakeWhile_concat_neg _ _ _ (by simp [other, method])]

/-- A member that is no method goes along with what follows if it is a field behind a method. -/
theorem companionsOf_append_other (other : isAttachment table tree = false)
    (noMethod : isMethod table tree = false) :
    companionsOf table (before ++ [tree]) =
      if before.any (isMethod table) && !isClassLike table (unwrap table tree) then
        companionsOf table before ++ [tree]
      else [] := by
  unfold companionsOf
  rw [List.any_append, List.any_cons, noMethod, List.any_nil, Bool.or_false, Bool.or_false]
  by_cases seen : before.any (isMethod table)
  · by_cases classLike : isClassLike table (unwrap table tree)
    · simp [seen, classLike, other, noMethod]
    · simp [seen, classLike, other, noMethod]
  · simp [seen, attachmentsOf_append_other other]

theorem methodPlaces_append : methodPlaces table (before ++ [tree]) = methodPlaces table before ++
    if isMethod table tree then [⟨before, tree⟩] else [] := by
  rw [methodPlaces, places_append_singleton, List.filter_append]
  by_cases method : isMethod table tree <;> simp [method, methodPlaces]

theorem nestedPlaces_append : nestedPlaces table (before ++ [tree]) = nestedPlaces table before ++
    if isNestedClass table ⟨before, tree⟩ then [⟨before, tree⟩] else [] := by
  rw [nestedPlaces, places_append_singleton, List.filter_append]
  by_cases nested : isNestedClass table ⟨before, tree⟩ <;> simp [nested, nestedPlaces]

end Append

/-- There is a method among members if and only if one of them has a place. -/
theorem any_isMethod_eq (members : List SyntaxTree) :
    members.any (isMethod table) = (firstMethodLead table members).isSome := by
  rw [firstMethodLead, Option.isSome_map]
  induction members using List.reverseRecOn with
  | nil => rfl
  | append_singleton members member ih =>
      rw [methodPlaces_append, List.any_append, ih, List.any_cons, List.any_nil, Bool.or_false]
      cases methodPlaces table members <;> cases isMethod table member <;> rfl

/-! ## The walk over the members of a class -/

namespace MemberWalk

/-- **What a walk has come to behind some members:** each of its fields is a function of them. -/
structure Recounts (table : NodeTable) (className : Option String) (before : List SyntaxTree)
    (walk : MemberWalk) : Prop where
  methods : walk.methods.map Span.part =
    (methodPlaces table before).map (methodPart table className)
  nested : walk.nested.map Span.part =
    (nestedPlaces table before).map (nestedPart table className)
  firstMethod : walk.firstMethod = firstMethodLead table before
  pendingStart : walk.pendingStart = (companionsOf table before).head?.map (·.firstRow)
  pendingAnnotations : walk.pendingAnnotations = noteTexts table before

variable {className : Option String} {before : List SyntaxTree} {walk : MemberWalk}
variable {member : SyntaxTree}

theorem recounts_start (className : Option String) : Recounts table className [] .start :=
  ⟨rfl, rfl, rfl, rfl, rfl⟩

namespace Recounts

variable (recounts : Recounts table className before walk)

include recounts

theorem pendingStart_getD :
    walk.pendingStart.getD member.firstRow = memberLead table ⟨before, member⟩ := by
  rw [recounts.pendingStart, getD_head?, memberLead]

theorem step_attachment (attached : isAttachment table member = true) :
    Recounts table className (before ++ [member]) (walk.step table className member) := by
  have noMethod : isMethod table member = false := by simp [isMethod, attached]
  have noClass : isNestedClass table ⟨before, member⟩ = false := by simp [isNestedClass, attached]
  have stepped : walk.step table className member = { walk with
      pendingStart := some (walk.pendingStart.getD member.firstRow)
      pendingAnnotations := walk.pendingAnnotations ++
        if isAnnotationNode table member then [Text.trimmed member.text] else [] } := by
    simp [MemberWalk.step, attached]
  rw [stepped]
  constructor
  · simpa [methodPlaces_append, noMethod] using recounts.methods
  · simpa [nestedPlaces_append, noClass] using recounts.nested
  · simpa [firstMethodLead, methodPlaces_append, noMethod] using recounts.firstMethod
  · rw [companionsOf_append_attachment attached, head?_append_singleton, recounts.pendingStart]
  · rw [noteTexts_append_attachment attached, recounts.pendingAnnotations]

theorem step_method (other : isAttachment table member = false)
    (method : (unwrap table member).kind ∈ table.methods) :
    Recounts table className (before ++ [member]) (walk.step table className member) := by
  have isMethod : isMethod table member = true := by simp [isMethod, other, method]
  have noClass : isNestedClass table ⟨before, member⟩ = false := by
    simp [isNestedClass, isMethod]
  have stepped : walk.step table className member = { walk with
      methods := walk.methods ++
        [{ Span.rows (memberLead table ⟨before, member⟩) member.lastRow
            (memberKind (unwrap table member)) with
          symbol := nameOf (unwrap table member)
          parent := className
          annotations := noteTexts table before ++ annotationsOf table member }]
      firstMethod := some (walk.firstMethod.getD (memberLead table ⟨before, member⟩))
      pendingStart := none
      pendingAnnotations := [] } := by
    simp [MemberWalk.step, other, method, recounts.pendingStart_getD, recounts.pendingAnnotations]
  rw [stepped]
  constructor
  · rw [methodPlaces_append, if_pos isMethod, List.map_append, List.map_append, recounts.methods]
    rfl
  · simpa [nestedPlaces_append, noClass] using recounts.nested
  · rw [firstMethodLead, methodPlaces_append, if_pos isMethod, recounts.firstMethod,
      firstMethodLead]
    cases methodPlaces table before <;> rfl
  · rw [companionsOf_append_method isMethod]
    rfl
  · rw [noteTexts_append_other other]

/-- A class behind the first method. -/
theorem step_nested (other : isAttachment table member = false)
    (noMethod : (unwrap table member).kind ∉ table.methods)
    (seen : walk.firstMethod.isSome = true)
    (classLike : isClassLike table (unwrap table member) = true) :
    Recounts table className (before ++ [member]) (walk.step table className member) := by
  have isMethod : isMethod table member = false := by simp [isMethod, noMethod]
  have behind : before.any (Declaration.isMethod table) = true := by
    rwa [any_isMethod_eq, ← recounts.firstMethod]
  have nested : isNestedClass table ⟨before, member⟩ = true := by
    simp [isNestedClass, behind, other, isMethod, classLike]
  have stepped : walk.step table className member = { walk with
      nested := walk.nested ++
        [{ Span.rows (memberLead table ⟨before, member⟩) member.lastRow
            (.ofNode (unwrap table member).kind) with
          symbol := nameOf (unwrap table member)
          parent := className
          annotations := annotationsOf table member }]
      pendingStart := none
      pendingAnnotations := [] } := by
    obtain ⟨first, seen⟩ := Option.isSome_iff_exists.1 seen
    simp [MemberWalk.step, other, noMethod, seen, classLike, recounts.pendingStart_getD]
  rw [stepped]
  constructor
  · simpa [methodPlaces_append, isMethod] using recounts.methods
  · rw [nestedPlaces_append, if_pos nested, List.map_append, List.map_append, recounts.nested]
    rfl
  · simpa [firstMethodLead, methodPlaces_append, isMethod] using recounts.firstMethod
  · rw [companionsOf_append_other other isMethod]
    simp [classLike]
  · rw [noteTexts_append_other other]

/-- Fields, and classes before the first method. -/
theorem step_field (other : isAttachment table member = false)
    (noMethod : (unwrap table member).kind ∉ table.methods)
    (field : walk.firstMethod.isSome = true → isClassLike table (unwrap table member) = false) :
    Recounts table className (before ++ [member]) (walk.step table className member) := by
  have isMethod : isMethod table member = false := by simp [isMethod, noMethod]
  have behind : before.any (Declaration.isMethod table) = walk.firstMethod.isSome := by
    rw [any_isMethod_eq, recounts.firstMethod]
  have noClass : isNestedClass table ⟨before, member⟩ = false := by
    cases seen : walk.firstMethod.isSome with
    | false => simp [isNestedClass, behind, seen]
    | true => simp [isNestedClass, field seen]
  have stepped : walk.step table className member = { walk with
      pendingStart := if walk.firstMethod.isSome then
        some (walk.pendingStart.getD member.firstRow) else none
      pendingAnnotations := [] } := by
    cases seen : walk.firstMethod with
    | none => simp [MemberWalk.step, other, noMethod, seen]
    | some first => simp [MemberWalk.step, other, noMethod, seen, field (by simp [seen])]
  rw [stepped]
  constructor
  · simpa [methodPlaces_append, isMethod] using recounts.methods
  · simpa [nestedPlaces_append, noClass] using recounts.nested
  · simpa [firstMethodLead, methodPlaces_append, isMethod] using recounts.firstMethod
  · rw [companionsOf_append_other other isMethod, behind]
    cases seen : walk.firstMethod.isSome with
    | false => simp
    | true => simp [field seen, recounts.pendingStart]
  · rw [noteTexts_append_other other]

/-- Each member is read where it stands. -/
theorem step (member : SyntaxTree) :
    Recounts table className (before ++ [member]) (walk.step table className member) := by
  cases other : isAttachment table member with
  | true => exact recounts.step_attachment other
  | false =>
      by_cases method : (unwrap table member).kind ∈ table.methods
      · exact recounts.step_method other method
      · by_cases nested : walk.firstMethod.isSome = true ∧
            isClassLike table (unwrap table member) = true
        · exact recounts.step_nested other method nested.1 nested.2
        · exact recounts.step_field other method fun seen =>
            Bool.eq_false_iff.2 fun classLike => nested ⟨seen, classLike⟩

end Recounts

/-- **A walk over members is a function of the members.** -/
theorem recounts_foldl (table : NodeTable) (className : Option String)
    (members : List SyntaxTree) :
    Recounts table className members (members.foldl (step table className) .start) := by
  induction members using List.reverseRecOn with
  | nil => exact recounts_start className
  | append_singleton members member ih =>
      rw [List.foldl_append]
      exact ih.step member

end MemberWalk

/-! ## Classes that are taken apart -/

theorem map_part_extendLast (row : Nat) (spans : List Span) :
    (extendLast row spans).map Span.part = spans.map Span.part := by
  induction spans with
  | nil => rfl
  | cons span spans ih =>
      cases spans with
      | nil => rfl
      | cons next spans => exact congrArg (span.part :: ·) ih

theorem firstLead_eq (members : List SyntaxTree) :
    firstLead table members = firstMethodLead table members := by
  have walked := (MemberWalk.recounts_foldl table none members).firstMethod
  have known := (MemberWalk.foldl_step_eq table none members .start).2
  exact (Option.none_or ..).symm.trans (known.symm.trans walked)

/-- **What becomes of the members of a class that is taken apart:** a part for each method, and one
for each class behind the first. -/
theorem map_part_splitClass {tree : SyntaxTree} {members : List SyntaxTree}
    (split : splitMembers table tree = some members) (start : Nat) :
    ∃ first spans, firstMethodLead table members = some first ∧
      splitClass table tree start =
        some ⟨if start < first then some (start, first - 1) else none, spans⟩ ∧
      spans.map Span.part = memberParts table (nameOf (unwrap table tree)) members := by
  obtain ⟨classLike, body, there, rfl, method⟩ := splitMembers_eq_some_iff.1 split
  rw [any_isMethod_eq] at method
  obtain ⟨first, lead⟩ := Option.isSome_iff_exists.1 method
  let walk := (membersOf table body).foldl
    (MemberWalk.step table (nameOf (unwrap table tree))) .start
  refine ⟨first, extendLast tree.lastRow walk.methods ++ walk.nested, lead, ?_, ?_⟩
  · rw [splitClass_eq, if_pos classLike, there, Option.bind_some, firstLead_eq, lead,
      Option.map_some]
  · have walked := MemberWalk.recounts_foldl table (nameOf (unwrap table tree))
      (membersOf table body)
    rw [List.map_append, map_part_extendLast, walked.methods, walked.nested, memberParts]

end Declaration

end CodeIndex
