import CodeIndex.Proofs.Repository.PlainTree
import CodeIndex.Repository.Changes

/-!
# Keeping up with a tree

A full run goes by what discovery finds; an incremental run goes by a list of changes, and leaves
everything else as an earlier run has left it.  For each path this comes down to one text, or none:
`indexed?` is what a full run takes the path for, and `refreshed?` is what it has been taken for
after an incremental run that followed a full run of an earlier tree.

For plain trees and lists that describe their difference, the two agree on all canonical paths
without backslashes.  They disagree about changed paths with backslashes, which discovery respells
and never finds, and they may disagree about respelled paths that are no canonical ones.

## Main statements

* `WorkTree.refreshed?_eq_indexed?`: where both agree.
* `WorkTree.refreshed?_of_backslash`, `refreshed?_of_not_canonical`: what happens elsewhere.
-/

namespace CodeIndex

/-- **Whether a list of changes describes the difference of two trees.**  Files that are new or
differ are listed as changed, and files that are gone, and no others, as deleted; a file may be
listed as changed although it is the same. -/
structure ChangeSet.Describes (changes : ChangeSet) (base head : WorkTree) : Prop where
  listed : ∀ path ∈ changes.changed, ∃ content, head.fileAt? path = some content
  complete : ∀ path content, head.fileAt? path = some content →
    base.fileAt? path ≠ some content → path ∈ changes.changed
  deleted_iff : ∀ path, path ∈ changes.deleted ↔
    (∃ content, base.fileAt? path = some content) ∧ head.fileAt? path = none

namespace WorkTree

/-- A file that is written anew is all the difference. -/
theorem describes_single (name : String) (before after : FileContent) :
    ChangeSet.Describes ⟨[name], []⟩ (single name before) (single name after) := by
  refine ⟨fun path changed => ?_, fun path content file _ => ?_, fun path => ⟨fun gone => ?_, ?_⟩⟩
  · obtain rfl := List.mem_singleton.1 changed
    exact ⟨after, fileAt?_single.2 ⟨rfl, rfl⟩⟩
  · obtain ⟨rfl, -⟩ := fileAt?_single.1 file
    exact List.mem_cons_self
  · cases gone
  · rintro ⟨⟨content, file⟩, absent⟩
    obtain ⟨rfl, -⟩ := fileAt?_single.1 file
    have there : (single name after).fileAt? name = some after := fileAt?_single.2 ⟨rfl, rfl⟩
    rw [absent] at there
    cases there

/-- The text that a full run takes a path for. -/
def indexed? [Walk] (tree : WorkTree) (path : String) : Option String :=
  if path ∈ tree.discover (IgnoreRules.load tree) then tree.text? path else none

/-- Whether an incremental run takes a path. -/
def Takes (head : WorkTree) (changes : ChangeSet) (path : String) : Prop :=
  path ∈ changes.changed ∧ isEligible (IgnoreRules.load head) path = true ∧ head.isFile path = true

instance (head : WorkTree) (changes : ChangeSet) (path : String) :
    Decidable (head.Takes changes path) :=
  inferInstanceAs (Decidable (_ ∧ _ ∧ _))

/-- The text that a path has been taken for after a full run of `base` and an incremental run of
`head`. -/
def refreshed? [Walk] (base head : WorkTree) (changes : ChangeSet) (path : String) :
    Option String :=
  if head.Takes changes path then head.text? path
  else if path ∈ changes.deleted ∨ path ∈ changes.changed then none
  else base.indexed? path

/-- Where the text that a path has been taken for comes from. -/
theorem of_refreshed? [Walk] {base head : WorkTree} {changes : ChangeSet} {path text : String}
    (taken : refreshed? base head changes path = some text) :
    path ∈ changes.changed ∧ head.text? path = some text ∨ base.indexed? path = some text := by
  unfold refreshed? at taken
  split at taken
  · rename_i takes
    exact .inl ⟨takes.1, taken⟩
  · split at taken
    · cases taken
    · exact .inr taken

/-! ## What a full run takes paths for -/

section Indexed

variable [Walk] {tree : WorkTree} (plain : tree.IsPlain)

include plain

theorem IsPlain.indexed?_of_fileAt {path : String} {content : FileContent}
    (file : tree.fileAt? path = some content) (kept : '\\' ∉ path.toList) :
    tree.indexed? path =
      if isEligible (IgnoreRules.load tree) path then content.asText.toOption else none := by
  have found : path ∈ tree.discover (IgnoreRules.load tree) ↔
      isEligible (IgnoreRules.load tree) path = true := by
    rw [plain.mem_discover]
    exact ⟨fun ⟨eligible, _⟩ => eligible, fun eligible =>
      ⟨eligible, path, content, file, Path.slashed_eq_self_iff.2 kept⟩⟩
  rw [indexed?, text?, (plain.read_of_fileAt file).1]
  simp only [found]

/-- Discovery never finds a path with backslashes. -/
theorem IsPlain.indexed?_of_backslash {path : String} (back : '\\' ∈ path.toList) :
    tree.indexed? path = none := by
  refine if_neg fun found => ?_
  obtain ⟨-, original, -, -, rfl⟩ := plain.mem_discover.1 found
  exact Path.backslash_notMem_slashed original back

/-- A canonical path where no file lies cannot be read, even if discovery finds it. -/
theorem IsPlain.indexed?_of_canonical {path : String} (canonical : Path.IsCanonical path)
    (absent : tree.fileAt? path = none) : tree.indexed? path = none := by
  obtain ⟨⟨e, unreadable⟩, -⟩ := IsPlain.read_of_canonical plain.unlinked canonical absent
  rw [indexed?, text?, unreadable]
  exact ite_self _

/-- Where no name has a backslash, discovery finds canonical paths only. -/
theorem IsPlain.indexed?_of_not_canonical
    (without : ∀ path content, tree.fileAt? path = some content → '\\' ∉ path.toList)
    {path : String}
    (other : ¬Path.IsCanonical path) : tree.indexed? path = none := by
  refine if_neg fun found => ?_
  obtain ⟨-, original, content, file, rfl⟩ := plain.mem_discover.1 found
  rw [Path.slashed_eq_self_iff.2 (without original content file)] at other
  exact other (plain.canonical_of_fileAt file)

end Indexed

/-- A tree of one file has nothing else to be taken for something. -/
theorem of_indexed?_single {name path text taken : String}
    (segment : Path.segments name.toList = [name.toList]) (visible : name.toList.head? ≠ some '.')
    (kept : '\\' ∉ name.toList) (was : (single name (.text text)).indexed? path = some taken) :
    path = name ∧ taken = text := by
  unfold indexed? at was
  split at was
  · rename_i found
    obtain ⟨rfl, -⟩ := (mem_discover_single segment visible kept).1 found
    rw [text?,
      ((isPlain_single segment visible).read_of_fileAt (fileAt?_single.2 ⟨rfl, rfl⟩)).1] at was
    exact ⟨rfl, (Option.some.inj was).symm⟩
  · cases was

/-! ## What an incremental run makes of it -/

section Refreshed

variable {base head : WorkTree} {changes : ChangeSet} {path : String}
variable [Walk] (plainBase : base.IsPlain) (plainHead : head.IsPlain)
variable (describes : changes.Describes base head)

include plainBase

/-- A path with backslashes is taken for its text if it is listed as changed, and for nothing
otherwise. -/
theorem refreshed?_of_backslash (back : '\\' ∈ path.toList) :
    refreshed? base head changes path =
      if head.Takes changes path then head.text? path else none := by
  unfold refreshed?
  rw [plainBase.indexed?_of_backslash back, ite_self]

include plainHead describes

/-- A path that is not canonical keeps what it was taken for. -/
theorem refreshed?_of_not_canonical (other : ¬Path.IsCanonical path) :
    refreshed? base head changes path = base.indexed? path := by
  have unchanged : path ∉ changes.changed := fun member => by
    obtain ⟨content, file⟩ := describes.listed path member
    exact other (plainHead.canonical_of_fileAt file)
  have undeleted : path ∉ changes.deleted := fun member => by
    obtain ⟨⟨content, file⟩, -⟩ := (describes.deleted_iff path).1 member
    exact other (plainBase.canonical_of_fileAt file)
  rw [refreshed?, if_neg fun taken => unchanged taken.1, if_neg (not_or.2 ⟨undeleted, unchanged⟩)]

variable (sameRules : IgnoreRules.load base = IgnoreRules.load head)

include sameRules

/-- **On canonical paths without backslashes both runs come to the same.** -/
theorem refreshed?_eq_indexed? (canonical : Path.IsCanonical path) (kept : '\\' ∉ path.toList) :
    refreshed? base head changes path = head.indexed? path := by
  cases file : head.fileAt? path with
  | none =>
      -- the file is gone, or was never there
      rw [plainHead.indexed?_of_canonical canonical file]
      have unchanged : path ∉ changes.changed := fun member => by
        obtain ⟨content, there⟩ := describes.listed path member
        rw [file] at there
        cases there
      rw [refreshed?, if_neg fun taken => unchanged taken.1]
      cases before : base.fileAt? path with
      | none =>
          rw [plainBase.indexed?_of_canonical canonical before]
          exact ite_self _
      | some content =>
          exact if_pos (.inl ((describes.deleted_iff path).2 ⟨⟨content, before⟩, file⟩))
  | some content =>
      obtain ⟨read, isFile⟩ := plainHead.read_of_fileAt file
      rw [plainHead.indexed?_of_fileAt file kept]
      by_cases changed : path ∈ changes.changed
      · -- what is listed as changed is taken again if it is eligible, and removed otherwise
        rw [refreshed?, text?, read]
        by_cases eligible : isEligible (IgnoreRules.load head) path = true
        · rw [if_pos ⟨changed, eligible, isFile⟩, if_pos eligible]
        · rw [if_neg fun taken => eligible taken.2.1, if_pos (.inr changed), if_neg eligible]
      · -- what is not listed is as it was
        have undeleted : path ∉ changes.deleted := fun member => by
          have absent := ((describes.deleted_iff path).1 member).2
          rw [file] at absent
          cases absent
        have before : base.fileAt? path = some content := by
          by_contra other
          exact changed (describes.complete path content file other)
        rw [refreshed?, if_neg fun taken => changed taken.1, if_neg (not_or.2 ⟨undeleted, changed⟩),
          plainBase.indexed?_of_fileAt before kept, sameRules]

end Refreshed

end WorkTree

end CodeIndex
