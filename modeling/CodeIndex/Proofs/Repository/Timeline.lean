import CodeIndex.Proofs.Repository.Refresh
import CodeIndex.Proofs.Store.Keyed

/-!
# Commits in the order in which they land

Runs are made while others work on the repository.  What they may meet is a timeline: commits in the
order in which they land, each with its files.  All trees of a timeline are assumed to be plain, to
ignore the same, and to have no backslashes in names, so that a file is the same for whoever walks
the tree, opens a path, or compares two commits.

What a full run takes a path for depends on nothing but the file that lies at it.  So it is the same
at two commits that agree about this file, and it can be told from whoever reads the file at a later
commit than the one at which the path was found.

## Main definitions

* `Timeline`, `Timeline.IsPlain`
* `WorkTree.SameFile`: whether two trees agree about the file at a path.
* `ChangeSet.IsDifference`, `ChangeSet.exactly`: exact differences of two trees.
* `Timeline.NeverReturns`: nothing is changed back.

## Main statements

* `Timeline.IsPlain.indexed?_congr`, `indexed?_of_read`: what paths are taken for along a timeline.
* `ChangeSet.IsDifference.unlisted_iff`: what an exact difference leaves out.
-/

namespace CodeIndex

namespace WorkTree

/-- Whether two trees agree about the file at a path: neither has one, or both have the same one. -/
def SameFile (base head : WorkTree) (path : String) : Prop :=
  (∃ content, base.fileAt? path = some content ∨ head.fileAt? path = some content) →
    base.entries.get? path = head.entries.get? path

theorem SameFile.fileAt?_eq {base head : WorkTree} {path : String}
    (same : SameFile base head path) : base.fileAt? path = head.fileAt? path := by
  cases before : base.fileAt? path with
  | some content =>
      rw [← before, fileAt?, fileAt?, same ⟨content, .inl before⟩]
  | none =>
      cases after : head.fileAt? path with
      | none => rfl
      | some content =>
          rw [← before, ← after, fileAt?, fileAt?, same ⟨content, .inr after⟩]

theorem SameFile.refl (tree : WorkTree) (path : String) : SameFile tree tree path := fun _ => rfl

end WorkTree

/-! ## Exact differences -/

/-- **Whether a list of changes is the difference of two trees:** the files that are new or other
than they were, and those that are gone. -/
structure ChangeSet.IsDifference (changes : ChangeSet) (base head : WorkTree) : Prop where
  changed_iff : ∀ path, path ∈ changes.changed ↔
    (∃ content, head.fileAt? path = some content) ∧
      base.entries.get? path ≠ head.entries.get? path
  deleted_iff : ∀ path, path ∈ changes.deleted ↔
    (∃ content, base.fileAt? path = some content) ∧ head.fileAt? path = none
  nodup : changes.changed.Nodup

namespace ChangeSet.IsDifference

variable {changes : ChangeSet} {base head : WorkTree} (difference : changes.IsDifference base head)

include difference

theorem describes : changes.Describes base head where
  listed path changed := ((difference.changed_iff path).1 changed).1
  complete path content file other := by
    refine (difference.changed_iff path).2 ⟨⟨content, file⟩, fun same => other ?_⟩
    rw [← file, WorkTree.fileAt?, WorkTree.fileAt?, same]
  deleted_iff := difference.deleted_iff

/-- **A difference leaves out** the paths about which both trees agree. -/
theorem unlisted_iff (path : String) :
    ¬(path ∈ changes.deleted ∨ path ∈ changes.changed) ↔ WorkTree.SameFile base head path := by
  rw [difference.deleted_iff, difference.changed_iff]
  constructor
  · rintro unlisted ⟨content, before | after⟩
    · by_contra other
      cases after : head.fileAt? path with
      | none => exact unlisted (.inl ⟨⟨content, before⟩, after⟩)
      | some content' => exact unlisted (.inr ⟨⟨content', after⟩, other⟩)
    · by_contra other
      exact unlisted (.inr ⟨⟨content, after⟩, other⟩)
  · rintro same (⟨⟨content, before⟩, gone⟩ | ⟨⟨content, after⟩, other⟩)
    · rw [same.fileAt?_eq, gone] at before
      cases before
    · exact other (same ⟨content, .inr after⟩)

end ChangeSet.IsDifference

/-- The difference of two trees, file by file. -/
def ChangeSet.exactly (base head : WorkTree) : ChangeSet where
  changed := (head.files.map (·.1)).filter fun path =>
    base.entries.get? path ≠ head.entries.get? path
  deleted := (base.files.map (·.1)).filter fun path => head.fileAt? path = none

theorem ChangeSet.isDifference_exactly (base head : WorkTree) :
    (ChangeSet.exactly base head).IsDifference base head where
  changed_iff path := by
    rw [exactly, List.mem_filter, WorkTree.mem_files_iff, decide_eq_true_iff]
  deleted_iff path := by
    rw [exactly, List.mem_filter, WorkTree.mem_files_iff, decide_eq_true_iff]
  nodup := head.nodup_files.filter _

/-! ## Timelines -/

/-- **Commits in the order in which they land:** the name of each, and the files that it has. -/
structure Timeline where
  name : Nat → String
  tree : Nat → WorkTree

namespace Timeline

/-- Whether all trees of a timeline are plain, ignore the same, and need no respelling. -/
structure IsPlain [Walk] (line : Timeline) : Prop where
  plain : ∀ i, (line.tree i).IsPlain
  sameRules : ∀ i j, IgnoreRules.load (line.tree i) = IgnoreRules.load (line.tree j)
  kept : ∀ i path content, (line.tree i).fileAt? path = some content → '\\' ∉ path.toList

/-- Whether nothing is changed back from one commit to another: where both agree about a file, all
commits between them do. -/
def NeverReturns (line : Timeline) (first last : Nat) : Prop :=
  ∀ path, WorkTree.SameFile (line.tree first) (line.tree last) path →
    ∀ i, first ≤ i → i ≤ last → (line.tree i).fileAt? path = (line.tree last).fileAt? path

namespace IsPlain

variable [Walk] {line : Timeline} (plain : line.IsPlain)

include plain

/-- What a path is taken for depends on the file that lies at it. -/
theorem indexed?_congr {i j : Nat} {path : String}
    (same : (line.tree i).fileAt? path = (line.tree j).fileAt? path) :
    (line.tree i).indexed? path = (line.tree j).indexed? path := by
  by_cases canonical : Path.IsCanonical path
  · cases file : (line.tree i).fileAt? path with
    | none =>
        rw [(plain.plain i).indexed?_of_canonical canonical file,
          (plain.plain j).indexed?_of_canonical canonical (same ▸ file)]
    | some content =>
        have kept := plain.kept i path content file
        rw [(plain.plain i).indexed?_of_fileAt file kept,
          (plain.plain j).indexed?_of_fileAt (same ▸ file) kept, plain.sameRules i j]
  · rw [(plain.plain i).indexed?_of_not_canonical (plain.kept i) canonical,
      (plain.plain j).indexed?_of_not_canonical (plain.kept j) canonical]

/-- Discovery finds the eligible files. -/
theorem mem_discover {i : Nat} {path : String} :
    path ∈ (line.tree i).discover (IgnoreRules.load (line.tree i)) ↔
      isEligible (IgnoreRules.load (line.tree i)) path = true ∧
        ∃ content, (line.tree i).fileAt? path = some content := by
  rw [(plain.plain i).mem_discover]
  refine and_congr_right fun _ => ⟨?_, fun ⟨content, file⟩ => ?_⟩
  · rintro ⟨original, content, file, rfl⟩
    rw [Path.slashed_eq_self_iff.2 (plain.kept i original content file)]
    exact ⟨content, file⟩
  · exact ⟨path, content, file, Path.slashed_eq_self_iff.2 (plain.kept i path content file)⟩

/-- **A path that was eligible at one commit is taken for its text** at whichever commit it is
read. -/
theorem indexed?_of_read {i j : Nat} {path text : String} (canonical : Path.IsCanonical path)
    (eligible : isEligible (IgnoreRules.load (line.tree i)) path = true)
    (content : (line.tree j).read path = .ok text) :
    (line.tree j).indexed? path = some text := by
  cases file : (line.tree j).fileAt? path with
  | none =>
      obtain ⟨⟨e, unreadable⟩, -⟩ :=
        WorkTree.IsPlain.read_of_canonical (plain.plain j).unlinked canonical file
      rw [unreadable] at content
      cases content
  | some there =>
      rw [(plain.plain j).indexed?_of_fileAt file (plain.kept j path there file),
        plain.sameRules j i, if_pos eligible, ← ((plain.plain j).read_of_fileAt file).1, content]
      rfl

/-- A path that is not eligible at one commit is taken for nothing at any other. -/
theorem indexed?_of_not_eligible {i j : Nat} {path : String}
    (ineligible : ¬isEligible (IgnoreRules.load (line.tree i)) path = true) :
    (line.tree j).indexed? path = none := by
  refine if_neg fun found => ineligible ?_
  rw [plain.sameRules i j]
  exact (plain.mem_discover.1 found).1

/-- A canonical path that leads to no file is taken for nothing. -/
theorem indexed?_of_not_isFile {i : Nat} {path : String} (canonical : Path.IsCanonical path)
    (missing : ¬(line.tree i).isFile path = true) : (line.tree i).indexed? path = none := by
  refine (plain.plain i).indexed?_of_canonical canonical (Option.eq_none_iff_forall_ne_some.2 ?_)
  exact fun content file => missing ((plain.plain i).read_of_fileAt file).2

theorem nodup_discover (i : Nat) :
    ((line.tree i).discover (IgnoreRules.load (line.tree i))).Nodup :=
  WorkTree.nodup_discover _ (plain.kept i)

end IsPlain

end Timeline

end CodeIndex
