import CodeIndex.Proofs.Run.IncrementalRun
import CodeIndex.Proofs.Repository.PlainTree

/-!
# Which files the two kinds of runs select

A full run takes the eligible files that a walk meets; an incremental run takes the changed paths
that are eligible and lead to a file.  Being eligible is the same test for both.  What differs is
how a file is found: the walk passes over what is hidden or ignored, follows no links, and respells
backslashes, and an incremental run does nothing of this.  So both select a path alike exactly if
it is not eligible, or lies open to the walk under its own spelling, or is a file just when a file
with a backslash in its name is respelled to it.

For the paths that a list of changes usually has, in trees without links and backslashes, only the
first difference is left: an eligible file that the walk passes over is taken by incremental runs
alone.

## Main definitions

* `WorkTree.LiesOpen`: the walk meets a file.

## Main statements

* `WorkTree.mem_discover_iff`: discovery finds what is eligible and lies open.
* `Indexer.selections_agree_iff`: when both kinds of runs select a path alike.
-/

namespace CodeIndex

namespace WorkTree

variable {tree : WorkTree} {path : String}

/-- Whether a file lies at a path, and the walk meets it there. -/
def LiesOpen [Walk] (tree : WorkTree) (path : String) : Prop :=
  (∃ content, tree.fileAt? path = some content) ∧ tree.isMet (Path.segments path.toList) = true

/-- **What discovery finds,** in any tree: eligible paths to which a file that lies open is
respelled. -/
theorem mem_discover_iff [Walk] {rules : IgnoreRules} :
    path ∈ tree.discover rules ↔
      isEligible rules path = true ∧ ∃ original, tree.LiesOpen original ∧
        Path.slashed original = path := by
  rw [discover, List.mem_mergeSort, List.mem_filter, List.mem_map, and_comm]
  refine and_congr_right fun _ => exists_congr fun original => and_congr_left fun _ => ?_
  rw [met, List.mem_filter, mem_files_iff, LiesOpen]

/-- A file that lies open under the spelling of a path without backslashes lies open at the path, or
has a backslash in its name. -/
theorem exists_liesOpen_iff [Walk] :
    (∃ original, tree.LiesOpen original ∧ Path.slashed original = path) ↔
      ('\\' ∉ path.toList ∧ tree.LiesOpen path) ∨
        ∃ original, '\\' ∈ original.toList ∧ tree.LiesOpen original ∧
          Path.slashed original = path := by
  constructor
  · rintro ⟨original, lies, rfl⟩
    by_cases back : '\\' ∈ original.toList
    · exact .inr ⟨original, back, lies, rfl⟩
    · rw [Path.slashed_eq_self_iff.2 back]
      exact .inl ⟨back, lies⟩
  · rintro (⟨kept, lies⟩ | ⟨original, -, lies, same⟩)
    · exact ⟨path, lies, Path.slashed_eq_self_iff.2 kept⟩
    · exact ⟨original, lies, same⟩

/-- What lies open is a file. -/
theorem LiesOpen.isFile [Walk] (lies : tree.LiesOpen path) (nested : tree.IsNested) :
    tree.isFile path = true := by
  obtain ⟨⟨content, file⟩, -⟩ := lies
  exact (nested.read_of_fileAt file).2

/-- In a tree without links, canonical paths of files are those where files lie. -/
theorem isFile_iff (nested : tree.IsNested)
    (unlinked : ∀ path target, tree.entries.get? path ≠ some (.link target))
    (canonical : Path.IsCanonical path) :
    tree.isFile path = true ↔ ∃ content, tree.fileAt? path = some content := by
  constructor
  · intro isFile
    cases file : tree.fileAt? path with
    | some content => exact ⟨content, rfl⟩
    | none =>
        rw [(IsPlain.read_of_canonical unlinked canonical file).2] at isFile
        cases isFile
  · rintro ⟨content, file⟩
    exact (nested.read_of_fileAt file).2

/-- **When both ways to select a path agree.** -/
theorem IsNested.selects_iff [Walk] (nested : tree.IsNested) {rules : IgnoreRules} :
    ((isEligible rules path && tree.isFile path) = true ↔ path ∈ tree.discover rules) ↔
      isEligible rules path = false ∨ ('\\' ∉ path.toList ∧ tree.LiesOpen path) ∨
        (tree.isFile path = true ↔ ∃ original, '\\' ∈ original.toList ∧ tree.LiesOpen original ∧
          Path.slashed original = path) := by
  rw [mem_discover_iff, exists_liesOpen_iff]
  cases isEligible rules path with
  | false => simp
  | true =>
      by_cases own : '\\' ∉ path.toList ∧ tree.LiesOpen path
      · rw [own.2.isFile nested]
        exact iff_of_true (iff_of_true rfl ⟨rfl, .inl own⟩) (.inr (.inl own))
      · simp only [own, Bool.true_and, false_or, true_and, Bool.true_eq_false]

/-- In a tree without links and backslashes, a canonical path is selected alike if and only if no
file that the walk passes over lies there. -/
theorem IsNested.selects_iff_isMet [Walk] (nested : tree.IsNested) {rules : IgnoreRules}
    (unlinked : ∀ path target, tree.entries.get? path ≠ some (.link target))
    (kept : ∀ path content, tree.fileAt? path = some content → '\\' ∉ path.toList)
    (canonical : Path.IsCanonical path) :
    ((isEligible rules path && tree.isFile path) = true ↔ path ∈ tree.discover rules) ↔
      (isEligible rules path = true → ∀ content, tree.fileAt? path = some content →
        tree.isMet (Path.segments path.toList) = true) := by
  have alone : ¬∃ original, '\\' ∈ original.toList ∧ tree.LiesOpen original ∧
      Path.slashed original = path := by
    rintro ⟨original, back, ⟨⟨content, file⟩, -⟩, -⟩
    exact kept original content file back
  rw [nested.selects_iff, isFile_iff nested unlinked canonical]
  cases isEligible rules path with
  | false => simp
  | true =>
      constructor
      · rintro (impossible | ⟨-, -, met⟩ | none) - content file
        · cases impossible
        · exact met
        · exact absurd (none.1 ⟨content, file⟩) alone
      · intro met
        by_cases file : ∃ content, tree.fileAt? path = some content
        · obtain ⟨content, file⟩ := file
          exact .inr (.inl ⟨kept path content file, ⟨content, file⟩, met rfl content file⟩)
        · exact .inr (.inr (iff_of_false file alone))

end WorkTree

namespace Indexer

variable {σ γ : Type} {around : Surroundings σ} {before : Clocked (World σ γ)}

/-- **When both kinds of runs select a path alike.**  Take any tree, with any ignore files, hidden
entries and links, and any path in a list of changes.  Whether an incremental run that sees the tree
accepts the path if and only if a full run that sees it discovers the path is told exactly; and for
canonical paths in trees without links and backslashes it comes down to whether the walk passes over
an eligible file there. -/
theorem selections_agree_iff [Walk] {tree : WorkTree}
    (seen : around.tree before.state.step = some tree) (nested : tree.IsNested)
    {changed : List String} {path : String} (told : path ∈ changed) :
    ∃ accepted found,
      (eligibleChanges around changed).outcome before = (.ok accepted, RunM.looked before) ∧
      (discovered around).outcome before = (.ok found, RunM.looked before) ∧
      ((path ∈ accepted ↔ path ∈ found) ↔
        isEligible (IgnoreRules.load tree) path = false ∨
        ('\\' ∉ path.toList ∧ tree.LiesOpen path) ∨
        (tree.isFile path = true ↔ ∃ original, '\\' ∈ original.toList ∧ tree.LiesOpen original ∧
          Path.slashed original = path)) ∧
      ((∀ path target, tree.entries.get? path ≠ some (.link target)) →
        (∀ path content, tree.fileAt? path = some content → '\\' ∉ path.toList) →
        Path.IsCanonical path →
        ((path ∈ accepted ↔ path ∈ found) ↔
          (isEligible (IgnoreRules.load tree) path = true →
            ∀ content, tree.fileAt? path = some content →
              tree.isMet (Path.segments path.toList) = true))) := by
  have accepted : path ∈ around.eligibleAt before.state.step changed ↔
      (isEligible (IgnoreRules.load tree) path && tree.isFile path) = true := by
    rw [Surroundings.eligibleAt, seen, List.mem_filter]
    exact and_iff_right told
  have found : around.discoveredAt before.state.step = tree.discover (IgnoreRules.load tree) := by
    rw [Surroundings.discoveredAt, seen]
    rfl
  refine ⟨around.eligibleAt before.state.step changed, around.discoveredAt before.state.step,
    rfl, rfl, ?_, fun unlinked kept canonical => ?_⟩
  · rw [accepted, found]
    exact nested.selects_iff
  · rw [accepted, found]
    exact nested.selects_iff_isMet unlinked kept canonical

/-- A hidden file that is reported as changed: an incremental run accepts it, and a full run does
not discover it. -/
theorem selections_agree_iff_hidden :
    let tree := WorkTree.single ".b.md" (.text "two")
    let around : Surroundings Unit := .still (some tree) (.ok "head") fun _ => .ok ⟨[".b.md"], []⟩
    tree.IsNested ∧
      ∃ accepted found,
        (eligibleChanges around [".b.md"]).outcome freshWorld =
            (.ok accepted, RunM.looked freshWorld) ∧
          (discovered around).outcome freshWorld = (.ok found, RunM.looked freshWorld) ∧
          ¬(".b.md" ∈ accepted ↔ ".b.md" ∈ found) := by
  intro tree around
  have canonical : Path.IsCanonical ".b.md" := ⟨by decide, by decide, by decide⟩
  have nested : tree.IsNested := WorkTree.isNested_single canonical (by decide)
  have silent : ∀ path : String, Path.IsCanonical path → ".b.md" ≠ path → tree.text? path = none :=
    fun path => WorkTree.text?_single_of_ne
  have rules : IgnoreRules.load tree = IgnoreRules.none := by
    rw [IgnoreRules.load, silent ignoreFileName ⟨by decide, by decide, by decide⟩ (by decide)]
    rfl
  have passed : tree.isMet (Path.segments ".b.md".toList) = false := by
    have root : WorkTree.ancestors (Path.segments ".b.md".toList) = [[]] := by decide
    have hidden : Walk.passesOver tree (Path.segments ".b.md".toList) false = true := by
      refine (WorkTree.isPassedOver_eq_isHidden false
        fun directory member name listed => ?_).trans ?_
      rotate_left
      · decide
      · rw [root, List.mem_singleton] at member
        subst member
        simp only [List.mem_cons, List.not_mem_nil, or_false] at listed
        rcases listed with rfl | rfl | rfl
        · exact silent _ ⟨by decide, by decide, by decide⟩ (by decide)
        · exact silent _ ⟨by decide, by decide, by decide⟩ (by decide)
        · exact silent _ ⟨by decide, by decide, by decide⟩ (by decide)
    rw [WorkTree.isMet, hidden]
    rfl
  refine ⟨nested, ?_⟩
  have seen : around.tree freshWorld.state.step = some tree := rfl
  obtain ⟨accepted, found, accepts, finds, -, usual⟩ :=
    selections_agree_iff seen nested (List.mem_singleton_self ".b.md")
  refine ⟨accepted, found, accepts, finds, fun agree => ?_⟩
  have unlinked : ∀ path target, tree.entries.get? path ≠ some (.link target) :=
    fun path target there => by cases (WorkTree.get?_single.1 there).2
  have kept : ∀ path content, tree.fileAt? path = some content → '\\' ∉ path.toList := by
    intro path content file
    obtain ⟨rfl, -⟩ := WorkTree.fileAt?_single.1 file
    decide
  have met := (usual unlinked kept canonical).1 agree (by rw [rules]; decide) (.text "two")
    (WorkTree.fileAt?_single.2 ⟨rfl, rfl⟩)
  rw [passed] at met
  cases met

end Indexer

end CodeIndex
