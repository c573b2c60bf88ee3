import CodeIndex.Proofs.Repository.Spelling
import CodeIndex.Proofs.Store.Points
import CodeIndex.Repository.Discovery

/-!
# Plain trees

In a tree without links, in which no eligible file is passed over, paths lead where they say: a
canonical path can be read if and only if a text file lies at it, and discovery finds the eligible
files, each under its respelled path.

What a path in another spelling leads to is not said here.  Discovery can find such paths, since it
respells what it finds, and a path with backslashes may be respelled to a name of another file.

## Main definitions

* `WorkTree.fileAt?`: the file that lies at a path, taken literally.
* `WorkTree.IsPlain`

## Main statements

* `WorkTree.IsPlain.read_of_fileAt`, `read_of_canonical`: which paths can be read.
* `WorkTree.IsPlain.mem_discover`: what discovery finds.
-/

namespace CodeIndex

/-! ## Plain trees -/

/-- The text of a file, if it is one. -/
def FileContent.asText : FileContent → Except WorkTree.ReadError String
  | .text content => .ok content
  | .undecodable _ => .error .notText

namespace WorkTree

/-- The file that lies at a path, taken literally. -/
def fileAt? (tree : WorkTree) (path : String) : Option FileContent :=
  match tree.entries.get? path with
  | some (.file content _) => some content
  | _ => none

/-- Whether entries lie at canonical paths, in directories, as they do in any file system. -/
structure IsNested (tree : WorkTree) : Prop where
  canonical : ∀ path entry, tree.entries.get? path = some entry → Path.IsCanonical path
  within : ∀ path entry, tree.entries.get? path = some entry → ∀ directory rest,
    Path.segments path.toList = directory ++ rest → rest ≠ [] →
      tree.entry? directory = some .directory

/-- **Whether paths lead where they say,** and walks meet what is eligible: entries lie at canonical
paths, in directories, and are no links; and the walk passes over no eligible file. -/
structure IsPlain [Walk] (tree : WorkTree) : Prop where
  canonical : ∀ path entry, tree.entries.get? path = some entry → Path.IsCanonical path
  within : ∀ path entry, tree.entries.get? path = some entry → ∀ directory rest,
    Path.segments path.toList = directory ++ rest → rest ≠ [] →
      tree.entry? directory = some .directory
  unlinked : ∀ path target, tree.entries.get? path ≠ some (.link target)
  met : ∀ path content, tree.fileAt? path = some content →
    isEligible (IgnoreRules.load tree) (Path.slashed path) = true →
      tree.isMet (Path.segments path.toList) = true

/-- The files of a tree are listed with their paths. -/
theorem mem_files_iff {tree : WorkTree} {path : String} :
    path ∈ tree.files.map (·.1) ↔ ∃ content, tree.fileAt? path = some content := by
  rw [List.mem_map]
  constructor
  · rintro ⟨⟨path, content, isExecutable⟩, member, rfl⟩
    obtain ⟨⟨key, entry⟩, listed, found⟩ := List.mem_filterMap.1 member
    cases entry with
    | file content' isExecutable' =>
        obtain ⟨rfl, rfl, rfl⟩ :
            key = path ∧ content' = content ∧ isExecutable' = isExecutable := by
          simpa using found
        refine ⟨content', ?_⟩
        rw [fileAt?, Dictionary.mem_toList_iff.1 listed]
    | directory => cases found
    | link target => cases found
  · rintro ⟨content, file⟩
    unfold fileAt? at file
    split at file
    · rename_i content' isExecutable entry
      refine ⟨(path, content', isExecutable), ?_, rfl⟩
      exact List.mem_filterMap.2 ⟨_, Dictionary.mem_toList_iff.2 entry, rfl⟩
    · cases file

/-- A tree lists each of its files once. -/
theorem nodup_files (tree : WorkTree) : (tree.files.map (·.1)).Nodup := by
  refine List.Nodup.sublist ?_ tree.entries.nodup_keys
  unfold files Dictionary.keys Dictionary.toList
  induction tree.entries.entries with
  | nil => exact .slnil
  | cons first entries ih =>
      obtain ⟨path, entry⟩ := first
      cases entry with
      | file content isExecutable => exact ih.cons_cons path
      | directory => exact ih.cons path
      | link target => exact ih.cons path

/-- Discovery finds each file once where nothing has to be respelled. -/
theorem nodup_discover [Walk] {tree : WorkTree} (rules : IgnoreRules)
    (kept : ∀ path content, tree.fileAt? path = some content → '\\' ∉ path.toList) :
    (tree.discover rules).Nodup := by
  have spelled : tree.met.map Path.slashed = tree.met := by
    refine (List.map_congr_left fun path member => ?_).trans (List.map_id _)
    obtain ⟨content, file⟩ := mem_files_iff.1 (List.mem_filter.1 member).1
    exact Path.slashed_eq_self_iff.2 (kept path content file)
  rw [discover, (List.mergeSort_perm _ _).nodup_iff, spelled]
  exact (tree.nodup_files.filter _).filter _

variable {tree : WorkTree}

theorem IsPlain.isNested [Walk] (plain : tree.IsPlain) : tree.IsNested :=
  ⟨plain.canonical, plain.within⟩

namespace IsPlain

theorem entryAt_of_ne_nil {place : Segments} (named : place ≠ []) :
    tree.entry? place = tree.entries.get? (Path.ofSegments place) := by
  unfold entry?
  rw [List.isEmpty_eq_false_iff.2 named]
  rfl

theorem entryAt_segments {path : String} (canonical : Path.IsCanonical path) :
    tree.entry? (Path.segments path.toList) = tree.entries.get? path := by
  rw [entryAt_of_ne_nil canonical.named, canonical.spelled]

/-- A walk without links ends where the path says, if it ends. -/
theorem eq_of_walk (unlinked : ∀ path target, tree.entries.get? path ≠ some (.link target))
    {links : Nat} {here path place : Segments} (inside : ['.', '.'] ∉ path)
    (walk : tree.walk links here path = .ok place) : place = here.reverse ++ path := by
  induction path generalizing here with
  | nil =>
      rw [WorkTree.walk] at walk
      simpa using (Except.ok.inj walk).symm
  | cons segment path ih =>
      rw [List.mem_cons, not_or] at inside
      -- without double points and links, a walk only goes down
      have forward : (segment == ['.', '.']) = false := beq_false_of_ne (Ne.symm inside.1)
      rw [WorkTree.walk.eq_def] at walk
      simp only [forward, Bool.false_eq_true, if_false] at walk
      cases entry : tree.entry? (segment :: here).reverse with
      | none =>
          rw [entry] at walk
          cases walk
      | some entry' =>
          rw [entry] at walk
          cases entry' with
          | directory => simpa using ih inside.2 walk
          | file content isExecutable =>
              cases path with
              | nil => simpa using (Except.ok.inj walk).symm
              | cons next path => cases walk
          | link target =>
              rw [entryAt_of_ne_nil (by simp)] at entry
              exact absurd entry (unlinked _ target)

/-- A walk along directories arrives. -/
theorem walk_of_directories {links : Nat} {here path : Segments} {content : FileContent}
    {isExecutable : Bool} (inside : ['.', '.'] ∉ path) (named : path ≠ [])
    (directories : ∀ taken rest, path = taken ++ rest → rest ≠ [] →
      tree.entry? (here.reverse ++ taken) = some .directory)
    (there : tree.entry? (here.reverse ++ path) = some (.file content isExecutable)) :
    tree.walk links here path = .ok (here.reverse ++ path) := by
  induction path generalizing here with
  | nil => exact absurd rfl named
  | cons segment path ih =>
      rw [List.mem_cons, not_or] at inside
      have forward : (segment == ['.', '.']) = false := beq_false_of_ne (Ne.symm inside.1)
      rw [WorkTree.walk.eq_def]
      simp only [forward, Bool.false_eq_true, if_false]
      cases path with
      | nil =>
          rw [List.reverse_cons, there]
          rfl
      | cons next path =>
          have first : tree.entry? (segment :: here).reverse = some .directory := by
            rw [List.reverse_cons]
            exact directories [segment] (next :: path) rfl (List.cons_ne_nil _ _)
          rw [first]
          have arrived : tree.walk links (segment :: here) (next :: path) =
              .ok ((segment :: here).reverse ++ next :: path) := by
            refine ih inside.2 (List.cons_ne_nil _ _) (fun taken rest same further => ?_) ?_
            · have step := directories (segment :: taken) rest (by rw [same]; rfl) further
              simpa using step
            · simpa using there
          simpa using arrived

/-- **Where no file lies, a canonical path leads to no file.** -/
theorem read_of_canonical (unlinked : ∀ path target, tree.entries.get? path ≠ some (.link target))
    {path : String} (canonical : Path.IsCanonical path) (none : tree.fileAt? path = none) :
    (∃ e, tree.read path = .error e) ∧ tree.isFile path = false := by
  cases resolve : tree.resolve path with
  | error e =>
      refine ⟨⟨e, by rw [read, resolve]⟩, ?_⟩
      rw [isFile, find?, resolve]
      rfl
  | ok place =>
      obtain rfl : place = Path.segments path.toList := by
        rw [WorkTree.resolve, canonical.head?_ne_slash,
          canonical.asksForDirectory_eq_false] at resolve
        simp only [Bool.false_eq_true, if_false, Bool.false_and] at resolve
        cases walk : tree.walk maxLinks [] (Path.segments path.toList) with
        | error e =>
            rw [walk] at resolve
            cases resolve
        | ok place' =>
            rw [walk] at resolve
            cases resolve
            exact eq_of_walk unlinked canonical.inside walk
      unfold fileAt? at none
      rw [read, isFile, find?, resolve]
      simp only [entryAt_segments canonical, Except.toOption, Option.bind_some]
      cases entry : tree.entries.get? path with
      | none => exact ⟨⟨_, rfl⟩, rfl⟩
      | some entry' =>
          cases entry' with
          | directory => exact ⟨⟨_, rfl⟩, rfl⟩
          | link target => exact ⟨⟨_, rfl⟩, rfl⟩
          | file content isExecutable =>
              rw [entry] at none
              cases none

end IsPlain

namespace IsNested

variable (nested : tree.IsNested)

include nested

/-- A file is found where it lies. -/
theorem resolve_of_fileAt {path : String} {content : FileContent}
    (file : tree.fileAt? path = some content) :
    ∃ place isExecutable, tree.resolve path = .ok place ∧
      tree.entry? place = some (.file content isExecutable) := by
  obtain ⟨isExecutable, entry⟩ : ∃ isExecutable,
      tree.entries.get? path = some (.file content isExecutable) := by
    unfold fileAt? at file
    split at file
    · rename_i content' isExecutable entry
      exact ⟨isExecutable, Option.some.inj file ▸ entry⟩
    · cases file
  have canonical := nested.canonical path _ entry
  have there := (IsPlain.entryAt_segments canonical).trans entry
  have walk : tree.walk maxLinks [] (Path.segments path.toList) =
      .ok (Path.segments path.toList) :=
    IsPlain.walk_of_directories canonical.inside canonical.named (nested.within path _ entry) there
  refine ⟨Path.segments path.toList, isExecutable, ?_, there⟩
  rw [resolve, canonical.head?_ne_slash, canonical.asksForDirectory_eq_false, walk]
  rfl

/-- **A file is read where it lies.** -/
theorem read_of_fileAt {path : String} {content : FileContent}
    (file : tree.fileAt? path = some content) :
    tree.read path = content.asText ∧ tree.isFile path = true := by
  obtain ⟨place, isExecutable, resolve, there⟩ := nested.resolve_of_fileAt file
  constructor
  · rw [read, resolve]
    simp only [there]
    cases content <;> rfl
  · rw [isFile, find?, resolve]
    simp [Except.toOption, there]

end IsNested

namespace IsPlain

variable [Walk] (plain : tree.IsPlain)

include plain

/-- In a plain tree, too, a file is read where it lies. -/
theorem read_of_fileAt {path : String} {content : FileContent}
    (file : tree.fileAt? path = some content) :
    tree.read path = content.asText ∧ tree.isFile path = true :=
  plain.isNested.read_of_fileAt file

theorem canonical_of_fileAt {path : String} {content : FileContent}
    (file : tree.fileAt? path = some content) : Path.IsCanonical path := by
  unfold fileAt? at file
  split at file
  · rename_i entry
    exact plain.canonical path _ entry
  · cases file

/-- **What discovery finds** are the eligible ones of the respelled paths of files. -/
theorem mem_discover {path : String} :
    path ∈ tree.discover (IgnoreRules.load tree) ↔
      isEligible (IgnoreRules.load tree) path = true ∧
        ∃ original content, tree.fileAt? original = some content ∧
          Path.slashed original = path := by
  rw [discover, List.mem_mergeSort, List.mem_filter, List.mem_map]
  constructor
  · rintro ⟨⟨original, met, rfl⟩, eligible⟩
    obtain ⟨content, file⟩ := mem_files_iff.1 (List.mem_filter.1 met).1
    exact ⟨eligible, original, content, file, rfl⟩
  · rintro ⟨eligible, original, content, file, rfl⟩
    refine ⟨⟨original, List.mem_filter.2 ⟨mem_files_iff.2 ⟨content, file⟩, ?_⟩, rfl⟩, eligible⟩
    exact plain.met original content file eligible

end IsPlain

/-! ## What ignore files leave -/

/-- Where there are no ignore files, the walk passes over what is hidden. -/
theorem isPassedOver_eq_isHidden {tree : WorkTree} {path : Segments} (isDirectory : Bool)
    (silent : ∀ directory ∈ ancestors path,
      ∀ name ∈ [".ignore", ".gitignore", ".git/info/exclude"],
        tree.text? (child directory name) = none) :
    tree.isPassedOver path isDirectory = isHidden path := by
  have silence : ∀ name ∈ [".ignore", ".gitignore", ".git/info/exclude"],
      ∀ directories ⊆ ancestors path,
        tree.nearestVerdict? name path isDirectory directories = none := by
    intro name listed directories part
    refine List.findSome?_eq_none_iff.2 fun directory member => ?_
    rw [verdictIn?, silent directory (part member) name listed]
    rfl
  have part : tree.governing path ⊆ ancestors path := by
    unfold governing
    dsimp only
    split
    · exact List.take_subset _ _
    · exact List.nil_subset _
  have verdict : tree.verdict? path isDirectory = none := by
    rw [verdict?, silence ".ignore" (by simp) _ (List.Subset.refl _),
      silence ".gitignore" (by simp) _ part,
      silence ".git/info/exclude" (by simp) _ part]
    rfl
  rw [isPassedOver, verdict]

/-! ## Flat trees -/

/-- Whether a tree has nothing but visible files, all of them at its root. -/
structure IsFlat (tree : WorkTree) : Prop where
  file : ∀ path entry, tree.entries.get? path = some entry →
    ∃ content isExecutable, entry = .file content isExecutable
  root : ∀ path entry, tree.entries.get? path = some entry →
    Path.segments path.toList = [path.toList]
  visible : ∀ path entry, tree.entries.get? path = some entry → path.toList.head? ≠ some '.'

namespace IsFlat

variable {tree : WorkTree} (flat : tree.IsFlat)

include flat

theorem isNested : tree.IsNested := by
  refine ⟨fun path entry there => ⟨?_, ?_, ?_⟩,
    fun path entry there directory rest split further => ?_⟩
  · rw [flat.root path entry there]
    exact String.ofList_toList
  · rw [flat.root path entry there]
    exact List.cons_ne_nil _ _
  · rw [flat.root path entry there, List.mem_singleton]
    intro up
    exact flat.visible path entry there (by rw [← up]; rfl)
  · rw [flat.root path entry there] at split
    cases directory with
    | nil => rfl
    | cons first others =>
        exact absurd (List.append_eq_nil_iff.1 (List.cons.inj split).2.symm).2 further

theorem unlinked (path target : String) : tree.entries.get? path ≠ some (.link target) := by
  intro there
  obtain ⟨_, _, impossible⟩ := flat.file path _ there
  cases impossible

/-- Visible files are none of those that have a say. -/
theorem text?_of_hidden {path : String} (canonical : Path.IsCanonical path)
    (hidden : path.toList.head? = some '.') : tree.text? path = none := by
  have absent : tree.fileAt? path = none := by
    unfold fileAt?
    cases there : tree.entries.get? path with
    | none => rfl
    | some entry => exact absurd hidden (flat.visible path entry there)
  obtain ⟨⟨e, unreadable⟩, -⟩ := IsPlain.read_of_canonical flat.unlinked canonical absent
  rw [text?, unreadable]
  rfl

theorem load_eq : IgnoreRules.load tree = IgnoreRules.none := by
  have silent : tree.text? ignoreFileName = none :=
    flat.text?_of_hidden ⟨by decide, by decide, by decide⟩ (by decide)
  rw [IgnoreRules.load, silent]
  rfl

/-- **Visible files at the root make a plain tree.** -/
theorem isPlain : tree.IsPlain := by
  refine ⟨flat.isNested.canonical, flat.isNested.within, flat.unlinked,
    fun path content there _ => ?_⟩
  obtain ⟨entry, there⟩ : ∃ entry, tree.entries.get? path = some entry := by
    unfold fileAt? at there
    split at there
    · exact ⟨_, by assumption⟩
    · cases there
  have root : ancestors [path.toList] = [[]] := rfl
  have passed : Walk.passesOver tree [path.toList] false = isHidden [path.toList] := by
    refine isPassedOver_eq_isHidden false fun directory member ignoreFile listed => ?_
    rw [root, List.mem_singleton] at member
    subst member
    have known : ignoreFile = ".ignore" ∨ ignoreFile = ".gitignore" ∨
        ignoreFile = ".git/info/exclude" := by simpa using listed
    rcases known with rfl | rfl | rfl
    · exact flat.text?_of_hidden ⟨by decide, by decide, by decide⟩ (by decide)
    · exact flat.text?_of_hidden ⟨by decide, by decide, by decide⟩ (by decide)
    · exact flat.text?_of_hidden ⟨by decide, by decide, by decide⟩ (by decide)
  have shown : isHidden [path.toList] = false := by
    simpa [isHidden] using flat.visible path entry there
  rw [isMet, flat.root path entry there, root, passed, shown]
  rfl

end IsFlat

/-- The tree with a file at its root. -/
def adding (tree : WorkTree) (name : String) (content : FileContent) : WorkTree :=
  ⟨tree.entries.insert name (.file content false)⟩

theorem fileAt?_adding (tree : WorkTree) (name path : String) (content : FileContent) :
    (tree.adding name content).fileAt? path =
      if name = path then some content else tree.fileAt? path := by
  unfold fileAt? adding
  rw [Dictionary.get?_insert]
  by_cases same : name = path <;> simp [same]

theorem isFlat_empty : empty.IsFlat := ⟨nofun, nofun, nofun⟩

/-- A flat tree stays flat if a visible file is added. -/
theorem IsFlat.adding {tree : WorkTree} (flat : tree.IsFlat) {name : String}
    (segment : Path.segments name.toList = [name.toList]) (visible : name.toList.head? ≠ some '.')
    (content : FileContent) : (tree.adding name content).IsFlat := by
  have cases : ∀ path entry, (tree.adding name content).entries.get? path = some entry →
      path = name ∧ entry = .file content false ∨ tree.entries.get? path = some entry := by
    intro path entry there
    rw [WorkTree.adding, Dictionary.get?_insert] at there
    by_cases same : name = path
    · rw [if_pos same] at there
      exact .inl ⟨same.symm, (Option.some.inj there).symm⟩
    · rw [if_neg same] at there
      exact .inr there
  refine ⟨fun path entry there => ?_, fun path entry there => ?_, fun path entry there => ?_⟩
  · rcases cases path entry there with ⟨rfl, rfl⟩ | there
    · exact ⟨content, false, rfl⟩
    · exact flat.file path entry there
  · rcases cases path entry there with ⟨rfl, rfl⟩ | there
    · exact segment
    · exact flat.root path entry there
  · rcases cases path entry there with ⟨rfl, rfl⟩ | there
    · exact visible
    · exact flat.visible path entry there

/-! ## Trees of one file -/

/-- The tree with one file at its root. -/
def single (name : String) (content : FileContent) : WorkTree :=
  ⟨Dictionary.empty.insert name (.file content false)⟩

section Single

variable {name : String} {content : FileContent}

theorem get?_single {path : String} {entry : Entry} :
    (single name content).entries.get? path = some entry ↔
      name = path ∧ .file content false = entry := by
  rw [single, Dictionary.get?_insert]
  by_cases same : name = path <;> simp [same]

theorem fileAt?_single {path : String} {content' : FileContent} :
    (single name content).fileAt? path = some content' ↔ name = path ∧ content = content' := by
  unfold fileAt? single
  rw [Dictionary.get?_insert]
  by_cases same : name = path <;> simp [same]

/-- A file that is not there has no text. -/
theorem text?_single_of_ne {path : String} (canonical : Path.IsCanonical path)
    (other : name ≠ path) :
    (single name content).text? path = none := by
  have absent : (single name content).fileAt? path = none := by
    rw [Option.eq_none_iff_forall_ne_some]
    exact fun content' there => other (fileAt?_single.1 there).1
  obtain ⟨⟨e, unreadable⟩, -⟩ := IsPlain.read_of_canonical
    (fun path target there => by cases (get?_single.1 there).2) canonical absent
  rw [text?, unreadable]
  rfl

/-- A file at the root lies in the tree itself. -/
theorem isNested_single (canonical : Path.IsCanonical name)
    (segment : Path.segments name.toList = [name.toList]) : (single name content).IsNested := by
  refine ⟨fun path entry there => ?_, fun path entry there directory rest split further => ?_⟩
  · obtain ⟨rfl, -⟩ := get?_single.1 there
    exact canonical
  · obtain ⟨rfl, -⟩ := get?_single.1 there
    rw [segment] at split
    cases directory with
    | nil => rfl
    | cons first others =>
        have rest := (List.append_eq_nil_iff.1 (List.cons.inj split).2.symm).2
        exact absurd rest further

variable (segment : Path.segments name.toList = [name.toList])
variable (visible : name.toList.head? ≠ some '.')

include visible

theorem load_single : IgnoreRules.load (single name content) = IgnoreRules.none := by
  have silent : (single name content).text? ignoreFileName = none :=
    text?_single_of_ne ⟨by decide, by decide, by decide⟩ fun same => visible (by rw [same]; decide)
  rw [IgnoreRules.load, silent]
  rfl

include segment

theorem isFlat_single : (single name content).IsFlat := isFlat_empty.adding segment visible content

/-- **A visible file at the root makes a plain tree.** -/
theorem isPlain_single : (single name content).IsPlain := (isFlat_single segment visible).isPlain

/-- Discovery finds the file if it is eligible. -/
theorem mem_discover_single (kept : '\\' ∉ name.toList) {path : String} :
    path ∈ (single name content).discover (IgnoreRules.load (single name content)) ↔
      path = name ∧ isEligible IgnoreRules.none name = true := by
  rw [(isPlain_single segment visible).mem_discover, load_single visible]
  have same := Path.slashed_eq_self_iff.2 kept
  constructor
  · rintro ⟨eligible, original, content', file, rfl⟩
    obtain ⟨rfl, -⟩ := fileAt?_single.1 file
    exact ⟨same, same ▸ eligible⟩
  · rintro ⟨rfl, eligible⟩
    exact ⟨eligible, path, content, fileAt?_single.2 ⟨rfl, rfl⟩, same⟩

end Single

end WorkTree

end CodeIndex
