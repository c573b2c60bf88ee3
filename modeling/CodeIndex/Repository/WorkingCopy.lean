import CodeIndex.Repository.Discovery
import CodeIndex.Repository.History

/-!
# Working copies

A work tree with the history that it is committed to. Committing takes in every file and link that
is not ignored, and ignored ones that were committed before. Switching to a branch puts its files in
place of those of the branch before.

## Main definitions

* `WorkingCopy`
* `WorkingCopy.commit`, `WorkingCopy.switch`
-/

namespace CodeIndex

/-- A work tree and its history. -/
structure WorkingCopy where
  tree : WorkTree
  history : History

namespace WorkingCopy

/-- A new repository in an empty directory. -/
def init : WorkingCopy := ⟨WorkTree.empty.makeDirectory ".git", History.empty⟩

/-- What was committed last. -/
def committed (copy : WorkingCopy) : Snapshot :=
  ((copy.history.headCommit? none).map (·.snapshot)).getD Dictionary.empty

/-- Whether an entry belongs to the repository itself. -/
def isInternal (path : Segments) : Bool := path.head? == some ".git".toList

/-- Whether an entry can be committed. -/
def isCommittable : Entry → Bool
  | .directory => false
  | _ => true

/-- Whether version control is told to leave a path out, itself or a directory on the way. -/
def isLeftOut (tree : WorkTree) (path : Segments) : Bool :=
  let ignored (path : Segments) (isDirectory : Bool) : Bool :=
    (tree.nearestVerdict? ".gitignore" path isDirectory (WorkTree.ancestors path)).or
      (tree.nearestVerdict? ".git/info/exclude" path isDirectory (WorkTree.ancestors path))
      == some .ignored
  ignored path false ||
    (WorkTree.ancestors path).any fun directory => !directory.isEmpty && ignored directory true

/-- What a commit would hold. -/
def staged (copy : WorkingCopy) : Snapshot :=
  copy.tree.entries.filter fun key entry =>
    let path := Path.segments key.toList
    isCommittable entry && !isInternal path &&
      (copy.committed.contains key || !isLeftOut copy.tree path)

/-- Commits what is staged on the current branch. -/
def commit (copy : WorkingCopy) (id : String) (time : Int) (merged : List String) : WorkingCopy :=
  let parents := (copy.history.branches.get? copy.history.current).toList ++ merged
  let commit : Commit := ⟨id, parents, History.keptTime time, copy.staged⟩
  { copy with
    history :=
      { copy.history with
        commits := copy.history.commits.insert id commit
        branches := copy.history.branches.insert copy.history.current id } }

/-- The work tree with another snapshot in place of what was committed; what is left out stays. -/
def treeWith (copy : WorkingCopy) (snapshot : Snapshot) : WorkTree :=
  let kept := copy.tree.entries.filter fun key entry =>
    let path := Path.segments key.toList
    isInternal path || (isCommittable entry && !copy.committed.contains key &&
      isLeftOut copy.tree path)
  (snapshot.toList ++ kept.toList).foldl (fun tree (path, entry) => tree.put path entry)
    WorkTree.empty

/-- Switches to a branch and drops all changes that were not committed. -/
def switch (copy : WorkingCopy) (name : String) : WorkingCopy :=
  let history := { copy.history with current := name }
  let snapshot := ((history.headCommit? none).map (·.snapshot)).getD Dictionary.empty
  ⟨copy.treeWith snapshot, history⟩

/-- Moves an entry with all that lies below it. -/
def rename (copy : WorkingCopy) (source target : String) : WorkingCopy :=
  let path := Path.segments source.toList
  let moved := (copy.tree.entry? path).toList.map (fun entry => ("", entry)) ++
    copy.tree.entriesBelow path
  let tree := moved.foldl
    (fun tree (name, entry) => tree.put (target ++ "/" ++ name) entry) (copy.tree.remove source)
  { copy with tree }

/-- Makes a file executable. -/
def makeExecutable (copy : WorkingCopy) (path : String) : WorkingCopy :=
  match copy.tree.find? path with
  | some (.file content _) => { copy with tree := copy.tree.put path (.file content true) }
  | _ => copy

end WorkingCopy

end CodeIndex
