import CodeIndex.Path.IgnoreFile
import CodeIndex.Path.Rules
import CodeIndex.Repository.WorkTree

/-!
# Discovery

A full run reads every eligible file that a walk through the repository meets. The walk follows no
links, and a directory that is passed over hides all it holds. What is passed over is for the
library that walks to say, and whatever it says is a parameter, `Walk`: ignore files count, and
besides those in the tree there may be others above it and those of the user.

Where these have no say, the walk is the one of `WorkTree.isPassedOver`. It passes over hidden
entries and honours ignore files: those for all tools everywhere, those of version control only
inside a repository.

## Main definitions

* `IgnoreRules.load`: the rules of a repository's own ignore file.
* `Walk`: what a walk passes over.
* `WorkTree.isPassedOver`: what it passes over by the ignore files of the tree alone.
* `WorkTree.discover`: the files that a full run reads.
-/

namespace CodeIndex

/-- The rules at the root of a tree. A file that is missing or cannot be read holds none. -/
def IgnoreRules.load (tree : WorkTree) : IgnoreRules :=
  ((tree.text? ignoreFileName).map fun text => IgnoreRules.parse text.toList).getD IgnoreRules.none

/-- What a walk through a tree passes over: whether it does so with the entry at a path, a directory
or something else. -/
class Walk where
  passesOver (tree : WorkTree) (path : Segments) (isDirectory : Bool) : Bool

namespace WorkTree

/-- The directories that hold a path, the nearest first. -/
def ancestors (path : Segments) : List Segments :=
  ((List.range path.length).map path.take).reverse

/-! ## The ignore files of a tree -/

/-- The path of an entry of a directory. -/
def child (directory : Segments) (name : String) : String :=
  Path.ofSegments (directory ++ [name.toList])

/-- Whether a directory is the root of a repository. -/
def isRepositoryRoot (tree : WorkTree) (directory : Segments) : Bool :=
  (tree.find? (child directory ".git")).isSome

/-- What an ignore file of a directory says about a path. -/
def verdictIn? (tree : WorkTree) (name : String) (path : Segments) (isDirectory : Bool)
    (directory : Segments) : Option IgnoreVerdict :=
  (tree.text? (child directory name)).bind fun text =>
    IgnoreFile.verdict? (IgnoreFile.rules text.toList)
      (Text.joinWith ['/'] (path.drop directory.length)) isDirectory

/-- What the ignore files of one name say about a path; the nearest one that says something
decides. -/
def nearestVerdict? (tree : WorkTree) (name : String) (path : Segments) (isDirectory : Bool)
    (directories : List Segments) : Option IgnoreVerdict :=
  directories.findSome? (tree.verdictIn? name path isDirectory)

/-- The directories whose version control rules hold for a path: those up to the root of the
repository that it belongs to, if it belongs to one. -/
def governing (tree : WorkTree) (path : Segments) : List Segments :=
  let directories := ancestors path
  if directories.any tree.isRepositoryRoot then
    let below := directories.takeWhile fun directory => !tree.isRepositoryRoot directory
    directories.take (below.length + 1)
  else []

/-- What ignore files say about a path. -/
def verdict? (tree : WorkTree) (path : Segments) (isDirectory : Bool) : Option IgnoreVerdict :=
  let governing := tree.governing path
  ((tree.nearestVerdict? ".ignore" path isDirectory (ancestors path)).or
    (tree.nearestVerdict? ".gitignore" path isDirectory governing)).or
    (tree.nearestVerdict? ".git/info/exclude" path isDirectory governing)

/-- Whether the last segment of a path begins with a point. -/
def isHidden (path : Segments) : Bool :=
  path.getLast?.any fun name => name.head? == some '.'

/-- Whether an entry is passed over by the ignore files of the tree. An entry that they take back in
is visited even if it is hidden. -/
def isPassedOver (tree : WorkTree) (path : Segments) (isDirectory : Bool) : Bool :=
  match tree.verdict? path isDirectory with
  | some .ignored => true
  | some .kept => false
  | none => isHidden path

/-- The walk where only the ignore files of the tree have a say. -/
instance : Walk := ⟨isPassedOver⟩

/-! ## Walking through a tree -/

section

variable [Walk] (tree : WorkTree)

/-- Whether the walk meets a file: neither it nor a directory on the way is passed over. -/
def isMet (path : Segments) : Bool :=
  !Walk.passesOver tree path false &&
    (ancestors path).all fun directory =>
      directory.isEmpty || !Walk.passesOver tree directory true

/-- The files that the walk meets, eligible or not. -/
def met : List String :=
  (tree.files.map (·.1)).filter fun path => tree.isMet (Path.segments path.toList)

/-- The eligible files of a tree, in ascending order. -/
def discover (rules : IgnoreRules) : List String :=
  ((tree.met.map Path.slashed).filter (isEligible rules)).mergeSort fun a b => a ≤ b

end

end WorkTree

end CodeIndex
