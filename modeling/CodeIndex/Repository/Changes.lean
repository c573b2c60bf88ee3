import CodeIndex.Repository.WorkTree

/-!
# Changes between snapshots

A snapshot is what a commit holds: files and links by their paths, without directories. Two
snapshots differ in paths that only one of them has and in paths whose content or mode is another; a
path that holds a file in one and a link in the other counts as removed and added again. Tools that
compare snapshots like to report a removed and an added path with the same content as one that was
moved. What is to be indexed anew does not depend on that: a moved path is a removed one and an
added one.

## Main definitions

* `Snapshot`, `Delta`, `ChangeSet`
* `Delta.between`: what differs.
* `Delta.pairUp`: removals and additions reported as moves.
* `ChangeSet.ofDeltas`: what is to be indexed anew, and what is to be removed.
-/

namespace CodeIndex

/-- The paths that differ between two commits. -/
structure ChangeSet where
  changed : List String
  deleted : List String
deriving DecidableEq

/-- What a commit holds, by paths. -/
abbrev Snapshot := Dictionary Entry

/-- A difference between two snapshots. -/
inductive Delta where
  | added (path : String)
  | deleted (path : String)
  | modified (path : String)
  | renamed (old new : String)
deriving DecidableEq

namespace Delta

/-- Whether an entry is a link. -/
def isLink : Entry → Bool
  | .link _ => true
  | _ => false

/-- The differences at a path that a snapshot holds, where the base may hold another entry. -/
def atHeadPath (base : Snapshot) (path : String) (entry : Entry) : List Delta :=
  match base.get? path with
  | none => [added path]
  | some before =>
    if before = entry then []
    else if isLink before == isLink entry then [modified path]
    else [deleted path, added path]

/-- The differences between two snapshots. -/
def between (base head : Snapshot) : List Delta :=
  ((base.toList.filter fun (path, _) => !head.contains path).map fun (path, _) => deleted path) ++
    head.toList.flatMap fun (path, entry) => atHeadPath base path entry

/-- Differences with one removal and one addition reported as a move, if both are there. -/
def pairOne (deltas : List Delta) (pair : String × String) : List Delta :=
  if deltas.contains (deleted pair.1) && deltas.contains (added pair.2) then
    renamed pair.1 pair.2 :: (deltas.erase (deleted pair.1)).erase (added pair.2)
  else deltas

/-- Differences with removals and additions reported as moves. -/
def pairUp (pairs : List (String × String)) (deltas : List Delta) : List Delta :=
  pairs.foldl pairOne deltas

/-- The path that is gone. -/
def old? : Delta → Option String
  | deleted path => some path
  | renamed old _ => some old
  | _ => none

/-- The path that is there with something new. -/
def new? : Delta → Option String
  | added path => some path
  | modified path => some path
  | renamed _ new => some new
  | deleted _ => none

/-- The removed and added paths with the same entry. -/
def moves (base head : Snapshot) (deltas : List Delta) : List (String × String) :=
  let olds := deltas.filterMap fun delta =>
    match delta with
    | deleted path => some path
    | _ => none
  let news := deltas.filterMap fun delta =>
    match delta with
    | added path => some path
    | _ => none
  olds.flatMap fun old =>
    (news.filter fun new => base.get? old == head.get? new).map fun new => (old, new)

end Delta

namespace ChangeSet

/-- Paths in ascending order. -/
def listing (paths : List String) : List String :=
  (paths.map Path.slashed).mergeSort fun a b => a ≤ b

/-- What is to be indexed anew, and what is to be removed. -/
def ofDeltas (deltas : List Delta) : ChangeSet :=
  ⟨listing (deltas.filterMap Delta.new?), listing (deltas.filterMap Delta.old?)⟩

/-- The changes from one snapshot to another. -/
def between (base head : Snapshot) : ChangeSet :=
  let deltas := Delta.between base head
  ofDeltas (Delta.pairUp (Delta.moves base head deltas) deltas)

end ChangeSet

end CodeIndex
