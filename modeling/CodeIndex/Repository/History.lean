import CodeIndex.Repository.Changes

/-!
# Version history

Commits with their parents, and the names that point to them. A name that was never given, or a
revision that leads nowhere, is not an error here: whoever asks decides what to do without it.

## Main definitions

* `Commit`, `History`
* `History.headCommit?`: the commit at the head, of a branch if there is such a branch.
* `History.revision?`: the commit that a revision denotes.
-/

namespace CodeIndex

open CodeIndex.Text

/-- A commit. -/
structure Commit where
  id : String
  /-- The identifiers of the parents, the first one first. -/
  parents : List String
  /-- Seconds since 1970, modulo 2^32. -/
  time : Nat
  snapshot : Snapshot

/-- Commits and the names that point to them. -/
structure History where
  commits : Dictionary Commit
  branches : Dictionary String
  tags : Dictionary String
  /-- The name of the current branch, which may not have a commit yet. -/
  current : String

namespace History

/-- The history of a new repository. -/
def empty : History := ⟨Dictionary.empty, Dictionary.empty, Dictionary.empty, "main"⟩

/-- The seconds of a commit as they are kept, from seconds that may be negative. -/
def keptTime (seconds : Int) : Nat := (seconds % UInt32.size).toNat

/-- The commit of a branch. -/
def branch? (history : History) (name : String) : Option Commit :=
  (history.branches.get? name).bind history.commits.get?

/-- The commit at the head: of the wanted branch if there is one, else of the current branch. -/
def headCommit? (history : History) (wanted : Option String) : Option Commit :=
  (wanted.bind history.branch?).or (history.branch? history.current)

/-! ### Revisions -/

/-- The commit that a full reference name points to. -/
def reference? (history : History) (name : List Char) : Option Commit :=
  if name == "HEAD".toList then history.branch? history.current
  else
    match stripStart? "refs/heads/".toList name, stripStart? "refs/tags/".toList name with
    | some branch, _ => history.branch? (String.ofList branch)
    | _, some tag => (history.tags.get? (String.ofList tag)).bind history.commits.get?
    | _, _ => none

/-- The commit that a reference name points to when its beginning may be left out. -/
def shortReference? (history : History) (name : List Char) : Option Commit :=
  ["", "refs/", "refs/tags/", "refs/heads/"].findSome? fun start =>
    history.reference? (start.toList ++ name)

/-- Hexadecimal digits. -/
def isHex (c : Char) : Bool := c.isDigit || ('a' ≤ c.toLower && c.toLower ≤ 'f')

/-- The shortest part of an identifier that may stand for it. -/
def minPrefix : Nat := 4

/-- The only commit whose identifier begins with some digits. -/
def abbreviated? (history : History) (digits : List Char) : Option Commit :=
  if minPrefix ≤ digits.length && digits.all isHex then
    match history.commits.values.filter fun commit =>
        startsWith (digits.map Char.toLower) commit.id.toList with
    | [commit] => some commit
    | _ => none
  else none

/-- The length of an identifier. -/
def idLength : Nat := 40

/-- The commit that a revision without steps denotes. -/
def base? (history : History) (name : List Char) : Option Commit :=
  if name.isEmpty then none
  else if name == ['@'] then history.reference? "HEAD".toList
  else if name.length == idLength then
    (history.abbreviated? name).or (history.shortReference? name)
  else (history.shortReference? name).or (history.abbreviated? name)

/-- A parent of a commit, counted from one; the commit itself is number zero. -/
def parent? (history : History) (commit : Commit) : Nat → Option Commit
  | 0 => some commit
  | place + 1 => (commit.parents[place]?).bind history.commits.get?

/-- The ancestor of a commit along first parents. -/
def ancestor? (history : History) (commit : Commit) : Nat → Option Commit
  | 0 => some commit
  | steps + 1 => (history.parent? commit 1).bind (history.ancestor? · steps)

/-- The number that a step gives; one if it gives none. -/
def stepCount (digits : List Char) : Nat :=
  if digits.isEmpty then 1 else digits.foldl (fun n c => 10 * n + (c.toNat - 48)) 0

/-- Follows the steps of a revision from a commit; the fuel exceeds the number of characters. -/
def follow? (history : History) : Nat → Commit → List Char → Option Commit
  | _, commit, [] => some commit
  | 0, _, _ => none
  | fuel + 1, commit, '^' :: '{' :: rest =>
    match stripStart? "commit\x7d".toList rest, rest with
    | some rest, _ => history.follow? fuel commit rest
    | none, '}' :: rest => history.follow? fuel commit rest
    | none, _ => none
  | fuel + 1, commit, '^' :: rest =>
    (history.parent? commit (stepCount (rest.takeWhile Char.isDigit))).bind fun parent =>
      history.follow? fuel parent (rest.dropWhile Char.isDigit)
  | fuel + 1, commit, '~' :: rest =>
    (history.ancestor? commit (stepCount (rest.takeWhile Char.isDigit))).bind fun ancestor =>
      history.follow? fuel ancestor (rest.dropWhile Char.isDigit)
  | _ + 1, _, _ => none

/-- The commit that a revision denotes. -/
def revision? (history : History) (revision : String) : Option Commit :=
  let text := revision.toList
  let isName (c : Char) : Bool := c != '^' && c != '~' && c != ':'
  (history.base? (text.takeWhile isName)).bind fun commit =>
    history.follow? (text.length + 1) commit (text.dropWhile isName)

end History

end CodeIndex
