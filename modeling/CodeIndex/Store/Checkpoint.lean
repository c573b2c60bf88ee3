import CodeIndex.Collection.Dictionary
import CodeIndex.Path.FileName

/-!
# Checkpoints

For each repository a checkpoint store keeps the commit up to which it is indexed. A store is kept
in memory or in a database file; both answer alike, and differ in what is left of them when they are
opened again.
-/

namespace CodeIndex

/-- The last indexed commit of each repository. -/
abbrev Checkpoints := Dictionary String

/-- Where checkpoints are kept. -/
inductive CheckpointPlace where
  /-- In memory; a store opened again holds what it held at first. -/
  | memory (initial : Checkpoints)
  /-- In a database that lives in memory; a store opened again is empty. -/
  | transient
  /-- In a database file; a store opened again holds what it held before. -/
  | file

namespace CheckpointPlace

/-- What a new store holds. -/
def start : CheckpointPlace → Checkpoints
  | memory initial => initial
  | transient | file => Dictionary.empty

/-- What a store holds after it was opened again. -/
def reopen (place : CheckpointPlace) (held : Checkpoints) : Checkpoints :=
  match place with
  | memory initial => initial
  | transient => Dictionary.empty
  | file => held

end CheckpointPlace

/-- What stands where a database is to be opened. -/
inductive DatabaseSite where
  /-- Nothing, in a directory that exists. -/
  | vacant
  /-- A file with this text. -/
  | text (content : String)
  | directory
  /-- The directory that should hold the file does not exist. -/
  | unreachable
deriving DecidableEq

/-- What became of an attempt to open a database file. -/
inductive OpenResult where
  | opened
  /-- The file cannot be opened or made, or its name asks for something unknown. -/
  | refused
  /-- There is a file, and it is no database. -/
  | noDatabase
deriving DecidableEq

namespace DatabaseSite

/-- What comes of opening a database. An empty file is a database without tables. -/
def openResult : DatabaseSite → OpenResult
  | vacant => .opened
  | text content => if content.isEmpty then .opened else .noDatabase
  | directory | unreachable => .refused

/-- The segments of a path after its steps upwards were taken. -/
def resolve (segments : List (List Char)) : List (List Char) :=
  (segments.foldl (fun taken segment =>
    if segment == ['.', '.'] then taken.tail else segment :: taken) []).reverse

/-- What stands at a path below an empty directory. -/
def below (path : List Char) : DatabaseSite :=
  match resolve (Path.segments path) with
  | [] => directory
  | [_] => vacant
  | _ => unreachable

end DatabaseSite

/-- A question mark in the name of a database begins options, and none are known that a file name
could spell by chance; a name with one is refused. So is the name of a directory, with a slash at
its end. -/
def openDatabase (path : List Char) (site : DatabaseSite) : OpenResult :=
  if path.contains '?' || path.getLast? == some '/' then .refused else site.openResult

end CodeIndex
