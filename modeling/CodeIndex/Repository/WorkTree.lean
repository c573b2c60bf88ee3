import CodeIndex.Collection.Dictionary
import CodeIndex.Path.FileName
import CodeIndex.Text.Bytes

/-!
# Work trees

The files of a repository as they lie in its directory: files with their contents, directories, and
links. A tree lists its entries by their paths; a path is written with slashes between segments and
none at the ends. Whoever opens a path follows links; whoever walks the tree sees them.

## Main definitions

* `WorkTree`, `Entry`, `FileContent`
* `WorkTree.entry?`: what lies at a path.
* `WorkTree.resolve`: what is found when links are followed.
* `WorkTree.read`, `WorkTree.isFile`, `WorkTree.isDirectory`
* `WorkTree.write`, `remove`, `makeDirectory`, `below?`
-/

namespace CodeIndex

open CodeIndex.Text

/-- What a file holds. -/
inductive FileContent where
  | text (content : String)
  /-- Bytes that are no text. -/
  | undecodable (bytes : List UInt8)
deriving DecidableEq

/-- The content that some bytes are. -/
def FileContent.ofBytes (bytes : List UInt8) : FileContent :=
  match String.fromUTF8? (ByteArray.mk bytes.toArray) with
  | some content => .text content
  | none => .undecodable bytes

/-- What lies at a path. -/
inductive Entry where
  | file (content : FileContent) (isExecutable : Bool)
  | directory
  /-- A link, by the path it was made with. -/
  | link (target : String)
deriving DecidableEq

/-- A path as a list of segments. -/
abbrev Segments := List (List Char)

namespace Path

/-- The text of a path. -/
def ofSegments (path : Segments) : String :=
  String.ofList (joinWith ['/'] path)

end Path

/-- The entries of a directory, by their paths. -/
structure WorkTree where
  entries : Dictionary Entry

namespace WorkTree

/-- A directory without entries. -/
def empty : WorkTree := ⟨Dictionary.empty⟩

/-- What lies at a path; the tree itself is a directory. -/
def entry? (tree : WorkTree) (path : Segments) : Option Entry :=
  if path.isEmpty then some .directory else tree.entries.get? (Path.ofSegments path)

/-- The number of links that are followed on the way to an entry. -/
def maxLinks : Nat := 40

/-- Why the text of a file could not be read. -/
inductive ReadError where
  | notFound
  /-- The path goes on behind a file. -/
  | notDirectory
  | tooManyLinks
  | isDirectory
  | notText
deriving DecidableEq

/-- The wording of an error. -/
def ReadError.message : ReadError → String
  | notFound => "No such file or directory (os error 2)"
  | notDirectory => "Not a directory (os error 20)"
  | tooManyLinks => "Too many levels of symbolic links (os error 40)"
  | isDirectory => "Is a directory (os error 21)"
  | notText => "stream did not contain valid UTF-8"

/-- Goes from the directory with the reversed path `here` along `path`, following links. Nothing is
found outside the tree. -/
def walk (tree : WorkTree) : Nat → Segments → Segments → Except ReadError Segments
  | _, here, [] => .ok here.reverse
  | links, here, segment :: path =>
    if segment == ['.', '.'] then
      match here with
      | [] => .error .notFound
      | _ :: parent => walk tree links parent path
    else
      match tree.entry? (segment :: here).reverse with
      | some .directory => walk tree links (segment :: here) path
      | some (.file _ _) =>
        if path.isEmpty then .ok (segment :: here).reverse else .error .notDirectory
      | some (.link target) =>
        match links with
        | 0 => .error .tooManyLinks
        | links + 1 =>
          if target.toList.head? == some '/' then .error .notFound
          else walk tree links here (Path.segments target.toList ++ path)
      | none => .error .notFound
termination_by links _ path => (links, path.length)

/-- The place that a path leads to when links are followed. A path that ends behind a slash leads to
a directory or nowhere. -/
def resolve (tree : WorkTree) (path : String) : Except ReadError Segments :=
  if path.toList.head? == some '/' then .error .notFound
  else
    match tree.walk maxLinks [] (Path.segments path.toList) with
    | .error e => .error e
    | .ok place =>
      if Path.asksForDirectory path.toList && tree.entry? place != some .directory then
        .error .notDirectory
      else .ok place

/-- What a path leads to when links are followed. -/
def find? (tree : WorkTree) (path : String) : Option Entry :=
  (tree.resolve path).toOption.bind tree.entry?

/-- Whether a path leads to a file. -/
def isFile (tree : WorkTree) (path : String) : Bool :=
  match tree.find? path with
  | some (.file _ _) => true
  | _ => false

/-- Whether a path leads to a directory. -/
def isDirectory (tree : WorkTree) (path : String) : Bool :=
  tree.find? path == some .directory

/-- The text of the file that a path leads to. -/
def read (tree : WorkTree) (path : String) : Except ReadError String :=
  match tree.resolve path with
  | .error e => .error e
  | .ok place =>
    match tree.entry? place with
    | some (.file (.text content) _) => .ok content
    | some (.file (.undecodable _) _) => .error .notText
    | some .directory => .error .isDirectory
    | _ => .error .notFound

/-- The text of the file that a path leads to, if it can be read. -/
def text? (tree : WorkTree) (path : String) : Option String :=
  (tree.read path).toOption

/-! ## Changes -/

/-- Makes the directories on the way to a path, the last segment left out. -/
def makeParents (tree : WorkTree) (path : Segments) : WorkTree :=
  (List.range (path.length - 1)).foldl
    (fun tree count => ⟨tree.entries.insert (Path.ofSegments (path.take (count + 1))) .directory⟩)
    tree

/-- Puts an entry at a path, with the directories it needs. -/
def put (tree : WorkTree) (path : String) (entry : Entry) : WorkTree :=
  let segments := Path.segments path.toList
  if segments.isEmpty then tree
  else ⟨(tree.makeParents segments).entries.insert (Path.ofSegments segments) entry⟩

/-- Writes a file. A file that is there keeps its mode. -/
def write (tree : WorkTree) (path : String) (content : FileContent) : WorkTree :=
  match tree.entry? (Path.segments path.toList) with
  | some (.file _ isExecutable) => tree.put path (.file content isExecutable)
  | _ => tree.put path (.file content false)

/-- Makes a directory, with the directories it needs. -/
def makeDirectory (tree : WorkTree) (path : String) : WorkTree :=
  tree.put path .directory

/-- Whether a path is `directory` or lies below it. -/
def isWithin (directory path : Segments) : Bool := directory.isPrefixOf path

/-- The tree without an entry and what lies below it. -/
def remove (tree : WorkTree) (path : String) : WorkTree :=
  let segments := Path.segments path.toList
  ⟨tree.entries.filter fun key _ => !isWithin segments (Path.segments key.toList)⟩

/-- The entries below a directory, by their paths from there. -/
def entriesBelow (tree : WorkTree) (directory : Segments) : List (String × Entry) :=
  tree.entries.toList.filterMap fun (key, entry) =>
    let path := Path.segments key.toList
    if isWithin directory path && directory.length < path.length then
      some (Path.ofSegments (path.drop directory.length), entry)
    else none

/-- The tree below a directory. -/
def below? (tree : WorkTree) (path : String) : Option WorkTree :=
  match tree.resolve path with
  | .error _ => none
  | .ok directory =>
    if tree.entry? directory == some .directory then
      some ⟨Dictionary.ofList (tree.entriesBelow directory)⟩
    else none

/-- The files of a tree with their paths, in ascending order. -/
def files (tree : WorkTree) : List (String × FileContent × Bool) :=
  tree.entries.toList.filterMap fun (path, entry) =>
    match entry with
    | .file content isExecutable => some (path, content, isExecutable)
    | _ => none

end WorkTree

end CodeIndex
