import CodeIndex.Text.Line

/-!
# File names

The parts of a path that decide what a file is: its last segment, and what follows the last point
in it. Empty segments and single points between slashes mean nothing.
-/

namespace CodeIndex.Path

open CodeIndex.Text

/-- The segments of a path between slashes that name something. -/
def segments (path : List Char) : List (List Char) :=
  (splitOn (· == '/') path).filter fun segment => !segment.isEmpty && segment != ['.']

/-- Whether a path can lead to a directory only: nothing that names a file follows its last
slash. -/
def asksForDirectory (path : List Char) : Bool :=
  (splitOn (· == '/') path).getLast?.any fun piece => piece.isEmpty || piece == ['.']

/-- The last segment of a path, unless it leads upwards. -/
def fileName? (path : List Char) : Option (List Char) :=
  (segments path).getLast?.filter (· != ['.', '.'])

/-- What follows the last point of a file name. A name that begins with its only point has no
extension. -/
def extensionOf? (name : List Char) : Option (List Char) :=
  let reversed := name.reverse
  match reversed.dropWhile (· != '.') with
  | _ :: _ :: _ => some (reversed.takeWhile (· != '.')).reverse
  | _ => none

/-- The extension of the file that a path names. -/
def extension? (path : List Char) : Option (List Char) :=
  (fileName? path).bind extensionOf?

/-- A path with slashes in place of backslashes. -/
def slashed (path : String) : String :=
  String.ofList (path.toList.map fun c => if c = '\\' then '/' else c)

end CodeIndex.Path
