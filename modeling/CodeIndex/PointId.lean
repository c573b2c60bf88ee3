import CodeIndex.Hash.NameId

/-!
# Identifiers of stored chunks

A chunk is stored under an identifier computed from the repository, the path and the first line.
Storing the same piece of the same file again writes over the earlier copy.
-/

namespace CodeIndex

/-- The text behind an identifier: repository, path and first line with colons between them. -/
def pointKey (repository path : String) (line : Nat) : List Char :=
  repository.toList ++ ':' :: (path.toList ++ ':' :: (toString line).toList)

/-- The identifier of the chunk that begins on a line of a file. -/
def pointId (repository path : String) (line : Nat) : String :=
  Hash.nameId (pointKey repository path line)

end CodeIndex
