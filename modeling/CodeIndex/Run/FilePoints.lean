import CodeIndex.Payload
import CodeIndex.Secret.Redaction
import CodeIndex.Store.Point

/-!
# The points of a file

What is embedded and what is stored of the chunks of one file. Chunk texts and descriptions are
redacted before they go anywhere. The text that is embedded says where the chunk stands before it
says what is in it; the words that are counted for exact search are those of the chunk with its
names and annotations.

## Main definitions

* `FilePoints.embeddingText`, `FilePoints.lexicalText`
* `FilePoints.points`: the points of a file.
-/

namespace CodeIndex

/-- A chunk with its description. -/
structure DescribedChunk where
  chunk : Chunk
  /-- Empty if there is none. -/
  description : String

namespace FilePoints

/-- The text of a chunk without credentials. -/
def content (chunk : Chunk) : String := Secret.redacted chunk.content

/-- Where a chunk stands: language, layer and path. -/
def placeLine (chunk : Chunk) : String :=
  chunk.language.id ++ " " ++ chunk.layer ++ " " ++ chunk.path

/-- The text that is embedded: the description if there is one, the place, and the chunk. -/
def embeddingText (described : DescribedChunk) : String :=
  let body := placeLine described.chunk ++ "\n\n" ++ content described.chunk
  if described.description.isEmpty then body
  else Secret.redacted described.description ++ "\n\n" ++ body

/-- The text whose words are counted. -/
def lexicalText (chunk : Chunk) : String :=
  "\n".intercalate
    (content chunk :: (chunk.symbol.toList ++ chunk.parent.toList ++ chunk.annotations))

/-- The identifier of the header chunk among the chunks of a file. -/
def headerId? (repository path : String) (chunks : List Chunk) : Option String :=
  (chunks.find? (·.isHeader)).map fun chunk => pointId repository path chunk.startLine

/-- The point of a chunk. The header does not refer to itself. -/
def point (repository path : String) (headerId : Option String) (described : DescribedChunk)
    (dense : List Float32) : Point :=
  let chunk := described.chunk
  let sparse := SparseVector.ofText (lexicalText chunk).toList
  { id := pointId repository path chunk.startLine
    dense
    sparse := if sparse.isEmpty then none else some sparse
    payload :=
      (Payload.ofChunk repository chunk (if chunk.isHeader then none else headerId)
        (content chunk) described.description).toMap }

/-- The points of a file: one for each chunk with its vector. -/
def points (repository path : String) (described : List DescribedChunk)
    (vectors : List (List Float32)) : List Point :=
  let headerId := headerId? repository path (described.map (·.chunk))
  List.zipWith (point repository path headerId) described vectors

end FilePoints

end CodeIndex
