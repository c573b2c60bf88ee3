import CodeIndex.Chunk.File
import CodeIndex.Collection.Dictionary
import CodeIndex.Json.Decode
import CodeIndex.PointId

/-!
# Payloads

The payload is what a store keeps of a chunk beside its vectors: where it comes from, what it is,
its text after redaction, and its description. Stores hold payloads as dictionaries of JSON values;
`Payload.toMap` and `Payload.ofMap` go back and forth. Reading is strict about what is there and
lenient about what may be absent, so that points written before a field existed stay readable.

## Main definitions

* `Payload`, `Payload.ofChunk`
* `Payload.toMap`, `Payload.ofMap`
-/

namespace CodeIndex

/-- What a store keeps of a chunk. -/
structure Payload where
  repository : String
  path : String
  language : Language
  layer : String
  startLine : Nat
  endLine : Nat
  symbol : Option String
  parent : Option String
  kind : ChunkKind
  annotations : List String
  index : Nat
  total : Nat
  /-- The identifier of the header chunk of the same file. -/
  headerId : Option String
  /-- The text after redaction. -/
  content : String
  /-- A description that situates the chunk in its file; empty if there is none. -/
  context : String
deriving DecidableEq

namespace Payload

/-- The payload of a chunk of a repository, with its redacted text and its description. -/
def ofChunk (repository : String) (chunk : Chunk) (headerId : Option String)
    (content context : String) : Payload where
  repository
  path := chunk.path
  language := chunk.language
  layer := chunk.layer
  startLine := chunk.startLine
  endLine := chunk.endLine
  symbol := chunk.symbol
  parent := chunk.parent
  kind := chunk.kind
  annotations := chunk.annotations
  index := chunk.index
  total := chunk.total
  headerId
  content
  context

/-- The fields of a payload under the names that stores know. -/
def fields (p : Payload) : List (String × Json) :=
  [("repo", .string p.repository), ("filePath", .string p.path),
    ("language", .string p.language.id), ("layer", .string p.layer),
    ("startLine", .nat p.startLine), ("endLine", .nat p.endLine),
    ("symbolName", .optional p.symbol), ("parentSymbol", .optional p.parent),
    ("chunkType", .string p.kind.name), ("annotations", .strings p.annotations),
    ("chunkIndex", .nat p.index), ("totalChunks", .nat p.total),
    ("headerChunkId", .optional p.headerId), ("content", .string p.content),
    ("context", .string p.context)]

/-- The stored form of a payload. -/
def toMap (p : Payload) : Dictionary Json := Dictionary.ofList p.fields

/-- A language by its stored name. -/
def decodeLanguage : Json → Except DecodeError Language :=
  Json.decodeName Language.ofId? (Language.all.map Language.id)

/-- A kind of chunk by its stored name. -/
def decodeKind : Json → Except DecodeError ChunkKind :=
  Json.decodeName ChunkKind.ofName? (ChunkKind.all.map ChunkKind.name)

/-- A field if it is there; its value has to fit. -/
def field? {α : Type} (map : Dictionary Json) (name : String)
    (decode : Json → Except DecodeError α) : Except DecodeError (Option α) :=
  match map.get? name with
  | some value => (decode value).map some
  | none => .ok none

/-- A field that has to be there. -/
def require {α : Type} (name : String) : Option α → Except DecodeError α
  | some a => .ok a
  | none => .error (.missingField name)

/-- Reads a stored payload. All values that are there are judged before anything is missed. -/
def ofMap (map : Dictionary Json) : Except DecodeError Payload := do
  let annotations ← field? map "annotations" (Json.decodeList Json.decodeString)
  let index ← field? map "chunkIndex" Json.decodeCount
  let kind ← field? map "chunkType" decodeKind
  let content ← field? map "content" Json.decodeString
  let context ← field? map "context" Json.decodeString
  let endLine ← field? map "endLine" Json.decodeCount
  let path ← field? map "filePath" Json.decodeString
  let headerId ← field? map "headerChunkId" (Json.decodeOptional Json.decodeString)
  let language ← field? map "language" decodeLanguage
  let layer ← field? map "layer" Json.decodeString
  let parent ← field? map "parentSymbol" (Json.decodeOptional Json.decodeString)
  let repository ← field? map "repo" Json.decodeString
  let startLine ← field? map "startLine" Json.decodeCount
  let symbol ← field? map "symbolName" (Json.decodeOptional Json.decodeString)
  let total ← field? map "totalChunks" Json.decodeCount
  return {
    repository := ← require "repo" repository
    path := ← require "filePath" path
    language := ← require "language" language
    layer := ← require "layer" layer
    startLine := ← require "startLine" startLine
    endLine := ← require "endLine" endLine
    symbol := symbol.join
    parent := parent.join
    kind := ← require "chunkType" kind
    annotations := annotations.getD []
    index := ← require "chunkIndex" index
    total := ← require "totalChunks" total
    headerId := headerId.join
    content := ← require "content" content
    context := context.getD "" }

end Payload

end CodeIndex
