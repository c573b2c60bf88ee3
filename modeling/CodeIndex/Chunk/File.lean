import CodeIndex.Chunk.Component
import CodeIndex.Chunk.Heading
import CodeIndex.Chunk.Statement
import CodeIndex.Path.Layer

/-!
# Chunks of a file

A file becomes a list of chunks, the units that are embedded, stored and found. Small files are one
chunk. Larger ones are split in the way of their language; what cannot be split stays whole. Blank
files and files of unknown languages have no chunks, and a blank piece of a file is left out.

The reader of syntax is an argument, a function from source texts to trees: nothing here depends on
how trees come about, and every statement about chunks holds for whatever reader is in use.

## Main definitions

* `Chunk`: a piece of a file with what is known about it.
* `SyntaxReader`: what turns source text into trees.
* `chunkFile`: the chunks of a file.
-/

namespace CodeIndex

open CodeIndex.Text

/-- A piece of a file. Lines count from one and include both ends. -/
structure Chunk where
  content : String
  path : String
  language : Language
  layer : String
  startLine : Nat
  endLine : Nat
  symbol : Option String
  parent : Option String
  kind : ChunkKind
  annotations : List String
  index : Nat
  total : Nat
deriving DecidableEq

/-- The header chunk of a file. -/
def Chunk.isHeader (chunk : Chunk) : Bool := chunk.kind == .header

/-- The number of characters of a chunk. -/
def Chunk.size (chunk : Chunk) : Nat := chunk.content.length

/-- What turns a source text of a language into a syntax tree. -/
abbrev SyntaxReader := Language → List Char → SyntaxTree

/-- The spans into which a language splits a large text; none if it cannot be split. -/
def splitSpans (read : SyntaxReader) (language : Language) (text : List Char)
    (textLines : List (List Char)) : List Span :=
  match language with
  | .sql => Statement.split textLines
  | .markdown => Heading.split textLines
  | .vue => Component.split (read .typescript) text
  | language =>
    match language.nodeTable? with
    | some table => Declaration.splitTree table (read language text) (textLines.length - 1)
    | none => []

/-- The spans of a text: one for a small text, else those of its language. -/
def spansOf (read : SyntaxReader) (language : Language) (text : List Char)
    (textLines : List (List Char)) : List Span :=
  let parts :=
    if text.length ≤ Span.maxChunkChars then [] else splitSpans read language text textLines
  if parts.isEmpty then [Span.rows 0 (textLines.length - 1) .file] else parts

/-- The text of a span: its lines with line feeds between them. -/
def spanText (textLines : List (List Char)) (span : Span) : List Char :=
  let stop := min span.stop (textLines.length - 1)
  joinWith ['\n'] ((textLines.drop span.start).take (stop + 1 - span.start))

/-- The spans that are not blank, with their texts. -/
def filledSpans (textLines : List (List Char)) (spans : List Span) : List (Span × List Char) :=
  (spans.map fun span => (span, spanText textLines span)).filter fun (_, text) =>
    !isBlankText text

/-- The chunks of spans and their texts. -/
def assemble (path : String) (language : Language) (textLines : List (List Char))
    (spans : List Span) : List Chunk :=
  let filled := filledSpans textLines spans
  filled.zipIdx.map fun ((span, text), index) =>
    { content := String.ofList text
      path
      language
      layer := Layer.ofPath path
      startLine := span.start + 1
      endLine := min span.stop (textLines.length - 1) + 1
      symbol := span.symbol
      parent := span.parent
      kind := span.kind
      annotations := span.annotations
      index
      total := filled.length }

/-- The chunks of a file, in order. -/
def chunkFile (read : SyntaxReader) (content path : String) : List Chunk :=
  match Language.ofPath? path with
  | none => []
  | some language =>
    let text := content.toList
    if isBlankText text then []
    else
      let textLines := lines text
      assemble path language textLines (spansOf read language text textLines)

end CodeIndex
