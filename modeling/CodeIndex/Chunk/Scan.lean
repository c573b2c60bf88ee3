import CodeIndex.Chunk.Component
import CodeIndex.Text.Bytes

/-!
# Scanning a component byte by byte

`Component.blocks` walks over the characters of a document. The scan can be run over its bytes as
well, as one does who holds the text in memory: a position goes up byte by byte, positions inside
characters are passed over, and at all others the text is cut and looked at. Such a scan might go
wrong in three ways. It might cut the text where it cannot be cut, its count of open templates might
fall below zero, and it might not go forward behind a block that it has found, so that it would not
come to an end. In each case it has no result here.

Positions are numbers of bytes throughout this module, those of a `Block` too. Every function has
two kinds of answers that are none: no result at all, and, inside a result, nothing found.

## Main definitions

* `Scan.blocks?`: the blocks of a document, in bytes.
* `Scan.split?`: the spans of a component by way of its bytes.
-/

namespace CodeIndex.Component.Scan

open CodeIndex.Text

/-- How many bytes precede the first place at which `here` holds. -/
def distance? (here : List Char → Bool) (text : List Char) : Option Nat :=
  (Component.distance? here text).map fun size => byteSize (text.take size)

/-- Whether a tag of a kind opens at a position: its name, then the end of the tag, a slash or a
blank. -/
def opensAt? (text : List Char) (position : Nat) (kind : BlockKind) : Option Bool := do
  let here ← fromByte? text position
  if startsWith kind.opening here then
    let behind ← fromByte? text (position + byteSize kind.opening)
    return behind.head?.any fun c => c == '>' || c == '/' || isBlank c
  else return false

/-- One less, but not below zero. -/
def lessOne? : Nat → Option Nat
  | 0 => none
  | count + 1 => some count

/-- Where the template ends of which `depth` tags are open at a position. -/
def templateEnd? (text : List Char) (depth position : Nat) : Option (Option Nat) := do
  if position < byteSize text then
    if isBoundary text position then
      if ← opensAt? text position .template then templateEnd? text (depth + 1) (position + 1)
      else if startsWith BlockKind.template.closing (← fromByte? text position) then
        let depth ← lessOne? depth
        if depth = 0 then return some position
        else templateEnd? text depth (position + 1)
      else templateEnd? text depth (position + 1)
    else templateEnd? text depth (position + 1)
  else return none
termination_by byteSize text - position

/-- Where a body of a kind ends that begins at a position. -/
def bodyEnd? (text : List Char) (kind : BlockKind) (bodyStart : Nat) : Option (Option Nat) :=
  match kind with
  | .template => templateEnd? text 1 bodyStart
  | _ => do
    let body ← fromByte? text bodyStart
    return (distance? (startsWith kind.closing) body).map (bodyStart + ·)

/-- The block of a kind that opens at a position. -/
def block? (text : List Char) (kind : BlockKind) (opened : Nat) : Option (Option Block) := do
  let here ← fromByte? text opened
  match distance? (startsWith ['>']) here with
  | none => return none
  | some tagEnd =>
    let bodyStart := opened + tagEnd + 1
    let bodyEnd ← bodyEnd? text kind bodyStart
    return bodyEnd.map fun bodyEnd =>
      ⟨kind, opened, bodyStart, bodyEnd, bodyEnd + byteSize kind.closing⟩

/-- The kind of block that opens at a position. -/
def kindAt? (text : List Char) (position : Nat) : Option (Option BlockKind) :=
  [BlockKind.template, .script, .style].findM? (opensAt? text position)

/-- The blocks from a position on. A block without an end ends the search. There is no result if the
search would not go forward behind a block. -/
def blocksFrom? (text : List Char) (position : Nat) : Option (List Block) := do
  if position < byteSize text then
    if isBoundary text position then
      match ← kindAt? text position with
      | none => blocksFrom? text (position + 1)
      | some kind =>
        match ← block? text kind position with
        | none => return []
        | some block =>
          if position < block.closed then return block :: (← blocksFrom? text block.closed)
          else none
    else blocksFrom? text (position + 1)
  else return []
termination_by byteSize text - position

/-- The blocks of a document on its top level. -/
def blocks? (text : List Char) : Option (List Block) :=
  blocksFrom? text 0

/-- The row on which a position is. -/
def rowOf? (text : List Char) (position : Nat) : Option Nat :=
  (upToByte? text (min position (byteSize text))).map (·.count '\n')

/-- The spans of a script block between two rows. -/
def scriptSpans? (readScript : List Char → SyntaxTree) (text : List Char) (block : Block)
    (openRow closeRow : Nat) : Option (List Span) := do
  let inner ← slice? text block.bodyStart block.bodyEnd
  let (inner, skipped) :=
    match inner with
    | '\n' :: rest => (rest, 1)
    | inner => (inner, 0)
  let parts :=
    if inner.length ≤ Span.maxChunkChars then []
    else
      Declaration.splitTree Language.scriptTable (readScript inner) ((lines inner).length - 1)
  if parts.isEmpty then return [Span.rows openRow closeRow .script]
  else return stretch ((← rowOf? text block.bodyStart) + skipped) openRow closeRow parts

/-- The spans of a block. -/
def spansOf? (readScript : List Char → SyntaxTree) (text : List Char) (block : Block) :
    Option (List Span) := do
  let openRow ← rowOf? text block.opened
  let closeRow ← rowOf? text (block.closed - 1)
  match block.kind with
  | .template => return [Span.rows openRow closeRow .template]
  | .script => scriptSpans? readScript text block openRow closeRow
  | .style => return []

/-- Splits a component into the spans of its blocks. -/
def split? (readScript : List Char → SyntaxTree) (text : List Char) : Option (List Span) := do
  let spans ← (← blocks? text).mapM (spansOf? readScript text)
  return spans.flatten

end CodeIndex.Component.Scan
