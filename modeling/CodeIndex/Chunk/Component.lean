import CodeIndex.Chunk.Declaration
import CodeIndex.Text.Line

/-!
# Splitting single-file components

A component is a sequence of blocks between tags: templates, scripts and styles. A template may hold
further templates, so its end is found by counting; the other two are raw text up to their first
closing tag. A template block is one piece, a style block none, and a script block is split along
its declarations when it is large. Splitting takes the reader of script syntax as an argument.

## Main definitions

* `Component.blocks`: the blocks of a document, in order.
* `Component.split`: their spans.
-/

namespace CodeIndex.Component

open CodeIndex.Text

/-- The kinds of blocks. -/
inductive BlockKind where
  | template
  | script
  | style
deriving DecidableEq

/-- The name in the tags of a block. -/
def BlockKind.tag : BlockKind → String
  | .template => "template"
  | .script => "script"
  | .style => "style"

/-- How the opening tag begins. -/
def BlockKind.opening (kind : BlockKind) : List Char := '<' :: kind.tag.toList

/-- The closing tag. -/
def BlockKind.closing (kind : BlockKind) : List Char := '<' :: '/' :: kind.tag.toList ++ ['>']

/-- A block, by the character positions of its opening tag, of its body and of its end. -/
structure Block where
  kind : BlockKind
  opened : Nat
  bodyStart : Nat
  bodyEnd : Nat
  closed : Nat
deriving DecidableEq

/-- Whether a tag of a kind opens right here: its name, then the end of the tag, a slash or a
blank. -/
def opensHere (kind : BlockKind) (text : List Char) : Bool :=
  match stripStart? kind.opening text with
  | some (c :: _) => c == '>' || c == '/' || isBlank c
  | _ => false

/-- How many characters precede the first place at which `here` holds. -/
def distance? (here : List Char → Bool) : List Char → Option Nat
  | [] => if here [] then some 0 else none
  | c :: text => if here (c :: text) then some 0 else (distance? here text).map (· + 1)

/-- How many characters precede the closing tag of a template, of which `depth` more than one are
open. -/
def templateEnd? (depth : Nat) : List Char → Option Nat
  | [] => none
  | c :: text =>
    if opensHere .template (c :: text) then (templateEnd? (depth + 1) text).map (· + 1)
    else if startsWith BlockKind.template.closing (c :: text) then
      match depth with
      | 0 => some 0
      | depth + 1 => (templateEnd? depth text).map (· + 1)
    else (templateEnd? depth text).map (· + 1)

/-- How many characters precede the closing tag of a body of a kind. -/
def bodyEnd? (kind : BlockKind) (body : List Char) : Option Nat :=
  match kind with
  | .template => templateEnd? 0 body
  | _ => distance? (startsWith kind.closing) body

/-- The block that opens at the start of `text`, which stands at position `offset`. -/
def block? (kind : BlockKind) (offset : Nat) (text : List Char) : Option Block := do
  let tagEnd ← distance? (startsWith ['>']) text
  let size ← bodyEnd? kind (text.drop (tagEnd + 1))
  let bodyStart := offset + tagEnd + 1
  return ⟨kind, offset, bodyStart, bodyStart + size, bodyStart + size + kind.closing.length⟩

/-- The kind of block that opens right here. -/
def kindHere? (text : List Char) : Option BlockKind :=
  [BlockKind.template, .script, .style].find? (opensHere · text)

/-- The blocks of the text at position `offset`, of which `skip` characters still belong to the
block before. A block without an end ends the search. -/
def blocksFrom (offset skip : Nat) : List Char → List Block
  | [] => []
  | c :: text =>
    match skip with
    | skip + 1 => blocksFrom (offset + 1) skip text
    | 0 =>
      match kindHere? (c :: text) with
      | none => blocksFrom (offset + 1) 0 text
      | some kind =>
        match block? kind offset (c :: text) with
        | none => []
        | some block => block :: blocksFrom (offset + 1) (block.closed - offset - 1) text

/-- The blocks of a document on its top level. -/
def blocks (text : List Char) : List Block :=
  blocksFrom 0 0 text

/-- The row on which the character at a position stands. -/
def rowOf (text : List Char) (position : Nat) : Nat :=
  (text.take position).count '\n'

/-- The spans of a large script, moved to the rows of the document and stretched over the tags. -/
def stretch (shift openRow closeRow : Nat) (parts : List Span) : List Span :=
  let moved := parts.map fun part =>
    { part with start := part.start + shift, stop := min (part.stop + shift) closeRow }
  match moved.reverse with
  | [] => []
  | last :: before => Span.startAt openRow ({ last with stop := closeRow } :: before).reverse

/-- The spans of a script block. A small script is one piece, and so is one without
declarations. -/
def scriptSpans (readScript : List Char → SyntaxTree) (text : List Char) (block : Block) :
    List Span :=
  let openRow := rowOf text block.opened
  let closeRow := rowOf text (block.closed - 1)
  let inner := (text.take block.bodyEnd).drop block.bodyStart
  let (inner, skipped) :=
    match inner with
    | '\n' :: rest => (rest, 1)
    | inner => (inner, 0)
  let parts :=
    if inner.length ≤ Span.maxChunkChars then []
    else
      Declaration.splitTree Language.scriptTable (readScript inner) ((lines inner).length - 1)
  if parts.isEmpty then [Span.rows openRow closeRow .script]
  else stretch (rowOf text block.bodyStart + skipped) openRow closeRow parts

/-- The spans of a block. -/
def spansOf (readScript : List Char → SyntaxTree) (text : List Char) (block : Block) :
    List Span :=
  match block.kind with
  | .template => [Span.rows (rowOf text block.opened) (rowOf text (block.closed - 1)) .template]
  | .script => scriptSpans readScript text block
  | .style => []

/-- Splits a component into the spans of its blocks. -/
def split (readScript : List Char → SyntaxTree) (text : List Char) : List Span :=
  (blocks text).flatMap (spansOf readScript text)

end CodeIndex.Component
