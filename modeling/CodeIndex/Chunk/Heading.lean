import CodeIndex.Chunk.Span
import CodeIndex.Text.Pattern

/-!
# Splitting Markdown

A section begins at a heading line outside fenced code and is named after the heading. What precedes
the first heading belongs to the first section. Small neighbours are merged.
-/

namespace CodeIndex.Heading

open CodeIndex.Text

/-- A heading line: one to six number signs, blanks, the title, and possibly closing signs. The
title is the second group. -/
def heading : Pattern :=
  .all [.textStart, .group 1 (.run (· == '#') ⟨1, some 6, true⟩), .several isBlank,
    .group 2 (.run (· != '\n') ⟨1, none, false⟩), .many isBlank, .many (· == '#'), .many isBlank,
    .textEnd]

/-- The title of a heading line. -/
def title? (line : List Char) : Option String :=
  (heading.find? line).map fun found => String.ofList (found.groups.text 2)

/-- Whether a line opens or closes fenced code: after leading blanks, three backticks or three
tildes. -/
def isFence (line : List Char) : Bool :=
  let text := trimStart line
  startsWith ['\x60', '\x60', '\x60'] text || startsWith ['~', '~', '~'] text

/-- The headings outside fences, with their rows. -/
def headingsFrom (inFence : Bool) (row : Nat) : List (List Char) → List (Nat × String)
  | [] => []
  | line :: lines =>
    if isFence line then headingsFrom (!inFence) (row + 1) lines
    else
      match if inFence then none else title? line with
      | some title => (row, title) :: headingsFrom inFence (row + 1) lines
      | none => headingsFrom inFence (row + 1) lines

/-- The headings of a document, with their rows. -/
def headings (lines : List (List Char)) : List (Nat × String) :=
  headingsFrom false 0 lines

/-- Splits a document into sections; nothing if it has no heading. -/
def split (lines : List (List Char)) : List Span :=
  let found := headings lines
  let title (row : Nat) : Option String := (found.find? fun entry => row ≤ entry.1).map (·.2)
  match found.map (·.1) with
  | [] => []
  | _ :: rows =>
    Span.mergeGreedy lines <|
      Span.sections (lines.length - 1) (fun start stop =>
        (Span.rows start stop .other).named (title start)) (0 :: rows)

end CodeIndex.Heading
