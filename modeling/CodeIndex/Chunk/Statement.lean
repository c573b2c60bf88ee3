import CodeIndex.Chunk.Span
import CodeIndex.Text.Pattern

/-!
# Splitting SQL

A section of an SQL script begins on a line whose first word starts a statement. What precedes the
first such line belongs to the first section. A section is named after the object that its first
creating line creates. Small neighbours are merged.
-/

namespace CodeIndex.Statement

open CodeIndex.Text

/-- The words that start a statement. -/
def startWords : List String :=
  ["create", "alter", "drop", "insert", "update", "delete", "grant", "revoke", "begin", "commit"]

/-- A line on which a statement starts. -/
def opening : Pattern :=
  .all [.textStart, .many isBlank, .anyOf (startWords.map .word), .wordEdge]

/-- At least one blank. -/
def blanks : Pattern := .several isBlank

/-- The kinds of objects that a statement creates under a name. -/
def createdObject : Pattern :=
  .anyOf [.word "table", .word "view", .all [.word "materialized", blanks, .word "view"],
    .word "index", .word "function", .word "procedure", .word "trigger", .word "sequence",
    .word "type", .word "schema"]

/-- Quotes and brackets around names. -/
def isNameQuote (c : Char) : Bool := c == '"' || c == '\x60' || c == '[' || c == ']'

/-- The characters of a possibly quoted and qualified name. -/
def isNameChar (c : Char) : Bool := isWord c || c == '.' || isNameQuote c

/-- A line that creates an object; the name is the first group. -/
def creation : Pattern :=
  .all [.textStart, .many isBlank, .word "create", blanks,
    .optional (.all [.word "or", blanks, .word "replace", blanks]),
    .optional (.all [.anyOf [.word "unique", .word "temp", .word "temporary"], blanks]),
    createdObject, blanks,
    .optional (.all [.word "if", blanks, .word "not", blanks, .word "exists", blanks]),
    .group 1 (.several isNameChar)]

/-- Whether a statement starts on a line. -/
def isOpening (line : List Char) : Bool := opening.occursIn line

/-- The name of the object that a line creates, without quotes around it. -/
def createdName? (line : List Char) : Option String :=
  (creation.find? line).map fun found =>
    String.ofList <|
      (((found.groups.text 1).dropWhile isNameQuote).reverse.dropWhile isNameQuote).reverse

/-- One statement section, named after what it creates first. -/
def sectionSpan (lines : List (List Char)) (start stop : Nat) : Span :=
  (Span.rows start stop .statement).named <|
    ((lines.drop start).take (stop + 1 - start)).findSome? createdName?

/-- Splits a script into statement sections; nothing if no statement starts anywhere. -/
def split (lines : List (List Char)) : List Span :=
  match Span.rowsWhere isOpening lines with
  | [] => []
  | _ :: rows =>
    Span.mergeGreedy lines (Span.sections (lines.length - 1) (sectionSpan lines) (0 :: rows))

end CodeIndex.Statement
