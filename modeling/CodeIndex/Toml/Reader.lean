import CodeIndex.Toml.Plot
import CodeIndex.Toml.Quoted

/-!
# Reading TOML

A document is a sequence of lines that define fields or open tables. Values may be nested; lists and
tables within braces go over as many lines as they like. Whatever is wrong anywhere makes the whole
document unreadable.

## Main definitions

* `Toml.parse?`: the table that a document describes.
-/

namespace CodeIndex.Toml

/-- Blanks within a line. -/
def isGap (c : Char) : Bool := c == ' ' || c == '\t'

/-- The text without blanks in front. -/
def skipGap (text : List Char) : List Char := text.dropWhile isGap

/-- What follows a comment, from its line end on. -/
def afterComment? : List Char → Option (List Char)
  | '#' :: rest =>
    let comment := rest.takeWhile (· != '\n')
    let body := if comment.getLast? == some '\r' && comment.length < rest.length then
      comment.dropLast else comment
    if body.any isControl then none else some (rest.drop body.length)
  | text => some text

/-- What follows blanks, comments and line ends; the fuel exceeds the number of characters. -/
def skipLines? : Nat → List Char → Option (List Char)
  | 0, text => some text
  | fuel + 1, text =>
    match skipGap text with
    | '\n' :: rest => skipLines? fuel rest
    | '\r' :: '\n' :: rest => skipLines? fuel rest
    | '#' :: rest => (afterComment? ('#' :: rest)).bind (skipLines? fuel)
    | rest => some rest

/-- What follows blanks, comments and line ends. -/
def afterSpace? (text : List Char) : Option (List Char) := skipLines? (text.length + 1) text

/-- What follows the end of a line, on which nothing but a comment may be left. -/
def endLine? (text : List Char) : Option (List Char) :=
  (afterComment? (skipGap text)).bind fun rest =>
    match rest with
    | [] => some []
    | '\n' :: rest => some rest
    | '\r' :: '\n' :: rest => some rest
    | _ => none

/-- Characters of keys without quotes. -/
def isBare (c : Char) : Bool := c.isAlphanum || c == '-' || c == '_'

/-- One part of a key, and what follows it. -/
def keyPart? (text : List Char) : Option (String × List Char) :=
  match text with
  | '"' :: _ => (quotedOnLine? text).map fun (part, rest) => (String.ofList part, rest)
  | '\'' :: _ => (quotedOnLine? text).map fun (part, rest) => (String.ofList part, rest)
  | _ =>
    let part := text.takeWhile isBare
    if part.isEmpty then none else some (String.ofList part, text.dropWhile isBare)

/-- The parts of a key with points between them, the last one apart, and what follows the key. -/
def key? : Nat → List Char → Option (List String × String × List Char)
  | 0, _ => none
  | fuel + 1, text => do
    let (part, rest) ← keyPart? (skipGap text)
    match skipGap rest with
    | '.' :: rest =>
      let (path, name, rest) ← key? fuel rest
      return (part :: path, name, rest)
    | rest => return ([], part, rest)

/-- What ends a word. -/
def isBoundary (c : Char) : Bool :=
  c == ',' || c == ']' || c == '\x7d' || c == '#' || isSpacing c

/-- A word, and what follows it. A date and a time of day may have a blank between them. -/
def word (text : List Char) : List Char × List Char :=
  let first := text.takeWhile fun c => !isBoundary c
  let rest := text.dropWhile fun c => !isBoundary c
  match afterDate? first, rest with
  | some [], ' ' :: c :: more =>
    if c.isDigit then
      let second := (c :: more).takeWhile fun c => !isBoundary c
      (first ++ ' ' :: second, (c :: more).drop second.length)
    else (first, rest)
  | _, _ => (first, rest)

mutual

/-- A value, and what follows it. -/
def value? : Nat → List Char → Option (Toml × List Char)
  | 0, _ => none
  | fuel + 1, text =>
    match text with
    | '"' :: _ => (quoted? text).map fun (s, rest) => (.string (String.ofList s), rest)
    | '\'' :: _ => (quoted? text).map fun (s, rest) => (.string (String.ofList s), rest)
    | '[' :: rest => (items? fuel [] rest).map fun (items, rest) => (.list items, rest)
    | '\x7b' :: rest =>
      (fields? fuel [] rest).map fun (fields, rest) => (.table (finishFields fields), rest)
    | text =>
      let (word, rest) := word text
      (literal? word).map fun v => (v, rest)

/-- The items of a list up to its end; `taken` is reversed. -/
def items? : Nat → List Toml → List Char → Option (List Toml × List Char)
  | 0, _, _ => none
  | fuel + 1, taken, text =>
    match afterSpace? text with
    | none => none
    | some (']' :: rest) => some (taken.reverse, rest)
    | some text =>
      match value? fuel text with
      | none => none
      | some (v, rest) =>
        match afterSpace? rest with
        | some (',' :: rest) => items? fuel (v :: taken) rest
        | some (']' :: rest) => some ((v :: taken).reverse, rest)
        | _ => none

/-- The fields of a table within braces up to its end. -/
def fields? : Nat → PlotFields → List Char → Option (PlotFields × List Char)
  | 0, _, _ => none
  | fuel + 1, taken, text =>
    match afterSpace? text with
    | none => none
    | some ('\x7d' :: rest) => some (taken, rest)
    | some text =>
      match definition? fuel text with
      | none => none
      | some (path, name, v, rest) =>
        match taken.define? path name v, afterSpace? rest with
        | some taken, some (',' :: rest) => fields? fuel taken rest
        | some taken, some ('\x7d' :: rest) => some (taken, rest)
        | _, _ => none

/-- A key with its value, and what follows. -/
def definition? : Nat → List Char → Option (List String × String × Toml × List Char)
  | 0, _ => none
  | fuel + 1, text =>
    match key? fuel text with
    | some (path, name, '=' :: rest) =>
      (value? fuel (skipGap rest)).map fun (v, rest) => (path, name, v, rest)
    | _ => none

end

/-- A header after its opening brackets: its key, and what follows the line. -/
def header? (close : List Char) (text : List Char) : Option (List String × String × List Char) :=
  match key? (text.length + 1) text with
  | some (path, name, rest) =>
    if close.isPrefixOf rest then
      (endLine? (rest.drop close.length)).map fun rest => (path, name, rest)
    else none
  | none => none

/-- Reads lines below the header with the path `here`. -/
def readLines : Nat → List String → PlotFields → List Char → Option PlotFields
  | 0, _, _, _ => none
  | fuel + 1, here, fields, text =>
    match afterSpace? text with
    | none => none
    | some [] => some fields
    | some ('[' :: '[' :: rest) =>
      (header? [']', ']'] rest).bind fun (path, name, rest) =>
        (fields.openItem? path name).bind fun fields =>
          readLines fuel (path ++ [name]) fields rest
    | some ('[' :: rest) =>
      (header? [']'] rest).bind fun (path, name, rest) =>
        (fields.openTable? path name).bind fun fields =>
          readLines fuel (path ++ [name]) fields rest
    | some text =>
      (definition? (2 * text.length + 2) text).bind fun (path, name, v, rest) =>
        (PlotFields.at? false (fun _ inner => inner.define? path name v) here .header fields).bind
          fun fields => (endLine? rest).bind (readLines fuel here fields)

/-- The table that a document describes. -/
def parse? (document : List Char) : Option Toml :=
  let text := match document with
    | c :: rest => if c.toNat = 0xFEFF then rest else c :: rest
    | [] => []
  (readLines (text.length + 1) [] [] text).map fun fields => .table (finishFields fields)

end CodeIndex.Toml
