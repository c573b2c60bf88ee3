import CodeIndex.Toml.Literal

/-!
# Quoted texts of TOML

A text stands between quotes, in which a backslash begins an escape, or between apostrophes, in
which everything stands for itself. Between three of either it may go over several lines; a line end
directly after the opening does not count, and a backslash before a line end takes all white space
behind it away.

## Main definitions

* `Toml.quoted?`: the text that begins here, and what follows it.
-/

namespace CodeIndex.Toml

/-- Characters that may not stand in a text: controls other than the tab. -/
def isControl (c : Char) : Bool := (c.toNat < 32 && c != '\t') || c.toNat == 127

/-- The character with a code, if there is one. -/
def charOfCode? (code : Nat) : Option Char :=
  if h : code.isValidChar then some (Char.ofNatAux code h) else none

/-- The character whose code a fixed number of hexadecimal digits give, and what follows. -/
def codeEscape? (count : Nat) (text : List Char) : Option (Char × List Char) :=
  let digits := text.take count
  if digits.length == count && digits.all (isDigitOf 16) then
    (charOfCode? (valueOf 16 digits)).map fun c => (c, text.drop count)
  else none

/-- The character that the text after a backslash stands for, and what follows. -/
def escape? : List Char → Option (Char × List Char)
  | 'b' :: rest => some (Char.ofNat 8, rest)
  | 't' :: rest => some ('\t', rest)
  | 'n' :: rest => some ('\n', rest)
  | 'f' :: rest => some (Char.ofNat 12, rest)
  | 'r' :: rest => some ('\r', rest)
  | 'e' :: rest => some (Char.ofNat 27, rest)
  | '"' :: rest => some ('"', rest)
  | '\\' :: rest => some ('\\', rest)
  | 'x' :: rest => codeEscape? 2 rest
  | 'u' :: rest => codeEscape? 4 rest
  | 'U' :: rest => codeEscape? 8 rest
  | _ => none

/-- Reads to the closing quote of a text on one line; `taken` is reversed. -/
def basic? : Nat → List Char → List Char → Option (List Char × List Char)
  | 0, _, _ => none
  | _ + 1, _, [] => none
  | fuel + 1, taken, c :: rest =>
    if c = '"' then some (taken.reverse, rest)
    else if c = '\\' then (escape? rest).bind fun (c, rest) => basic? fuel (c :: taken) rest
    else if isControl c then none
    else basic? fuel (c :: taken) rest

/-- Reads to the closing apostrophe of a text on one line. -/
def literally? (taken : List Char) : List Char → Option (List Char × List Char)
  | [] => none
  | c :: rest =>
    if c = '\'' then some (taken.reverse, rest)
    else if isControl c then none
    else literally? (c :: taken) rest

/-- White space and line ends. -/
def isSpacing (c : Char) : Bool := c == ' ' || c == '\t' || c == '\n' || c == '\r'

/-- What follows a line end, with blanks before it. -/
def afterLineEnd? (text : List Char) : Option (List Char) :=
  match text.dropWhile fun c => c == ' ' || c == '\t' with
  | '\n' :: rest => some rest
  | '\r' :: '\n' :: rest => some rest
  | _ => none

/-- The text without a line end directly at its start. -/
def dropFirstLineEnd : List Char → List Char
  | '\n' :: rest => rest
  | '\r' :: '\n' :: rest => rest
  | rest => rest

/-- Up to five quotes in a row close a text, the last three of them; those before belong to it. -/
def closing? (quote : Char) (text : List Char) : Option (List Char × List Char) :=
  let count := min (text.takeWhile (· == quote)).length 5
  if count < 3 then none else some (List.replicate (count - 3) quote, text.drop count)

/-- Reads to the closing of a text on several lines; `taken` is reversed. -/
def multiline? (quote : Char) : Nat → List Char → List Char → Option (List Char × List Char)
  | 0, _, _ => none
  | fuel + 1, taken, text =>
    match closing? quote text with
    | some (last, rest) => some (taken.reverse ++ last, rest)
    | none =>
      match text with
      | [] => none
      | '\r' :: '\n' :: rest => multiline? quote fuel ('\n' :: taken) rest
      | '\n' :: rest => multiline? quote fuel ('\n' :: taken) rest
      | c :: rest =>
        if c = '\\' && quote = '"' then
          match afterLineEnd? rest with
          | some rest => multiline? quote fuel taken (rest.dropWhile isSpacing)
          | none =>
            (escape? rest).bind fun (c, rest) => multiline? quote fuel (c :: taken) rest
        else if isControl c then none
        else multiline? quote fuel (c :: taken) rest

/-- The text that begins here, on one line, and what follows it. -/
def quotedOnLine? : List Char → Option (List Char × List Char)
  | '"' :: rest => basic? (rest.length + 1) [] rest
  | '\'' :: rest => literally? [] rest
  | _ => none

/-- The text that begins here and what follows it. -/
def quoted? : List Char → Option (List Char × List Char)
  | '"' :: '"' :: '"' :: rest => multiline? '"' (rest.length + 1) [] (dropFirstLineEnd rest)
  | '\'' :: '\'' :: '\'' :: rest => multiline? '\'' (rest.length + 1) [] (dropFirstLineEnd rest)
  | text => quotedOnLine? text

end CodeIndex.Toml
