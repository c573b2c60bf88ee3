import CodeIndex.Text.CharClass

/-!
# Lines and blank text

A line ends at a line feed; a carriage return directly before that line feed belongs to the line
end. Text after the last line feed is a line of its own when it is not empty, and keeps a trailing
carriage return. `trim` takes away white space at both ends.
-/

namespace CodeIndex.Text

/-- A reversed line without the carriage return that ended it. -/
def dropReturn : List Char → List Char
  | '\r' :: line => line
  | line => line

/-- The lines of `text`, where `line` holds the reversed characters of the line under way. -/
def linesFrom (line : List Char) : List Char → List (List Char)
  | [] => if line.isEmpty then [] else [line.reverse]
  | c :: text =>
    if c = '\n' then (dropReturn line).reverse :: linesFrom [] text
    else linesFrom (c :: line) text

/-- The lines of a text, without their ends. -/
def lines (text : List Char) : List (List Char) :=
  linesFrom [] text

/-- A text without leading white space. -/
def trimStart (text : List Char) : List Char :=
  text.dropWhile isBlank

/-- A text without trailing white space. -/
def trimEnd (text : List Char) : List Char :=
  (text.reverse.dropWhile isBlank).reverse

/-- A text without white space at its ends. -/
def trim (text : List Char) : List Char :=
  trimEnd (trimStart text)

/-- White space only. -/
def isBlankText (text : List Char) : Bool :=
  text.all isBlank

/-- The pieces of `text` between separators, where `piece` holds the reversed piece under way. -/
def splitFrom (isSeparator : Char → Bool) (piece : List Char) : List Char → List (List Char)
  | [] => [piece.reverse]
  | c :: text =>
    if isSeparator c then piece.reverse :: splitFrom isSeparator [] text
    else splitFrom isSeparator (c :: piece) text

/-- The pieces of a text between separators, empty ones included: always one more than there are
separators. -/
def splitOn (isSeparator : Char → Bool) (text : List Char) : List (List Char) :=
  splitFrom isSeparator [] text

/-- The pieces joined with `separator` between neighbours. -/
def joinWith (separator : List Char) : List (List Char) → List Char
  | [] => []
  | [piece] => piece
  | piece :: pieces => piece ++ separator ++ joinWith separator pieces

/-- Whether `text` begins with `start`. -/
def startsWith (start text : List Char) : Bool :=
  start.isPrefixOf text

/-- Whether `part` occurs somewhere in a text. -/
def occursIn (part : List Char) : List Char → Bool
  | [] => part.isEmpty
  | c :: text => startsWith part (c :: text) || occursIn part text

/-- The text after `start`, if it begins with it. -/
def stripStart? : List Char → List Char → Option (List Char)
  | [], text => some text
  | _ :: _, [] => none
  | s :: start, c :: text => if s = c then stripStart? start text else none

/-- The text without white space at its ends. -/
def trimmed (text : String) : String :=
  String.ofList (trim text.toList)

/-- White space only. -/
def isBlankString (text : String) : Bool :=
  isBlankText text.toList

/-- Whether two texts differ at most in the case of ASCII letters. -/
def equalIgnoringCase (a b : String) : Bool :=
  a.toList.map Char.toLower == b.toList.map Char.toLower

end CodeIndex.Text
