import CodeIndex.Text.Alphabetic
import CodeIndex.Text.Numeric
import CodeIndex.Text.Case
import CodeIndex.Text.Unseen

/-!
# Classes of characters

Every rule of this library that asks what kind of character it sees asks here. The classes are
those of the Unicode character database, because file contents, queries and paths are arbitrary
text; the classes of `Char` in core know ASCII only. Where a rule wants ASCII alone it uses core's
`Char.isDigit` and its like, and says so.

## Main definitions

* `isBlank`, `isLetter`, `isNumeric`, `isUpper`, `isUnseen`: membership of one character.
* `isWord`: what a word boundary of a pattern separates.
* `lower`, `lowerText`: lower case of a character and of a text.
-/

namespace CodeIndex.Text

/-- White space: the property `White_Space`. -/
def isBlank (c : Char) : Bool :=
  let code := c.toNat
  (9 ≤ code && code ≤ 13) || code == 32 || code == 0x85 || code == 0xA0 || code == 0x1680 ||
    (0x2000 ≤ code && code ≤ 0x200A) || code == 0x2028 || code == 0x2029 || code == 0x202F ||
    code == 0x205F || code == 0x3000

/-- Letters of any alphabet, cased or not. -/
def isLetter (c : Char) : Bool :=
  inRanges c.toNat alphabeticRanges

/-- Decimal digits, letter numbers such as `Ⅷ` and other numbers such as `½`. -/
def isNumeric (c : Char) : Bool :=
  inRanges c.toNat numericRanges

/-- Characters that do not show on a page, or only together with the one before. -/
def isUnseen (c : Char) : Bool :=
  inRanges c.toNat unseenRanges

/-- Capital letters. -/
def isUpper (c : Char) : Bool :=
  inRanges c.toNat uppercaseRanges

/-- Letters and numbers. -/
def isAlphanumeric (c : Char) : Bool :=
  isLetter c || isNumeric c

/-- Characters that make up words: letters, marks, decimal digits, connecting punctuation and the
joiners. -/
def isWord (c : Char) : Bool :=
  isLetter c || inRanges c.toNat wordExtraRanges

/-- Letters that have a case at all. -/
def isCased (c : Char) : Bool :=
  inRanges c.toNat casedRanges

/-- Characters that a search for a neighbouring cased letter steps over. -/
def isCaseIgnorable (c : Char) : Bool :=
  inRanges c.toNat caseIgnorableRanges

/-- The lower case of a character on its own. One capital, the dotted `İ`, becomes two characters:
a small `i` and the dot above it. -/
def lower (c : Char) : List Char :=
  if c = 'İ' then ['i', Char.ofNat 0x307]
  else [Char.ofNat (mapRanges c.toNat lowerRanges)]

/-- Whether the nearest character that is not case-ignorable is a cased letter. -/
def nextIsCased : List Char → Bool
  | [] => false
  | c :: rest => if isCaseIgnorable c then nextIsCased rest else isCased c

/-- Lower case of the text `rest` that follows the reversed text `before`. A capital sigma that
ends a word, that is, follows a cased letter and precedes none, becomes the final form `ς`. -/
def lowerAfter (before : List Char) : List Char → List Char
  | [] => []
  | c :: rest =>
    let small :=
      if c = 'Σ' && nextIsCased before && !nextIsCased rest then ['ς'] else lower c
    small ++ lowerAfter (c :: before) rest

/-- The lower case of a text, sensitive to context where the alphabet is. -/
def lowerText (text : List Char) : List Char :=
  lowerAfter [] text

end CodeIndex.Text
