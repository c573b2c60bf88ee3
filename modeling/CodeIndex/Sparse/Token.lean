import CodeIndex.Text.Line

/-!
# Tokens of a text

Source code hides words in identifiers. A text is cut into segments at everything that is neither
letter nor number, and inside identifiers at changes of case and between letters and numbers, so
that `getUserById` holds the words of the sentence a developer would type. Segments are put into
lower case; those of one character and the common words of the language are dropped.

## Main definitions

* `Token.segments`: all segments, lower-cased.
* `Token.tokenize`: the segments that carry meaning.
-/

namespace CodeIndex.Token

open CodeIndex.Text

/-- Common words that tell nothing about code. Verbs such as `get` are absent on purpose. -/
def stopwords : List String :=
  ["a", "an", "and", "are", "as", "at", "be", "but", "by", "for", "from", "has", "have", "if",
    "in", "into", "is", "it", "its", "no", "not", "of", "on", "or", "so", "such", "than",
    "that", "the", "their", "then", "there", "these", "they", "this", "to", "was", "were",
    "will", "with", "which", "who", "what", "when", "where", "how", "do", "does", "we", "you"]

/-- The classes of characters that segmentation tells apart. Letters without case count as lower
case. -/
inductive CharClass where
  | lower
  | upper
  | digit
  | other
deriving DecidableEq

/-- The class of a character. -/
def classOf (c : Char) : CharClass :=
  if isUpper c then .upper
  else if isNumeric c then .digit
  else if isLetter c then .lower
  else .other

/-- Whether a segment ends between a character of class `before` and one of class `here`, when the
character after that has class `after`. A run of capitals gives its last one to a lower-case word
that follows, as in `HTTPServer`. -/
def cutsBetween (before here : CharClass) (after : Option CharClass) : Bool :=
  match before, here with
  | .lower, .upper => true
  | .digit, .lower | .digit, .upper => true
  | .lower, .digit | .upper, .digit => true
  | .upper, .upper => after == some .lower
  | _, _ => false

/-- The finished segment, if it holds anything. -/
def close (segment : List Char) : List (List Char) :=
  if segment.isEmpty then [] else [segment.reverse]

/-- The segments of `text`, where `before` is the class of the preceding character and `segment`
holds the reversed segment under way. -/
def segmentsFrom (before : Option CharClass) (segment : List Char) :
    List Char → List (List Char)
  | [] => close segment
  | c :: rest =>
    let here := classOf c
    if here = .other then close segment ++ segmentsFrom (some here) [] rest
    else if before.any (cutsBetween · here (rest.head?.map classOf)) then
      close segment ++ segmentsFrom (some here) (lower c).reverse rest
    else segmentsFrom (some here) ((lower c).reverse ++ segment) rest

/-- The segments of a text, in lower case. -/
def segments (text : List Char) : List (List Char) :=
  segmentsFrom none [] text

/-- Whether a segment carries meaning. -/
def isMeaningful (segment : List Char) : Bool :=
  1 < segment.length && !stopwords.contains (String.ofList segment)

/-- The tokens of a text, in order and with repetitions. -/
def tokenize (text : List Char) : List (List Char) :=
  (segments text).filter isMeaningful

end CodeIndex.Token
