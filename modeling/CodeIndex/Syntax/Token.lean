import CodeIndex.Syntax.Tree
import CodeIndex.Text.Line

/-!
# Tokens of source code

A source text is cut into tokens by a rule of its language that looks at the text from one place on
and says what stands there and how long it is. Every token carries the blanks before it, so nothing
of the text is lost and the text of any stretch of tokens can be put together again.

## Main definitions

* `Token`: a piece of source text with its place.
* `Lexeme`: what a language says about the start of a text.
* `tokensOf`: the tokens of a text.
-/

namespace CodeIndex.Syntax

open CodeIndex.Text

/-- What a token is, as far as finding declarations goes. -/
inductive TokenKind where
  | word
  | number
  | quoted
  | mark
  | lineComment
  | blockComment
deriving DecidableEq

/-- A piece of source text: what it is, the blanks before it, its own text, and its place. -/
structure Token where
  kind : TokenKind
  gap : List Char
  text : String
  start : Position
  stop : Position

namespace Token

/-- Comments of either kind. -/
def isComment (token : Token) : Bool :=
  token.kind == .lineComment || token.kind == .blockComment

/-- Whether a token is a given mark. -/
def isMark (token : Token) (text : String) : Bool :=
  token.kind == .mark && token.text == text

/-- Whether a token is a given word. -/
def isWord (token : Token) (text : String) : Bool :=
  token.kind == .word && token.text == text

end Token

/-- The place after some text that begins at a place. -/
def Position.after (place : Position) : List Char → Position
  | [] => place
  | c :: text =>
    if c = '\n' then Position.after ⟨place.row + 1, 0⟩ text
    else Position.after ⟨place.row, place.column + 1⟩ text

/-- What a language says about the start of a text: the kind of the token there, how many characters
it has, and what the language has to remember. -/
structure Lexeme (σ : Type) where
  kind : TokenKind
  size : Nat
  memory : σ

/-- The tokens of a text that begins at a place. `count` bounds their number, `gap` holds the blanks
so far in reverse. -/
def tokensFrom {σ : Type} (lexeme : σ → List Char → Lexeme σ) :
    Nat → σ → List Char → Position → List Char → List Token
  | 0, _, _, _, _ => []
  | _, _, _, _, [] => []
  | count + 1, memory, gap, place, c :: text =>
    if isBlank c then
      tokensFrom lexeme count memory (c :: gap) (Position.after place [c]) text
    else
      let found := lexeme memory (c :: text)
      let size := max 1 found.size
      let piece := (c :: text).take size
      let stop := Position.after place piece
      ⟨found.kind, gap.reverse, String.ofList piece, place, stop⟩ ::
        tokensFrom lexeme count found.memory [] stop ((c :: text).drop size)

/-- The tokens of a text. -/
def tokensOf {σ : Type} (lexeme : σ → List Char → Lexeme σ) (memory : σ) (text : List Char) :
    List Token :=
  tokensFrom lexeme text.length memory [] ⟨0, 0⟩ text

/-! ## Sizes of common tokens -/

/-- The characters of identifiers in all supported languages. -/
def isNameChar (c : Char) : Bool :=
  isWord c || c == '$'

/-- The characters that begin identifiers. -/
def isNameStart (c : Char) : Bool :=
  (isWord c && !c.isDigit) || c == '$'

/-- The size of a run of characters of a class. -/
def runSize (accepts : Char → Bool) (text : List Char) : Nat :=
  (text.takeWhile accepts).length

/-- The size of the rest of a line. -/
def lineSize (text : List Char) : Nat :=
  runSize (· != '\n') text

/-- The size of a text up to and including a closing mark; the whole text where it is missing. -/
def sizeThrough (closing : List Char) : List Char → Nat
  | [] => 0
  | c :: text =>
    if startsWith closing (c :: text) then closing.length else sizeThrough closing text + 1

/-- The size of nested comment text up to and including the mark that closes `depth` more than one
comment. `skip` says that one character belongs to the mark before it. -/
def nestedSize (skip : Bool) (depth : Nat) : List Char → Nat
  | [] => 0
  | c :: text =>
    if skip then nestedSize false depth text + 1
    else if startsWith ['*', '/'] (c :: text) then
      match depth with
      | 0 => 2
      | depth + 1 => nestedSize true depth text + 1
    else if startsWith ['/', '*'] (c :: text) then nestedSize true (depth + 1) text + 1
    else nestedSize false depth text + 1

/-- The size of quoted text up to and including the closing mark, where a backslash takes away the
meaning of the next character. With `oneLine`, the text ends before a line feed at the latest. -/
def quotedSize (closing : List Char) (oneLine : Bool) : List Char → Nat
  | [] => 0
  | '\\' :: _ :: text => quotedSize closing oneLine text + 2
  | c :: text =>
    if startsWith closing (c :: text) then closing.length
    else if oneLine && c = '\n' then 0
    else quotedSize closing oneLine text + 1

end CodeIndex.Syntax
