import CodeIndex.Syntax.Bracket

/-!
# Tokens of scripts

Two signs of the script languages cannot be read without knowing what came before. A slash divides
after an operand and begins a regular expression elsewhere; an angle, in the dialect with markup
inside expressions, compares after an operand and opens an element elsewhere. So the lexer remembers
whether the last token ended an operand.

Templates and markup elements hold code, which holds texts, templates and elements again. Each of
them is one token; its end is found with a stack of what is open.
-/

namespace CodeIndex.Syntax.Script

open CodeIndex.Text

/-- The dialects: with types, or with markup inside expressions. -/
inductive Dialect where
  | typed
  | markup
deriving DecidableEq

/-- What is open inside a template or an element. -/
inductive Open where
  /-- Template text up to a backtick. -/
  | template
  /-- Code up to a closing brace. -/
  | code
  /-- A quoted text of the code. -/
  | quoted (quote : Char)
  /-- A quoted value of an attribute. -/
  | value (quote : Char)
  /-- A comment up to the end of the line. -/
  | lineComment
  /-- A comment up to its closing sign. -/
  | blockComment
  /-- An opening tag. -/
  | tag
  /-- A closing tag. -/
  | closingTag
  /-- The contents of an element. -/
  | children

/-- Words after which an operand follows. -/
def operandWords : List String :=
  ["return", "typeof", "case", "in", "of", "delete", "void", "throw", "new", "instanceof", "do",
    "else", "yield", "await", "default", "extends"]

/-- Whether an operand is due after some reversed text. -/
def isOperandDue (before : List Char) : Bool :=
  match before.dropWhile isBlank with
  | [] => true
  | c :: rest =>
    "(,=?:&|\x7b[!>;".toList.contains c ||
      operandWords.contains (String.ofList ((c :: rest).takeWhile isNameChar).reverse)

/-- Whether an element of markup may begin with an angle before this text. -/
def beginsElement (text : List Char) : Bool :=
  match text with
  | c :: _ => isNameStart c || c == '>'
  | [] => false

/-- What one character does to the stack, and whether the next character belongs to it. `before` is
the reversed text so far, `after` the text that follows. -/
def openStep (dialect : Dialect) (before : List Char) (c : Char) (after : List Char) :
    List Open → List Open × Bool
  | [] => ([], false)
  | .template :: rest =>
    if c = '\\' then (.template :: rest, true)
    else if c = '\x60' then (rest, false)
    else if c = '$' && startsWith ['\x7b'] after then (.code :: .template :: rest, true)
    else (.template :: rest, false)
  | .code :: rest =>
    let here := Open.code :: rest
    if c = '\x60' then (.template :: here, false)
    else if c = '"' || c = '\'' then (.quoted c :: here, false)
    else if c = '\x7b' then (.code :: here, false)
    else if c = '\x7d' then (rest, false)
    else if c = '/' && startsWith ['/'] after then (.lineComment :: here, true)
    else if c = '/' && startsWith ['*'] after then (.blockComment :: here, true)
    else if c = '<' && dialect = .markup && beginsElement after && isOperandDue before then
      (.tag :: here, false)
    else (here, false)
  | .quoted quote :: rest =>
    if c = '\\' then (.quoted quote :: rest, true)
    else if c = quote || c = '\n' then (rest, false)
    else (.quoted quote :: rest, false)
  | .value quote :: rest => (if c = quote then rest else .value quote :: rest, false)
  | .lineComment :: rest => (if c = '\n' then rest else .lineComment :: rest, false)
  | .blockComment :: rest =>
    if c = '*' && startsWith ['/'] after then (rest, true) else (.blockComment :: rest, false)
  | .tag :: rest =>
    if c = '\x7b' then (.code :: .tag :: rest, false)
    else if c = '"' || c = '\'' then (.value c :: .tag :: rest, false)
    else if c = '/' && startsWith ['>'] after then (rest, true)
    else if c = '>' then (.children :: rest, false)
    else (.tag :: rest, false)
  | .closingTag :: rest => (if c = '>' then rest else .closingTag :: rest, false)
  | .children :: rest =>
    if c = '<' && startsWith ['/'] after then (.closingTag :: rest, true)
    else if c = '<' then (.tag :: .children :: rest, false)
    else if c = '\x7b' then (.code :: .children :: rest, false)
    else (.children :: rest, false)

/-- The size of the text up to the place where nothing is open any more. -/
def openSize (dialect : Dialect) (before : List Char) (skip : Bool) (stack : List Open) :
    List Char → Nat
  | [] => 0
  | c :: text =>
    if skip then openSize dialect (c :: before) false stack text + 1
    else
      match stack with
      | [] => 0
      | stack =>
        let (stack, skip) := openStep dialect before c text stack
        openSize dialect (c :: before) skip stack text + 1

/-- The size of a regular expression after its first slash, with its flags; nothing if it does not
end on the line. -/
def regexSize? (inClass : Bool) : List Char → Option Nat
  | [] => none
  | '\\' :: _ :: text => (regexSize? inClass text).map (· + 2)
  | c :: text =>
    if c = '\n' then none
    else if c = '/' && !inClass then some (1 + runSize isNameChar text)
    else
      (regexSize? (if c = '[' then true else if c = ']' then false else inClass) text).map (· + 1)

/-- The marks of several characters that finding declarations needs as one. -/
def longMarks : List (List Char) :=
  [['.', '.', '.'], ['=', '>'], ['+', '+'], ['-', '-'], ['?', '.']]

/-- The size of the mark at the start of a text. -/
def markSize (text : List Char) : Nat :=
  ((longMarks.find? (startsWith · text)).map (·.length)).getD 1

/-- The token at the start of a text; the memory tells whether the last token ended an operand. -/
def lexeme (dialect : Dialect) (afterOperand : Bool) (text : List Char) : Lexeme Bool :=
  match text with
  | '/' :: '/' :: rest => ⟨.lineComment, lineSize rest + 2, afterOperand⟩
  | '/' :: '*' :: rest => ⟨.blockComment, sizeThrough ['*', '/'] rest + 2, afterOperand⟩
  | '"' :: rest => ⟨.quoted, quotedSize ['"'] true rest + 1, true⟩
  | '\'' :: rest => ⟨.quoted, quotedSize ['\''] true rest + 1, true⟩
  | '\x60' :: rest => ⟨.quoted, openSize dialect [] false [.template] rest + 1, true⟩
  | '/' :: rest =>
    match if afterOperand then none else regexSize? false rest with
    | some size => ⟨.quoted, size + 1, true⟩
    | none => ⟨.mark, 1, false⟩
  | '<' :: rest =>
    if dialect = .markup && !afterOperand && beginsElement rest then
      ⟨.quoted, openSize dialect [] false [.tag] rest + 1, true⟩
    else ⟨.mark, 1, false⟩
  | c :: rest =>
    if isNameStart c || (c = '#' && rest.head?.any isNameStart) then
      let size := runSize isNameChar rest + 1
      ⟨.word, size, !operandWords.contains (String.ofList (text.take size))⟩
    else if c.isDigit then ⟨.number, runSize (fun c => isNameChar c || c == '.') text, true⟩
    else
      let size := markSize text
      ⟨.mark, size, c == ')' || c == ']' || c == '\x7d' || (size = 2 && (c == '+' || c == '-'))⟩
  | [] => ⟨.mark, 1, false⟩

/-- The items of a script. -/
def items (dialect : Dialect) (text : List Char) : List Item :=
  itemsOf (tokensOf (lexeme dialect) false text)

end CodeIndex.Syntax.Script
