import CodeIndex.Syntax.Bracket

/-!
# Reading Python

The outline of a Python file, found through its lines. Items that stand on one line, or are joined
by brackets or by a backslash at the end of a line, form a logical line. A statement is a logical
line together with the deeper lines below it, its block.

Comments on lines of their own need a rule, because their indentation means nothing to the
language. Comments inside a block stay there. Those after the last line of a block belong to it as
long as each is indented at least as deep as the block; the first one that is not leaves the block,
and the ones after it go with it. Comments between the head of a statement and its block are part
of neither the block nor what surrounds the statement.
-/

namespace CodeIndex.Syntax.Python

open CodeIndex.Text

/-- The letters that may stand before a quoted text. -/
def isQuotePrefix (letters : List Char) : Bool :=
  letters.length ≤ 2 && letters.all fun c => "rbfutRBFUT".toList.contains c

/-- The size of a quoted text, if one begins here. -/
def quoted? (text : List Char) : Option Nat :=
  match text with
  | '"' :: '"' :: '"' :: rest => some (quotedSize ['"', '"', '"'] false rest + 3)
  | '\'' :: '\'' :: '\'' :: rest => some (quotedSize ['\'', '\'', '\''] false rest + 3)
  | '"' :: rest => some (quotedSize ['"'] true rest + 1)
  | '\'' :: rest => some (quotedSize ['\''] true rest + 1)
  | _ => none

/-- The token at the start of a text. -/
def lexeme (_ : Unit) (text : List Char) : Lexeme Unit :=
  match quoted? text with
  | some size => ⟨.quoted, size, ()⟩
  | none =>
    match text with
    | '#' :: rest => ⟨.lineComment, lineSize rest + 1, ()⟩
    | c :: _ =>
      if isNameStart c then
        let size := runSize isNameChar text
        let letters := text.take size
        match if isQuotePrefix letters then quoted? (text.drop size) else none with
        | some more => ⟨.quoted, size + more, ()⟩
        | none => ⟨.word, size, ()⟩
      else if c.isDigit then ⟨.number, runSize (fun c => isNameChar c || c == '.') text, ()⟩
      else ⟨.mark, 1, ()⟩
    | [] => ⟨.mark, 1, ()⟩

/-- The width of the blanks before the first token of a line: a tab counts eight, and only what
follows the last line end counts. -/
def indentOf (gap : List Char) : Nat :=
  gap.foldl (fun width c => if c = ' ' then width + 1 else if c = '\t' then width + 8 else 0) 0

/-- A logical line: its indentation and its items, a comment at the end included. -/
structure Line where
  indent : Nat
  items : List Item

namespace Line

/-- Whether a line is a comment and nothing else. -/
def isComment (line : Line) : Bool := line.items.all Item.isComment

/-- The items of a line without its comments. -/
def code (line : Line) : List Item := line.items.filter (!·.isComment)

/-- The first word of a line. -/
def word? (line : Line) : Option String := line.items.head?.bind Item.word?

/-- Whether a line begins with a word. -/
def startsWith (line : Line) (word : String) : Bool := line.word? == some word

end Line

/-- Whether a new logical line begins between two items. -/
def breaksBetween (before item : Item) : Bool :=
  item.isBelow before && !before.isMark "\\"

/-- Gathers items into logical lines; `line` holds the reversed line under way. -/
def linesFrom (line : List Item) : List Item → List (List Item)
  | [] => if line.isEmpty then [] else [line.reverse]
  | item :: items =>
    match line with
    | before :: _ =>
      if breaksBetween before item then line.reverse :: linesFrom [item] items
      else linesFrom (item :: line) items
    | [] => linesFrom [item] items

/-- The logical lines of some items. -/
def linesOf (items : List Item) : List Line :=
  (linesFrom [] items).map fun items =>
    ⟨indentOf ((items.head?.map (·.first.gap)).getD []), items⟩

/-- Cuts off the block of lines that are indented at least as deep as `indent`, together with the
comments that belong to it. `comments` are comments, latest first, that wait for the line after
them. -/
def cutBlock (indent : Nat) (comments : List Line) : List Line → List Line × List Line
  | [] =>
    let waiting := comments.reverse
    (waiting.takeWhile (indent ≤ ·.indent), waiting.dropWhile (indent ≤ ·.indent))
  | line :: lines =>
    if line.isComment then cutBlock indent (line :: comments) lines
    else
      let waiting := comments.reverse
      if indent ≤ line.indent then
        let (block, rest) := cutBlock indent [] lines
        (waiting ++ line :: block, rest)
      else
        (waiting.takeWhile (indent ≤ ·.indent),
          waiting.dropWhile (indent ≤ ·.indent) ++ line :: lines)

/-- The block below a line with the given indentation, without the comments before its first line,
and the lines after it. Where no deeper line follows there is no block. -/
def blockBelow (indent : Nat) (lines : List Line) : List Line × List Line :=
  match lines.dropWhile Line.isComment with
  | [] => ([], lines)
  | first :: rest =>
    if indent < first.indent then
      let (block, after) := cutBlock first.indent [] rest
      (first :: block, after)
    else ([], lines)

/-- Words that begin statements with a block, which may stand on the same line. -/
def compoundWords : List String :=
  ["def", "class", "if", "elif", "else", "for", "while", "try", "except", "finally", "with",
    "async"]

/-- A statement: its first line, and its block. -/
structure Statement where
  line : Line
  block : List Line

namespace Statement

/-- Whether comments at the end of the first line are part of the statement. -/
def ownsComment (s : Statement) : Bool :=
  !s.block.isEmpty || s.line.word?.any compoundWords.contains

/-- All items of a statement. -/
def items (s : Statement) : List Item :=
  s.line.code ++ s.block.flatMap (·.items)

/-- The comments after a statement on its line, as nodes beside it. -/
def trailing (s : Statement) : List SyntaxTree :=
  if s.ownsComment then []
  else (s.line.items.filterMap Item.comment?).map (commentNode "comment")

end Statement

/-- The node of a name that follows the keyword of a definition. -/
def nameNodes (code : List Item) : List SyntaxTree :=
  let afterKeyword := code.dropWhile fun item => item.isWord "async"
  match afterKeyword.drop 1 with
  | name :: _ => [textNode "identifier" (some "name") [name]]
  | [] => []

/-- The node of a statement; `members` reads the block of a class. -/
def statementNode (members : List Line → List SyntaxTree) (s : Statement) : SyntaxTree :=
  let code := s.line.code
  let second (word : String) : Bool := (code.drop 1).head?.any (·.isWord word)
  if s.line.startsWith "def" || (s.line.startsWith "async" && second "def") then
    nodeOver "function_definition" s.items (nameNodes code)
  else if s.line.startsWith "class" then
    let inside := s.block.flatMap (·.items)
    nodeOver "class_definition" s.items <| nameNodes code ++
      [.node "block" (some "body") ((inside.head?.map (·.start)).getD ⟨0, 0⟩)
        (Item.lastStop ⟨0, 0⟩ inside) "" (members s.block)]
  else if s.line.startsWith "import" then nodeOver "import_statement" s.items []
  else if s.line.startsWith "from" then
    nodeOver (if second "__future__" then "future_import_statement" else "import_from_statement")
      s.items []
  else nodeOver "expression_statement" s.items []

/-- Places a node under a label. -/
def labelled (label : String) : SyntaxTree → SyntaxTree
  | .node kind _ start stop text children => .node kind (some label) start stop text children

/-- Decorator lines at the start of some lines, comments between them left out, and the lines from
the decorated definition on. -/
def cutDecorators : List Line → List Line × List Line
  | [] => ([], [])
  | line :: lines =>
    if line.isComment then cutDecorators lines
    else if line.items.head?.any (·.isMark "@") then
      let (decorators, rest) := cutDecorators lines
      (line :: decorators, rest)
    else ([], line :: lines)

/-- The node of a decorated definition. -/
def decoratedNode (decorators : List Line) (definition : SyntaxTree) : SyntaxTree :=
  let start := ((decorators.head?.bind (·.items.head?)).map (·.start)).getD ⟨0, 0⟩
  .node "decorated_definition" none start definition.stop "" <|
    (decorators.map fun line => textNode "decorator" none line.items) ++
      [labelled "definition" definition]

/-- The nodes of one level of lines. `count` bounds their number. -/
def level (members : List Line → List SyntaxTree) : Nat → List Line → List SyntaxTree
  | 0, _ => []
  | _, [] => []
  | count + 1, line :: lines =>
    if line.isComment then
      (line.items.filterMap Item.comment?).map (commentNode "comment") ++
        level members count lines
    else
      match cutDecorators (line :: lines) with
      | (first :: others, definition :: rest) =>
        let (block, after) := blockBelow definition.indent rest
        let s : Statement := ⟨definition, block⟩
        decoratedNode (first :: others) (statementNode members s) :: s.trailing ++
          level members count after
      | (first :: others, []) =>
        [nodeOver "expression_statement" ((first :: others).flatMap (·.items)) []]
      | ([], _) =>
        let (block, after) := blockBelow line.indent lines
        let s : Statement := ⟨line, block⟩
        statementNode members s :: s.trailing ++ level members count after

/-- The members of a class. Classes inside are read without their members. -/
def members (lines : List Line) : List SyntaxTree :=
  level (fun _ => []) lines.length lines

/-- The tree of a file. -/
def read (text : List Char) : SyntaxTree :=
  let items := itemsOf (tokensOf lexeme () text)
  let lines := linesOf items
  nodeOver "module" items (level members lines.length lines)

end CodeIndex.Syntax.Python
