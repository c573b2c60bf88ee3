import CodeIndex.Syntax.Script.Ending

/-!
# Reading scripts

The outline of a TypeScript or JavaScript file: declarations with their names, exports with the
declarations they wrap, the members of classes with their decorators, and the comments between
them. Statements that declare nothing are cut roughly: a long statement may come apart into several
nodes, which makes no difference to anyone who only looks for declarations.
-/

namespace CodeIndex.Syntax.Script

/-- A node and the items after it. -/
abbrev Reading := SyntaxTree × List Item

/-- A node over everything between `items` and `rest`. -/
def reading (kind : String) (items rest : List Item) (children : List SyntaxTree) : Reading :=
  (nodeOver kind (consumed items rest) children, rest)

/-- The node of a name. -/
def nameNode (item : Item) : SyntaxTree := textNode "identifier" (some "name") [item]

/-- The node of a name, if an item is a word. -/
def nameNodes (items : List Item) : List SyntaxTree :=
  match dropComments items with
  | item :: _ => if item.word?.isSome then [nameNode item] else []
  | [] => []

/-- Places a node under a label. -/
def labelled (label : String) : SyntaxTree → SyntaxTree
  | .node kind _ start stop text children => .node kind (some label) start stop text children

/-! ## Decorators -/

/-- What follows the name with points and the arguments of a decorator. -/
def afterDecoratorPath : List Item → List Item
  | [] => []
  | item :: items =>
    if item.isGroup "(" then items
    else
      match items with
      | part :: rest =>
        if item.isMark "." && part.word?.isSome then afterDecoratorPath rest
        else item :: part :: rest
      | [] => [item]

/-- What follows the decorator that begins here, if one does. -/
def afterDecorator? : List Item → Option (List Item)
  | sign :: first :: rest =>
    if !sign.isMark "@" then none
    else if first.isGroup "(" then some rest
    else if first.word?.isSome then some (afterDecoratorPath rest)
    else none
  | _ => none

/-- The decorators at the start of some items, comments between them left out, and what follows
them. `steps` bounds their number. -/
def cutDecorators : Nat → List Item → List SyntaxTree × List Item
  | 0, items => ([], items)
  | steps + 1, items =>
    match afterDecorator? items with
    | none => ([], items)
    | some rest =>
      let (others, after) := cutDecorators steps (dropComments rest)
      (textNode "decorator" (some "decorator") (consumed items rest) :: others, after)

/-! ## Members of classes -/

/-- Words that may stand before the name of a member. -/
def memberModifiers : List String :=
  ["public", "private", "protected", "static", "abstract", "override", "readonly", "async", "get",
    "set", "declare", "accessor"]

/-- Whether a name of a member, or a further modifier, may begin with an item. -/
def beginsName (item : Item) : Bool :=
  item.isMark "*" || item.isGroup "[" || item.isGroup "\x7b" ||
    match item with
    | .token t => t.kind == .word || t.kind == .quoted || t.kind == .number
    | .group .. => false

/-- The items after leading modifiers, and whether `abstract` is one of them. -/
def afterModifiers : List Item → List Item × Bool
  | item :: next :: items =>
    if item.isComment then afterModifiers (next :: items)
    else if item.word?.any memberModifiers.contains && beginsName next then
      let (rest, isAbstract) := afterModifiers (next :: items)
      (rest, isAbstract || item.isWord "abstract")
    else if item.isMark "*" then (next :: items, false)
    else (item :: next :: items, false)
  | items => (items, false)

/-- The items after the sign for an optional or a definite member. -/
def afterOptional (items : List Item) : List Item :=
  match items with
  | item :: rest => if item.isMark "?" || item.isMark "!" then rest else items
  | [] => []

/-- What follows the value of a field or variable, if one is given; with the items of the value. -/
def afterValue (dialect : Dialect) (commas : Bool) (items : List Item) :
    List Item × List Item :=
  match dropComments items with
  | sign :: rest =>
    if sign.isMark "=" then
      let after := afterExpression dialect commas sign rest
      (consumed rest after, after)
    else ([], items)
  | [] => ([], [])

/-- One member of a class, with its decorators. -/
def member (dialect : Dialect) (items : List Item) : Reading :=
  let (decorators, plain) := cutDecorators items.length items
  let (named, isAbstract) := afterModifiers plain
  match named with
  | [] => reading "public_field_definition" items [] decorators
  | name :: rest =>
    if name.isGroup "\x7b" then
      reading "class_static_block" items (afterLine dialect false items rest) decorators
    else
      let rest := afterOptional rest
      match dropComments (afterTypeArguments rest) with
      | [] => reading "public_field_definition" items rest decorators
      | next :: _ =>
        if next.isGroup "(" then
          let (after, hasBody) := afterFunctionHead rest
          let kind :=
            if hasBody then "method_definition"
            else if isAbstract then "abstract_method_signature"
            else "method_signature"
          reading kind items
            (if hasBody then afterLine dialect false items after else afterSemicolon after)
            (decorators ++ [nameNode name])
        else
          let (_, after) := afterValue dialect false (afterTypeNote rest)
          reading "public_field_definition" items (afterSemicolon after)
            (decorators ++ [nameNode name])

/-- The members of a class. `steps` bounds their number. -/
def members (dialect : Dialect) : Nat → List Item → List SyntaxTree
  | 0, _ => []
  | _, [] => []
  | steps + 1, item :: items =>
    match item.comment? with
    | some t => commentNode "comment" t :: members dialect steps items
    | none =>
      if item.isMark ";" || item.isMark "," then members dialect steps items
      else
        let (node, rest) := member dialect (item :: items)
        node :: members dialect steps (if rest.length ≤ items.length then rest else items)

/-! ## Declarations

A declaration with a body may end with a line behind it. How the line ends it is given as a function
on what follows the body.
-/

/-- The node of a class, from its keyword on; `start` holds the items from its first token on. -/
def classReading (dialect : Dialect) (kind : String) (ending : List Item → List Item)
    (start afterKeyword : List Item) (decorators : List SyntaxTree) : Reading :=
  let isHeritage := (dropComments afterKeyword).head?.any fun item =>
    item.isWord "extends" || item.isWord "implements"
  let name := if isHeritage then [] else nameNodes afterKeyword
  match cutBody afterKeyword.length afterKeyword with
  | some (body, rest) =>
    let inside := (body.inside? "\x7b").getD []
    reading kind start (ending rest) <| decorators ++ name ++
      [.node "class_body" (some "body") body.start body.stop ""
        (members dialect inside.length inside)]
  | none => reading kind start [] (decorators ++ name)

/-- The node of a function, from what follows its keyword on. -/
def functionReading (dialect : Dialect) (mayGoOn : Bool) (start afterKeyword : List Item) :
    Reading :=
  let isGenerator := (dropComments afterKeyword).head?.any (·.isMark "*")
  let name := nameNodes ((dropComments afterKeyword).dropWhile (·.isMark "*"))
  let (rest, hasBody) := afterFunctionHead (afterFunctionName afterKeyword)
  if !hasBody then reading "function_signature" start (afterEnd dialect false start rest) name
  else
    let kind := if isGenerator then "generator_function_declaration" else "function_declaration"
    reading kind start (afterLine dialect mayGoOn start rest) name

/-- A declaration that reaches to the first group in braces outside type arguments. -/
def bracedReading (kind : String) (ending : List Item → List Item)
    (start afterKeyword : List Item) : Reading :=
  let rest :=
    match cutBody afterKeyword.length afterKeyword with
    | some (_, rest) => ending rest
    | none => []
  reading kind start rest (nameNodes afterKeyword)

/-- The kind of a value, as far as it tells functions from everything else. A function counts only
where it is the whole value. -/
def valueKind (dialect : Dialect) (value : List Item) : String :=
  let value := value.filter (!·.isComment)
  if isArrow dialect value then
    -- an arrow function that is called at once is a call
    match (value.dropWhile (!·.isMark "=>")).drop 1 with
    | body :: _ :: _ => if body.isGroup "\x7b" then "call_expression" else "arrow_function"
    | _ => "arrow_function"
  else
    let plain := match value with
      | first :: rest => if first.isWord "async" then rest else value
      | [] => []
    match plain with
    | keyword :: rest =>
      if keyword.isWord "function" && (afterFunctionHead (afterFunctionName rest)).1.isEmpty then
        if rest.head?.any (·.isMark "*") then "generator_function" else "function_expression"
      else "expression"
    | [] => "expression"

/-- The declarators of a variable declaration, and what follows them. `steps` bounds their
number. -/
def declarators (dialect : Dialect) : Nat → List Item → List SyntaxTree × List Item
  | 0, items => ([], items)
  | steps + 1, items =>
    match dropComments items with
    | [] => ([], items)
    | name :: rest =>
      let (value, after) := afterValue dialect false (afterTypeNote (afterOptional rest))
      let valueNodes := if value.isEmpty then [] else
        [labelled "value" (nodeOver (valueKind dialect value) value [])]
      let node := nodeOver "variable_declarator" (name :: value) (nameNode name :: valueNodes)
      match dropComments after with
      | comma :: more =>
        if comma.isMark "," then
          let (others, rest) := declarators dialect steps more
          (node :: others, rest)
        else ([node], after)
      | [] => ([node], after)

/-- Whether the last of some declarators has a value. -/
def endsWithValue (nodes : List SyntaxTree) : Bool :=
  nodes.getLast?.any fun node => (node.child? "value").isSome

/-- The declaration that begins with some items, its decorators being read already; nothing if they
begin something else. `mayGoOn` tells whether an operator could follow what is read as an expression
as well. -/
def declaration? (dialect : Dialect) (mayGoOn : Bool) (decorators : List SyntaxTree)
    (start items : List Item) : Option Reading :=
  match items with
  | first :: rest =>
    let next := rest.head?
    let nextIs (word : String) : Bool := next.any (·.isWord word)
    let nextIsName : Bool := next.any fun item => item.word?.isSome && !item.isBelow first
    let line := afterLine dialect mayGoOn start
    if first.isWord "function" then some (functionReading dialect mayGoOn start rest)
    else if first.isWord "async" && nextIs "function" then
      some (functionReading dialect mayGoOn start (rest.drop 1))
    else if first.isWord "class" then
      some (classReading dialect "class_declaration" line start rest decorators)
    else if (first.isWord "const" || first.isWord "let") && !nextIs "enum" then
      let (nodes, rest) := declarators dialect rest.length rest
      some (reading "lexical_declaration" start
        (afterEnd dialect (endsWithValue nodes) start rest) nodes)
    else if first.isWord "var" then
      let (nodes, rest) := declarators dialect rest.length rest
      some (reading "variable_declaration" start
        (afterEnd dialect (endsWithValue nodes) start rest) nodes)
    else if dialect = .markup then none
    else if first.isWord "abstract" && nextIs "class" then
      some (classReading dialect "abstract_class_declaration" id start (rest.drop 1) decorators)
    else if first.isWord "interface" && nextIsName then
      some (bracedReading "interface_declaration" id start rest)
    else if first.isWord "enum" && nextIsName then
      some (bracedReading "enum_declaration" id start rest)
    else if first.isWord "const" && nextIs "enum" then
      some (bracedReading "enum_declaration" id start (rest.drop 1))
    else if first.isWord "type" && nextIsName then
      match dropComments (afterTypeArguments (rest.drop 1)) with
      | sign :: value =>
        if sign.isMark "=" then
          some (reading "type_alias_declaration" start
            (afterEnd dialect false start (afterType sign value)) (nameNodes rest))
        else none
      | [] => none
    else if first.isWord "namespace" && nextIsName then
      some (bracedReading "internal_module" line start rest)
    else if first.isWord "module" && next.any fun item => !item.isMark "." && !item.isMark "=" then
      some (bracedReading "module" (afterLine dialect false start) start rest)
    else none
  | [] => none

/-- What follows a clause that names a source: everything through the first quoted text, with the
attributes after it. -/
def afterSource (dialect : Dialect) (start items : List Item) : List Item :=
  let isQuoted (item : Item) : Bool :=
    match item with
    | .token t => t.kind == .quoted
    | .group .. => false
  let rest := (cutAfter isQuoted items).2
  match rest with
  | word :: attributes :: after =>
    if (word.isWord "with" || word.isWord "assert") && attributes.isGroup "\x7b" then
      afterEnd dialect false start after
    else afterEnd dialect false start rest
  | _ => afterEnd dialect false start rest

/-- What follows the list of an export clause: a source, or nothing. -/
def afterExportList (dialect : Dialect) (start items : List Item) : List Item :=
  match dropComments items with
  | word :: rest =>
    if word.isWord "from" then afterSource dialect start rest
    else afterEnd dialect false start items
  | [] => afterEnd dialect false start items

/-- What follows an ambient declaration, after its keyword. -/
def afterAmbient (dialect : Dialect) (keyword : Item) (items : List Item) : List Item :=
  match declaration? dialect false [] items items with
  | some (_, rest) => rest
  | none =>
    match items with
    | word :: body :: rest =>
      if word.isWord "global" && body.isGroup "\x7b" then afterLine dialect false items rest
      else afterEnd dialect true items (afterExpression dialect true keyword items)
    | _ => afterEnd dialect true items (afterExpression dialect true keyword items)

/-- A declaration that may stand behind `export`: one of its own kind, an ambient one, or a name
for an imported thing. -/
def exportedDeclaration? (dialect : Dialect) (mayGoOn : Bool) (items : List Item) :
    Option Reading :=
  let (decorators, plain) := cutDecorators items.length items
  match declaration? dialect mayGoOn decorators items plain with
  | some found => some found
  | none =>
    match plain with
    | keyword :: rest =>
      if keyword.isWord "declare" && dialect = .typed && rest.head?.any (·.word?.isSome) then
        some (reading "ambient_declaration" items (afterAmbient dialect keyword rest) [])
      else if keyword.isWord "import" && dialect = .typed then
        some (reading "import_alias" items
          (afterEnd dialect false items (afterExpression dialect true keyword rest)) [])
      else none
    | [] => none

/-- Whether a declaration has a name, as one behind `export default` must. -/
def isNamed (tree : SyntaxTree) : Bool := (tree.child? "name").isSome

/-- The node of an export, from what follows its keyword on. -/
def exportReading (dialect : Dialect) (start : List Item) (decorators : List SyntaxTree)
    (keyword : Item) (items : List Item) : Reading :=
  let wrapped (found : Reading) : Reading :=
    reading "export_statement" start found.2 (decorators ++ [labelled "declaration" found.1])
  let plain (rest : List Item) : Reading := reading "export_statement" start rest decorators
  match dropComments items with
  | [] => plain []
  | first :: rest =>
    if first.isMark "*" then plain (afterSource dialect start rest)
    else if first.isGroup "\x7b" then plain (afterExportList dialect start rest)
    else if first.isMark "=" then
      plain (afterEnd dialect true start (afterExpression dialect true first rest))
    else if first.isWord "as" then
      plain (afterEnd dialect false start (rest.drop 2))
    else if first.isWord "type" && rest.head?.any (fun item => item.isGroup "\x7b") then
      plain (afterExportList dialect start (rest.drop 1))
    else if first.isWord "type" && rest.head?.any (·.isMark "*") then
      plain (afterSource dialect start rest)
    else if first.isWord "default" then
      let rest := dropComments rest
      match exportedDeclaration? dialect true rest with
      | some found =>
        if isNamed found.1 then wrapped found
        else plain (afterSemicolon found.2)
      | none => plain (afterEnd dialect true start (afterExpression dialect true first rest))
    else
      match exportedDeclaration? dialect false (first :: rest) with
      | some found => wrapped found
      | none =>
        plain (afterEnd dialect true start (afterExpression dialect true keyword (first :: rest)))

/-- Words of statements whose head in parentheses is followed by another statement. -/
def headWords : List String := ["if", "for", "while", "with", "switch", "catch"]

/-- The statement that begins with some items that are neither comment nor semicolon. -/
def statement (dialect : Dialect) (items : List Item) : Reading :=
  let (decorators, plain) := cutDecorators items.length items
  match plain with
  | [] => reading "expression_statement" items [] []
  | first :: rest =>
    if first.isWord "export" then exportReading dialect items decorators first rest
    else if first.isWord "import" && !rest.head?.any (fun n => n.isGroup "(" || n.isMark ".") then
      match rest with
      | name :: sign :: value =>
        if name.word?.isSome && sign.isMark "=" then
          reading "import_alias" items
            (afterEnd dialect false items (afterExpression dialect true sign value)) []
        else reading "import_statement" items (afterSource dialect items rest) []
      | _ => reading "import_statement" items (afterSource dialect items rest) []
    else
      match declaration? dialect true decorators items plain with
      | some (node, rest) =>
        -- on the top level a namespace is an expression
        if node.kind == "internal_module" then reading "expression_statement" items rest []
        else (node, rest)
      | none =>
        if first.isWord "declare" && dialect = .typed && rest.head?.any (fun next =>
            next.word?.isSome && !next.isBelow first) then
          reading "ambient_declaration" items (afterAmbient dialect first rest) []
        else if first.isGroup "\x7b" then
          reading "statement_block" items (afterLine dialect false items rest) []
        else if first.word?.any headWords.contains then
          let rest := match dropComments rest with
            | next :: more => if next.isWord "await" then more else next :: more
            | [] => []
          match rest with
          | head :: more =>
            if !head.isGroup "(" then reading "statement" items rest []
            else
              match first.isWord "switch", dropComments more with
              -- unlike a block, the cases of a switch do not end with a line
              | true, body :: after =>
                if body.isGroup "\x7b" then reading "statement" items after []
                else reading "statement" items more []
              | _, _ => reading "statement" items more []
          | [] => reading "statement" items [] []
        else if first.isWord "else" || first.isWord "try" || first.isWord "do" ||
            first.isWord "finally" then
          reading "statement" items rest []
        else
          reading "expression_statement" items
            (afterEnd dialect true items (afterExpression dialect true first plain)) []

/-- The nodes of the top level. `steps` bounds their number. -/
def level (dialect : Dialect) : Nat → List Item → List SyntaxTree
  | 0, _ => []
  | _, [] => []
  | steps + 1, item :: items =>
    match item.comment? with
    | some t => commentNode "comment" t :: level dialect steps items
    | none =>
      if item.isMark ";" then nodeOver "empty_statement" [item] [] :: level dialect steps items
      else
        let (node, rest) := statement dialect (item :: items)
        -- a sign that no rule reads is passed over
        node :: level dialect steps (if rest.length ≤ items.length then rest else items)

/-- The tree of a file. A first line that tells which interpreter runs the file is a node of its
own. -/
def read (dialect : Dialect) (text : List Char) : SyntaxTree :=
  let size := if Text.startsWith ['#', '!'] text then lineSize text else 0
  let code := itemsOf <|
    tokensFrom (lexeme dialect) text.length false [] ⟨0, size⟩ (text.drop size)
  let line :=
    if size = 0 then [] else [SyntaxTree.node "hash_bang_line" none ⟨0, 0⟩ ⟨0, size⟩ "" []]
  nodeOver "program" code (line ++ level dialect code.length code)

end CodeIndex.Syntax.Script
