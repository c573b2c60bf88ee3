import CodeIndex.Syntax.Bracket

/-!
# Reading Rust

The outline of a Rust file: its items with their names, the members of traits and implementations,
and the attributes and comments between them. An implementation is named after the type that it is
for. Function bodies are passed over as a whole.

An item reaches from its first token to a semicolon or a group in braces. Items that bind a value or
a path end with the semicolon alone, since braces then belong to what is bound.
-/

namespace CodeIndex.Syntax.Rust

open CodeIndex.Text

/-- The size of a raw text after its prefix letters: number signs, a quote, anything, a quote and as
many number signs. -/
def rawSize? (text : List Char) : Option Nat :=
  let signs := runSize (· == '#') text
  match text.drop signs with
  | '"' :: rest => some (signs + 1 + sizeThrough ('"' :: List.replicate signs '#') rest)
  | _ => none

/-- The size of a quoted text or character after its quote sign, or of a lifetime. -/
def apostropheSize (text : List Char) : TokenKind × Nat :=
  match text with
  | '\\' :: _ => (.quoted, quotedSize ['\''] true text)
  | _ :: '\'' :: _ => (.quoted, 2)
  | _ => (.mark, runSize isNameChar text)

/-- The token at the start of a text. -/
def lexeme (_ : Unit) (text : List Char) : Lexeme Unit :=
  match text with
  | '/' :: '/' :: rest => ⟨.lineComment, lineSize rest + 2, ()⟩
  | '/' :: '*' :: rest => ⟨.blockComment, nestedSize false 0 rest + 2, ()⟩
  | '"' :: rest => ⟨.quoted, quotedSize ['"'] false rest + 1, ()⟩
  | '\'' :: rest =>
    let (kind, size) := apostropheSize rest
    ⟨kind, size + 1, ()⟩
  | '-' :: '>' :: _ | '=' :: '>' :: _ => ⟨.mark, 2, ()⟩
  | c :: _ =>
    if isNameStart c then
      let size := runSize isNameChar text
      let rest := text.drop size
      let letters := String.ofList (text.take size)
      if ["r", "br", "cr"].contains letters && (rawSize? rest).isSome then
        ⟨.quoted, size + (rawSize? rest).getD 0, ()⟩
      else if letters == "r" && startsWith ['#'] rest then
        ⟨.word, size + 1 + runSize isNameChar (rest.drop 1), ()⟩
      else if ["b", "c"].contains letters && startsWith ['"'] rest then
        ⟨.quoted, size + 1 + quotedSize ['"'] false (rest.drop 1), ()⟩
      else if letters == "b" && startsWith ['\''] rest then
        ⟨.quoted, size + 1 + (apostropheSize (rest.drop 1)).2, ()⟩
      else ⟨.word, size, ()⟩
    else if c.isDigit then ⟨.number, runSize isNameChar text, ()⟩
    else ⟨.mark, 1, ()⟩
  | [] => ⟨.mark, 1, ()⟩

/-- The items after a visibility, which may be restricted to a path in parentheses. -/
def afterVisibility : List Item → List Item
  | first :: rest =>
    if first.isWord "pub" then
      match rest with
      | scope :: more => if scope.isGroup "(" then more else rest
      | [] => []
    else first :: rest
  | [] => []

/-- Words that may stand before the keyword of a function. -/
def functionModifiers : List String := ["const", "async", "unsafe", "default", "extern", "safe"]

/-- Words that may stand before the keyword of another item. -/
def itemModifiers : List String := ["unsafe", "default", "auto"]

/-- The items from the keyword of a function on, if they begin a function. -/
def fromFunction? : List Item → Option (List Item)
  | [] => none
  | item :: items =>
    if item.isWord "fn" then some (item :: items)
    else if item.word?.any functionModifiers.contains then fromFunction? items
    else
      match item with
      | .token t => if t.kind == .quoted then fromFunction? items else none
      | .group .. => none

/-- The items from the keyword of an item on. -/
def fromKeyword (items : List Item) : List Item :=
  let visible := afterVisibility items
  (fromFunction? visible).getD (visible.dropWhile fun item =>
    item.word?.any itemModifiers.contains)

/-- Where an item of some keyword ends. -/
inductive Ending where
  | semicolon
  | bodyOrSemicolon

/-- The ending of the item that begins with the given items. -/
def endingOf (items : List Item) : Ending :=
  match fromKeyword items with
  | first :: second :: _ =>
    if ["const", "static", "type", "use", "let"].any first.isWord ||
        (first.isWord "extern" && second.isWord "crate") then .semicolon
    else .bodyOrSemicolon
  | _ => .bodyOrSemicolon

/-- Cuts off one item. -/
def cutItem (items : List Item) : List Item × List Item :=
  match endingOf items with
  | .semicolon => cutAfter (·.isMark ";") items
  | .bodyOrSemicolon => cutAfter (fun item => item.isMark ";" || item.isGroup "\x7b") items

/-- The items after leading type parameters. `depth` counts the angles that are open. -/
def dropTypeParameters (depth : Nat) : List Item → List Item
  | [] => []
  | item :: items =>
    if item.isMark "<" then dropTypeParameters (depth + 1) items
    else if depth = 0 then item :: items
    else if item.isMark ">" then dropTypeParameters (depth - 1) items
    else dropTypeParameters depth items

/-- The items before the first that passes a test outside angles, and those after it. The test also
sees what follows. -/
def splitOutside (test : Item → Option Item → Bool) (depth : Nat) :
    List Item → Option (List Item × List Item)
  | [] => none
  | item :: items =>
    if depth = 0 && test item items.head? then some ([], items)
    else
      let depth :=
        if item.isMark "<" then depth + 1 else if item.isMark ">" then depth - 1 else depth
      (splitOutside test depth items).map fun (before, after) => (item :: before, after)

/-- The items of the type that an implementation is for, from what follows the keyword. -/
def implementedType (items : List Item) : List Item :=
  let header := (dropTypeParameters 0 items).takeWhile fun item => !item.isGroup "\x7b"
  let isFor (item : Item) (next : Option Item) : Bool :=
    item.isWord "for" && !next.any (·.isMark "<")
  let target :=
    match splitOutside isFor 0 header with
    | some (_, after) => after
    | none => header
  match splitOutside (fun item _ => item.isWord "where") 0 target with
  | some (before, _) => before
  | none => target

/-- The node under the label of a name. -/
def nameNodes (items : List Item) : List SyntaxTree :=
  match items.dropWhile fun item => item.isWord "mut" || item.isWord "ref" with
  | item :: _ => if item.word?.isSome then [textNode "identifier" (some "name") [item]] else []
  | [] => []

/-- The body in braces among some items, under its label. -/
def bodyNodes (members : List Item → List SyntaxTree) (items : List Item) : List SyntaxTree :=
  (items.findSome? fun item =>
    (item.inside? "\x7b").map fun inside =>
      SyntaxTree.node "declaration_list" (some "body") item.start item.stop ""
        (members inside)).toList

/-- The node of one item, its comments left out; `members` reads the body of a trait or an
implementation. -/
def declaration (members : List Item → List SyntaxTree) (items : List Item) : SyntaxTree :=
  match fromKeyword items with
  | [] => nodeOver "empty_statement" items []
  | keyword :: rest =>
    let named (kind : String) : SyntaxTree := nodeOver kind items (nameNodes rest)
    let second (word : String) : Bool := rest.head?.any (·.isWord word)
    if keyword.isWord "fn" then
      named (if rest.any (·.isGroup "\x7b") then "function_item" else "function_signature_item")
    else if keyword.isWord "struct" then named "struct_item"
    else if keyword.isWord "enum" then named "enum_item"
    else if keyword.isWord "union" && rest.head?.any (·.word?.isSome) then named "union_item"
    else if keyword.isWord "const" then named "const_item"
    else if keyword.isWord "static" then named "static_item"
    else if keyword.isWord "type" then
      named (if rest.any (·.isMark "=") then "type_item" else "associated_type")
    else if keyword.isWord "trait" then
      nodeOver "trait_item" items (nameNodes rest ++ bodyNodes members rest)
    else if keyword.isWord "impl" then
      nodeOver "impl_item" items
        (textNode "type_identifier" (some "type") (implementedType rest) ::
          bodyNodes members rest)
    else if keyword.isWord "mod" then named "mod_item"
    else if keyword.isWord "use" then nodeOver "use_declaration" items []
    else if keyword.isWord "extern" && second "crate" then
      nodeOver "extern_crate_declaration" items []
    else if keyword.isWord "macro_rules" && rest.head?.any (·.isMark "!") then
      nodeOver "macro_definition" items (nameNodes (rest.drop 1))
    else nodeOver "expression_statement" items []

/-- The kind and the size in items of an attribute at the start of some items. -/
def attribute? : List Item → Option (String × Nat)
  | sign :: second :: rest =>
    if !sign.isMark "#" then none
    else if second.isGroup "[" then some ("attribute_item", 2)
    else if second.isMark "!" && rest.head?.any (·.isGroup "[") then
      some ("inner_attribute_item", 3)
    else none
  | _ => none

/-- The nodes of one level. `count` bounds their number. -/
def level (members : List Item → List SyntaxTree) : Nat → List Item → List SyntaxTree
  | 0, _ => []
  | _, [] => []
  | count + 1, item :: items =>
    match item.comment?, attribute? (item :: items) with
    | some t, _ =>
      commentNode (if t.kind == .lineComment then "line_comment" else "block_comment") t ::
        level members count items
    | none, some (kind, size) =>
      textNode kind none ((item :: items).take size) ::
        level members count ((item :: items).drop size)
    | none, none =>
      let (own, rest) := cutItem (item :: items)
      declaration members (own.filter (!·.isComment)) :: level members count rest

/-- The members of a trait or an implementation. -/
def members (items : List Item) : List SyntaxTree :=
  level (fun _ => []) items.length items

/-- The tree of a file. A first line that tells which interpreter runs the file is a node of its
own. -/
def read (text : List Char) : SyntaxTree :=
  let isScriptLine := startsWith ['#', '!'] text && !startsWith ['['] (trimStart (text.drop 2))
  let size := if isScriptLine then lineSize text else 0
  let code := itemsOf (tokensFrom lexeme text.length () [] ⟨0, size⟩ (text.drop size))
  let line := if isScriptLine then [SyntaxTree.node "shebang" none ⟨0, 0⟩ ⟨0, size⟩ "" []] else []
  nodeOver "source_file" code (line ++ level members code.length code)

end CodeIndex.Syntax.Rust
