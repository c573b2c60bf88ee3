import CodeIndex.Syntax.Bracket

/-!
# Reading Java

The outline of a Java file: its declarations with names, modifiers and annotations, the members of
type declarations, and the comments between them. Bodies of methods are passed over as a whole.

A declaration or member reaches from its first token to a semicolon or to a group in braces,
whichever comes first; after an equals sign only a semicolon ends it, since braces then belong to an
initial value.
-/

namespace CodeIndex.Syntax.Java

open CodeIndex.Text

/-- The token at the start of a text. -/
def lexeme (_ : Unit) (text : List Char) : Lexeme Unit :=
  match text with
  | '/' :: '/' :: rest => ⟨.lineComment, lineSize rest + 2, ()⟩
  | '/' :: '*' :: rest => ⟨.blockComment, sizeThrough ['*', '/'] rest + 2, ()⟩
  | '"' :: '"' :: '"' :: rest => ⟨.quoted, quotedSize ['"', '"', '"'] false rest + 3, ()⟩
  | '"' :: rest => ⟨.quoted, quotedSize ['"'] true rest + 1, ()⟩
  | '\'' :: rest => ⟨.quoted, quotedSize ['\''] true rest + 1, ()⟩
  | c :: _ =>
    if isNameStart c then ⟨.word, runSize isNameChar text, ()⟩
    else if c.isDigit then ⟨.number, runSize (fun c => isNameChar c || c == '.') text, ()⟩
    else ⟨.mark, 1, ()⟩
  | [] => ⟨.mark, 1, ()⟩

/-- Words that may stand before a declaration. -/
def modifierWords : List String :=
  ["public", "protected", "private", "abstract", "static", "final", "strictfp", "default",
    "synchronized", "native", "transient", "volatile", "sealed"]

/-- The size of an annotation in items: the sign, a name with points in it, and possibly arguments.
The sign of an annotation type begins no annotation. -/
def annotationSize (items : List Item) : Nat :=
  match items with
  | sign :: name :: rest =>
    if sign.isMark "@" && name.word?.isSome && !name.isWord "interface" then
      let rec path : List Item → Nat
        | point :: part :: rest =>
          if point.isMark "." && part.word?.isSome then path rest + 2
          else if point.isGroup "(" then 1 else 0
        | [last] => if last.isGroup "(" then 1 else 0
        | [] => 0
      path rest + 2
    else 0
  | _ => 0

/-- The node of an annotation. -/
def annotationNode (items : List Item) : SyntaxTree :=
  textNode (if items.any (·.isGroup "(") then "annotation" else "marker_annotation") none items

/-- The annotations among leading modifiers, and how many items the modifiers take. `skip` items
still belong to the modifier before. -/
def modifiersFrom (skip : Nat) : List Item → List SyntaxTree × Nat
  | [] => ([], 0)
  | item :: items =>
    match skip with
    | skip + 1 =>
      let (found, size) := modifiersFrom skip items
      (found, size + 1)
    | 0 =>
      match annotationSize (item :: items) with
      | more + 1 =>
        let (found, size) := modifiersFrom more items
        (annotationNode ((item :: items).take (more + 1)) :: found, size + 1)
      | 0 =>
        let word := item.word?
        if word.any modifierWords.contains then
          let (found, size) := modifiersFrom 0 items
          (found, size + 1)
        else if word == some "non" && (items.head?.any (·.isMark "-")) then
          let (found, size) := modifiersFrom 2 items
          (found, size + 1)
        else ([], 0)

/-- How many items leading type parameters take: from an opening angle through its partner. -/
def typeParametersSize (depth : Nat) : List Item → Nat
  | [] => 0
  | item :: items =>
    if item.isMark "<" then typeParametersSize (depth + 1) items + 1
    else if depth = 0 then 0
    else if item.isMark ">" then typeParametersSize (depth - 1) items + 1
    else typeParametersSize depth items + 1

/-- The items after the annotations at the start. -/
def dropAnnotations (skip : Nat) : List Item → List Item
  | [] => []
  | item :: items =>
    match skip with
    | skip + 1 => dropAnnotations skip items
    | 0 =>
      match annotationSize (item :: items) with
      | more + 1 => dropAnnotations more items
      | 0 => item :: items

/-- What a member without a declaring keyword is. -/
inductive Shape where
  | method (name : Item)
  | constructor (name : Item)
  | compact (name : Item)
  | field

/-- Whether a name that follows the given items, latest first, has a type before it. -/
def hasType (before : List Item) : Bool :=
  let items := before.reverse
  !(dropAnnotations 0 (items.drop (typeParametersSize 0 items))).isEmpty

/-- The shape of a member. `before` holds the items so far, latest first; `skip` items still belong
to an annotation. -/
def shapeFrom (before : List Item) (skip : Nat) : List Item → Shape
  | [] => .field
  | item :: items =>
    match skip with
    | skip + 1 => shapeFrom (item :: before) skip items
    | 0 =>
      match annotationSize (item :: items) with
      | more + 1 => shapeFrom (item :: before) more items
      | 0 =>
        if item.isMark "=" || item.isMark ";" then .field
        else if item.isGroup "(" then
          match before with
          | name :: earlier =>
            if name.word?.isNone then .field
            else if hasType earlier then .method name
            else .constructor name
          | [] => .field
        else if item.isGroup "\x7b" then
          match before with
          | [name] => if name.word?.isSome then .compact name else .field
          | _ => .field
        else shapeFrom (item :: before) 0 items

/-- The kinds of type declarations. -/
def typeKind? : List Item → Option (String × Nat)
  | first :: second :: _ =>
    if first.isWord "class" then some ("class_declaration", 1)
    else if first.isWord "interface" then some ("interface_declaration", 1)
    else if first.isWord "enum" then some ("enum_declaration", 1)
    else if first.isWord "record" && second.word?.isSome then some ("record_declaration", 1)
    else if first.isMark "@" && second.isWord "interface" then
      some ("annotation_type_declaration", 2)
    else none
  | _ => none

/-- The node under the label of a name. -/
def nameNode (item : Item) : SyntaxTree := textNode "identifier" (some "name") [item]

/-- The node of one declaration or member, its comments left out; `members` reads the body of a type
declaration of a kind. -/
def declaration (members : String → List Item → List SyntaxTree) (items : List Item) : SyntaxTree :=
  let (notes, size) := modifiersFrom 0 items
  let modifiers := if size = 0 then [] else [nodeOver "modifiers" (items.take size) notes]
  let rest := items.drop size
  match typeKind? rest with
  | some (kind, skip) =>
    let name := ((rest.drop skip).head?.map nameNode).toList
    let body := (rest.findSome? fun item =>
      (item.inside? "\x7b").map fun inside =>
        SyntaxTree.node "class_body" (some "body") item.start item.stop ""
          (members kind inside)).toList
    nodeOver kind items (modifiers ++ name ++ body)
  | none =>
    if rest.head?.any (·.isWord "package") then nodeOver "package_declaration" items modifiers
    else if rest.head?.any (·.isWord "import") then nodeOver "import_declaration" items []
    else if rest.head?.any (fun item => item.isWord "module" || item.isWord "open") then
      nodeOver "module_declaration" items modifiers
    else
      match shapeFrom [] 0 rest with
      | .method name => nodeOver "method_declaration" items (modifiers ++ [nameNode name])
      | .constructor name => nodeOver "constructor_declaration" items (modifiers ++ [nameNode name])
      | .compact name =>
        nodeOver "compact_constructor_declaration" items (modifiers ++ [nameNode name])
      | .field => nodeOver "field_declaration" items modifiers

/-- Cuts off one declaration: through the first semicolon or group in braces, or through the
semicolon only once an equals sign has been passed. -/
def cutDeclaration (items : List Item) : List Item × List Item :=
  let rec go (assigned : Bool) : List Item → List Item × List Item
    | [] => ([], [])
    | item :: items =>
      if item.isMark ";" || (!assigned && item.isGroup "\x7b") then ([item], items)
      else
        let (before, after) := go (assigned || item.isMark "=") items
        (item :: before, after)
  go false items

/-- The nodes of one level. `count` bounds their number. -/
def level (members : String → List Item → List SyntaxTree) : Nat → List Item → List SyntaxTree
  | 0, _ => []
  | _, [] => []
  | count + 1, item :: items =>
    match item.comment? with
    | some t =>
      commentNode (if t.kind == .lineComment then "line_comment" else "block_comment") t ::
        level members count items
    | none =>
      if item.isMark ";" then level members count items
      else
        let (own, rest) := cutDeclaration (item :: items)
        declaration members (own.filter (!·.isComment)) :: level members count rest

/-- The constants of an enumeration, up to the semicolon that ends them; every item of a constant is
a node of its own, and the marks between constants are none. -/
def constants : List Item → List SyntaxTree
  | [] => []
  | item :: items =>
    match item.comment? with
    | some t =>
      commentNode (if t.kind == .lineComment then "line_comment" else "block_comment") t ::
        constants items
    | none =>
      if item.isMark "," || item.isMark ";" then constants items
      else nodeOver "enum_constant" [item] [] :: constants items

/-- The members of the body of a type declaration. In an enumeration the constants come first, and
members follow after a semicolon. Types inside are read without their members. -/
def members (kind : String) (items : List Item) : List SyntaxTree :=
  let (first, rest) :=
    if kind == "enum_declaration" then cutAfter (·.isMark ";") items else ([], items)
  constants first ++ level (fun _ _ => []) rest.length rest

/-- The tree of a file. -/
def read (text : List Char) : SyntaxTree :=
  let items := itemsOf (tokensOf lexeme () text)
  nodeOver "program" items (level members items.length items)

end CodeIndex.Syntax.Java
