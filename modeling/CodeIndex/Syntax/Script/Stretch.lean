import CodeIndex.Syntax.Script.Token

/-!
# Where types and expressions end

Statements of scripts need no sign at their end: a new line ends a statement that is complete,
unless what stands there carries it on. To find declarations one therefore has to know how far types
and expressions reach. Both are walked item by item with one bit of knowledge, whether an operand
is due. Where one is due, a line end means nothing.

Each function gives the items that are left; comments before them are left too.

## Main definitions

* `afterType`, `afterExpression`: what follows a type or an expression.
* `isArrow`: whether an expression is an arrow function.
-/

namespace CodeIndex.Syntax.Script

/-- The items without leading comments. -/
def dropComments (items : List Item) : List Item := items.dropWhile Item.isComment

/-- What follows the angle that closes `depth` open ones; nothing if a semicolon comes first. -/
def afterAngles (depth : Nat) : List Item → Option (List Item)
  | [] => none
  | item :: items =>
    if item.isMark "<" then afterAngles (depth + 1) items
    else if item.isMark ">" then if depth ≤ 1 then some items else afterAngles (depth - 1) items
    else if item.isMark ";" then none
    else afterAngles depth items

/-- What follows type parameters or arguments, if the items begin with some. -/
def afterTypeArguments (items : List Item) : List Item :=
  match dropComments items with
  | item :: rest => if item.isMark "<" then (afterAngles 1 rest).getD items else items
  | [] => items

/-- Words that stand before an operand of a type. -/
def typePrefixWords : List String :=
  ["keyof", "typeof", "unique", "readonly", "infer", "asserts", "new", "abstract"]

/-- What follows a type. `arrows` tells whether an arrow after parentheses carries the type on.
`steps` bounds the walk, `due` tells whether an operand is due, `before` is the last item, `waiting`
counts the conditions that wait for their second branch. -/
def afterTypeFrom (arrows : Bool) : Nat → Bool → Item → Nat → List Item → List Item
  | 0, _, _, _, items => items
  | steps + 1, due, before, waiting, items =>
    match dropComments items with
    | [] => items
    | item :: rest =>
      if due then
        match item with
        | .group .. => afterTypeFrom arrows steps false item waiting rest
        | .token t =>
          match t.kind with
          | .word =>
            if typePrefixWords.contains t.text && !rest.isEmpty then
              afterTypeFrom arrows steps true item waiting rest
            else if t.text == "import" && rest.head?.any (·.isGroup "(") then
              afterTypeFrom arrows steps false item waiting (rest.drop 1)
            else afterTypeFrom arrows steps false item waiting rest
          | .number | .quoted => afterTypeFrom arrows steps false item waiting rest
          | _ =>
            if ["|", "&", "-", "..."].contains t.text then
              afterTypeFrom arrows steps true item waiting rest
            else if t.text == "<" then
              match afterAngles 1 rest with
              | some rest => afterTypeFrom arrows steps true item waiting rest
              | none => items
            else items
      else
        let isNew := item.isBelow before
        if ["|", "&", "."].any item.isMark ||
            (arrows && item.isMark "=>" && before.isGroup "(") then
          afterTypeFrom arrows steps true item waiting rest
        else if item.isMark "<" then
          match afterAngles 1 rest with
          | some rest => afterTypeFrom arrows steps false item waiting rest
          | none => items
        else if item.isGroup "[" && !isNew then afterTypeFrom arrows steps false item waiting rest
        else if (item.isWord "extends" || item.isWord "is") && !isNew then
          afterTypeFrom arrows steps true item waiting rest
        else if item.isMark "?" then afterTypeFrom arrows steps true item (waiting + 1) rest
        else if item.isMark ":" && waiting != 0 then
          afterTypeFrom arrows steps true item (waiting - 1) rest
        else items

/-- What follows the type that begins here; `before` is the item before it. -/
def afterType (before : Item) (items : List Item) : List Item :=
  afterTypeFrom true (items.length + 1) true before 0 items

/-- What follows a type with its colon, if the items begin with one. -/
def afterTypeNote (items : List Item) : List Item :=
  match dropComments items with
  | colon :: rest => if colon.isMark ":" then afterType colon rest else items
  | [] => items

/-- The head and the body of a function, from its parameters on: what follows it, and whether it has
a body. -/
def afterFunctionHead (items : List Item) : List Item × Bool :=
  match dropComments (afterTypeArguments items) with
  | parameters :: rest =>
    if parameters.isGroup "(" then
      let rest := afterTypeNote rest
      match dropComments rest with
      | body :: after => if body.isGroup "\x7b" then (after, true) else (rest, false)
      | [] => (rest, false)
    else (items, false)
  | [] => (items, false)

/-- The items after the star and the name that may follow the keyword of a function. -/
def afterFunctionName (items : List Item) : List Item :=
  let items := match dropComments items with
    | star :: rest => if star.isMark "*" then dropComments rest else star :: rest
    | [] => []
  match items with
  | name :: rest => if name.word?.isSome then rest else items
  | [] => []

/-- The body of a class and what follows it: the first group in braces outside type arguments. -/
def cutBody : Nat → List Item → Option (Item × List Item)
  | 0, _ => none
  | _, [] => none
  | steps + 1, item :: items =>
    if item.isGroup "\x7b" then some (item, items)
    else if item.isMark "<" then cutBody steps ((afterAngles 1 items).getD items)
    else cutBody steps items

/-- What is due next inside an expression. -/
inductive Due where
  | operand
  | member
  | operator
deriving DecidableEq

/-- Words that stand before an operand. -/
def prefixWords : List String :=
  ["typeof", "void", "delete", "await", "new", "yield", "return", "throw", "case", "else", "do"]

/-- Marks that carry a complete expression over a line end. -/
def carryingMarks : List String :=
  [",", ":", ";", "*", "%", ">", "<", "=", "?", "^", "|", "&", "/", "=>", "?.", "...", "+", "-"]

/-- Whether an item on a new line carries on a complete expression before it. -/
def carriesOn (item : Item) (rest : List Item) : Bool :=
  match item with
  | .group opening _ _ => opening.text != "\x7b"
  | .token t =>
    match t.kind with
    | .word => t.text == "in" || t.text == "instanceof"
    | .quoted => t.text.toList.head? == some '\x60'
    | .mark =>
      carryingMarks.contains t.text ||
        (t.text == "." && !rest.head?.any fun next => next.first.kind == .number) ||
        (t.text == "!" && rest.head?.any (·.isMark "="))
    | _ => false

/-- The items from the arrow of an arrow function on, where its result type has just been read. -/
def fromArrow? (items : List Item) : Option (List Item) :=
  match dropComments items with
  | arrow :: body => if arrow.isMark "=>" then some (arrow :: body) else none
  | [] => none

/-- The items from the arrow on, if these items are what follows the parameters of an arrow function
with a result type. An arrow in the type belongs to the function where it has no other one. -/
def afterTypedArrow? (dialect : Dialect) (items : List Item) : Option (List Item) :=
  match dialect, dropComments items with
  | .typed, colon :: rest =>
    if colon.isMark ":" then
      (fromArrow? (afterType colon rest)).or
        (fromArrow? (afterTypeFrom false (rest.length + 1) true colon 0 rest))
    else none
  | _, _ => none

/-- What follows an expression. `steps` bounds the walk; `commas` tells whether commas carry the
expression on; `before` is the last item. -/
def afterExpressionFrom (dialect : Dialect) (commas : Bool) :
    Nat → Due → Item → List Item → List Item
  | 0, _, _, items => items
  | steps + 1, due, before, items =>
    match dropComments items with
    | [] => items
    | item :: rest =>
      let isNew := item.isBelow before
      let go (due : Due) (rest : List Item) : List Item :=
        afterExpressionFrom dialect commas steps due item rest
      if item.isMark ";" then items
      else
        match due with
        | .member => go .operator rest
        | .operand =>
          if item.isMark "," && !commas then items
          else
            match item with
            | .group opening _ _ =>
              if opening.text == "(" then
                match afterTypedArrow? dialect rest with
                | some rest => go .operator rest
                | none => go .operator rest
              else go .operator rest
            | .token t =>
              match t.kind with
              | .word =>
                if t.text == "function" then
                  go .operator (afterFunctionHead (afterFunctionName rest)).1
                else if t.text == "class" then
                  match cutBody rest.length rest with
                  | some (_, rest) => go .operator rest
                  | none => go .operator rest
                else if t.text == "async" then
                  match rest with
                  | next :: _ =>
                    if next.word?.isSome && !next.isBelow item then go .operand rest
                    else go .operator rest
                  | [] => go .operator rest
                else if prefixWords.contains t.text then
                  if (t.text == "return" || t.text == "yield") &&
                      rest.head?.any (·.isBelow item) then rest
                  else go .operand rest
                else go .operator rest
              | .mark =>
                if t.text == "<" && dialect = .typed then
                  go .operand ((afterAngles 1 rest).getD rest)
                else if t.text == "." || t.text == "?." then go .member rest
                else if t.text == "@" && isNew then items
                else go .operand rest
              | _ => go .operator rest
        | .operator =>
          if isNew && !carriesOn item rest then items
          else
            match item with
            | .group opening _ _ => if opening.text == "\x7b" then items else go .operator rest
            | .token t =>
              match t.kind with
              | .word =>
                if ["in", "instanceof", "of"].contains t.text then go .operand rest
                else if dialect = .typed && ["as", "satisfies"].contains t.text then
                  go .operator (afterType item rest)
                else items
              | .quoted => if carriesOn item rest then go .operator rest else items
              | .mark =>
                if t.text == "," then if commas then go .operand rest else items
                else if t.text == "=>" then
                  match dropComments rest with
                  | body :: after =>
                    if body.isGroup "\x7b" then
                      afterExpressionFrom dialect commas steps .operator body after
                    else go .operand rest
                  | [] => rest
                else if t.text == "." || t.text == "?." then go .member rest
                else if t.text == "++" || t.text == "--" then go .operator rest
                else if t.text == "!" then
                  go (if rest.head?.any (·.isMark "=") then .operand else .operator) rest
                else if t.text == "@" then items
                else if t.text == "<" && dialect = .typed then
                  match afterAngles 1 rest with
                  | some after =>
                    if after.head?.any fun next => next.isGroup "(" || carriesOn next [] then
                      go .operator after
                    else go .operand rest
                  | none => go .operand rest
                else go .operand rest
              | _ => items

/-- What follows the expression that begins here; `before` is the item before it. -/
def afterExpression (dialect : Dialect) (commas : Bool) (before : Item) (items : List Item) :
    List Item :=
  afterExpressionFrom dialect commas (items.length + 1) .operand before items

/-- Whether the items of an expression, without comments, begin with the head of an arrow
function. -/
def isArrow (dialect : Dialect) (items : List Item) : Bool :=
  let items := match items with
    | first :: second :: rest =>
      if first.isWord "async" && !second.isMark "=>" then second :: rest
      else first :: second :: rest
    | items => items
  match afterTypeArguments items with
  | head :: rest =>
    if head.isGroup "(" then
      rest.head?.any (·.isMark "=>") || (afterTypedArrow? dialect rest).isSome
    else head.word?.isSome && rest.head?.any (·.isMark "=>")
  | [] => false

end CodeIndex.Syntax.Script
