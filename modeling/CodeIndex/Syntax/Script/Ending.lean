import CodeIndex.Syntax.Script.Stretch

/-!
# Where statements end

A statement ends with its semicolon, or with a line that nothing carries on. The comments that stand
on the row of such a line end lie before it and so belong to the statement; before a semicolon that
is written they do as well. What stands behind a semicolon, and what stands behind a statement that
no line end closes, is left to what follows.

The dialect with markup looks past comments for the line end. It finds the end of a line before a
block comment, and after a line comment only where an operator could follow.

## Main definitions

* `afterLine`: what follows something that may end with a line.
* `afterEnd`: what follows a statement that ends with a semicolon or with a line.
-/

namespace CodeIndex.Syntax.Script

/-- The items that were read when `rest` is left of `items`. -/
def consumed (items rest : List Item) : List Item :=
  items.take (items.length - rest.length)

/-- What follows a semicolon, if the items begin with one. -/
def afterSemicolon (items : List Item) : List Item :=
  match dropComments items with
  | item :: rest => if item.isMark ";" then rest else items
  | [] => items

/-- Whether the line before some items on a new row ends a statement: nothing but comments follows,
or something that does not carry the statement on. Brackets do so where an operator could follow,
as `mayGoOn` tells. -/
def endsAbove (mayGoOn : Bool) (items : List Item) : Bool :=
  match dropComments items with
  | [] => true
  | item :: rest =>
    !carriesOn item rest || (!mayGoOn && (item.isGroup "(" || item.isGroup "["))

/-- Whether a statement that is complete on a row ends right before some items. `passing` tells that
a line comment has just been passed, in the dialect that looks past comments. -/
def endsHere (dialect : Dialect) (mayGoOn : Bool) : Bool → Nat → List Item → Bool
  | passing, _, [] => !passing
  | passing, row, item :: items =>
    if !passing && row < item.start.row then endsAbove mayGoOn (item :: items)
    else if dialect = .markup && item.isComment then
      endsHere dialect mayGoOn (item.first.kind == .lineComment) item.stop.row items
    else false

/-- The items after the comments that stand between a statement, complete on a row, and the line end
that ends it; nothing if no line end does. -/
def afterLineEnd? (dialect : Dialect) (mayGoOn : Bool) : Nat → List Item → Option (List Item)
  | _, [] => some []
  | row, item :: items =>
    if endsHere dialect mayGoOn false row (item :: items) then some (item :: items)
    else if item.isComment then afterLineEnd? dialect mayGoOn item.stop.row items
    else none

/-- What follows something that may end with a line, when `rest` is left of `items`. `mayGoOn` tells
whether an operator could follow. -/
def afterLine (dialect : Dialect) (mayGoOn : Bool) (items rest : List Item) : List Item :=
  if dialect = .markup && !mayGoOn then rest
  else
    let row := (Item.lastStop ⟨0, 0⟩ (consumed items rest)).row
    (afterLineEnd? dialect mayGoOn row rest).getD rest

/-- What follows a statement that ends with a semicolon or with a line, when `rest` is left of
`items`. -/
def afterEnd (dialect : Dialect) (mayGoOn : Bool) (items rest : List Item) : List Item :=
  match dropComments rest with
  | item :: more => if item.isMark ";" then more else afterLine dialect mayGoOn items rest
  | [] => afterLine dialect mayGoOn items rest

end CodeIndex.Syntax.Script
