import CodeIndex.Syntax.Token

/-!
# Brackets

Before a reader looks for declarations it folds the tokens of a text into groups by their brackets.
A declaration is then a short list of items on one level, however much stands inside it. A bracket
without its partner does not disturb the rest: a closing one with no partner is an ordinary token,
and groups left open are closed by the bracket of an enclosing group or by the end of the text.

## Main definitions

* `Item`: a token, or a group with everything inside it.
* `itemsOf`: the items of a list of tokens.
* `sourceText`: the text of a list of items.
-/

namespace CodeIndex.Syntax

/-- A token, or a pair of brackets with what stands inside. -/
inductive Item where
  | token (token : Token)
  | group (opening : Token) (inside : List Item) (closing : Option Token)

namespace Item

/-- The first token of an item. -/
def first : Item → Token
  | token t => t
  | group opening _ _ => opening

/-- Where an item begins. -/
def start (item : Item) : Position := item.first.start

mutual

/-- Where an item ends. -/
def stop : Item → Position
  | token t => t.stop
  | group opening inside closing =>
    match closing with
    | some t => t.stop
    | none => lastStop opening.stop inside

/-- Where the last of some items ends, or `before` if there are none. -/
def lastStop (before : Position) : List Item → Position
  | [] => before
  | item :: items => lastStop (stop item) items

end

mutual

/-- The text of an item with the blanks before it. -/
def fullText : Item → List Char
  | token t => t.gap ++ t.text.toList
  | group opening inside closing =>
    opening.gap ++ opening.text.toList ++ fullTexts inside ++
      match closing with
      | some t => t.gap ++ t.text.toList
      | none => []

/-- The text of several items with the blanks before them. -/
def fullTexts : List Item → List Char
  | [] => []
  | item :: items => fullText item ++ fullTexts items

end

/-- Whether an item is a given mark. -/
def isMark (item : Item) (text : String) : Bool :=
  match item with
  | token t => t.isMark text
  | group .. => false

/-- Whether an item is a given word. -/
def isWord (item : Item) (text : String) : Bool :=
  match item with
  | token t => t.isWord text
  | group .. => false

/-- The word that an item is. -/
def word? : Item → Option String
  | token t => if t.kind == .word then some t.text else none
  | group .. => none

/-- The comment that an item is. -/
def comment? : Item → Option Token
  | token t => if t.isComment then some t else none
  | group .. => none

/-- Whether an item is a comment. -/
def isComment (item : Item) : Bool := item.comment?.isSome

/-- The contents of a group that a bracket opens. -/
def inside? (opening : String) : Item → Option (List Item)
  | group t inside _ => if t.text == opening then some inside else none
  | token _ => none

/-- Whether an item is a group that a bracket opens. -/
def isGroup (opening : String) (item : Item) : Bool := (item.inside? opening).isSome

/-- Whether an item begins on a later row than another ends. -/
def isBelow (item before : Item) : Bool := before.stop.row < item.start.row

end Item

/-- The source text of a list of items, without the blanks before the first. -/
def sourceText : List Item → List Char
  | [] => []
  | items => (Item.fullTexts items).drop ((items.head?.map (·.first.gap.length)).getD 0)

/-- The closing bracket for an opening one. -/
def partner? (opening : String) : Option String :=
  match opening with
  | "(" => some ")"
  | "[" => some "]"
  | "\x7b" => some "\x7d"
  | _ => none

/-- Whether a token is a bracket that opens a group. -/
def opensGroup (t : Token) : Bool :=
  t.kind == .mark && (t.text == "(" || t.text == "[" || t.text == "\x7b")

/-- Whether a token is a bracket that closes a group. -/
def closesGroup (t : Token) : Bool :=
  t.kind == .mark && (t.text == ")" || t.text == "]" || t.text == "\x7d")

/-- A group under construction: its bracket and its items in reverse. -/
structure OpenGroup where
  opening : Token
  inside : List Item

/-- Closes the innermost groups up to one that fits the closing bracket, of which there is one. The
groups passed over become items without a closing bracket. -/
def closeThrough (closing : Token) : List OpenGroup → List Item → Option (Item × List OpenGroup)
  | [], _ => none
  | top :: groups, extra =>
    let inside := top.inside.reverse ++ extra
    if partner? top.opening.text == some closing.text then
      some (.group top.opening inside (some closing), groups)
    else closeThrough closing groups [.group top.opening inside none]

/-- Folds tokens into items. `groups` are the open groups from the inside, `done` the finished items
on the outermost level in reverse. -/
def itemsFrom (done : List Item) (groups : List OpenGroup) : List Token → List Item
  | [] =>
    let unclosed := groups.foldl
      (fun extra top => [Item.group top.opening (top.inside.reverse ++ extra) none]) []
    done.reverse ++ unclosed
  | t :: tokens =>
    let push (item : Item) (done : List Item) (groups : List OpenGroup) :
        List Item × List OpenGroup :=
      match groups with
      | [] => (item :: done, [])
      | top :: groups => (done, { top with inside := item :: top.inside } :: groups)
    if opensGroup t then itemsFrom done (⟨t, []⟩ :: groups) tokens
    else
      match if closesGroup t then closeThrough t groups [] else none with
      | some (item, groups) =>
        let (done, groups) := push item done groups
        itemsFrom done groups tokens
      | none =>
        let (done, groups) := push (.token t) done groups
        itemsFrom done groups tokens

/-- The items of a list of tokens. -/
def itemsOf (tokens : List Token) : List Item :=
  itemsFrom [] [] tokens

/-! ## Stretches of items -/

/-- Cuts a list of items after the first that passes a test; all of it where none does. -/
def cutAfter (test : Item → Bool) : List Item → List Item × List Item
  | [] => ([], [])
  | item :: items =>
    if test item then ([item], items)
    else
      let (before, after) := cutAfter test items
      (item :: before, after)

/-- A node of a kind over a stretch of items, without text. -/
def nodeOver (kind : String) (items : List Item) (children : List SyntaxTree) : SyntaxTree :=
  let start := (items.head?.map (·.start)).getD ⟨0, 0⟩
  .node kind none start (Item.lastStop start items) "" children

/-- A node without children that keeps the text of its items. -/
def textNode (kind : String) (label : Option String) (items : List Item) : SyntaxTree :=
  let start := (items.head?.map (·.start)).getD ⟨0, 0⟩
  .node kind label start (Item.lastStop start items) (String.ofList (sourceText items)) []

/-- The node of a comment token, under the kind that the language has for it. -/
def commentNode (kind : String) (t : Token) : SyntaxTree :=
  .node kind none t.start t.stop t.text []

end CodeIndex.Syntax
