import CodeIndex.Json.Token
import CodeIndex.Collection.Dictionary

/-!
# Reading JSON

A text is read token by token with a stack of the lists and objects that are still open. What may
come next is a state of its own, so a reader step looks at one token only. Nesting is limited to
`maxDepth`; the limit keeps hostile replies from exhausting whoever walks the value afterwards. Of
several fields with one name the last counts, and fields come out in ascending order.
-/

namespace CodeIndex.Json

/-- The deepest nesting that is read. -/
def maxDepth : Nat := 127

/-- A list or an object that is still open, its contents in reverse. -/
inductive Frame where
  | list (items : List Json)
  | object (fields : List (String × Json)) (name : String)

/-- What may come next. -/
inductive Awaiting where
  | value
  | itemOrClose
  | nameOrClose
  | name (fields : List (String × Json))
  | colon (fields : List (String × Json)) (name : String)
  | separator (value : Json)

/-- The fields of a closed object: ascending, the last of equal names kept. -/
def closeFields (fields : List (String × Json)) : List (String × Json) :=
  (Dictionary.ofList fields.reverse).toList

/-- One step of reading: what may come after a token, and what is open then. -/
def step (awaiting : Awaiting) (frames : List Frame) (token : Token) :
    Option (Awaiting × List Frame) :=
  match awaiting, token with
  | .value, .scalar v | .itemOrClose, .scalar v => some (.separator v, frames)
  | .value, .openList | .itemOrClose, .openList =>
    if frames.length < maxDepth then some (.itemOrClose, .list [] :: frames) else none
  | .value, .openObject | .itemOrClose, .openObject =>
    if frames.length < maxDepth then some (.nameOrClose, frames) else none
  | .itemOrClose, .closeList =>
    match frames with
    | .list items :: frames => some (.separator (.array items.reverse), frames)
    | _ => none
  | .nameOrClose, .scalar (.string name) => some (.colon [] name, frames)
  | .nameOrClose, .closeObject => some (.separator (.object []), frames)
  | .name fields, .scalar (.string name) => some (.colon fields name, frames)
  | .colon fields name, .colon => some (.value, .object fields name :: frames)
  | .separator v, .comma =>
    match frames with
    | .list items :: frames => some (.value, .list (v :: items) :: frames)
    | .object fields name :: frames => some (.name ((name, v) :: fields), frames)
    | [] => none
  | .separator v, .closeList =>
    match frames with
    | .list items :: frames => some (.separator (.array (v :: items).reverse), frames)
    | _ => none
  | .separator v, .closeObject =>
    match frames with
    | .object fields name :: frames =>
      some (.separator (.object (closeFields ((name, v) :: fields))), frames)
    | _ => none
  | _, _ => none

/-- Reads all tokens; at the end nothing may be open. -/
def readFrom (awaiting : Awaiting) (frames : List Frame) : List Token → Option Json
  | [] =>
    match awaiting, frames with
    | .separator v, [] => some v
    | _, _ => none
  | token :: tokens =>
    match step awaiting frames token with
    | some (awaiting, frames) => readFrom awaiting frames tokens
    | none => none

/-- The value that a text denotes, or nothing if it is malformed. -/
def parse? (text : List Char) : Option Json :=
  (scan text).bind (readFrom .value [])

end CodeIndex.Json
