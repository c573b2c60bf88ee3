import CodeIndex.Number.Shortest

/-!
# JSON values

The values of the data format, and their text. Whole numbers and floating-point numbers are kept
apart: a payload that was stored with `2.0` is written with `2.0` again. An object lists its fields;
the reader of this library always produces them in ascending order of their names.
-/

namespace CodeIndex

/-- A number of the data format: whole, or floating-point and finite. -/
inductive JsonNumber where
  | whole (n : Int)
  | real (x : Float)

/-- A value of the data format. -/
inductive Json where
  | null
  | bool (b : Bool)
  | number (n : JsonNumber)
  | string (s : String)
  | array (items : List Json)
  | object (fields : List (String × Json))

instance : Inhabited Json := ⟨.null⟩

namespace Json

/-- A natural number as a value. -/
def nat (n : Nat) : Json := .number (.whole n)

/-- A whole number as a value. -/
def int (n : Int) : Json := .number (.whole n)

/-- A list of texts as a value. -/
def strings (texts : List String) : Json := .array (texts.map .string)

/-- A text or, where there is none, the null value. -/
def optional : Option String → Json
  | some text => .string text
  | none => .null

/-- The value of an object's field. -/
def field? (name : String) : Json → Option Json
  | .object fields => fields.lookup name
  | _ => none

/-- The text that a value is. -/
def string? : Json → Option String
  | .string text => some text
  | _ => none

/-- The truth value that a value is. -/
def bool? : Json → Option Bool
  | .bool b => some b
  | _ => none

/-- The natural number that a value is. -/
def nat? : Json → Option Nat
  | .number (.whole n) => if 0 ≤ n then some n.toNat else none
  | _ => none

/-- The whole number that a value is. -/
def int? : Json → Option Int
  | .number (.whole n) => some n
  | _ => none

/-- The number that a value is, as a floating-point number. -/
def float? : Json → Option Float
  | .number (.whole n) => some (Float.ofInt n)
  | .number (.real x) => some x
  | _ => none

/-- The items of a list. -/
def array? : Json → Option (List Json)
  | .array items => some items
  | _ => none

/-- The fields of an object. -/
def object? : Json → Option (List (String × Json))
  | .object fields => some fields
  | _ => none

end Json

end CodeIndex
