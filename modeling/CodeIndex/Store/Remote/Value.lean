import CodeIndex.Collection.Dictionary
import CodeIndex.Json.Value

/-!
# Payload values of a store server

A server keeps payloads in values of its own, in which whole numbers have sixty-four bits and any
floating-point number may occur, also one that is no number. A value may even fail to say what it
is. Payloads are converted on the way in and on the way out. What cannot be a JSON value is left out
on the way out, and what stands around it is kept.

## Main definitions

* `RemoteValue`
* `RemoteValue.ofJson`, `RemoteValue.toJson?`
* `RemotePayload`, `RemotePayload.ofMap`, `RemotePayload.toMap`
-/

namespace CodeIndex

/-- A value as a server keeps it. -/
inductive RemoteValue where
  /-- A value that does not say what it is. -/
  | unset
  | null
  | bool (b : Bool)
  | integer (n : Int64)
  | real (x : Float)
  | text (s : String)
  | list (items : List RemoteValue)
  | record (fields : List (String × RemoteValue))

namespace RemoteValue

/-- A number as a server keeps it; whole numbers beyond sixty-four bits become floating-point
numbers. -/
def ofNumber : JsonNumber → RemoteValue
  | .whole n =>
    if Int64.minValue.toInt ≤ n ∧ n ≤ Int64.maxValue.toInt then .integer (Int64.ofInt n)
    else .real (Float.ofInt n)
  | .real x => .real x

mutual

/-- A value on its way to a server. -/
def ofJson : Json → RemoteValue
  | .null => .null
  | .bool b => .bool b
  | .number n => ofNumber n
  | .string s => .text s
  | .array items => .list (ofItems items)
  | .object fields => .record (ofFields fields)

/-- The items of a list on its way to a server. -/
def ofItems : List Json → List RemoteValue
  | [] => []
  | item :: items => ofJson item :: ofItems items

/-- The fields of an object on its way to a server. -/
def ofFields : List (String × Json) → List (String × RemoteValue)
  | [] => []
  | (name, value) :: fields => (name, ofJson value) :: ofFields fields

end

mutual

/-- A value on its way back, if it can be a JSON value. -/
def toJson? : RemoteValue → Option Json
  | .unset => none
  | .null => some .null
  | .bool b => some (.bool b)
  | .integer n => some (.int n.toInt)
  | .real x => if x.isFinite then some (.number (.real x)) else none
  | .text s => some (.string s)
  | .list items => some (.array (toItems items))
  | .record fields => some (.object (toFields fields))

/-- The items of a list on its way back, without those that cannot be JSON values. -/
def toItems : List RemoteValue → List Json
  | [] => []
  | item :: items => (toJson? item).toList ++ toItems items

/-- The fields of a record on its way back, without those that cannot be JSON values. -/
def toFields : List (String × RemoteValue) → List (String × Json)
  | [] => []
  | (name, value) :: fields => ((toJson? value).map (name, ·)).toList ++ toFields fields

end

end RemoteValue

/-- A payload as a server keeps it. -/
abbrev RemotePayload := Dictionary RemoteValue

namespace RemotePayload

/-- A payload on its way to a server. -/
def ofMap (payload : Dictionary Json) : RemotePayload := payload.map fun _ => .ofJson

/-- A payload on its way back, without the entries that cannot be JSON values. -/
def toMap (payload : RemotePayload) : Dictionary Json :=
  payload.filterMap fun _ => RemoteValue.toJson?

end RemotePayload

end CodeIndex
