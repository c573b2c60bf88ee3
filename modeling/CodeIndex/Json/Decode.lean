import CodeIndex.Json.Printer
import CodeIndex.Text.Inspect

/-!
# Reading records out of JSON values

Decoders take a value to the type that a record wants, or tell why it does not fit. An error keeps
its cause; the words for it are chosen in one place.

## Main definitions

* `DecodeError`, `DecodeError.message`
* `Json.decodeString`, `decodeCount`, `decodeName`, `decodeOptional`, `decodeList`
-/

namespace CodeIndex

/-- A computation succeeds if and only if both of its parts do. -/
theorem bind_eq_ok_iff {ε α β : Type} {x : Except ε α} {f : α → Except ε β} {b : β} :
    x >>= f = .ok b ↔ ∃ a, x = .ok a ∧ f a = .ok b := by
  cases x with
  | error e => simp [bind, Except.bind]
  | ok a => simp [bind, Except.bind]

/-- Why a value does not fit. -/
inductive DecodeError where
  | missingField (name : String)
  | wrongType (found : Json) (expected : String)
  | wrongValue (found : Json) (expected : String)
  | unknownName (name : String) (known : List String)

namespace DecodeError

/-- What a value is, in words. -/
def describe : Json → String
  | .null => "null"
  | .bool b => "boolean \x60" ++ toString b ++ "\x60"
  | .number (.whole n) => "integer \x60" ++ toString n ++ "\x60"
  | .number (.real x) => "floating point \x60" ++ String.ofList (JsonNumber.realText x) ++ "\x60"
  | .string s => "string " ++ Text.inspect s
  | .array _ => "sequence"
  | .object _ => "map"

/-- Names in backticks with commas between them. -/
def listNames (names : List String) : String :=
  ", ".intercalate (names.map fun name => "\x60" ++ name ++ "\x60")

/-- The wording of an error. -/
def message : DecodeError → String
  | missingField name => "missing field \x60" ++ name ++ "\x60"
  | wrongType found expected => "invalid type: " ++ describe found ++ ", expected " ++ expected
  | wrongValue found expected => "invalid value: " ++ describe found ++ ", expected " ++ expected
  | unknownName name known =>
    "unknown variant \x60" ++ name ++ "\x60, expected one of " ++ listNames known

end DecodeError

namespace Json

/-- A text. -/
def decodeString : Json → Except DecodeError String
  | .string s => .ok s
  | found => .error (.wrongType found "a string")

/-- A number of things: whole, not negative, and within sixty-four bits. -/
def decodeCount : Json → Except DecodeError Nat
  | .number (.whole n) =>
    if 0 ≤ n then .ok n.toNat else .error (.wrongValue (.number (.whole n)) "usize")
  | found => .error (.wrongType found "usize")

/-- A value or, where the null value stands, none. -/
def decodeOptional {α : Type} (decode : Json → Except DecodeError α) :
    Json → Except DecodeError (Option α)
  | .null => .ok none
  | found => (decode found).map some

/-- The items of a list. -/
def decodeList {α : Type} (decode : Json → Except DecodeError α) :
    Json → Except DecodeError (List α)
  | .array items => items.mapM decode
  | found => .error (.wrongType found "a sequence")

/-- One of several names: the name itself, or an object whose only field has that name and holds
nothing. -/
def decodeName {α : Type} (ofName? : String → Option α) (known : List String) :
    Json → Except DecodeError α
  | .string name => ((ofName? name).map .ok).getD (.error (.unknownName name known))
  | .object [(name, value)] =>
    match ofName? name, value with
    | some a, .null => .ok a
    | some _, value => .error (.wrongType value "unit")
    | none, _ => .error (.unknownName name known)
  | .object fields => .error (.wrongValue (.object fields) "map with a single key")
  | found => .error (.wrongType found "string or map")

end Json

end CodeIndex
