import CodeIndex.Json.Value

/-!
# The text of JSON values

Values are written without spaces. Floating-point numbers take the shortest decimal that reads
back, positional between `1e-4` and `1e16` and with an exponent outside, and always show that they
are not whole. In texts, the quote, the backslash and control characters are escaped and nothing
else is.
-/

namespace CodeIndex

/-- The text of a finite floating-point number. -/
def JsonNumber.realText (x : Float) : List Char :=
  let bits := x.toBits.toNat
  let half := UInt64.size / 2
  let sign := if half ≤ bits then ['-'] else []
  let rest := bits % half
  if rest == 0 then sign ++ ['0', '.', '0']
  else
    let decimal := (Number.Binary.ofDoubleBits rest).shortest
    if -3 ≤ decimal.point && decimal.point ≤ 16 then sign ++ decimal.positional ['.', '0']
    else sign ++ decimal.scientific

/-- A finite number of single precision, as the number with the shortest decimal that reads back in
single precision. -/
def JsonNumber.ofSingle (x : Float32) : JsonNumber :=
  let bits := x.toBits.toNat
  let half := UInt32.size / 2
  let decimal := (Number.Binary.ofSingleBits (bits % half)).shortest
  let digits := decimal.digits.foldl (fun value digit => 10 * value + (digit.toNat - 48)) 0
  let exponent := decimal.point - decimal.digits.length
  let size := Float.ofScientific digits (exponent < 0) exponent.natAbs
  .real (if bits % half == 0 then 0 else if half ≤ bits then -size else size)

/-- The text of a number. -/
def JsonNumber.render : JsonNumber → List Char
  | .whole n => (toString n).toList
  | .real x => realText x

namespace Json

/-- A character inside a quoted text. -/
def escapeChar (c : Char) : List Char :=
  if c = '"' then ['\\', '"']
  else if c = '\\' then ['\\', '\\']
  else if c = '\n' then ['\\', 'n']
  else if c = '\r' then ['\\', 'r']
  else if c = '\t' then ['\\', 't']
  else if c.toNat = 8 then ['\\', 'b']
  else if c.toNat = 12 then ['\\', 'f']
  else if c.toNat < 32 then
    ['\\', 'u', '0', '0', Nat.digitChar (c.toNat / 16), Nat.digitChar (c.toNat % 16)]
  else [c]

/-- A quoted text. -/
def quote (text : List Char) : List Char :=
  '"' :: (text.flatMap escapeChar ++ ['"'])

mutual

/-- The text of a value. -/
def render : Json → List Char
  | .null => ['n', 'u', 'l', 'l']
  | .bool true => ['t', 'r', 'u', 'e']
  | .bool false => ['f', 'a', 'l', 's', 'e']
  | .number n => n.render
  | .string s => quote s.toList
  | .array items => '[' :: (renderItems items ++ [']'])
  | .object fields => '{' :: (renderFields fields ++ ['}'])

/-- The items of a list, with commas between them. -/
def renderItems : List Json → List Char
  | [] => []
  | [item] => render item
  | item :: items => render item ++ ',' :: renderItems items

/-- The fields of an object, with commas between them. -/
def renderFields : List (String × Json) → List Char
  | [] => []
  | [(name, value)] => quote name.toList ++ ':' :: render value
  | (name, value) :: fields =>
    quote name.toList ++ ':' :: (render value ++ ',' :: renderFields fields)

end

/-- The text of a value. -/
def text (value : Json) : String :=
  String.ofList value.render

end Json

end CodeIndex
