import CodeIndex.Json.Value

/-!
# Tokens of JSON text

A JSON text is a sequence of six kinds of marks and of scalars, with blanks between them. Scanning
is strict: numbers have no leading zeros, texts hold no control characters, and escapes of
surrogate halves come in pairs. Every token takes at least one character, so the length of a text
bounds the number of its tokens.
-/

namespace CodeIndex.Json

/-- A mark, or a value that is neither a list nor an object. -/
inductive Token where
  | openList
  | closeList
  | openObject
  | closeObject
  | comma
  | colon
  | scalar (value : Json)

/-- The blanks that may stand between tokens. -/
def isSpace (c : Char) : Bool :=
  c == ' ' || c == '\n' || c == '\t' || c == '\r'

/-- The value of a hexadecimal digit. -/
def hexDigit? (c : Char) : Option Nat :=
  if c.isDigit then some (c.toNat - '0'.toNat)
  else if 'a' ≤ c && c ≤ 'f' then some (c.toNat - 'a'.toNat + 10)
  else if 'A' ≤ c && c ≤ 'F' then some (c.toNat - 'A'.toNat + 10)
  else none

/-- The value of four hexadecimal digits. -/
def hexUnit? (a b c d : Char) : Option Nat := do
  return (((← hexDigit? a) * 16 + (← hexDigit? b)) * 16 + (← hexDigit? c)) * 16 + (← hexDigit? d)

/-- The character behind a one-letter escape. -/
def shortEscape? (c : Char) : Option Char :=
  match c with
  | '"' => some '"'
  | '\\' => some '\\'
  | '/' => some '/'
  | 'b' => some (Char.ofNat 8)
  | 'f' => some (Char.ofNat 12)
  | 'n' => some '\n'
  | 'r' => some '\r'
  | 't' => some '\t'
  | _ => none

/-- What a four-digit escape contributes: a half of a pair to wait for, or a character. -/
inductive Unit16 where
  | high (unit : Nat)
  | char (c : Char)

/-- Reads one escaped unit, after the high half `high` if there was one. -/
def joinUnit? (high : Option Nat) (unit : Nat) : Option Unit16 :=
  match high with
  | none =>
    if 0xD800 ≤ unit && unit < 0xDC00 then some (.high unit)
    else if 0xDC00 ≤ unit && unit < 0xE000 then none
    else some (.char (Char.ofNat unit))
  | some h =>
    if 0xDC00 ≤ unit && unit < 0xE000 then
      some (.char (Char.ofNat (0x10000 + (h - 0xD800) * 0x400 + (unit - 0xDC00))))
    else none

/-- The rest of a quoted text after its opening quote: its characters and what follows the closing
quote. `done` holds the characters so far in reverse, `high` an escaped high half that waits for
its partner. -/
def quotedFrom (done : List Char) (high : Option Nat) :
    List Char → Option (List Char × List Char)
  | [] => none
  | '\\' :: 'u' :: a :: b :: c :: d :: rest =>
    match (hexUnit? a b c d).bind (joinUnit? high) with
    | some (.high unit) => quotedFrom done (some unit) rest
    | some (.char x) => quotedFrom (x :: done) none rest
    | none => none
  | '\\' :: e :: rest =>
    if high.isSome then none
    else
      match shortEscape? e with
      | some x => quotedFrom (x :: done) none rest
      | none => none
  | c :: rest =>
    if high.isSome then none
    else if c = '"' then some (done.reverse, rest)
    else if c.toNat < 32 || c = '\\' then none
    else quotedFrom (c :: done) none rest

/-- The largest significand that a number's digits are gathered into; digits beyond it only move
the point. -/
def maxSignificand : Nat := 18446744073709551615

/-- Appends the digits `ds` of a fraction to a significand while it fits. -/
def gatherFraction (significand : Nat) (exponent : Int) : List Char → Nat × Int
  | [] => (significand, exponent)
  | d :: ds =>
    let next := significand * 10 + (d.toNat - '0'.toNat)
    if maxSignificand < next then (significand, exponent)
    else gatherFraction next (exponent - 1) ds

/-- Appends the digits of a whole part to a significand while it fits; each digit after that
raises the exponent. -/
def gatherWhole (significand : Nat) (exponent : Int) : List Char → Nat × Int
  | [] => (significand, exponent)
  | d :: ds =>
    let next := significand * 10 + (d.toNat - '0'.toNat)
    if exponent == 0 && next ≤ maxSignificand then gatherWhole next 0 ds
    else gatherWhole significand (exponent + 1) ds

/-- The number of a significand and a decimal exponent: one multiplication or division by a power
of ten, preceded by divisions by the largest one where the exponent is far below zero. A number
too large to hold is refused. -/
def scale? (significand : Nat) (exponent : Int) : Option Float :=
  let x := Float.ofNat significand
  if 0 ≤ exponent then
    if significand == 0 then some x
    else if 308 < exponent then none
    else
      let y := x * Float.ofScientific 1 false exponent.toNat
      if y.isInf then none else some y
  else
    let down := (-exponent).toNat
    let far := Float.ofScientific 1 false 308
    if down ≤ 308 then some (x / Float.ofScientific 1 false down)
    else if down ≤ 616 then some (x / far / Float.ofScientific 1 false (down - 308))
    else some 0.0

/-- The parts of a number as they are written. -/
structure NumberText where
  negative : Bool
  whole : List Char
  fraction : List Char
  exponent : Option (Bool × List Char)

/-- The value of a written number. Without fraction and exponent it is whole if it fits sixty-four
bits, signed below zero and unsigned above; minus zero is the floating-point one. -/
def NumberText.value? (n : NumberText) : Option JsonNumber := do
  let (significand, shift) := gatherWhole 0 0 n.whole
  if n.fraction.isEmpty && n.exponent.isNone && shift == 0 then
    if !n.negative then return .whole significand
    if 0 < significand && significand ≤ 9223372036854775808 then return .whole (-significand)
    return .real (-(Float.ofNat significand))
  let (significand, shift) := gatherFraction significand shift n.fraction
  let written : Int :=
    match n.exponent with
    | none => 0
    | some (down, digits) =>
      let size := digits.foldl (fun k d => k * 10 + (d.toNat - '0'.toNat)) 0
      if down then -size else size
  let x ← scale? significand (shift + written)
  return .real (if n.negative then -x else x)

/-- The digits at the start of a text, and what follows them. -/
def digits (cs : List Char) : List Char × List Char :=
  (cs.takeWhile Char.isDigit, cs.dropWhile Char.isDigit)

/-- The fraction at the start of a text: no fraction, or a point with at least one digit. -/
def fraction? : List Char → Option (List Char × List Char)
  | '.' :: cs =>
    let (ds, rest) := digits cs
    if ds.isEmpty then none else some (ds, rest)
  | cs => some ([], cs)

/-- The exponent at the start of a text: none, or a mark, a sign or none, and at least one
digit. -/
def exponent? : List Char → Option (Option (Bool × List Char) × List Char)
  | c :: cs =>
    if c = 'e' || c = 'E' then
      let (down, cs) :=
        match cs with
        | '+' :: cs => (false, cs)
        | '-' :: cs => (true, cs)
        | cs => (false, cs)
      let (ds, rest) := digits cs
      if ds.isEmpty then none else some (some (down, ds), rest)
    else some (none, c :: cs)
  | [] => some (none, [])

/-- The number at the start of a text. -/
def number? (cs : List Char) : Option (JsonNumber × List Char) := do
  let (negative, cs) :=
    match cs with
    | '-' :: cs => (true, cs)
    | cs => (false, cs)
  let (whole, cs) := digits cs
  if whole.isEmpty || (whole.head? == some '0' && whole.length != 1) then failure
  let (fraction, cs) ← fraction? cs
  let (exponent, cs) ← exponent? cs
  return (← NumberText.value? ⟨negative, whole, fraction, exponent⟩, cs)

/-- The token at the start of a text without leading blanks. -/
def token? (c : Char) (cs : List Char) : Option (Token × List Char) :=
  match c with
  | '[' => some (.openList, cs)
  | ']' => some (.closeList, cs)
  | '{' => some (.openObject, cs)
  | '}' => some (.closeObject, cs)
  | ',' => some (.comma, cs)
  | ':' => some (.colon, cs)
  | '"' => (quotedFrom [] none cs).map fun (text, rest) =>
      (.scalar (.string (String.ofList text)), rest)
  | 'n' =>
    match cs with
    | 'u' :: 'l' :: 'l' :: rest => some (.scalar .null, rest)
    | _ => none
  | 't' =>
    match cs with
    | 'r' :: 'u' :: 'e' :: rest => some (.scalar (.bool true), rest)
    | _ => none
  | 'f' =>
    match cs with
    | 'a' :: 'l' :: 's' :: 'e' :: rest => some (.scalar (.bool false), rest)
    | _ => none
  | c => (number? (c :: cs)).map fun (n, rest) => (.scalar (.number n), rest)

/-- The tokens of a text. The first argument bounds their number: no text has more tokens than
characters. -/
def scanAtMost : Nat → List Char → Option (List Token)
  | 0, cs => if cs.all isSpace then some [] else none
  | count + 1, cs =>
    match cs.dropWhile isSpace with
    | [] => some []
    | c :: rest =>
      match token? c rest with
      | none => none
      | some (token, rest) => (scanAtMost count rest).map (token :: ·)

/-- The tokens of a text, or nothing if it is malformed. -/
def scan (text : List Char) : Option (List Token) :=
  scanAtMost text.length text

end CodeIndex.Json
