import CodeIndex.Number.Count

/-!
# Values and literals of TOML

The values of the configuration format. Numbers with a fraction and points in time are kept as they
were written: settings have no use for them, and only have to tell that they are something else.

Numbers, truth values and points in time are single words. A word is whatever stands before a
separator; what kind of value it is can be told from the word alone.

## Main definitions

* `Toml`
* `Toml.literal?`: the value of a word.
-/

namespace CodeIndex

/-- A value of the configuration format. A table lists its fields in the order of the text. -/
inductive Toml where
  | string (s : String)
  | whole (n : Int)
  | real (literal : String)
  | boolean (b : Bool)
  | moment (literal : String)
  | list (items : List Toml)
  | table (fields : List (String × Toml))

instance : Inhabited Toml := ⟨.table []⟩

namespace Toml

open CodeIndex.Number

/-- Digits of a base. -/
def isDigitOf (base : Nat) (c : Char) : Bool :=
  let value := if c.isDigit then c.toNat - 48
    else if 'a' ≤ c && c ≤ 'f' then c.toNat - 87
    else if 'A' ≤ c && c ≤ 'F' then c.toNat - 55 else base
  value < base

/-- The value of a digit. -/
def digitValue (c : Char) : Nat :=
  if c.isDigit then c.toNat - 48 else if c.isLower then c.toNat - 87 else c.toNat - 55

/-- The digits of a number without the underscores between them; an underscore needs a digit on both
sides. -/
def plainDigits? (base : Nat) : List Char → Option (List Char)
  | [] => none
  | [c] => if isDigitOf base c then some [c] else none
  | c :: '_' :: rest =>
    if isDigitOf base c then (plainDigits? base rest).map (c :: ·) else none
  | c :: rest => if isDigitOf base c then (plainDigits? base rest).map (c :: ·) else none

/-- The number that digits of a base denote. -/
def valueOf (base : Nat) (digits : List Char) : Nat :=
  digits.foldl (fun value digit => base * value + digitValue digit) 0

/-- Whole numbers that no reader can hold are refused. -/
def holdable? (n : Int) : Option Toml :=
  let limit : Int := Nat.pow 2 127
  if -limit ≤ n && n < 2 * limit then some (.whole n) else none

/-- A number in a base other than ten. -/
def based? : List Char → Option Toml
  | '0' :: 'x' :: rest => (plainDigits? 16 rest).bind fun ds => holdable? (valueOf 16 ds)
  | '0' :: 'o' :: rest => (plainDigits? 8 rest).bind fun ds => holdable? (valueOf 8 ds)
  | '0' :: 'b' :: rest => (plainDigits? 2 rest).bind fun ds => holdable? (valueOf 2 ds)
  | _ => none

/-- Whether decimal digits have no needless zero in front. -/
def isLean (digits : List Char) : Bool :=
  match digits with
  | '0' :: _ :: _ => false
  | _ => true

/-- A word without its sign, and whether it was a minus. -/
def unsigned : List Char → Bool × List Char
  | '-' :: rest => (true, rest)
  | '+' :: rest => (false, rest)
  | rest => (false, rest)

/-- A decimal whole number. -/
def decimal? (word : List Char) : Option Toml :=
  let (negative, digits) := unsigned word
  match plainDigits? 10 digits with
  | some plain =>
    let size : Int := valueOf 10 plain
    if isLean plain then holdable? (if negative then -size else size) else none
  | none => none

/-- Whether the part behind an exponent mark is well-formed. -/
def isExponent (rest : List Char) : Bool :=
  (plainDigits? 10 (unsigned rest).2).isSome

/-- The letters that announce an exponent. -/
def isMark (c : Char) : Bool := c == 'e' || c == 'E'

/-- Whether the part behind a whole number makes it a number with a fraction or an exponent. -/
def isFraction : List Char → Bool
  | '.' :: rest =>
    let digits := rest.takeWhile fun c => !isMark c
    (plainDigits? 10 digits).isSome &&
      match rest.dropWhile fun c => !isMark c with
      | [] => true
      | _ :: exponent => isExponent exponent
  | c :: rest => isMark c && isExponent rest
  | [] => false

/-- A number with a fraction or an exponent, or one of the numbers that are none. -/
def real? (word : List Char) : Option Toml :=
  let body := (unsigned word).2
  let isWholePart (c : Char) : Bool := c != '.' && !isMark c
  let isSpecial := body == "inf".toList || body == "nan".toList
  let isNumber := ((plainDigits? 10 (body.takeWhile isWholePart)).any isLean) &&
    isFraction (body.dropWhile isWholePart)
  if isSpecial || isNumber then some (.real (String.ofList word)) else none

/-! ### Points in time -/

/-- A fixed number of digits in front, and what follows them. -/
def fixed? (count : Nat) (text : List Char) : Option (Nat × List Char) :=
  let digits := text.take count
  if digits.length == count && digits.all Char.isDigit then
    some (digitsValue digits, text.drop count)
  else none

/-- The number of days of a month. -/
def daysIn (year month : Nat) : Nat :=
  if month == 2 then if year % 4 == 0 && (year % 100 != 0 || year % 400 == 0) then 29 else 28
  else if [4, 6, 9, 11].contains month then 30 else 31

/-- What follows a date. -/
def afterDate? (text : List Char) : Option (List Char) := do
  let (year, rest) ← fixed? 4 text
  let '-' :: rest := rest | none
  let (month, rest) ← fixed? 2 rest
  let '-' :: rest := rest | none
  let (day, rest) ← fixed? 2 rest
  if 1 ≤ month && month ≤ 12 && 1 ≤ day && day ≤ daysIn year month then some rest else none

/-- What follows the seconds of a time, if it has seconds. -/
def afterSeconds? : List Char → Option (List Char)
  | ':' :: rest => do
    let (second, rest) ← fixed? 2 rest
    if 60 < second then none
    else
      match rest with
      | '.' :: rest =>
        if rest.head?.any Char.isDigit then some (rest.dropWhile Char.isDigit) else none
      | rest => some rest
  | rest => some rest

/-- What follows a time of day. -/
def afterTime? (text : List Char) : Option (List Char) := do
  let (hour, rest) ← fixed? 2 text
  let ':' :: rest := rest | none
  let (minute, rest) ← fixed? 2 rest
  if hour ≤ 23 && minute ≤ 59 then afterSeconds? rest else none

/-- Whether a text is an offset from universal time, or nothing. -/
def isOffset : List Char → Bool
  | [] => true
  | [c] => c == 'Z' || c == 'z'
  | sign :: rest =>
    (sign == '+' || sign == '-') &&
      match fixed? 2 rest with
      | some (hour, ':' :: rest) =>
        hour ≤ 23 && (fixed? 2 rest).any fun (minute, rest) => minute ≤ 59 && rest.isEmpty
      | _ => false

/-- Whether a word is a date, a time of day, or both. -/
def isMoment (word : List Char) : Bool :=
  match afterDate? word with
  | some [] => true
  | some (c :: rest) => (c == 'T' || c == 't' || c == ' ') && (afterTime? rest).any isOffset
  | none => (afterTime? word).any (·.isEmpty)

/-- The value of a word. -/
def literal? (word : List Char) : Option Toml :=
  if word == "true".toList then some (.boolean true)
  else if word == "false".toList then some (.boolean false)
  else if isMoment word then some (.moment (String.ofList word))
  else ((based? word).or (decimal? word)).or (real? word)

end Toml

end CodeIndex
