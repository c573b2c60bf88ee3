import CodeIndex.Number.Count
import CodeIndex.Text.Line

/-!
# Addresses of services

An address names a scheme, a host and perhaps a port, and goes on with a path that only the service
understands. Reading is lenient in the ways in which addresses are usually written carelessly:
blanks around it do not count, and neither does the number of slashes after a known scheme. It is
strict about what a host can be, since nothing can be sent to a host that cannot be.

## Main definitions

* `Address.isHost`
* `Address`, `Address.parse?`, `Address.render`
-/

namespace CodeIndex

open CodeIndex.Text

/-- An address, in the parts that a request needs. -/
structure Address where
  scheme : List Char
  /-- A user with or without a password, for the host. -/
  credentials : List Char
  host : List Char
  port : Option Nat
  /-- All that follows. -/
  path : List Char
deriving DecidableEq

namespace Address

/-- The digit that a character is in a base up to sixteen. -/
def digit? (base : Nat) (c : Char) : Option Nat :=
  let value :=
    if c.isDigit then c.toNat - 48
    else if 'a' ≤ c.toLower && c.toLower ≤ 'f' then c.toLower.toNat - 87
    else base
  if value < base then some value else none

/-- The number that digits denote; no digits denote zero. -/
def number? (base : Nat) (digits : List Char) : Option Nat :=
  digits.foldlM (fun value c => (digit? base c).map (base * value + ·)) 0

/-! ### Hosts that are numbers -/

/-- A part of a numeric host. A leading `0x` makes it hexadecimal, a leading `0` octal. -/
def part? : List Char → Option Nat
  | [] => none
  | '0' :: 'x' :: digits | '0' :: 'X' :: digits => number? 16 digits
  | '0' :: digits => number? 8 digits
  | digits => number? 10 digits

/-- The parts of a host between its dots; a dot at the end closes the last part. -/
def labels (host : List Char) : List (List Char) :=
  let parts := splitOn (· == '.') host
  if 1 < parts.length && parts.getLast?.any (·.isEmpty) then parts.dropLast else parts

/-- Whether a host has to be read as numbers: its last part looks like one. -/
def endsInNumber (host : List Char) : Bool :=
  match (labels host).getLast? with
  | none => false
  | some label => (!label.isEmpty && label.all Char.isDigit) || (part? label).isSome

/-- Whether parts are a host of four bytes. All but the last part are one byte each, and the last
one fills what they leave. -/
def areBytes (parts : List Nat) : Bool :=
  parts.length ≤ 4 && parts.dropLast.all (· < 256) &&
    parts.getLast?.any (· < 1 <<< (8 * (5 - parts.length)))

/-- Whether a host of numbers can be. -/
def isNumericHost (host : List Char) : Bool :=
  ((labels host).mapM part?).any areBytes

/-- Whether a text is four bytes in plain decimal digits. -/
def isDotted (text : List Char) : Bool :=
  let parts := splitOn (· == '.') text
  parts.length == 4 && parts.all fun part =>
    !part.isEmpty && part.all Char.isDigit && (part.length == 1 || part.head? != some '0') &&
      Number.digitsValue part < 256

/-- Whether a text is a group of sixteen bits. -/
def isGroup (item : List Char) : Bool :=
  !item.isEmpty && item.length ≤ 4 && item.all fun c => (digit? 16 c).isSome

/-- The number of groups that items make up, if they do. Four bytes at the end are two groups. -/
def groups? : List (List Char) → Option Nat
  | [] => some 0
  | [item] => if isDotted item then some 2 else if isGroup item then some 1 else none
  | item :: items => if isGroup item then (groups? items).map (· + 1) else none

/-- The items of a text between colons; an empty text has none. -/
def items (text : List Char) : List (List Char) :=
  if text.isEmpty then [] else splitOn (· == ':') text

/-- The text up to two colons in a row, and after them. -/
def splitGap : List Char → Option (List Char × List Char)
  | ':' :: ':' :: rest => some ([], rest)
  | c :: rest => (splitGap rest).map fun (front, back) => (c :: front, back)
  | [] => none

/-- Whether the inside of brackets is a host of eight groups. Two colons in a row, once, stand for
at least one group. -/
def isBracketHost (text : List Char) : Bool :=
  match splitGap text with
  | none => groups? (items text) == some 8
  | some (front, back) =>
    (items front).all isGroup &&
      (groups? (items back)).any fun count => (items front).length + count < 8

/-! ### Hosts that are names -/

/-- A byte in percent notation is the character it stands for, as far as that is an ASCII character;
others cannot spoil a host. -/
def unescape : List Char → List Char
  | '%' :: a :: b :: rest =>
    match number? 16 [a, b] with
    | some code => Char.ofNat (if code < 128 then code else 0xE9) :: unescape rest
    | none => '%' :: unescape (a :: b :: rest)
  | c :: rest => c :: unescape rest
  | [] => []

/-- Whether a character cannot occur in the name of a host. -/
def isForbidden (c : Char) : Bool :=
  c.toNat ≤ 32 || c.toNat == 127 || "%#/:<>?@[\\]^|".toList.contains c

/-- Whether a text is a host: a name, or numbers, or groups in brackets. -/
def isHost (host : List Char) : Bool :=
  match host with
  | '[' :: rest => rest.getLast? == some ']' && isBracketHost rest.dropLast
  | _ =>
    let name := unescape host
    !name.isEmpty && !name.any isForbidden && (!endsInNumber name || isNumericHost name)

/-! ### Addresses -/

/-- The schemes whose addresses always have a host. -/
def knownSchemes : List String := ["http", "https", "ws", "wss", "ftp"]

/-- Blanks and control characters around an address do not count, nor do tabs and line ends in it.
-/
def clean (text : List Char) : List Char :=
  let isEdge (c : Char) : Bool := c.toNat ≤ 32
  (((text.dropWhile isEdge).reverse.dropWhile isEdge).reverse).filter fun c =>
    c != '\t' && c != '\n' && c != '\r'

/-- Whether a character can occur in the name of a scheme. -/
def isSchemeChar (c : Char) : Bool := c.isAlphanum || c == '+' || c == '-' || c == '.'

/-- The scheme of an address, and what follows its colon. -/
def scheme? (text : List Char) : Option (List Char × List Char) :=
  match text.takeWhile isSchemeChar, text.dropWhile isSchemeChar with
  | c :: cs, ':' :: rest => if c.isAlpha then some ((c :: cs).map Char.toLower, rest) else none
  | _, _ => none

/-- Divides an authority into credentials, host, and what follows the host. -/
def divide (authority : List Char) : List Char × List Char × List Char :=
  let backwards := authority.reverse
  let rest := (backwards.takeWhile (· != '@')).reverse
  let credentials := ((backwards.dropWhile (· != '@')).drop 1).reverse
  match rest with
  | '[' :: _ =>
    let inside := rest.takeWhile (· != ']')
    (credentials, inside ++ (rest.drop inside.length).take 1, rest.drop (inside.length + 1))
  | _ => (credentials, rest.takeWhile (· != ':'), rest.dropWhile (· != ':'))

/-- The port behind a host, if one is written, or nothing if it cannot be one. -/
def port? : List Char → Option (Option Nat)
  | [] | [':'] => some none
  | ':' :: digits =>
    if digits.all Char.isDigit && Number.digitsValue digits < UInt16.size then
      some (some (Number.digitsValue digits))
    else none
  | _ => none

/-- The address whose scheme and remainder are these. -/
def ofParts? (scheme rest : List Char) (isEnd : Char → Bool) : Option Address := do
  let (credentials, host, after) := divide (rest.takeWhile (!isEnd ·))
  if !isHost host then none
  let port ← port? after
  return ⟨scheme, credentials, host, port, rest.dropWhile (!isEnd ·)⟩

/-- The address that a text is. Addresses without a host, files included, are none here. -/
def parse? (text : String) : Option Address := do
  let (scheme, rest) ← scheme? (clean text.toList)
  if knownSchemes.contains (String.ofList scheme) then
    ofParts? scheme (rest.dropWhile fun c => c == '/' || c == '\\') fun c =>
      c == '/' || c == '\\' || c == '?' || c == '#'
  else if String.ofList scheme == "file" then none
  else
    match rest with
    | '/' :: '/' :: rest => ofParts? scheme rest fun c => c == '/' || c == '?' || c == '#'
    | _ => none

/-- The text of an address. A path begins with a slash. -/
def render (address : Address) : List Char :=
  let credentials := if address.credentials.isEmpty then [] else address.credentials ++ ['@']
  let port := (address.port.map fun port => ':' :: (toString port).toList).getD []
  let path := if address.path.head? == some '/' then address.path else '/' :: address.path
  address.scheme ++ [':', '/', '/'] ++ credentials ++ address.host ++ port ++ path

end Address

end CodeIndex
