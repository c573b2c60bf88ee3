/-!
# Bytes of a text

Hashes and identifiers are computed from the UTF-8 bytes of a text. The bytes come as a list, one
character after the other, so that the bytes of a concatenation are visibly the concatenation of
the bytes.

A place in a text may be told by the number of bytes before it. Not every number tells a place: a
text cannot be cut inside a character, nor behind its end. Cutting it there has no result, so a
computation that cuts a text has a result only if it cuts at borders of characters.

## Main definitions

* `utf8`: the bytes of a text.
* `byteSize`: how many there are.
* `isBoundary`: whether a number of bytes tells a place.
* `fromByte?`, `upToByte?`, `slice?`: parts of a text.
-/

namespace CodeIndex.Text

/-- The UTF-8 bytes of a sequence of characters. -/
def utf8 (text : List Char) : List UInt8 :=
  text.flatMap String.utf8EncodeChar

@[simp] theorem utf8_nil : utf8 [] = [] := rfl

@[simp] theorem utf8_append (a b : List Char) : utf8 (a ++ b) = utf8 a ++ utf8 b := by
  simp [utf8]

/-- A byte as two lower-case hexadecimal digits. -/
def hexByte (byte : UInt8) : List Char :=
  [Nat.digitChar (byte.toNat / 16), Nat.digitChar (byte.toNat % 16)]

/-! ## Slices -/

/-- The number of bytes of a text. -/
def byteSize (text : List Char) : Nat := (utf8 text).length

@[simp] theorem byteSize_nil : byteSize [] = 0 := rfl

@[simp] theorem byteSize_append (a b : List Char) :
    byteSize (a ++ b) = byteSize a + byteSize b := by
  simp [byteSize]

theorem byteSize_singleton (c : Char) : byteSize [c] = c.utf8Size := by
  simp [byteSize, utf8]

theorem byteSize_cons (c : Char) (text : List Char) :
    byteSize (c :: text) = c.utf8Size + byteSize text := by
  rw [← byteSize_singleton, ← byteSize_append]
  rfl

/-- The text behind so many bytes; none if they end inside a character or behind the text. -/
def fromByte? : List Char → Nat → Option (List Char)
  | text, 0 => some text
  | [], _ + 1 => none
  | c :: text, position + 1 =>
    if c.utf8Size ≤ position + 1 then fromByte? text (position + 1 - c.utf8Size) else none

/-- Whether so many bytes end between two characters or at an end of the text. -/
def isBoundary (text : List Char) (position : Nat) : Bool := (fromByte? text position).isSome

/-- The text of so many bytes, under the same condition. -/
def upToByte? (text : List Char) (position : Nat) : Option (List Char) :=
  (fromByte? text position).map fun rest => text.take (text.length - rest.length)

/-- The text between two places, if both are places and in order. -/
def slice? (text : List Char) (start stop : Nat) : Option (List Char) :=
  if start ≤ stop then (upToByte? text stop).bind (fromByte? · start) else none

end CodeIndex.Text
