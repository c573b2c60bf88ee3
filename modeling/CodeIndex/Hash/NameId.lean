import CodeIndex.Hash.Sha1
import CodeIndex.Text.Bytes

/-!
# Identifiers computed from names

A name-based identifier is the SHA-1 digest of a namespace and a name, cut to sixteen bytes, with
the version and the variant written over six of its bits. Equal names give equal identifiers, which
is what makes storing the same piece of a file twice replace the first copy.
-/

namespace CodeIndex.Hash

/-- The namespace of object identifiers. -/
def objectNamespace : List UInt8 :=
  [0x6B, 0xA7, 0xB8, 0x12, 0x9D, 0xAD, 0x11, 0xD1, 0x80, 0xB4, 0x00, 0xC0, 0x4F, 0xD4, 0x30, 0xC8]

/-- Writes version 5 and the standard variant into sixteen bytes. -/
def stampVersion (bytes : List UInt8) : List UInt8 :=
  (bytes.modify 6 fun b => (b &&& 0x0F) ||| 0x50).modify 8 fun b => (b &&& 0x3F) ||| 0x80

/-- Sixteen bytes as hexadecimal digits in the groups 8-4-4-4-12. -/
def hyphenated (bytes : List UInt8) : List Char :=
  let group (start count : Nat) := ((bytes.drop start).take count).flatMap Text.hexByte
  group 0 4 ++ '-' :: group 4 2 ++ '-' :: group 6 2 ++ '-' :: group 8 2 ++ '-' :: group 10 6

/-- The identifier of a name in the object namespace. -/
def nameId (name : List Char) : String :=
  String.ofList <| hyphenated <| stampVersion <|
    (Sha1.digest (objectNamespace ++ Text.utf8 name)).take 16

end CodeIndex.Hash
