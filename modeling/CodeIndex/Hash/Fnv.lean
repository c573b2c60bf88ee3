import CodeIndex.Text.Bytes

/-!
# The 32-bit FNV-1a hash

A token of a text stands at the index of a sparse vector that its hash names, at index time and at
query time alike, so no vocabulary has to be shared. The hash takes the bytes one by one: exclusive
or, then multiplication modulo `2 ^ 32`.
-/

namespace CodeIndex.Hash

/-- The hash of no bytes at all. -/
def fnvBasis : UInt32 := 0x811C9DC5

/-- The multiplier. -/
def fnvPrime : UInt32 := 0x01000193

/-- One step of the hash. -/
def fnvStep (hash : UInt32) (byte : UInt8) : UInt32 :=
  (hash ^^^ byte.toUInt32) * fnvPrime

/-- The FNV-1a hash of a text's UTF-8 bytes. -/
def fnv1a (text : List Char) : UInt32 :=
  (Text.utf8 text).foldl fnvStep fnvBasis

end CodeIndex.Hash
