/-!
# SHA-1

The digest behind name-based identifiers. A message is padded to blocks of sixteen words of
thirty-two bits; each block is stretched to eighty words and folded into the five words of the
state.
-/

namespace CodeIndex.Hash.Sha1

/-- The five words of the state. -/
structure State where
  a : UInt32
  b : UInt32
  c : UInt32
  d : UInt32
  e : UInt32

/-- The state before the first block. -/
def State.start : State :=
  ⟨0x67452301, 0xEFCDAB89, 0x98BADCFE, 0x10325476, 0xC3D2E1F0⟩

/-- Rotation of a word to the left. -/
def rotate (word places : UInt32) : UInt32 :=
  (word <<< places) ||| (word >>> (32 - places))

/-- The message followed by a one bit, zeros, and its length in bits as eight bytes, so that the
whole is a multiple of sixty-four bytes. -/
def pad (message : List UInt8) : List UInt8 :=
  let size := message.length
  let zeros := (119 - size % 64) % 64
  let bits := size * 8
  message ++ [0x80] ++ List.replicate zeros 0 ++
    [56, 48, 40, 32, 24, 16, 8, 0].map fun (shift : Nat) => (bits >>> shift).toUInt8

/-- Four bytes each, most significant first, as words. -/
def words : List UInt8 → List UInt32
  | a :: b :: c :: d :: rest =>
    ((a.toUInt32 <<< 24) ||| (b.toUInt32 <<< 16) ||| (c.toUInt32 <<< 8) ||| d.toUInt32) ::
      words rest
  | _ => []

/-- Adds `count` words to a block that is held in reverse: each is a rotated exclusive or of the
words three, eight, fourteen and sixteen places back. -/
def stretch : Nat → List UInt32 → List UInt32
  | 0, block => block
  | count + 1, block =>
    let back (places : Nat) := block.getD (places - 1) 0
    stretch count (rotate (back 3 ^^^ back 8 ^^^ back 14 ^^^ back 16) 1 :: block)

/-- The mixing function and the constant of a round. -/
def mix (round : Nat) (s : State) : UInt32 × UInt32 :=
  if round < 20 then ((s.b &&& s.c) ||| (~~~s.b &&& s.d), 0x5A827999)
  else if round < 40 then (s.b ^^^ s.c ^^^ s.d, 0x6ED9EBA1)
  else if round < 60 then ((s.b &&& s.c) ||| (s.b &&& s.d) ||| (s.c &&& s.d), 0x8F1BBCDC)
  else (s.b ^^^ s.c ^^^ s.d, 0xCA62C1D6)

/-- The rounds of one block, from round number `round` on. -/
def rounds (s : State) : Nat → List UInt32 → State
  | _, [] => s
  | round, word :: rest =>
    let (f, k) := mix round s
    rounds ⟨rotate s.a 5 + f + s.e + k + word, s.a, rotate s.b 30, s.c, s.d⟩ (round + 1) rest

/-- Folds one block of sixteen words into the state. -/
def absorb (s : State) (block : List UInt32) : State :=
  let t := rounds s 0 (stretch 64 block.reverse).reverse
  ⟨s.a + t.a, s.b + t.b, s.c + t.c, s.d + t.d, s.e + t.e⟩

/-- Folds all blocks into the state; `count` is the number of blocks. -/
def absorbAll : Nat → State → List UInt32 → State
  | 0, s, _ => s
  | count + 1, s, message => absorbAll count (absorb s (message.take 16)) (message.drop 16)

/-- A word as four bytes, most significant first. -/
def bytes (word : UInt32) : List UInt8 :=
  [(word >>> 24).toUInt8, (word >>> 16).toUInt8, (word >>> 8).toUInt8, word.toUInt8]

/-- The twenty bytes of the digest. -/
def digest (message : List UInt8) : List UInt8 :=
  let padded := words (pad message)
  let s := absorbAll (padded.length / 16) State.start padded
  bytes s.a ++ bytes s.b ++ bytes s.c ++ bytes s.d ++ bytes s.e

end CodeIndex.Hash.Sha1
