import CodeIndex.Hash.Fnv
import CodeIndex.Sparse.Token

/-!
# Sparse vectors

The lexical side of a chunk is a vector over token hashes: at each hash the number of tokens that
have it. Weights live in single precision, the format of the store, where counts below `2 ^ 24` are
exact. The counts themselves are kept without a bound: a count of thirty-two bits agrees with them
for every text that has fewer than `2 ^ 32` tokens, and longer texts are left aside.

## Main definitions

* `SparseVector`: indices and values of equal length in use.
* `SparseVector.ofText`: term frequencies, indices ascending.
* `SparseVector.dot`: overlap of two vectors with ascending indices.
-/

namespace CodeIndex

/-- A vector given by the indices that are not zero and their values. -/
structure SparseVector where
  indices : List UInt32
  values : List Float32

namespace SparseVector

/-- A vector without entries. -/
def isEmpty (v : SparseVector) : Bool := v.indices.isEmpty

/-- Counts one more of `hash` in ascending counts. -/
def countIn (hash : UInt32) : List (UInt32 × Nat) → List (UInt32 × Nat)
  | [] => [(hash, 1)]
  | (h, n) :: rest =>
    if hash < h then (hash, 1) :: (h, n) :: rest
    else if hash = h then (h, n + 1) :: rest
    else (h, n) :: countIn hash rest

/-- How often each hash occurs, in ascending order of the hashes. -/
def counts (hashes : List UInt32) : List (UInt32 × Nat) :=
  hashes.foldl (fun table hash => countIn hash table) []

/-- The vector of a table of counts. -/
def ofCounts (table : List (UInt32 × Nat)) : SparseVector :=
  ⟨table.map (·.1), table.map fun entry => Float32.ofNat entry.2⟩

/-- The term frequencies of a text. -/
def ofText (text : List Char) : SparseVector :=
  ofCounts (counts ((Token.tokenize text).map Hash.fnv1a))

/-- The sum, added to `sum`, of the products at common indices of two entry lists with ascending
indices; `steps` bounds how many entries may be looked at. -/
def dotFrom (sum : Float32) :
    Nat → List (UInt32 × Float32) → List (UInt32 × Float32) → Float32
  | steps + 1, (i, x) :: a, (j, y) :: b =>
    if i < j then dotFrom sum steps a ((j, y) :: b)
    else if j < i then dotFrom sum steps ((i, x) :: a) b
    else dotFrom (sum + x * y) steps a b
  | _, _, _ => sum

/-- The overlap of two vectors whose indices ascend. -/
def dot (a b : SparseVector) : Float32 :=
  dotFrom 0 (a.indices.length + b.indices.length) (a.indices.zip a.values)
    (b.indices.zip b.values)

end SparseVector

end CodeIndex
