import CodeIndex.Collection.Dictionary
import CodeIndex.Json.Value
import CodeIndex.Sparse.Vector

/-!
# Points, filters and queries

What goes into a vector store and what is asked of it. A point has an identifier, a dense vector,
possibly a sparse one, and a payload. A filter is a conjunction of exact comparisons of payload
texts. A hybrid query asks for several candidate lists, dense and sparse, to be fused into one
ranking.
-/

namespace CodeIndex

/-- What a store keeps under an identifier. -/
structure PointData where
  dense : List Float32
  sparse : Option SparseVector
  payload : Dictionary Json

/-- A point on its way into a store. -/
structure Point extends PointData where
  id : String

/-- A payload field has to be exactly this text. -/
structure Condition where
  field : String
  value : String
deriving DecidableEq

/-- All conditions have to hold. -/
abbrev Filter := List Condition

namespace Filter

/-- A filter on one field. -/
def text (field value : String) : Filter := [⟨field, value⟩]

/-- The filter with a further condition. -/
def andText (filter : Filter) (field value : String) : Filter := filter ++ [⟨field, value⟩]

/-- Whether a payload meets a condition. A field that is no text meets none. -/
def meets (payload : Dictionary Json) (condition : Condition) : Bool :=
  match payload.get? condition.field with
  | some (.string value) => value == condition.value
  | _ => false

/-- Whether a payload meets all conditions. -/
def accepts (filter : Filter) (payload : Dictionary Json) : Bool :=
  filter.all (meets payload)

/-- A filter in words, one for each condition. -/
def describe (filter : Filter) : List String :=
  filter.map fun condition => condition.field ++ "=" ++ condition.value

end Filter

/-- What a candidate list is ranked by. -/
inductive Probe where
  | dense (vector : List Float32)
  | sparse (vector : SparseVector)

/-- One candidate list: what it is ranked by, how long it may be, and what it is taken from. -/
structure Prefetch where
  probe : Probe
  limit : Nat
  filter : Option Filter

/-- Several candidate lists, fused, and the number of results wanted. -/
structure HybridQuery where
  prefetch : List Prefetch
  limit : Nat

/-- A result of a query. -/
structure ScoredPoint where
  id : String
  score : Float32
  payload : Dictionary Json

/-- A point fetched by its identifier. -/
structure Record where
  id : String
  payload : Dictionary Json

end CodeIndex
