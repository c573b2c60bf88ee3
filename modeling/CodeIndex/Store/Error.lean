/-!
# Errors of vector stores

A store tells what was being done when something went wrong, and what went wrong in its own words.
-/

namespace CodeIndex

/-- What went wrong in a vector store, by the operation that met it. -/
inductive StoreError where
  | connection (detail : String)
  | collection (detail : String)
  | upsert (detail : String)
  | query (detail : String)
  | delete (detail : String)
  | retrieve (detail : String)
  | serialization (detail : String)
deriving DecidableEq

namespace StoreError

/-- The wording of an error. -/
def message : StoreError → String
  | connection detail => "connection error: " ++ detail
  | collection detail => "collection error: " ++ detail
  | upsert detail => "upsert error: " ++ detail
  | query detail => "query error: " ++ detail
  | delete detail => "delete error: " ++ detail
  | retrieve detail => "retrieve error: " ++ detail
  | serialization detail => "serialization error: " ++ detail

/-- The complaint about a deletion that would select everything. -/
def emptyFilter : StoreError := .delete "refusing to delete with an empty filter"

end StoreError

end CodeIndex
