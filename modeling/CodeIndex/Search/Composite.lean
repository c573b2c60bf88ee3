import CodeIndex.Secret.Redaction
import CodeIndex.Store.Point

/-!
# Search requests

What is asked of a search, and what it turns into: the texts that are embedded and counted, and the
filter. Facets that are blank count as absent.

## Main definitions

* `SearchRequest`
* `SearchRequest.composite`: the text for a phrasing.
* `SearchRequest.filter?`
-/

namespace CodeIndex

open CodeIndex.Text

/-- What is searched for, and where. -/
structure SearchRequest where
  query : String
  repository : Option String := none
  language : Option String := none
  layer : Option String := none
  /-- Whether the query is to be said in other words first. -/
  expand : Bool := false

namespace SearchRequest

/-- A facet without white space around it, if anything is left of it. -/
def facet? (value : Option String) : Option String :=
  (value.map trimmed).filter (· != "")

/-- The facets by which points are filtered, under the names of their fields. -/
def facets (request : SearchRequest) : List (String × Option String) :=
  [("repo", request.repository), ("language", request.language), ("layer", request.layer)]

/-- The filter of a request, if it names a facet. -/
def filter? (request : SearchRequest) : Option Filter :=
  let conditions := request.facets.filterMap fun (field, value) =>
    (facet? value).map fun value => (⟨field, value⟩ : Condition)
  if conditions.isEmpty then none else some conditions

/-- The text for a phrasing: language, layer and phrasing, as far as they are there, without
credentials. -/
def composite (request : SearchRequest) (phrasing : String) : String :=
  Secret.redacted <| " ".intercalate <|
    [request.language, request.layer, some phrasing].filterMap facet?

end SearchRequest

end CodeIndex
