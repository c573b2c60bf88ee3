import CodeIndex.Store.Error
import CodeIndex.Store.Remote.Dialogue
import CodeIndex.Text.CharClass

/-!
# A client of a store server

The operations of a vector store, as dialogues with a server. Making something that is there already
is no failure, also when somebody else has made it in the meantime. Writing nothing, fetching
nothing, and deleting everything are not asked for at all.

## Main definitions

* `Filter.remote`, `Point.remote`
* `RemoteStore.ensure`, `RemoteStore.ensureKeywordIndex`
* `RemoteStore.upsert`, `RemoteStore.delete`, `RemoteStore.retrieve`, `RemoteStore.query`
-/

namespace CodeIndex

/-- A condition as a server understands it. Texts with blanks are compared word by word. -/
def Condition.remote (condition : Condition) : RemoteCondition :=
  ⟨condition.field,
    if condition.value.toList.any Text.isBlank then .words condition.value
    else .keyword condition.value⟩

/-- A filter as a server understands it. -/
def Filter.remote (filter : Filter) : RemoteFilter := ⟨filter.map Condition.remote, [], []⟩

/-- A point on its way to a server. -/
def Point.remote (point : Point) : RemotePoint :=
  ⟨.uuid point.id, point.dense, point.sparse, .ofMap point.payload⟩

/-- A candidate list as a server understands it. A filter without conditions is no filter. -/
def Prefetch.remote (prefetch : Prefetch) : RemotePrefetch :=
  ⟨prefetch.probe, prefetch.limit,
    (prefetch.filter.filter fun filter => !filter.isEmpty).map Filter.remote⟩

namespace RemoteStore

/-- What an operation on a store comes to. -/
abbrev Result (α : Type) := Except StoreError α

/-- A request of which only success or failure matters. -/
def perform (request : RemoteRequest) : Dialogue (Except Refusal Unit) :=
  .ask request fun answer => .settled (answer.map fun _ => ())

/-- A request to make something, which may be there already. -/
def make (request : RemoteRequest) : Dialogue (Except Refusal Unit) :=
  .ask request fun answer =>
    match answer with
    | .ok _ => .settled (.ok ())
    | .error refusal => .settled (if refusal.isAlreadyThere then .ok () else .error refusal)

/-- The result of a dialogue with a refusal as the error of an operation. -/
def told {α : Type} (error : String → StoreError) (dialogue : Dialogue (Except Refusal α)) :
    Dialogue (Result α) :=
  dialogue.map fun result => result.mapError fun refusal => error refusal.message

/-- Whether there is a collection. -/
def isThere (collection : String) : Dialogue (Result Bool) :=
  told .connection <| .ask (.isThere collection) fun answer =>
    .settled (answer.map RemoteReply.saysThere)

/-- Creates a collection if it is not there. -/
def ensure (collection : String) (dimensions : Nat) (hasSparse : Bool) : Dialogue (Result Unit) :=
  told .collection <| .ask (.isThere collection) fun answer =>
    match answer with
    | .error refusal => .settled (.error refusal)
    | .ok reply =>
      if reply.saysThere then .settled (.ok ())
      else make (.create collection dimensions hasSparse)

/-- Keeps an index for a field. -/
def ensureKeywordIndex (collection field : String) : Dialogue (Result Unit) :=
  told .collection (make (.indexField collection field))

/-- Uploads points. -/
def upsert (collection : String) (points : List Point) (waits : Bool) : Dialogue (Result Unit) :=
  if points.isEmpty then .settled (.ok ())
  else told .upsert (perform (.upsert collection (points.map Point.remote) waits))

/-- Deletes the points that a filter accepts. A filter without conditions is refused. -/
def delete (collection : String) (filter : Filter) (waits : Bool) : Dialogue (Result Unit) :=
  if filter.isEmpty then .settled (.error .emptyFilter)
  else told .delete (perform (.delete collection filter.remote waits))

/-- Fetches the points of some identifiers. -/
def retrieve (collection : String) (ids : List String) : Dialogue (Result (List Record)) :=
  if ids.isEmpty then .settled (.ok [])
  else
    told .retrieve <| .ask (.fetch collection (ids.map .uuid)) fun answer =>
      .settled (answer.map fun reply =>
        reply.points.map fun hit => ⟨RemoteId.text hit.id, hit.payload.toMap⟩)

/-- Answers a hybrid query. -/
def query (collection : String) (query : HybridQuery) : Dialogue (Result (List ScoredPoint)) :=
  told .query <| .ask (.rank collection (query.prefetch.map Prefetch.remote) query.limit)
    fun answer => .settled (answer.map fun reply =>
      reply.points.map fun hit => ⟨RemoteId.text hit.id, hit.score, hit.payload.toMap⟩)

end RemoteStore

end CodeIndex
