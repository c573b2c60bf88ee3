import CodeIndex.Store.Error
import CodeIndex.Store.Fusion

/-!
# A vector store in memory

The reference store: collections of points by identifier, with exact filters and exact ranking. It
writes down every operation that changes something, and can be told to let the next uploads or
queries fail, so that what depends on a store can be examined under failure.

Operations return their result together with the store after them, also when they fail: an upload
that is refused halfway keeps the points before the one that was refused.
-/

namespace CodeIndex

/-- A collection: whether it has a space for sparse vectors, its points, and the fields it keeps an
index for. -/
structure Collection where
  hasSparse : Bool
  points : Dictionary PointData
  keywordIndexes : List String

/-- An operation as a store writes it down. -/
inductive StoreOp where
  | ensure
  | keywordIndex (field : String)
  | upsert (ids : List String)
  | delete (conditions : List String)
deriving DecidableEq

/-- A vector store in memory. -/
structure MemoryStore where
  collections : Dictionary Collection
  /-- The operations so far, in order. -/
  ops : List StoreOp
  /-- How many of the next uploads fail. -/
  failingUpserts : Nat
  /-- How many of the next queries fail. -/
  failingQueries : Nat

namespace MemoryStore

/-- A store without collections. -/
def empty : MemoryStore := ⟨Dictionary.empty, [], 0, 0⟩

/-- A result, and the store after it. -/
abbrev Answer (α : Type) := Except StoreError α × MemoryStore

/-- Writes down an operation. -/
def record (store : MemoryStore) (op : StoreOp) : MemoryStore :=
  { store with ops := store.ops ++ [op] }

/-- Replaces a collection. -/
def put (store : MemoryStore) (name : String) (collection : Collection) : MemoryStore :=
  { store with collections := store.collections.insert name collection }

/-- What a store says about a collection that it does not have. -/
def notFound (name : String) : String := "collection " ++ name ++ " not found"

/-- The points of a collection; a collection that is not there has none. -/
def pointsOf (store : MemoryStore) (name : String) : Dictionary PointData :=
  ((store.collections.get? name).map (·.points)).getD Dictionary.empty

/-- The fields that a collection keeps an index for. -/
def keywordIndexesOf (store : MemoryStore) (name : String) : List String :=
  ((store.collections.get? name).map (·.keywordIndexes)).getD []

/-- Whether there is a collection. -/
def exists? (store : MemoryStore) (name : String) : Bool := store.collections.contains name

/-- Creates a collection if it is not there; one that is stays as it is. -/
def ensure (store : MemoryStore) (name : String) (hasSparse : Bool) : Answer Unit :=
  let store := store.record .ensure
  match store.collections.get? name with
  | some _ => (.ok (), store)
  | none => (.ok (), store.put name ⟨hasSparse, Dictionary.empty, []⟩)

/-- Keeps an index for a field. -/
def ensureKeywordIndex (store : MemoryStore) (name field : String) : Answer Unit :=
  let store := store.record (.keywordIndex field)
  match store.collections.get? name with
  | none => (.error (.collection (notFound name)), store)
  | some collection =>
    if collection.keywordIndexes.contains field then (.ok (), store)
    else
      (.ok (), store.put name
        { collection with keywordIndexes := collection.keywordIndexes ++ [field] })

/-- Writes points into a collection one after the other, up to one that has a sparse vector where
there is no space for it. -/
def writePoints (collection : Collection) : List Point → Bool × Collection
  | [] => (true, collection)
  | point :: points =>
    if point.sparse.isSome && !collection.hasSparse then (false, collection)
    else
      writePoints
        { collection with points := collection.points.insert point.id point.toPointData } points

/-- Uploads points; a point with a known identifier replaces the one that is there. -/
def upsert (store : MemoryStore) (name : String) (points : List Point) : Answer Unit :=
  match store.failingUpserts with
  | left + 1 =>
    (.error (.upsert "injected upsert failure"), { store with failingUpserts := left })
  | 0 =>
    let store := store.record (.upsert (points.map (·.id)))
    match store.collections.get? name with
    | none => (.error (.upsert (notFound name)), store)
    | some collection =>
      match writePoints collection points with
      | (true, collection) => (.ok (), store.put name collection)
      | (false, collection) =>
        (.error (.upsert ("collection " ++ name ++ " has no sparse vector space")),
          store.put name collection)

/-- Deletes the points of a collection that a filter accepts. A filter without conditions is
refused, since it would accept all. -/
def delete (store : MemoryStore) (name : String) (filter : Filter) : Answer Unit :=
  if filter.isEmpty then (.error StoreError.emptyFilter, store)
  else
    let store := store.record (.delete filter.describe)
    match store.collections.get? name with
    | none => (.ok (), store)
    | some collection =>
      (.ok (), store.put name
        { collection with
          points := collection.points.filter fun _ point => !filter.accepts point.payload })

/-- Fetches the points of some identifiers, in the order of the identifiers; unknown ones are left
out. -/
def retrieve (store : MemoryStore) (name : String) (ids : List String) :
    Except StoreError (List Record) :=
  match store.collections.get? name with
  | none => .error (.retrieve (notFound name))
  | some collection =>
    .ok <| ids.filterMap fun id =>
      (collection.points.get? id).map fun point => ⟨id, point.payload⟩

/-- The results of a hybrid query over some points. -/
def results (points : Dictionary PointData) (query : HybridQuery) : List ScoredPoint :=
  ((Ranking.fuse (query.prefetch.map (Ranking.candidates points))).take query.limit).filterMap
    fun (id, score) => (points.get? id).map fun point => ⟨id, score, point.payload⟩

/-- Answers a hybrid query. -/
def query (store : MemoryStore) (name : String) (query : HybridQuery) :
    Answer (List ScoredPoint) :=
  match store.failingQueries with
  | left + 1 =>
    (.error (.query "injected query failure"), { store with failingQueries := left })
  | 0 =>
    match store.collections.get? name with
    | none => (.error (.query (notFound name)), store)
    | some collection => (.ok (results collection.points query), store)

end MemoryStore

end CodeIndex
