import CodeIndex.Payload
import CodeIndex.Prompt.Phrasing
import CodeIndex.Run.World
import CodeIndex.Search.Composite

/-!
# Search

A search embeds the phrasings of a query, asks the store for the points that are near them in
meaning or share words with them, and gives back the fused ranking. A hit below a header also shows
that header. A search never fails: where it cannot be carried out it has no hits, and a message that
says what to check.

## Main definitions

* `Retriever`, `SearchSettings`
* `SearchHit`, `SearchOutcome`
* `Retriever.search`
-/

namespace CodeIndex

open CodeIndex.Text

/-- Where to search, and how much. Times are in milliseconds. -/
structure SearchSettings where
  collection : String := "code_chunks"
  /-- The length of each list of candidates. -/
  prefetchLimit : Nat := 20
  /-- The number of hits. -/
  resultLimit : Nat := 16
  timeout : Nat := 30000

/-- A result of a search. -/
structure SearchHit where
  id : String
  score : Float32
  payload : Payload
  /-- The text of the header chunk of the same file. -/
  classContext : Option String

/-- What comes of a search: hits, or a message that helps. -/
structure SearchOutcome where
  hits : List SearchHit
  message : Option String

namespace SearchOutcome

/-- The outcome of a search that could not be carried out. -/
def failed (message : String) : SearchOutcome := ⟨[], some message⟩

/-- The complaint about a query without text. -/
def emptyQuery : SearchOutcome :=
  failed "Query is empty; describe the code you are looking for."

/-- What to check when embedding failed. -/
def embeddingFailed (detail : String) : SearchOutcome :=
  failed <| "Search is unavailable because the embedding provider failed (" ++ detail ++
    "). Check that the embedding service is running and reachable, then retry."

/-- What to check when the store failed. -/
def storeFailed (detail : String) : SearchOutcome :=
  failed <| "Search is unavailable because the vector store query failed (" ++ detail ++
    "). Check that Qdrant is reachable and the repository has been indexed, then retry."

end SearchOutcome

namespace SearchHit

/-- Whether a hit is a header chunk itself. -/
def isHeader (hit : SearchHit) : Bool := hit.payload.kind == .header

/-- The hit of a result, if its payload can be read. -/
def ofScored? (point : ScoredPoint) : Option SearchHit :=
  (Payload.ofMap point.payload).toOption.map fun payload =>
    ⟨point.id, point.score, payload, none⟩

/-- The header that a hit below a header refers to. -/
def headerId? (hit : SearchHit) : Option String :=
  if hit.isHeader then none else hit.payload.headerId

/-- The headers that hits refer to, each once, in the order of the hits. -/
def headerIds (hits : List SearchHit) : List String :=
  (hits.filterMap headerId?).eraseDups

/-- The texts of fetched headers. -/
def headerTexts (records : List Record) : Dictionary String :=
  Dictionary.ofList <| records.filterMap fun record =>
    ((record.payload.get? "content").bind Json.string?).map fun text => (record.id, text)

/-- The hit with the text of its header. -/
def withHeader (headers : Dictionary String) (hit : SearchHit) : SearchHit :=
  if hit.isHeader then hit
  else { hit with classContext := hit.payload.headerId.bind headers.get? }

end SearchHit

/-- What carries out searches. -/
structure Retriever (σ γ : Type) where
  settings : SearchSettings
  embedder : Embedder σ
  rephraser : Option (Rephraser γ)

namespace Retriever

variable {σ γ : Type} (retriever : Retriever σ γ)

/-- The phrasings that are searched for. -/
def phrasings (request : SearchRequest) (clocked : Clocked (Services σ γ)) :
    List String × Clocked (Services σ γ) :=
  let query := trimmed request.query
  match retriever.rephraser, request.expand with
  | some rephraser, true =>
    let (phrasings, after) := rephraser.phrasings query ⟨clocked.now, clocked.state.generator⟩
    (phrasings, ⟨after.now, { clocked.state with generator := after.state }⟩)
  | _, _ => ([query], clocked)

/-- The vectors of the composites, or what to check. -/
def embed (composites : List String) (clocked : Clocked (Services σ γ)) :
    Except SearchOutcome (List (List Float32)) × Clocked (Services σ γ) :=
  let request : Request (Services σ γ) (Except ProviderError (List (List Float32))) :=
    fun now services =>
      (retriever.embedder.embedBatch composites now services.embedder).lift fun embedder =>
        { services with embedder }
  match request.runWithin retriever.settings.timeout clocked with
  | (some (.ok vectors), clocked) =>
    if vectors.length == composites.length then (.ok vectors, clocked)
    else (.error (.embeddingFailed "unexpected response"), clocked)
  | (some (.error e), clocked) => (.error (.embeddingFailed e.message), clocked)
  | (none, clocked) => (.error (.embeddingFailed "timed out"), clocked)

/-- The candidate lists for one composite: the points near it in meaning, and those that share
words with it if it has any. -/
def prefetch (filter : Option Filter) (composite : String) (vector : List Float32) :
    List Prefetch :=
  let limit := retriever.settings.prefetchLimit
  let words := SparseVector.ofText composite.toList
  ⟨.dense vector, limit, filter⟩ :: (if words.isEmpty then [] else [⟨.sparse words, limit, filter⟩])

/-- The query for some composites and their vectors. -/
def hybridQuery (request : SearchRequest) (composites : List String)
    (vectors : List (List Float32)) : HybridQuery :=
  ⟨(List.zipWith (retriever.prefetch request.filter?) composites vectors).flatten,
    retriever.settings.resultLimit⟩

/-- Shows the headers that hits refer to. Headers that cannot be fetched are left out. -/
def attachHeaders (store : MemoryStore) (hits : List SearchHit) : List SearchHit :=
  let ids := SearchHit.headerIds hits
  if ids.isEmpty then hits
  else
    match store.retrieve retriever.settings.collection ids with
    | .error _ => hits
    | .ok records => hits.map (SearchHit.withHeader (SearchHit.headerTexts records))

/-- Asks the store. -/
def query (query : HybridQuery) (store : MemoryStore) : SearchOutcome × MemoryStore :=
  match store.query retriever.settings.collection query with
  | (.error e, store) => (.storeFailed e.message, store)
  | (.ok points, store) =>
    (⟨retriever.attachHeaders store (points.filterMap SearchHit.ofScored?), none⟩, store)

/-- Carries out a search. -/
def search (request : SearchRequest) (clocked : Clocked (Services σ γ)) :
    SearchOutcome × Clocked (Services σ γ) :=
  if trimmed request.query == "" then (.emptyQuery, clocked)
  else
    let (phrasings, clocked) := retriever.phrasings request clocked
    let composites := phrasings.map request.composite
    match retriever.embed composites clocked with
    | (.error outcome, clocked) => (outcome, clocked)
    | (.ok vectors, clocked) =>
      let (outcome, store) := retriever.query
        (retriever.hybridQuery request composites vectors) clocked.state.store
      (outcome, { clocked with state := { clocked.state with store } })

end Retriever

/-- The fields of a hit under the names that users know, its score aside. -/
def SearchHit.fields (hit : SearchHit) : List (String × Json) :=
  ("id", .string hit.id) :: (hit.payload.fields ++ [("classContext", .optional hit.classContext)])

/-- The lines that are printed about an outcome: its message, or one for each hit. -/
def SearchOutcome.lines (outcome : SearchOutcome) : List Json :=
  (outcome.message.map fun message => Json.object [("message", .string message)]).toList ++
    outcome.hits.map fun hit => .object (("score", .number (.ofSingle hit.score)) :: hit.fields)

end CodeIndex
