import CodeIndex.Proofs.Store.Points
import Mathlib.Data.List.TakeWhile

/-!
# Operations that fail

What depends on a store retries operations that failed, and gives up on a file after some attempts.
Either is safe if an operation that fails has changed nothing.  All operations but one look at
everything that can go wrong before they change a collection.

An upload does not.  It writes its points one after the other and refuses the first one for which
there is no room, and the points before that one stay.  `StopsBehind` says which uploads do this,
and `LeavesPart` that the collection did not hold these points already.  An operation that fails
changes the collections if and only if it leaves a part of an upload (`failed_unchanged_iff`).

## Main definitions

* `StoreCall`, `MemoryStore.perform`: the operations of a store.
* `MemoryStore.StopsBehind`, `MemoryStore.LeavesPart`

## Main statements

* `MemoryStore.writePoints_eq_takeWhile`: what an upload writes.
* `MemoryStore.failed_unchanged_iff`
-/

namespace CodeIndex

/-- What a store can be asked for. -/
inductive StoreCall where
  | ensure (name : String) (hasSparse : Bool)
  | keywordIndex (name field : String)
  | upsert (name : String) (points : List Point)
  | delete (name : String) (filter : Filter)
  | retrieve (name : String) (ids : List String)
  | query (name : String) (asked : HybridQuery)

/-- What a store has to say when it succeeds. -/
inductive StoreReply where
  | done
  | records (records : List Record)
  | results (results : List ScoredPoint)

/-- Whether a collection has room for a point. -/
def Collection.takes (place : Collection) (point : Point) : Bool :=
  !(point.sparse.isSome && !place.hasSparse)

theorem Collection.takes_eq_false_iff {place : Collection} {point : Point} :
    place.takes point = false ↔ point.sparse.isSome = true ∧ place.hasSparse = false := by
  simp [takes]

/-- Without room for sparse vectors, there is room for the points that have none. -/
theorem Collection.takes_iff_of_dense {place : Collection} (dense : place.hasSparse = false)
    {point : Point} : place.takes point = true ↔ point.sparse = none := by
  simp [takes, dense]

/-- Writing an entry changes nothing if and only if it is there already. -/
theorem Dictionary.insert_eq_self_iff {α : Type} {d : Dictionary α} {key : String} {a : α} :
    d.insert key a = d ↔ d.get? key = some a := by
  constructor
  · intro same
    rw [← same, get?_insert, if_pos rfl]
  · intro there
    refine ext_get? fun other => ?_
    rw [get?_insert]
    split
    · rename_i same
      rw [← same, there]
    · rfl

/-- Points that are written change nothing if and only if they are there already. -/
theorem written_eq_self_iff {earlier : Dictionary PointData} {points : List Point} :
    written earlier points = earlier ↔
      ∀ id data, (stored points).get? id = some data → earlier.get? id = some data := by
  constructor
  · intro same id data new
    have there := get?_written_eq_or earlier points id
    rw [same, new] at there
    exact there
  · intro already
    refine Dictionary.ext_get? fun id => ?_
    rw [get?_written_eq_or]
    cases new : (stored points).get? id with
    | none => rfl
    | some data => exact (already id data new).symm

namespace MemoryStore

variable {store after : MemoryStore} {name : String} {e : StoreError}

/-! ## The operations of a store -/

/-- Does what a store is asked for. -/
def perform (store : MemoryStore) : StoreCall → Answer StoreReply
  | .ensure name hasSparse => (store.ensure name hasSparse).map (·.map fun _ => .done) id
  | .keywordIndex name field => (store.ensureKeywordIndex name field).map (·.map fun _ => .done) id
  | .upsert name points => (store.upsert name points).map (·.map fun _ => .done) id
  | .delete name filter => (store.delete name filter).map (·.map fun _ => .done) id
  | .retrieve name ids => ((store.retrieve name ids).map .records, store)
  | .query name asked => (store.query name asked).map (·.map .results) id

/-- What is said of the result of an operation has no part in its failing. -/
theorem of_map_eq_error {α : Type} {reply : α → StoreReply} {answer : Answer α}
    (failed : answer.map (·.map reply) id = (.error e, after)) : answer = (.error e, after) := by
  obtain ⟨result, store⟩ := answer
  obtain ⟨unanswered, rfl⟩ := Prod.mk.inj failed
  cases result with
  | ok a => cases unanswered
  | error e' =>
      cases unanswered
      rfl

/-- Nor has it in its succeeding. -/
theorem of_map_eq_ok {α : Type} {reply : α → StoreReply} {said : StoreReply} {answer : Answer α}
    (succeeded : answer.map (·.map reply) id = (.ok said, after)) :
    ∃ a, answer = (.ok a, after) := by
  obtain ⟨result, store⟩ := answer
  obtain ⟨answered, rfl⟩ := Prod.mk.inj succeeded
  cases result with
  | ok a => exact ⟨a, rfl⟩
  | error e => cases answered

/-! ## Operations that look first -/

theorem ensure_ne_error {hasSparse : Bool} : store.ensure name hasSparse ≠ (.error e, after) := by
  intro failed
  unfold ensure at failed
  dsimp only at failed
  split at failed <;> cases failed

theorem collections_of_failed_keywordIndex {field : String}
    (failed : store.ensureKeywordIndex name field = (.error e, after)) :
    after.collections = store.collections := by
  unfold ensureKeywordIndex at failed
  dsimp only at failed
  split at failed
  · cases failed
    rfl
  · split at failed <;> cases failed

theorem collections_of_failed_delete {filter : Filter}
    (failed : store.delete name filter = (.error e, after)) :
    after.collections = store.collections := by
  unfold delete at failed
  split at failed
  · cases failed
    rfl
  · dsimp only at failed
    split at failed <;> cases failed

theorem collections_of_failed_query {asked : HybridQuery}
    (failed : store.query name asked = (.error e, after)) :
    after.collections = store.collections := by
  unfold query at failed
  split at failed
  · cases failed
    rfl
  · split at failed
    · cases failed
      rfl
    · cases failed

/-! ## Uploads -/

/-- **What an upload writes:** the points before the first one for which there is no room. -/
theorem writePoints_eq_takeWhile (place : Collection) (points : List Point) :
    writePoints place points = (points.all place.takes,
      { place with points := written place.points (points.takeWhile place.takes) }) := by
  induction points generalizing place with
  | nil => rfl
  | cons point points ih =>
      unfold writePoints
      split
      · rename_i full
        have refused : place.takes point = false := by simpa [Collection.takes] using full
        rw [List.all_cons, refused, List.takeWhile_cons_of_neg (by simp [refused])]
        rfl
      · rename_i room
        have taken : place.takes point = true := by
          rw [Collection.takes, eq_false_of_ne_true room]
          rfl
        rw [ih, List.all_cons, taken, List.takeWhile_cons_of_pos taken]
        rfl

/-- **Whether an upload stops behind some points:** it goes into a collection without room for
sparse vectors, and the next point has one. -/
structure StopsBehind (store : MemoryStore) (call : StoreCall) (name : String) (place : Collection)
    (taken : List Point) : Prop where
  upload : ∃ refused rest, refused.sparse.isSome = true ∧
    call = .upsert name (taken ++ refused :: rest)
  taken_dense : ∀ point ∈ taken, point.sparse = none
  none_due : store.failingUpserts = 0
  held : store.collections.get? name = some place
  dense : place.hasSparse = false

/-- **Whether a part of an upload is left:** it stops behind some points, and the collection did not
hold all of them already. -/
def LeavesPart (store : MemoryStore) (call : StoreCall) : Prop :=
  ∃ name place taken, store.StopsBehind call name place taken ∧
    ∃ id data, (stored taken).get? id = some data ∧ place.points.get? id ≠ some data

/-- Who stops behind some points takes these and no more. -/
theorem StopsBehind.takeWhile_eq {points taken : List Point} {place : Collection}
    (stops : store.StopsBehind (.upsert name points) name place taken) :
    points.takeWhile place.takes = taken ∧ points.all place.takes = false := by
  obtain ⟨refused, rest, sparse, same⟩ := stops.upload
  obtain ⟨-, rfl⟩ := StoreCall.upsert.inj same
  have room : ∀ point ∈ taken, place.takes point = true := fun point member =>
    (Collection.takes_iff_of_dense stops.dense).2 (stops.taken_dense point member)
  have full : place.takes refused = false :=
    Collection.takes_eq_false_iff.2 ⟨sparse, stops.dense⟩
  constructor
  · rw [List.takeWhile_append_of_pos room, List.takeWhile_cons_of_neg (by simp [full]),
      List.append_nil]
  · simp [full]

/-- The points for which there is room come before the first one for which there is none. -/
theorem exists_stopsBehind {points : List Point} {place : Collection}
    (none_due : store.failingUpserts = 0) (held : store.collections.get? name = some place)
    (full : points.all place.takes = false) :
    ∃ taken, store.StopsBehind (.upsert name points) name place taken := by
  obtain ⟨refused, found⟩ : ∃ refused, points.find? (fun point => !place.takes point) =
      some refused := by
    rw [← Option.isSome_iff_exists, List.find?_isSome]
    simpa using full
  obtain ⟨noRoom, taken, rest, rfl, room⟩ := List.find?_eq_some_iff_append.1 found
  obtain ⟨sparse, dense⟩ := Collection.takes_eq_false_iff.1 (by simpa using noRoom)
  refine ⟨taken, ⟨refused, rest, sparse, rfl⟩, fun point member => ?_, none_due, held, dense⟩
  exact (Collection.takes_iff_of_dense dense).1 (by simpa using room point member)

/-- An upload that succeeds has written all of its points. -/
theorem collections_of_done_upsert {points : List Point} {done : Unit}
    (succeeded : store.upsert name points = (.ok done, after)) :
    ∃ place, store.collections.get? name = some place ∧
      after.collections = store.collections.insert name
        { place with points := written place.points points } := by
  unfold upsert at succeeded
  dsimp only at succeeded
  split at succeeded
  · cases succeeded
  · split at succeeded
    · cases succeeded
    · rename_i place there
      have held : store.collections.get? name = some place := there
      rw [writePoints_eq_takeWhile] at succeeded
      cases whole : points.all place.takes with
      | false =>
          rw [whole] at succeeded
          cases succeeded
      | true =>
          rw [whole, List.takeWhile_eq_self_iff.2 (by simpa using whole)] at succeeded
          cases succeeded
          exact ⟨place, held, rfl⟩

/-- **An upload that fails has changed nothing, or it has stopped behind some points.**  Then it has
written these. -/
theorem failed_upsert_cases {points : List Point}
    (failed : store.upsert name points = (.error e, after)) :
    (after.collections = store.collections ∧
        ∀ name' place taken, ¬store.StopsBehind (.upsert name points) name' place taken) ∨
      ∃ place taken, store.StopsBehind (.upsert name points) name place taken ∧
        after.collections = store.collections.insert name
          { place with points := written place.points taken } := by
  unfold upsert at failed
  dsimp only at failed
  split at failed
  · rename_i left due
    cases failed
    refine .inl ⟨rfl, fun name' place taken stops => ?_⟩
    rw [stops.none_due] at due
    cases due
  · rename_i none_due
    split at failed
    · rename_i missing
      cases failed
      refine .inl ⟨rfl, fun name' place taken stops => ?_⟩
      obtain ⟨refused, rest, -, same⟩ := stops.upload
      obtain ⟨rfl, -⟩ := StoreCall.upsert.inj same
      have held : store.collections.get? name = none := missing
      rw [stops.held] at held
      cases held
    · rename_i place there
      have held : store.collections.get? name = some place := there
      rw [writePoints_eq_takeWhile] at failed
      cases whole : points.all place.takes with
      | true =>
          rw [whole] at failed
          cases failed
      | false =>
          rw [whole] at failed
          cases failed
          obtain ⟨taken, stops⟩ := exists_stopsBehind none_due held whole
          refine .inr ⟨place, taken, stops, ?_⟩
          rw [stops.takeWhile_eq.1]
          rfl

/-! ## All operations -/

/-- What an upload stops behind is determined. -/
theorem StopsBehind.unique {call : StoreCall} {name' : String} {place place' : Collection}
    {taken taken' : List Point} (stops : store.StopsBehind call name place taken)
    (stops' : store.StopsBehind call name' place' taken') :
    name = name' ∧ place = place' ∧ taken = taken' := by
  obtain ⟨refused, rest, -, rfl⟩ := stops.upload
  obtain ⟨refused', rest', -, same⟩ := stops'.upload
  obtain ⟨rfl, -⟩ := StoreCall.upsert.inj same
  obtain rfl : place = place' := Option.some.inj (stops.held.symm.trans stops'.held)
  exact ⟨rfl, rfl, stops.takeWhile_eq.1.symm.trans stops'.takeWhile_eq.1⟩

/-- An upload that stops behind some points leaves a part if and only if writing these changes the
collections. -/
theorem StopsBehind.unchanged_iff {call : StoreCall} {place : Collection} {taken : List Point}
    (stops : store.StopsBehind call name place taken) :
    store.collections.insert name { place with points := written place.points taken } =
      store.collections ↔ ¬store.LeavesPart call := by
  rw [Dictionary.insert_eq_self_iff, stops.held, Option.some.injEq]
  constructor
  · rintro same ⟨name', place', taken', stops', id, data, new, missing⟩
    obtain ⟨rfl, rfl, rfl⟩ := stops.unique stops'
    have already : written place.points taken = place.points := congrArg (·.points) same.symm
    exact missing (written_eq_self_iff.1 already id data new)
  · intro whole
    have already : written place.points taken = place.points := by
      refine written_eq_self_iff.2 fun id data new => ?_
      by_contra missing
      exact whole ⟨name, place, taken, stops, id, data, new, missing⟩
    rw [already]

/-- An operation that fails has changed no collection, or it is an upload that has stopped behind
some points. -/
theorem failed_cases {call : StoreCall} (failed : store.perform call = (.error e, after)) :
    (after.collections = store.collections ∧
        ∀ name place taken, ¬store.StopsBehind call name place taken) ∨
      ∃ name place taken, store.StopsBehind call name place taken ∧
        after.collections = store.collections.insert name
          { place with points := written place.points taken } := by
  have noUpload (other : ∀ name points, call ≠ .upsert name points) :
      ∀ name place taken, ¬store.StopsBehind call name place taken := by
    intro name place taken stops
    obtain ⟨refused, rest, -, same⟩ := stops.upload
    exact other _ _ same
  cases call with
  | ensure name hasSparse => exact absurd (of_map_eq_error failed) ensure_ne_error
  | keywordIndex name field =>
      exact .inl ⟨collections_of_failed_keywordIndex (of_map_eq_error failed),
        noUpload fun _ _ => nofun⟩
  | delete name filter =>
      exact .inl ⟨collections_of_failed_delete (of_map_eq_error failed), noUpload fun _ _ => nofun⟩
  | query name asked =>
      exact .inl ⟨collections_of_failed_query (of_map_eq_error failed), noUpload fun _ _ => nofun⟩
  | retrieve name ids =>
      obtain ⟨-, rfl⟩ := Prod.mk.inj failed
      exact .inl ⟨rfl, noUpload fun _ _ => nofun⟩
  | upsert name points =>
      obtain whole | ⟨place, taken, stops, changed⟩ := failed_upsert_cases (of_map_eq_error failed)
      · exact .inl whole
      · exact .inr ⟨name, place, taken, stops, changed⟩

/-- **What operations leave.**  When one fails, all collections are as they were, with their points
and their indexes, if and only if no part of an upload is left; an upload that stops behind some
points has written these and nothing else.  An upload that succeeds has written all points. -/
theorem failed_unchanged_iff (store : MemoryStore) (call : StoreCall) :
    (∀ e after, store.perform call = (.error e, after) →
      (after.collections = store.collections ↔ ¬store.LeavesPart call) ∧
        ∀ name place taken, store.StopsBehind call name place taken →
          after.collections = store.collections.insert name
            { place with points := written place.points taken }) ∧
      ∀ name points reply after, call = .upsert name points →
        store.perform call = (.ok reply, after) →
          ∃ place, store.collections.get? name = some place ∧
            after.collections = store.collections.insert name
              { place with points := written place.points points } := by
  constructor
  · intro e after failed
    rcases failed_cases failed with ⟨same, whole⟩ | ⟨name, place, taken, stops, changed⟩
    · constructor
      · refine iff_of_true same ?_
        rintro ⟨name, place, taken, stops, -⟩
        exact whole name place taken stops
      · intro name place taken stops
        exact absurd stops (whole name place taken)
    · constructor
      · rw [changed]
        exact stops.unchanged_iff
      · intro name' place' taken' stops'
        obtain ⟨rfl, rfl, rfl⟩ := stops.unique stops'
        exact changed
  · rintro name points reply after rfl succeeded
    obtain ⟨done, succeeded⟩ := of_map_eq_ok succeeded
    exact collections_of_done_upsert succeeded

/-- A point without a sparse vector. -/
def densePoint : Point := { id := "a", dense := [], sparse := none, payload := Dictionary.empty }

/-- A point with a sparse vector. -/
def sparsePoint : Point :=
  { id := "b", dense := [], sparse := some ⟨[1], [1]⟩, payload := Dictionary.empty }

/-- A store with an empty collection that has no room for sparse vectors. -/
def denseOnly : MemoryStore := (empty.ensure "c" false).2

/-- An upload into it, of which the second point is refused. -/
def halfUpload : StoreCall := .upsert "c" [densePoint, sparsePoint]

theorem stopsBehind_halfUpload : denseOnly.StopsBehind halfUpload "c"
    ⟨false, Dictionary.empty, []⟩ [densePoint] where
  upload := ⟨sparsePoint, [], rfl, rfl⟩
  taken_dense := by simp [densePoint]
  none_due := rfl
  held := rfl
  dense := rfl

/-- The first point stays although the upload has failed. -/
theorem failed_unchanged_iff_halfUpload :
    ∃ after, denseOnly.perform halfUpload =
        (.error (.upsert "collection c has no sparse vector space"), after) ∧
      after.collections ≠ denseOnly.collections ∧
      after.pointsOf "c" = written Dictionary.empty [densePoint] := by
  refine ⟨_, rfl, ?_, rfl⟩
  have left : denseOnly.LeavesPart halfUpload :=
    ⟨"c", _, _, stopsBehind_halfUpload, "a", densePoint.toPointData, rfl, nofun⟩
  have unchanged := ((failed_unchanged_iff denseOnly halfUpload).1 _ _ rfl).1
  exact fun same => unchanged.1 same left

end MemoryStore

end CodeIndex
