import CodeIndex.PointId
import CodeIndex.Proofs.Store.Points

/-!
# Repositories in one collection

Repositories share a collection, and only the payload of a point says whose it is.  A run for one
repository makes five kinds of operations (`IsOwn`): it asks for the collection, makes sure of it
and of its indexes, deletes by filters that only its own points pass, and uploads its own points.

Two things are said about each of these operations.  It `LeavesOthers`: a point of somebody else is
overwritten under an identifier that the log of the operation names, or not at all.  And it does not
see others: what it comes to, and what it does, is the same on the store that is left `only` the
points of its own repository.

Nothing is assumed of the store.  In particular the collection may have no room for sparse vectors,
and an upload may stop halfway.

## Main definitions

* `othersThan`: the points of everybody else.
* `MemoryStore.IsOwn`: the operations that a run for one repository makes.
* `MemoryStore.LeavesOthers`, `MemoryStore.only`

## Main statements

* `IsOwn.leavesOthers`: an operation overwrites others at most under identifiers that it logs.
* `IsOwn.only_comm`: an operation does not see others.
-/

namespace CodeIndex

/-! ## Dictionaries -/

namespace Dictionary

variable {α β : Type}

theorem lookup?_map (f : String → α → β) (key : String) (entries : List (String × α)) :
    lookup? key (entries.map fun entry => (entry.1, f entry.1 entry.2)) =
      (lookup? key entries).map (f key) := by
  induction entries with
  | nil => rfl
  | cons head rest ih =>
      obtain ⟨k, a⟩ := head
      by_cases same : k = key
      · subst same
        simp [lookup?]
      · simp [lookup?, same, ih]

@[simp] theorem get?_map (d : Dictionary α) (f : String → α → β) (key : String) :
    (d.map f).get? key = (d.get? key).map (f key) :=
  lookup?_map f key d.entries

end Dictionary

/-! ## Own points and those of others -/

/-- The points of everybody else. -/
def othersThan (name : String) (held : Dictionary PointData) : Dictionary PointData :=
  held.filter fun _ data => data.repository? != some name

variable {name : String} {held : Dictionary PointData}

theorem get?_othersThan {id : String} {data : PointData} :
    (othersThan name held).get? id = some data ↔
      held.get? id = some data ∧ data.repository? ≠ some name := by
  rw [othersThan, Dictionary.get?_filter, Option.filter_eq_some_iff, bne_iff_ne]

/-- Whether a filter accepts points of one repository only. -/
def Filter.IsConfined (filter : Filter) (name : String) : Prop :=
  ∀ data : PointData, filter.accepts data.payload = true → data.repository? = some name

/-- Whether a point is made for a repository: it names it, and its identifier is one of it. -/
structure Point.IsMadeFor (point : Point) (name : String) : Prop where
  repository_eq : point.repository? = some name
  id_eq : ∃ path line, point.id = pointId name path line

/-- Removing points goes on in a repository as it does in the whole collection. -/
theorem ownedBy_filter (keep : PointData → Bool) :
    ownedBy name (held.filter fun _ data => keep data) =
      (ownedBy name held).filter fun _ data => keep data := by
  refine Dictionary.ext_get? fun id => Option.ext fun data => ?_
  simp only [ownedBy, Dictionary.get?_filter, Option.filter_eq_some_iff]
  tauto

/-- A point of a repository that is written into a collection is written into the repository. -/
theorem ownedBy_insert {point : Point} (own : point.repository? = some name) :
    ownedBy name (held.insert point.id point.toPointData) =
      (ownedBy name held).insert point.id point.toPointData := by
  have alone : ∀ other ∈ [point], other.repository? = some name := by simpa using own
  have write := ownedBy_written_purged alone [] held
  rwa [purged_nil, purged_nil] at write

namespace MemoryStore

variable {collection : String} {store before middle after : MemoryStore}

/-! ## Uploads that stop halfway -/

/-- An upload writes some first points, up to one for which there is no room. -/
theorem writePoints_prefix (place : Collection) (points : List Point) :
    ∃ done, done <+: points ∧
      (writePoints place points).2 = { place with points := written place.points done } := by
  induction points generalizing place with
  | nil => exact ⟨[], List.prefix_refl [], rfl⟩
  | cons point points ih =>
      unfold writePoints
      split
      · exact ⟨[], List.nil_prefix, rfl⟩
      · obtain ⟨done, part, same⟩ :=
          ih { place with points := place.points.insert point.id point.toPointData }
        exact ⟨point :: done, (List.prefix_cons_inj point).2 part, same⟩

/-- **An upload writes some first points,** whatever it comes to; one that is made to fail writes
none. -/
theorem upsert_prefix {points : List Point} {result : Except StoreError Unit}
    (made : store.upsert name points = (result, after)) :
    ∃ done, done <+: points ∧ (store.failingUpserts ≠ 0 → done = []) ∧
      Changes name (written · done) store after := by
  unfold upsert at made
  dsimp only at made
  split at made
  · rename_i left due
    obtain ⟨-, rfl⟩ := Prod.mk.inj made
    have fewer : left ≤ store.failingUpserts := by omega
    have same : SamePoints store { store with failingUpserts := left } :=
      .of_collections_eq rfl fewer
    exact ⟨[], List.nil_prefix, fun _ => rfl, (same.changes name).congr rfl⟩
  · rename_i noneDue
    have recorded := samePoints_record store (.upsert (points.map (·.id)))
    split at made
    · obtain ⟨-, rfl⟩ := Prod.mk.inj made
      exact ⟨[], List.nil_prefix, fun _ => rfl, (recorded.changes name).congr rfl⟩
    · rename_i place there
      have there : store.collections.get? name = some place := there
      obtain ⟨done, part, same⟩ := writePoints_prefix place points
      have put : after =
          (store.record (.upsert (points.map (·.id)))).put name (writePoints place points).2 := by
        split at made
        · rename_i written
          obtain ⟨-, rfl⟩ := Prod.mk.inj made
          rw [written]
        · rename_i written
          obtain ⟨-, rfl⟩ := Prod.mk.inj made
          rw [written]
      rw [put, same]
      have changes := changes_put (store.record (.upsert (points.map (·.id)))) name
        { place with points := written place.points done } fun accepts => accepts place there
      refine ⟨done, part, fun due => absurd noneDue due, ?_⟩
      refine (recorded.trans_changes changes).congr ?_
      simp [pointsOf, there]

/-! ## What operations log -/

@[simp] theorem ops_ensure (store : MemoryStore) (name : String) (hasSparse : Bool) :
    (store.ensure name hasSparse).2.ops = store.ops ++ [.ensure] := by
  unfold ensure
  dsimp only
  split <;> rfl

@[simp] theorem ops_ensureKeywordIndex (store : MemoryStore) (name field : String) :
    (store.ensureKeywordIndex name field).2.ops = store.ops ++ [.keywordIndex field] := by
  unfold ensureKeywordIndex
  dsimp only
  split
  · rfl
  · split <;> rfl

/-- A filter without conditions is refused before anything is logged. -/
theorem ops_delete (store : MemoryStore) (name : String) (filter : Filter) :
    (store.delete name filter).2.ops =
      store.ops ++ if filter.isEmpty then [] else [.delete filter.describe] := by
  unfold delete
  split
  · simp
  · dsimp only
    split <;> rfl

/-- So is an upload that is made to fail. -/
theorem ops_upsert (store : MemoryStore) (name : String) (points : List Point) :
    (store.upsert name points).2.ops =
      store.ops ++ if store.failingUpserts = 0 then [.upsert (points.map (·.id))] else [] := by
  unfold upsert
  split
  · rename_i left due
    simp [due]
  · rename_i noneDue
    simp only [noneDue, if_true]
    split
    · rfl
    · split <;> rfl

/-! ## Own operations -/

/-- **The operations that a run for one repository makes.** -/
inductive IsOwn (name collection : String) : (α : Type) → (MemoryStore → Answer α) → Prop
  | lookUp : IsOwn name collection Bool fun store => (.ok (store.exists? collection), store)
  | ensure : IsOwn name collection Unit fun store => store.ensure collection true
  | keywordIndex (field : String) :
      IsOwn name collection Unit fun store => store.ensureKeywordIndex collection field
  | delete (filter : Filter) (confined : filter.IsConfined name) :
      IsOwn name collection Unit fun store => store.delete collection filter
  | upsert (points : List Point) (own : ∀ point ∈ points, point.IsMadeFor name) :
      IsOwn name collection Unit fun store => store.upsert collection points

/-- The identifiers that a log names as uploaded. -/
def uploadedIds (ops : List StoreOp) : List String :=
  ops.flatMap fun
    | .upsert ids => ids
    | _ => []

@[simp] theorem uploadedIds_append (first second : List StoreOp) :
    uploadedIds (first ++ second) = uploadedIds first ++ uploadedIds second :=
  List.flatMap_append

/-- **What a store owes to others while it serves one repository,** and `ops` is what it logs: their
points stay, except under identifiers that are uploaded, and none of theirs appear.  Only
identifiers of the repository are uploaded. -/
structure LeavesOthers (name collection : String) (before : MemoryStore) (ops : List StoreOp)
    (after : MemoryStore) : Prop where
  ops_eq : after.ops = before.ops ++ ops
  own_ids : ∀ id ∈ uploadedIds ops, ∃ path line, id = pointId name path line
  kept : ∀ id ∉ uploadedIds ops, ∀ data, data.repository? ≠ some name →
    (before.pointsOf collection).get? id = some data →
      (after.pointsOf collection).get? id = some data
  genuine : ∀ id data, data.repository? ≠ some name →
    (after.pointsOf collection).get? id = some data →
      (before.pointsOf collection).get? id = some data
  elsewhere : ∀ other, other ≠ collection → after.pointsOf other = before.pointsOf other

namespace LeavesOthers

variable {ops further : List StoreOp}

theorem refl (store : MemoryStore) : LeavesOthers name collection store [] store :=
  ⟨(List.append_nil _).symm, fun _ member => absurd member List.not_mem_nil,
    fun _ _ _ _ => id, fun _ _ _ => id, fun _ _ => rfl⟩

theorem trans (first : LeavesOthers name collection before ops middle)
    (second : LeavesOthers name collection middle further after) :
    LeavesOthers name collection before (ops ++ further) after where
  ops_eq := by rw [second.ops_eq, first.ops_eq, List.append_assoc]
  own_ids id uploaded := by
    rw [uploadedIds_append, List.mem_append] at uploaded
    exact uploaded.elim (first.own_ids id) (second.own_ids id)
  kept id fresh data foreign holds := by
    rw [uploadedIds_append, List.mem_append, not_or] at fresh
    exact second.kept id fresh.2 data foreign (first.kept id fresh.1 data foreign holds)
  genuine id data foreign holds :=
    first.genuine id data foreign (second.genuine id data foreign holds)
  elsewhere other different :=
    (second.elsewhere other different).trans (first.elsewhere other different)

/-- A change leaves others alone if it removes points by confined filters and writes own points
under identifiers that it logs. -/
theorem of_changes (filters : List Filter) (points : List Point)
    (changes : Changes collection (fun held => written (purged filters held) points) before after)
    (ops_eq : after.ops = before.ops ++ ops)
    (own_ids : ∀ id ∈ uploadedIds ops, ∃ path line, id = pointId name path line)
    (confined : ∀ filter ∈ filters, filter.IsConfined name)
    (own : ∀ point ∈ points, point.repository? = some name)
    (logged : ∀ point ∈ points, point.id ∈ uploadedIds ops) :
    LeavesOthers name collection before ops after where
  ops_eq := ops_eq
  own_ids := own_ids
  kept id fresh data foreign holds := by
    rw [changes.here, get?_written_eq_or, Option.or_eq_some_iff]
    refine .inr ⟨?_, get?_purged.2 ⟨holds, fun filter member accepted =>
      foreign (confined filter member data accepted)⟩⟩
    cases new : (stored points).get? id with
    | none => rfl
    | some _ =>
        obtain ⟨point, member, rfl, -⟩ := exists_of_get?_stored new
        exact absurd (logged point member) fresh
  genuine id data foreign holds := by
    rw [changes.here, get?_written_eq_or, Option.or_eq_some_iff] at holds
    rcases holds with new | ⟨-, old⟩
    · obtain ⟨point, member, -, rfl⟩ := exists_of_get?_stored new
      exact absurd (own point member) foreign
    · exact (get?_purged.1 old).1
  elsewhere := changes.elsewhere

/-- An operation that changes no points and uploads none leaves others alone. -/
theorem of_samePoints (same : SamePoints before after) (ops_eq : after.ops = before.ops ++ ops)
    (none : uploadedIds ops = []) : LeavesOthers name collection before ops after where
  ops_eq := ops_eq
  own_ids id uploaded := by
    rw [none] at uploaded
    cases uploaded
  kept _ _ _ _ holds := same.pointsOf_eq collection ▸ holds
  genuine _ _ _ holds := same.pointsOf_eq collection ▸ holds
  elsewhere other _ := same.pointsOf_eq other

/-- **Points of others are as they were** if none of them stood under an uploaded identifier. -/
theorem othersThan_eq (leaves : LeavesOthers name collection before ops after)
    (fresh : ∀ id ∈ uploadedIds ops,
      (othersThan name (before.pointsOf collection)).get? id = none) :
    othersThan name (after.pointsOf collection) = othersThan name (before.pointsOf collection) := by
  refine Dictionary.ext_get? fun id => Option.ext fun data => ?_
  rw [get?_othersThan, get?_othersThan]
  constructor
  · rintro ⟨holds, foreign⟩
    exact ⟨leaves.genuine id data foreign holds, foreign⟩
  · rintro ⟨holds, foreign⟩
    refine ⟨leaves.kept id (fun uploaded => ?_) data foreign holds, foreign⟩
    have none := fresh id uploaded
    rw [get?_othersThan.2 ⟨holds, foreign⟩] at none
    cases none

end LeavesOthers

/-- Deleting by a confined filter leaves others alone. -/
theorem delete_leavesOthers {filter : Filter} (confined : filter.IsConfined name)
    (store : MemoryStore) :
    ∃ ops, LeavesOthers name collection store ops (store.delete collection filter).2 := by
  have log := ops_delete store collection filter
  have none : uploadedIds (if filter.isEmpty then [] else [.delete filter.describe]) = [] := by
    split <;> rfl
  rcases made : store.delete collection filter with ⟨result, after⟩
  rw [made] at log
  rcases delete_cases made with ⟨e, -, same, -⟩ | ⟨-, changes⟩
  · exact ⟨_, .of_samePoints same log none⟩
  · refine ⟨_, .of_changes [filter] [] changes log (fun id uploaded => ?_)
      (by simpa using confined) (by simp) (by simp)⟩
    rw [none] at uploaded
    cases uploaded

/-- Uploading own points leaves others alone, except under the identifiers of these points. -/
theorem upsert_leavesOthers {points : List Point} (own : ∀ point ∈ points, point.IsMadeFor name)
    (store : MemoryStore) :
    ∃ ops, LeavesOthers name collection store ops (store.upsert collection points).2 := by
  have log := ops_upsert store collection points
  rcases made : store.upsert collection points with ⟨result, after⟩
  rw [made] at log
  obtain ⟨done, part, failed, changes⟩ := upsert_prefix made
  refine ⟨_, .of_changes [] done (changes.congr (by simp)) log (fun id uploaded => ?_) (by simp)
    (fun point member => (own point (part.subset member)).repository_eq) fun point member => ?_⟩
  · split at uploaded
    · obtain ⟨point, member, rfl⟩ : ∃ point ∈ points, point.id = id := by
        simpa [uploadedIds] using uploaded
      exact (own point member).id_eq
    · cases uploaded
  · -- a point was written, so no failure was due and the upload is in the log
    have noneDue : store.failingUpserts = 0 := by
      by_contra due
      rw [failed due] at member
      cases member
    rw [if_pos noneDue]
    simpa [uploadedIds] using ⟨point, part.subset member, rfl⟩

/-- **An own operation leaves others alone,** except under identifiers that it logs as uploaded. -/
theorem IsOwn.leavesOthers {α : Type} {operation : MemoryStore → Answer α}
    (own : IsOwn name collection α operation) (store : MemoryStore) :
    ∃ ops, LeavesOthers name collection store ops (operation store).2 := by
  cases own with
  | lookUp => exact ⟨[], .refl store⟩
  | ensure =>
      exact ⟨_, .of_samePoints (ensure_cases rfl).2.2 (ops_ensure store collection true) rfl⟩
  | keywordIndex field =>
      exact ⟨_, .of_samePoints (ensureKeywordIndex_cases rfl).2
        (ops_ensureKeywordIndex store collection field) rfl⟩
  | delete filter confined => exact delete_leavesOthers confined store
  | upsert points own => exact upsert_leavesOthers own store

/-! ## The store without others -/

/-- The collection with the points of one repository only. -/
def restrict (name : String) (place : Collection) : Collection :=
  { place with points := ownedBy name place.points }

/-- **The store that has only the points of one repository** in a collection, and is the same in
everything else. -/
def only (store : MemoryStore) (name collection : String) : MemoryStore :=
  { store with
    collections := store.collections.map fun key place =>
      if key = collection then restrict name place else place }

theorem get?_only (store : MemoryStore) (name collection : String) :
    (store.only name collection).collections.get? collection =
      (store.collections.get? collection).map (restrict name) := by
  simp [only]

theorem pointsOf_only (store : MemoryStore) (name collection : String) :
    (store.only name collection).pointsOf collection =
      ownedBy name (store.pointsOf collection) := by
  unfold pointsOf
  rw [get?_only]
  cases store.collections.get? collection <;> rfl

theorem only_record (store : MemoryStore) (op : StoreOp) :
    (store.record op).only name collection = (store.only name collection).record op := rfl

theorem only_put (store : MemoryStore) (place : Collection) :
    (store.put collection place).only name collection =
      (store.only name collection).put collection (restrict name place) := by
  have same : (store.collections.insert collection place).map
      (fun key place => if key = collection then restrict name place else place) =
        (store.collections.map fun key place =>
          if key = collection then restrict name place else place).insert collection
            (restrict name place) := by
    refine Dictionary.ext_get? fun key => ?_
    by_cases here : collection = key
    · subst here
      simp
    · simp [here]
  unfold only put
  rw [same]

/-- Writing own points goes on in a repository as it does in the whole collection, and stops at the
same point. -/
theorem writePoints_restrict (place : Collection) {points : List Point}
    (own : ∀ point ∈ points, point.repository? = some name) :
    writePoints (restrict name place) points =
      ((writePoints place points).1, restrict name (writePoints place points).2) := by
  induction points generalizing place with
  | nil => rfl
  | cons point points ih =>
      have write : (restrict name place).points.insert point.id point.toPointData =
          ownedBy name (place.points.insert point.id point.toPointData) :=
        (ownedBy_insert (own point List.mem_cons_self)).symm
      have sparse : (restrict name place).hasSparse = place.hasSparse := rfl
      unfold writePoints
      rw [sparse, write]
      split
      · rfl
      · exact ih { place with points := place.points.insert point.id point.toPointData }
          fun other member => own other (List.mem_cons_of_mem _ member)

/-! The collection of the repository is there on both stores or on neither. -/

section Collection

variable {place : Collection}

theorem get?_only_of_none (missing : store.collections.get? collection = none) :
    (store.only name collection).collections.get? collection = none := by
  rw [get?_only, missing]
  rfl

theorem get?_only_of_some (there : store.collections.get? collection = some place) :
    (store.only name collection).collections.get? collection = some (restrict name place) := by
  rw [get?_only, there]
  rfl

end Collection

theorem ensure_only (store : MemoryStore) (hasSparse : Bool) :
    (store.only name collection).ensure collection hasSparse =
      ((store.ensure collection hasSparse).1,
        (store.ensure collection hasSparse).2.only name collection) := by
  unfold ensure
  rw [← only_record]
  dsimp only
  cases there : (store.record .ensure).collections.get? collection with
  | none =>
      rw [get?_only_of_none there, only_put]
      rfl
  | some place => rw [get?_only_of_some there]

theorem ensureKeywordIndex_only (store : MemoryStore) (field : String) :
    (store.only name collection).ensureKeywordIndex collection field =
      ((store.ensureKeywordIndex collection field).1,
        (store.ensureKeywordIndex collection field).2.only name collection) := by
  unfold ensureKeywordIndex
  rw [← only_record]
  dsimp only
  cases there : (store.record (.keywordIndex field)).collections.get? collection with
  | none => rw [get?_only_of_none there]
  | some place =>
      have indexes : (restrict name place).keywordIndexes = place.keywordIndexes := rfl
      rw [get?_only_of_some there]
      dsimp only
      rw [indexes]
      split
      · rfl
      · rw [only_put]
        rfl

theorem delete_only (store : MemoryStore) (filter : Filter) :
    (store.only name collection).delete collection filter =
      ((store.delete collection filter).1,
        (store.delete collection filter).2.only name collection) := by
  unfold delete
  split
  · rfl
  · rw [← only_record]
    dsimp only
    cases there : (store.record (.delete filter.describe)).collections.get? collection with
    | none => rw [get?_only_of_none there]
    | some place =>
        rw [get?_only_of_some there, only_put]
        dsimp only [restrict]
        rw [ownedBy_filter fun point => !filter.accepts point.payload]

theorem upsert_only (store : MemoryStore) {points : List Point}
    (own : ∀ point ∈ points, point.repository? = some name) :
    (store.only name collection).upsert collection points =
      ((store.upsert collection points).1,
        (store.upsert collection points).2.only name collection) := by
  have due : (store.only name collection).failingUpserts = store.failingUpserts := rfl
  unfold upsert
  rw [due]
  split
  · rfl
  · rw [← only_record]
    dsimp only
    cases there : (store.record (.upsert (points.map (·.id)))).collections.get? collection with
    | none => rw [get?_only_of_none there]
    | some place =>
        rw [get?_only_of_some there]
        dsimp only
        rw [writePoints_restrict place own]
        rcases writePoints place points with ⟨complete, place⟩
        cases complete with
        | true => rw [only_put]
        | false => rw [only_put]

/-- **An own operation does not see others:** it comes to the same on the store without them, and
leaves the same store without them. -/
theorem IsOwn.only_comm {α : Type} {operation : MemoryStore → Answer α}
    (own : IsOwn name collection α operation) (store : MemoryStore) :
    operation (store.only name collection) =
      ((operation store).1, (operation store).2.only name collection) := by
  cases own with
  | lookUp => simp [exists?, Dictionary.contains, get?_only]
  | ensure => exact ensure_only store true
  | keywordIndex field => exact ensureKeywordIndex_only store field
  | delete filter confined => exact delete_only store filter
  | upsert points own =>
      exact upsert_only store fun point member => (own point member).repository_eq

end MemoryStore

end CodeIndex
