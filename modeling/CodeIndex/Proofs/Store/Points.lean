import CodeIndex.Store.Memory
import Mathlib.Data.List.Nodup

/-!
# What store operations do to points

A run is interested in one thing about a store: which point each collection holds under each
identifier.  This module says what every operation does to that view, `MemoryStore.pointsOf`, and
nothing else about it is used later on.

Uploads are seen as `written`: points written one after the other over those that are there, the
last one of an identifier winning (`get?_written`).  An upload is written completely or not at all
once the collection has room for sparse vectors; `AcceptsSparse` is that condition, in the form in
which it holds of a collection that is yet to be made.

Every operation either keeps all points (`SamePoints`) or makes one change to those of one
collection (`Changes`).  Both carry along what no operation takes away, `Preserves`: it is what
makes the next operation work.

## Main statements

* `Dictionary.get?_filter`, `get?_written`, `get?_purged`: the changes that collections undergo.
* `upsert_cases`, `delete_cases`: what uploads and deletions do.
-/

namespace CodeIndex

/-! ## Dictionaries -/

namespace Dictionary

variable {α : Type}

theorem lookup?_eq_some_iff {key : String} {a : α} {entries : List (String × α)}
    (ascending : entries.Pairwise fun x y => x.1 < y.1) :
    lookup? key entries = some a ↔ (key, a) ∈ entries := by
  induction entries with
  | nil => simp [lookup?]
  | cons head rest ih =>
      obtain ⟨k, b⟩ := head
      rw [List.pairwise_cons] at ascending
      by_cases same : k = key
      · subst same
        -- the entries behind an entry have larger keys
        have absent : (k, a) ∉ rest := fun member =>
          String.lt_irrefl k (ascending.1 (k, a) member)
        simp [lookup?, absent, eq_comm]
      · simp [lookup?, same, Ne.symm same, ih ascending.2]

/-- The entries of a dictionary are what it holds. -/
theorem mem_toList_iff {d : Dictionary α} {key : String} {a : α} :
    (key, a) ∈ d.toList ↔ d.get? key = some a :=
  (lookup?_eq_some_iff d.ascending).symm

theorem nodup_keys (d : Dictionary α) : d.keys.Nodup := by
  refine List.pairwise_map.2 (d.ascending.imp fun {a b} before same => ?_)
  exact String.lt_irrefl b.1 (same ▸ before)

theorem lookup?_filter (keep : String → α → Bool) (key : String) {entries : List (String × α)}
    (ascending : entries.Pairwise fun x y => x.1 < y.1) :
    lookup? key (entries.filter fun entry => keep entry.1 entry.2) =
      (lookup? key entries).filter (keep key) := by
  induction entries with
  | nil => rfl
  | cons head rest ih =>
      obtain ⟨k, a⟩ := head
      rw [List.pairwise_cons] at ascending
      by_cases same : k = key
      · subst same
        -- the entries behind an entry have larger keys, so a dropped entry leaves nothing
        have none : lookup? k (rest.filter fun entry => keep entry.1 entry.2) = none :=
          lookup?_eq_none_of_forall_lt fun x member =>
            ascending.1 x (List.mem_filter.1 member).1
        by_cases kept : keep k a <;> simp [lookup?, Option.filter, kept, none]
      · have rest := ih ascending.2
        by_cases kept : keep k a <;> simp [lookup?, kept, same, rest]

/-- Filtering keeps the answer for a key if and only if it passes the test. -/
@[simp] theorem get?_filter (d : Dictionary α) (keep : String → α → Bool) (key : String) :
    (d.filter keep).get? key = (d.get? key).filter (keep key) :=
  lookup?_filter keep key d.ascending

/-- A dictionary made of entries with different keys holds each of them. -/
theorem get?_ofList_of_mem {entries : List (String × α)} {key : String} {a : α}
    (nodup : (entries.map (·.1)).Nodup) (member : (key, a) ∈ entries) :
    (ofList entries).get? key = some a := by
  have general : ∀ d : Dictionary α,
      (entries.foldl (fun d entry => d.insert entry.1 entry.2) d).get? key = some a := by
    induction entries with
    | nil => cases member
    | cons head rest ih =>
        intro d
        rw [List.map_cons, List.nodup_cons] at nodup
        rcases List.mem_cons.1 member with rfl | member
        · -- no later entry has this key
          have untouched : ∀ d : Dictionary α,
              (rest.foldl (fun d entry => d.insert entry.1 entry.2) d).get? key = d.get? key := by
            have absent := nodup.1
            clear ih nodup member
            induction rest with
            | nil => exact fun d => rfl
            | cons next rest ih =>
                intro d
                rw [List.map_cons, List.mem_cons, not_or] at absent
                rw [List.foldl_cons, ih absent.2, get?_insert, if_neg (Ne.symm absent.1)]
          rw [List.foldl_cons, untouched, get?_insert, if_pos rfl]
        · exact ih nodup.2 member _
  exact general empty

end Dictionary

/-! ## Writing points -/

/-- The points `earlier` with `points` written over them, one after the other. -/
def written (earlier : Dictionary PointData) (points : List Point) : Dictionary PointData :=
  points.foldl (fun held point => held.insert point.id point.toPointData) earlier

/-- What is stored when some points are written where there are none: one point for each identifier,
the last one that has it. -/
def stored (points : List Point) : Dictionary PointData := written Dictionary.empty points

@[simp] theorem written_nil (earlier : Dictionary PointData) : written earlier [] = earlier := rfl

theorem written_append (earlier : Dictionary PointData) (first second : List Point) :
    written earlier (first ++ second) = written (written earlier first) second := by
  simp [written]

/-- **Under an identifier stands the last point that was written with it,** or what stood there. -/
theorem get?_written (earlier : Dictionary PointData) (points : List Point) (id : String) :
    (written earlier points).get? id =
      ((points.reverse.find? (·.id == id)).map (·.toPointData)).or (earlier.get? id) := by
  induction points generalizing earlier with
  | nil => simp
  | cons point points ih =>
      show (written (earlier.insert point.id point.toPointData) points).get? id = _
      rw [ih, List.reverse_cons, List.find?_append]
      cases later : points.reverse.find? (·.id == id) with
      | some last => simp
      | none => by_cases same : point.id = id <;> simp [same]

theorem get?_stored (points : List Point) (id : String) :
    (stored points).get? id = (points.reverse.find? (·.id == id)).map (·.toPointData) := by
  simp [stored, get?_written]

theorem get?_stored_singleton (point : Point) :
    (stored [point]).get? point.id = some point.toPointData := by
  rw [get?_stored, List.reverse_singleton, List.find?_singleton, if_pos (beq_self_eq_true _),
    Option.map_some]

theorem get?_written_eq_or (earlier : Dictionary PointData) (points : List Point) (id : String) :
    (written earlier points).get? id = ((stored points).get? id).or (earlier.get? id) := by
  rw [get?_written, get?_stored]

theorem exists_of_get?_stored {points : List Point} {id : String} {data : PointData}
    (holds : (stored points).get? id = some data) :
    ∃ point ∈ points, point.id = id ∧ point.toPointData = data := by
  rw [get?_stored] at holds
  obtain ⟨point, found, rfl⟩ := Option.map_eq_some_iff.1 holds
  exact ⟨point, List.mem_reverse.1 (List.mem_of_find?_eq_some found),
    by simpa using List.find?_some found, rfl⟩

theorem exists_get?_stored {points : List Point} {point : Point} (member : point ∈ points) :
    ∃ data, (stored points).get? point.id = some data := by
  have found : (points.reverse.find? (·.id == point.id)).isSome := by
    rw [List.find?_isSome]
    exact ⟨point, List.mem_reverse.2 member, by simp⟩
  obtain ⟨last, found⟩ := Option.isSome_iff_exists.1 found
  exact ⟨last.toPointData, by rw [get?_stored, found]; rfl⟩

/-- Points with different identifiers are all stored. -/
theorem get?_stored_of_nodup {points : List Point} (nodup : (points.map (·.id)).Nodup)
    {point : Point} (member : point ∈ points) :
    (stored points).get? point.id = some point.toPointData := by
  obtain ⟨data, holds⟩ := exists_get?_stored member
  obtain ⟨other, listed, same, rfl⟩ := exists_of_get?_stored holds
  rw [holds, List.inj_on_of_nodup_map nodup listed member same]

/-! ## What payloads say -/

namespace PointData

/-- The text that a point's payload holds under a name. -/
def text? (data : PointData) (field : String) : Option String :=
  (data.payload.get? field).bind Json.string?

/-- The repository that a point belongs to. -/
def repository? (data : PointData) : Option String := data.text? "repo"

/-- The file that a point belongs to. -/
def path? (data : PointData) : Option String := data.text? "filePath"

/-- The name of the kind of chunk that a point was made of. -/
def kind? (data : PointData) : Option String := data.text? "chunkType"

/-- The identifier of the header chunk that a point refers to. -/
def headerId? (data : PointData) : Option String := data.text? "headerChunkId"

end PointData

namespace Filter

theorem meets_iff {data : PointData} {field value : String} :
    meets data.payload ⟨field, value⟩ = true ↔ data.text? field = some value := by
  unfold meets PointData.text?
  cases data.payload.get? field with
  | none => simp
  | some json => cases json <;> simp [Json.string?]

theorem accepts_iff_get? {filter : Filter} {payload : Dictionary Json} :
    filter.accepts payload = true ↔
      ∀ condition ∈ filter, payload.get? condition.field = some (.string condition.value) := by
  rw [accepts, List.all_eq_true]
  refine forall₂_congr fun condition _ => ?_
  unfold meets
  split
  · rename_i value there
    simp [there]
  · rename_i other
    simp only [Bool.false_eq_true, false_iff]
    exact fun there => other condition.value there

@[simp] theorem accepts_text {data : PointData} {field value : String} :
    (text field value).accepts data.payload = true ↔ data.text? field = some value := by
  simp [accepts, text, meets_iff]

@[simp] theorem accepts_text_andText {data : PointData} {field value field' value' : String} :
    ((text field value).andText field' value').accepts data.payload = true ↔
      data.text? field = some value ∧ data.text? field' = some value' := by
  simp [accepts, text, andText, meets_iff]

end Filter

/-- The points that none of some filters accepts. -/
def purged (filters : List Filter) (held : Dictionary PointData) : Dictionary PointData :=
  held.filter fun _ data => !filters.any (·.accepts data.payload)

/-- **A purge leaves a point if and only if no filter accepts it.** -/
theorem get?_purged {filters : List Filter} {held : Dictionary PointData} {id : String}
    {data : PointData} :
    (purged filters held).get? id = some data ↔
      held.get? id = some data ∧ ∀ filter ∈ filters, ¬filter.accepts data.payload := by
  rw [purged, Dictionary.get?_filter, Option.filter_eq_some_iff]
  simp

@[simp] theorem purged_nil (held : Dictionary PointData) : purged [] held = held := by
  refine Dictionary.ext_get? fun id => Option.ext fun data => ?_
  rw [get?_purged]
  simp

theorem purged_append (first second : List Filter) (held : Dictionary PointData) :
    purged (first ++ second) held = purged second (purged first held) := by
  refine Dictionary.ext_get? fun id => Option.ext fun data => ?_
  simp only [get?_purged, List.mem_append, or_imp, forall_and, and_assoc]

@[simp] theorem purged_empty (filters : List Filter) :
    purged filters Dictionary.empty = Dictionary.empty := rfl

/-- The points of one repository. -/
def ownedBy (name : String) (held : Dictionary PointData) : Dictionary PointData :=
  held.filter fun _ data => data.repository? == some name

theorem get?_ownedBy {name : String} {held : Dictionary PointData} {id : String}
    {data : PointData} :
    (ownedBy name held).get? id = some data ↔
      held.get? id = some data ∧ data.repository? = some name := by
  rw [ownedBy, Dictionary.get?_filter, Option.filter_eq_some_iff, beq_iff_eq]

/-- Removing points, and writing points of a repository, go on in the repository as they do in the
whole collection. -/
theorem ownedBy_written_purged {name : String} {points : List Point}
    (own : ∀ point ∈ points, point.repository? = some name) (filters : List Filter)
    (held : Dictionary PointData) :
    ownedBy name (written (purged filters held) points) =
      written (purged filters (ownedBy name held)) points := by
  refine Dictionary.ext_get? fun id => Option.ext fun data => ?_
  rw [get?_ownedBy, get?_written_eq_or, get?_written_eq_or, Option.or_eq_some_iff,
    Option.or_eq_some_iff, get?_purged, get?_purged, get?_ownedBy]
  constructor
  · rintro ⟨new | ⟨fresh, there, kept⟩, mine⟩
    · exact .inl new
    · exact .inr ⟨fresh, ⟨there, mine⟩, kept⟩
  · rintro (new | ⟨fresh, ⟨there, mine⟩, kept⟩)
    · obtain ⟨point, member, -, rfl⟩ := exists_of_get?_stored new
      exact ⟨.inl new, own point member⟩
    · exact ⟨.inr ⟨fresh, there, kept⟩, mine⟩

/-- Nothing of a repository is left when all its points are removed. -/
theorem purged_ownedBy (name : String) (held : Dictionary PointData) :
    purged [Filter.text "repo" name] (ownedBy name held) = Dictionary.empty := by
  refine Dictionary.ext_get? fun id => Option.ext fun data => ?_
  rw [get?_purged, get?_ownedBy, Dictionary.get?_empty]
  constructor
  · rintro ⟨⟨-, mine⟩, kept⟩
    exact absurd (Filter.accepts_text.2 mine) (kept _ List.mem_cons_self)
  · rintro ⟨⟩

/-! ## Operations on points -/

namespace MemoryStore

/-- Whether a collection has room for sparse vectors as soon as it is there. -/
def AcceptsSparse (store : MemoryStore) (name : String) : Prop :=
  ∀ collection, store.collections.get? name = some collection → collection.hasSparse = true

theorem pointsOf_eq_empty {store : MemoryStore} {name : String}
    (missing : store.exists? name = false) : store.pointsOf name = Dictionary.empty := by
  have none : store.collections.get? name = none := by
    simpa [exists?, Dictionary.contains] using missing
  simp [pointsOf, none]

/-- What no operation takes away: room for sparse vectors, and collections; nor does any operation
make more uploads fail. -/
structure Preserves (before after : MemoryStore) : Prop where
  acceptsSparse : ∀ name, before.AcceptsSparse name → after.AcceptsSparse name
  stays : ∀ name, before.exists? name = true → after.exists? name = true
  failingUpserts_le : after.failingUpserts ≤ before.failingUpserts

/-- An operation that changes no points. -/
structure SamePoints (before after : MemoryStore) : Prop extends Preserves before after where
  pointsOf_eq : ∀ name, after.pointsOf name = before.pointsOf name

/-- **An operation that changes the points of one collection.** -/
structure Changes (name : String) (change : Dictionary PointData → Dictionary PointData)
    (before after : MemoryStore) : Prop extends Preserves before after where
  here : after.pointsOf name = change (before.pointsOf name)
  elsewhere : ∀ other, other ≠ name → after.pointsOf other = before.pointsOf other

section Preserved

variable {a b c : MemoryStore}

theorem Preserves.refl (store : MemoryStore) : Preserves store store :=
  ⟨fun _ => id, fun _ => id, Nat.le_refl _⟩

theorem Preserves.trans (ab : Preserves a b) (bc : Preserves b c) : Preserves a c :=
  ⟨fun name accepts => bc.acceptsSparse name (ab.acceptsSparse name accepts),
    fun name there => bc.stays name (ab.stays name there),
    Nat.le_trans bc.failingUpserts_le ab.failingUpserts_le⟩

theorem SamePoints.refl (store : MemoryStore) : SamePoints store store :=
  ⟨.refl store, fun _ => rfl⟩

theorem SamePoints.trans (ab : SamePoints a b) (bc : SamePoints b c) : SamePoints a c :=
  ⟨ab.toPreserves.trans bc.toPreserves,
    fun name => (bc.pointsOf_eq name).trans (ab.pointsOf_eq name)⟩

/-- The same collections hold the same points. -/
theorem SamePoints.of_collections_eq (same : b.collections = a.collections)
    (le : b.failingUpserts ≤ a.failingUpserts) : SamePoints a b := by
  refine ⟨⟨fun name accepts => ?_, fun name there => ?_, le⟩, fun name => ?_⟩
  · rw [AcceptsSparse, same]
    exact accepts
  · rw [exists?, same]
    exact there
  · rw [pointsOf, pointsOf, same]

theorem SamePoints.changes (same : SamePoints a b) (name : String) : Changes name id a b :=
  ⟨same.toPreserves, same.pointsOf_eq name, fun other _ => same.pointsOf_eq other⟩

variable {name : String} {f g : Dictionary PointData → Dictionary PointData}

theorem Changes.trans (ab : Changes name f a b) (bc : Changes name g b c) :
    Changes name (g ∘ f) a c :=
  ⟨ab.toPreserves.trans bc.toPreserves, by rw [bc.here, ab.here]; rfl,
    fun other different => (bc.elsewhere other different).trans (ab.elsewhere other different)⟩

theorem SamePoints.trans_changes (ab : SamePoints a b) (bc : Changes name f b c) :
    Changes name f a c :=
  (ab.changes name).trans bc

/-- A change that comes to the same for the points that are there. -/
theorem Changes.congr (ab : Changes name f a b) (same : f (a.pointsOf name) = g (a.pointsOf name)) :
    Changes name g a b :=
  ⟨ab.toPreserves, ab.here.trans same, ab.elsewhere⟩

end Preserved

section Operations

variable {store after : MemoryStore} {name : String}

theorem preserves_put (store : MemoryStore) (name : String) (collection : Collection)
    (sparse : store.AcceptsSparse name → collection.hasSparse = true) :
    Preserves store (store.put name collection) := by
  refine ⟨fun other accepts found there => ?_, fun other there => ?_, Nat.le_refl _⟩
  · by_cases same : name = other
    · subst same
      simp only [put, Dictionary.get?_insert, if_true, Option.some.injEq] at there
      exact there ▸ sparse accepts
    · simp only [put, Dictionary.get?_insert, same, if_false] at there
      exact accepts found there
  · unfold exists? Dictionary.contains put at *
    rw [Dictionary.get?_insert]
    split
    · rfl
    · exact there

/-- Replacing a collection changes its points to those of the new one. -/
theorem changes_put (store : MemoryStore) (name : String) (collection : Collection)
    (sparse : store.AcceptsSparse name → collection.hasSparse = true) :
    Changes name (fun _ => collection.points) store (store.put name collection) := by
  refine ⟨preserves_put store name collection sparse, ?_, fun other different => ?_⟩
  · simp [pointsOf, put]
  · simp [pointsOf, put, Ne.symm different]

theorem samePoints_put (store : MemoryStore) (name : String) (collection : Collection)
    (points : collection.points = store.pointsOf name)
    (sparse : store.AcceptsSparse name → collection.hasSparse = true) :
    SamePoints store (store.put name collection) := by
  have changes := changes_put store name collection sparse
  refine ⟨changes.toPreserves, fun other => ?_⟩
  by_cases same : other = name
  · rw [same, changes.here, points]
  · exact changes.elsewhere other same

theorem samePoints_record (store : MemoryStore) (op : StoreOp) :
    SamePoints store (store.record op) := .of_collections_eq rfl (Nat.le_refl _)

/-- Making sure of a collection with room for sparse vectors works, and changes no points. -/
theorem ensure_cases {result : Except StoreError Unit}
    (made : store.ensure name true = (result, after)) :
    result = .ok () ∧ after.exists? name = true ∧ SamePoints store after := by
  unfold ensure at made
  dsimp only at made
  split at made
  · rename_i collection there
    have there : store.collections.get? name = some collection := there
    obtain ⟨rfl, rfl⟩ := Prod.mk.inj made
    exact ⟨rfl, by simp [exists?, Dictionary.contains, record, there], samePoints_record store _⟩
  · rename_i missing
    have missing : store.collections.get? name = none := missing
    obtain ⟨rfl, rfl⟩ := Prod.mk.inj made
    refine ⟨rfl, by simp [exists?, Dictionary.contains, put], ?_⟩
    refine (samePoints_record store .ensure).trans (samePoints_put _ _ _ ?_ fun _ => rfl)
    simp [pointsOf, record, missing]

/-- Keeping an index for a field works if the collection is there, and changes no points. -/
theorem ensureKeywordIndex_cases {field : String} {result : Except StoreError Unit}
    (made : store.ensureKeywordIndex name field = (result, after)) :
    (store.exists? name = true → result = .ok ()) ∧ SamePoints store after := by
  unfold ensureKeywordIndex at made
  dsimp only at made
  have recorded := samePoints_record store (.keywordIndex field)
  split at made
  · rename_i missing
    have missing : store.collections.get? name = none := missing
    obtain ⟨rfl, rfl⟩ := Prod.mk.inj made
    refine ⟨fun there => ?_, recorded⟩
    simp [exists?, Dictionary.contains, missing] at there
  · rename_i collection there
    have there : store.collections.get? name = some collection := there
    split at made
    · obtain ⟨rfl, rfl⟩ := Prod.mk.inj made
      exact ⟨fun _ => rfl, recorded⟩
    · obtain ⟨rfl, rfl⟩ := Prod.mk.inj made
      refine ⟨fun _ => rfl, recorded.trans (samePoints_put _ _ _ ?_ fun accepts => ?_)⟩
      · simp [pointsOf, record, there]
      · exact accepts collection there

/-- Points that are written one after the other into a collection with room for sparse vectors are
all written. -/
theorem writePoints_eq {collection : Collection} (sparse : collection.hasSparse = true)
    (points : List Point) :
    writePoints collection points =
      (true, { collection with points := written collection.points points }) := by
  induction points generalizing collection with
  | nil => rfl
  | cons point points ih =>
      have room : (point.sparse.isSome && !collection.hasSparse) = false := by simp [sparse]
      rw [writePoints, room]
      exact ih sparse

/-- **An upload into a collection with room for sparse vectors writes all points or none,** and it
writes them if the collection is there and no failure is due. -/
theorem upsert_cases (accepts : store.AcceptsSparse name) {points : List Point}
    {result : Except StoreError Unit} (made : store.upsert name points = (result, after)) :
    (∃ e, result = .error e ∧ SamePoints store after ∧
        (store.failingUpserts ≠ 0 ∨ store.exists? name = false)) ∨
      result = .ok () ∧ Changes name (written · points) store after := by
  unfold upsert at made
  dsimp only at made
  split at made
  · rename_i left due
    obtain ⟨rfl, rfl⟩ := Prod.mk.inj made
    have fewer : left ≤ store.failingUpserts := by omega
    exact .inl ⟨_, rfl, .of_collections_eq rfl fewer, .inl (by omega)⟩
  · have recorded := samePoints_record store (.upsert (points.map (·.id)))
    split at made
    · rename_i missing
      have missing : store.collections.get? name = none := missing
      obtain ⟨rfl, rfl⟩ := Prod.mk.inj made
      exact .inl ⟨_, rfl, recorded, .inr (by simp [exists?, Dictionary.contains, missing])⟩
    · rename_i collection there
      have there : store.collections.get? name = some collection := there
      have sparse := accepts collection there
      rw [writePoints_eq sparse] at made
      obtain ⟨rfl, rfl⟩ := Prod.mk.inj made
      have changes := changes_put (store.record (.upsert (points.map (·.id)))) name
        { collection with points := written collection.points points } fun _ => sparse
      refine .inr ⟨rfl, (recorded.trans_changes changes).congr ?_⟩
      simp [pointsOf, there]

/-- **A deletion removes the points that the filter accepts.** -/
theorem delete_cases {filter : Filter} {result : Except StoreError Unit}
    (made : store.delete name filter = (result, after)) :
    (∃ e, result = .error e ∧ SamePoints store after ∧ filter = []) ∨
      result = .ok () ∧ Changes name (purged [filter]) store after := by
  unfold delete at made
  dsimp only at made
  have recorded := samePoints_record store (.delete filter.describe)
  split at made
  · rename_i empty
    obtain ⟨rfl, rfl⟩ := Prod.mk.inj made
    exact .inl ⟨_, rfl, .refl store, List.isEmpty_iff.1 empty⟩
  · split at made
    · rename_i missing
      have missing : store.collections.get? name = none := missing
      obtain ⟨rfl, rfl⟩ := Prod.mk.inj made
      -- a collection that is not there loses no points
      refine .inr ⟨rfl, (recorded.changes name).congr ?_⟩
      have none : store.pointsOf name = Dictionary.empty := by simp [pointsOf, missing]
      rw [none, purged_empty, id]
    · rename_i collection there
      have there : store.collections.get? name = some collection := there
      obtain ⟨rfl, rfl⟩ := Prod.mk.inj made
      have changes := changes_put (store.record (.delete filter.describe)) name
        { collection with
          points := collection.points.filter fun _ point => !filter.accepts point.payload }
        fun accepts => accepts collection there
      refine .inr ⟨rfl, (recorded.trans_changes changes).congr ?_⟩
      simp [pointsOf, there, purged]

end Operations

end MemoryStore

end CodeIndex
