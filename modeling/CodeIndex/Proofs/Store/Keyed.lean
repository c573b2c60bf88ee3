import CodeIndex.Proofs.PointId
import CodeIndex.Proofs.Store.Tenancy
import Mathlib.Data.Finset.Card
import Mathlib.Data.Finset.Dedup

/-!
# Collections by key

Every point is stored under the identifier of its key.  `IsKeyed` says so of a collection and of a
set of keys that contains all that were ever used for it; uploads of points with keys and deletions
keep it so.  If the identifiers of these keys differ, then what stands under the identifier of a key
is a point of the file of that key (`IsKeyed.file_eq`).

How many points are added is a matter of identifiers.  Those that the collection does not hold are
added once each, however many points have them (`size_written_of_fresh`).
-/

namespace CodeIndex

/-! ## Counting entries -/

namespace Dictionary

variable {α : Type}

theorem mem_keys_iff {d : Dictionary α} {key : String} : key ∈ d.keys ↔ d.get? key ≠ none := by
  have general : ∀ entries : List (String × α),
      key ∈ entries.map (·.1) ↔ lookup? key entries ≠ none := by
    intro entries
    induction entries with
    | nil => simp [lookup?]
    | cons head rest ih =>
        obtain ⟨k, a⟩ := head
        by_cases same : k = key
        · simp [lookup?, same]
        · simp [lookup?, same, Ne.symm same, ← ih]
  exact general d.entries

theorem size_eq_card (d : Dictionary α) : d.size = d.keys.toFinset.card := by
  rw [List.toFinset_card_of_nodup d.nodup_keys, keys, List.length_map, size]

end Dictionary

/-- The identifiers in use after some points were written are those before and those written. -/
theorem toFinset_keys_written (earlier : Dictionary PointData) (points : List Point) :
    (written earlier points).keys.toFinset =
      earlier.keys.toFinset ∪ (points.map (·.id)).toFinset := by
  ext id
  rw [Finset.mem_union, List.mem_toFinset, List.mem_toFinset, List.mem_toFinset,
    Dictionary.mem_keys_iff, Dictionary.mem_keys_iff, get?_written_eq_or, ne_eq,
    Option.or_eq_none_iff, not_and_or, or_comm]
  refine or_congr_right ?_
  constructor
  · intro there
    obtain ⟨data, holds⟩ := Option.ne_none_iff_exists'.1 there
    obtain ⟨point, member, rfl, -⟩ := exists_of_get?_stored holds
    exact List.mem_map_of_mem member
  · intro listed
    obtain ⟨point, member, rfl⟩ := List.mem_map.1 listed
    obtain ⟨data, holds⟩ := exists_get?_stored member
    exact Option.ne_none_iff_exists'.2 ⟨data, holds⟩

/-- **Points under new identifiers add one point for each identifier.** -/
theorem size_written_of_fresh {earlier : Dictionary PointData} {points : List Point}
    (fresh : ∀ point ∈ points, earlier.get? point.id = none) :
    (written earlier points).size = earlier.size + (points.map (·.id)).dedup.length := by
  have disjoint : Disjoint earlier.keys.toFinset (points.map (·.id)).toFinset := by
    refine Finset.disjoint_left.2 fun id known new => ?_
    rw [List.mem_toFinset, Dictionary.mem_keys_iff] at known
    obtain ⟨point, member, rfl⟩ := List.mem_map.1 (List.mem_toFinset.1 new)
    exact known (fresh point member)
  rw [Dictionary.size_eq_card, toFinset_keys_written, Finset.card_union_of_disjoint disjoint,
    ← Dictionary.size_eq_card, List.card_toFinset]

/-! ## Points under the identifiers of their keys -/

/-- Whether a stored point is where a key says, and of the file of that key. -/
def PointKey.Locates (key : PointKey) (id : String) (data : PointData) : Prop :=
  key.id = id ∧ data.repository? = some key.repository ∧ data.path? = some key.path

/-- **Whether every point of a collection is located by one of some keys.** -/
def IsKeyed (keys : Set PointKey) (held : Dictionary PointData) : Prop :=
  ∀ id data, held.get? id = some data → ∃ key ∈ keys, key.Locates id data

namespace IsKeyed

variable {keys : Set PointKey} {held : Dictionary PointData}

theorem empty (keys : Set PointKey) : IsKeyed keys Dictionary.empty :=
  fun _ _ holds => by cases holds

/-- Writing points that have keys leaves a collection keyed. -/
theorem written (keyed : IsKeyed keys held) {points : List Point}
    (located : ∀ point ∈ points, ∃ key ∈ keys, key.Locates point.id point.toPointData) :
    IsKeyed keys (written held points) := by
  intro id data holds
  rw [get?_written_eq_or, Option.or_eq_some_iff] at holds
  rcases holds with new | ⟨-, old⟩
  · obtain ⟨point, member, rfl, rfl⟩ := exists_of_get?_stored new
    exact located point member
  · exact keyed id data old

/-- Under the identifier of a key stands a point of its file. -/
theorem file_eq (keyed : IsKeyed keys held) (distinct : Set.InjOn PointKey.id keys) {key : PointKey}
    (member : key ∈ keys) {data : PointData} (holds : held.get? key.id = some data) :
    data.repository? = some key.repository ∧ data.path? = some key.path := by
  obtain ⟨other, member', same, file⟩ := keyed key.id data holds
  rwa [distinct member' member same] at file

end IsKeyed

end CodeIndex
