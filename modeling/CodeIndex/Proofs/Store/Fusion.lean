import CodeIndex.Proofs.Number.Order
import CodeIndex.Proofs.Store.Ranking

/-!
# Hybrid queries in any arithmetic

A hybrid query scores points and adds up reciprocals of ranks.  What it does with scores and sums is
to compare them, so that the algorithm is the same whatever they are.  It is written here for
any scores (`Scoring`) and for any sums (`Summing`), and for tables that are enumerated in any order
(`Enumeration`).  In single precision, and with tables enumerated by identifiers, it is the query
of a store (`MemoryStore.results_eq`).  With rational numbers its sums are exact.

Provided that no score is NaN, every candidate list is made of the first ones among the points that
pass its filter, and the answer is made of the first ones among all that are listed.  Neither says
anything of how a table is enumerated, and so nothing of it is seen in the end.

## Main definitions

* `Scoring`, `Summing`, `Enumeration`
* `Scoring.answers`: the algorithm.
* `Scoring.HasNumbers`: no score is NaN.

## Main statements

* `Scoring.isFirst_candidates`: what a candidate list is.
* `Scoring.isFirst_answers`: what an answer is.
* `Scoring.answers_congr`: answers do not depend on how tables are enumerated.
-/

namespace CodeIndex

open Ranking (Outranks rankBy IsScale)

/-! ## Arithmetics -/

/-- A way to enumerate tables: all entries, in whatever order. -/
structure Enumeration where
  list : {α : Type} → Dictionary α → List (String × α)
  perm : ∀ {α : Type} (table : Dictionary α), (list table).Perm table.toList

/-- Tables enumerated by their identifiers. -/
def Enumeration.sorted : Enumeration := ⟨Dictionary.toList, fun _ => .refl _⟩

theorem Enumeration.mem_list_iff (order : Enumeration) {α : Type} {table : Dictionary α}
    {id : String} {a : α} : (id, a) ∈ order.list table ↔ table.get? id = some a :=
  (order.perm table).mem_iff.trans Dictionary.mem_toList_iff

theorem Enumeration.nodup (order : Enumeration) {α : Type} (table : Dictionary α) :
    ((order.list table).map (·.1)).Nodup :=
  ((order.perm table).map _).nodup_iff.2 table.nodup_keys

/-- How points are scored, and how scores are compared. -/
structure Scoring (σ : Type) where
  cosine : List Float32 → List Float32 → σ
  dot : SparseVector → SparseVector → σ
  zero : σ
  isPositive : σ → Bool
  less : σ → σ → Bool

/-- How contributions of ranks, counted from zero, are added up, and how sums are compared. -/
structure Summing (ρ : Type) where
  zero : ρ
  add : ρ → ρ → ρ
  contribution : Nat → ρ
  less : ρ → ρ → Bool

/-- Scores in single precision. -/
def Scoring.single : Scoring Float32 where
  cosine := Ranking.cosine
  dot := SparseVector.dot
  zero := 0
  isPositive score := !(score ≤ 0)
  less x y := x < y

/-- Sums in single precision, rounded at every step. -/
def Summing.single : Summing Float32 where
  zero := 0
  add x y := x + y
  contribution := Ranking.contribution
  less x y := x < y

variable {σ ρ κ μ : Type} [LinearOrder κ] [LinearOrder μ]

/-- **Whether scores are compared by their positions** in a linear order, as far as they are
numbers. -/
structure Scoring.IsSound (scoring : Scoring σ) (position : σ → κ) (IsNumber : σ → Prop) :
    Prop where
  scale : IsScale scoring.less position IsNumber
  positive : ∀ score, IsNumber score → scoring.isPositive score = scoring.less scoring.zero score

/-- **Whether sums are compared by their positions** in a linear order. -/
structure Summing.IsSound (summing : Summing ρ) (position : ρ → κ) (IsNumber : ρ → Prop) :
    Prop where
  scale : IsScale summing.less position IsNumber
  zero : IsNumber summing.zero
  add : ∀ x y, IsNumber x → IsNumber y → IsNumber (summing.add x y)
  contribution : ∀ place, IsNumber (summing.contribution place)

theorem Scoring.isSound_single : single.IsSound Single.position Single.IsNumber where
  scale _ _ number number' := decide_eq_true_iff.trans (Single.lt_iff_position number number')
  positive score number := by
    rw [Bool.eq_iff_iff]
    simpa [single] using number.not_le_zero_iff

theorem Summing.isSound_single : single.IsSound Single.magnitude Single.IsNonneg where
  scale := Ranking.isScale_magnitude
  zero := Single.isNonneg_ofNat 0
  add _ _ nonneg nonneg' := nonneg.add nonneg'
  contribution := Ranking.isNonneg_contribution

/-! ## The algorithm -/

/-- Whether a probe passes over points without overlap. -/
def Probe.isSparse : Probe → Bool
  | .dense _ => false
  | .sparse _ => true

namespace Scoring

variable (scoring : Scoring σ)

/-- The similarity of a point to a probe, if the point has a vector of its kind. -/
def similarity? (probe : Probe) (point : PointData) : Option σ :=
  match probe with
  | .dense vector => some (scoring.cosine vector point.dense)
  | .sparse vector => point.sparse.map fun own => scoring.dot own vector

/-- The score of a point; a sparse probe passes over points without overlap. -/
def score? (probe : Probe) (point : PointData) : Option σ :=
  (scoring.similarity? probe point).filter fun score =>
    !probe.isSparse || scoring.isPositive score

/-- The points that pass the filter of a candidate list, with their scores. -/
def scores (order : Enumeration) (points : Dictionary PointData) (prefetch : Prefetch) :
    List (String × σ) :=
  (order.list points).filterMap fun (id, point) =>
    if (prefetch.filter.getD []).accepts point.payload then
      (scoring.score? prefetch.probe point).map fun score => (id, score)
    else none

/-- One candidate list, best first. -/
def candidates (order : Enumeration) (points : Dictionary PointData) (prefetch : Prefetch) :
    List String :=
  ((rankBy scoring.less (scoring.scores order points prefetch)).take prefetch.limit).map (·.1)

/-- The candidate lists of a query. -/
def lists (order : Enumeration) (points : Dictionary PointData) (asked : HybridQuery) :
    List (List String) :=
  asked.prefetch.map (scoring.candidates order points)

end Scoring

namespace Summing

variable (summing : Summing ρ)

/-- Adds the contribution of a place to what an identifier collected before. -/
def enter (sums : Dictionary ρ) (entry : String × Nat) : Dictionary ρ :=
  sums.insert entry.1
    (summing.add ((sums.get? entry.1).getD summing.zero) (summing.contribution entry.2))

/-- Adds the contributions of one list to what was collected before. -/
def collect (sums : Dictionary ρ) (list : List String) : Dictionary ρ :=
  list.zipIdx.foldl summing.enter sums

/-- The fused ranking of several lists. -/
def fuse (order : Enumeration) (lists : List (List String)) : List (String × ρ) :=
  rankBy summing.less (order.list (lists.foldl summing.collect Dictionary.empty))

end Summing

/-- **What a hybrid query answers:** identifiers with their sums and payloads. -/
def Scoring.answers (scoring : Scoring σ) (summing : Summing ρ) (order : Enumeration)
    (points : Dictionary PointData) (asked : HybridQuery) :
    List (String × ρ × Dictionary Json) :=
  ((summing.fuse order (scoring.lists order points asked)).take asked.limit).filterMap
    fun (id, sum) => (points.get? id).map fun point => (id, sum, point.payload)

/-! ## Single precision -/

theorem Ranking.score?_eq (probe : Probe) (point : PointData) :
    score? probe point = Scoring.single.score? probe point := by
  cases probe with
  | dense vector => rfl
  | sparse vector => rfl

theorem Ranking.scores_eq : scores = Scoring.single.scores .sorted := by
  funext points prefetch
  simp only [scores, score?_eq]
  rfl

theorem Ranking.candidates_eq :
    candidates = Scoring.single.candidates .sorted := by
  funext points prefetch
  rw [candidates, Scoring.candidates, scores_eq, rank_eq]
  rfl

theorem Ranking.fuse_eq : fuse = Summing.single.fuse .sorted := by
  funext lists
  rw [fuse, rank_eq]
  rfl

/-- **The query of a store is the algorithm in single precision,** with tables enumerated by
identifiers. -/
theorem MemoryStore.results_eq (points : Dictionary PointData) (asked : HybridQuery) :
    results points asked = (Scoring.single.answers .single .sorted points asked).map
      fun (id, sum, payload) => ⟨id, sum, payload⟩ := by
  rw [results, Ranking.fuse_eq, Ranking.candidates_eq, Scoring.answers, Scoring.lists,
    List.map_filterMap]
  simp only [Option.map_map]
  rfl

/-! ## Candidate lists -/

namespace Scoring

variable {scoring : Scoring σ} {position : σ → κ} {IsNumber : σ → Prop}
variable {order : Enumeration} {points : Dictionary PointData} {prefetch : Prefetch}
variable {asked : HybridQuery}

/-- **Whether a point is to be listed, with a score:** it passes the filter, and a sparse probe
overlaps with it. -/
def Lists (scoring : Scoring σ) (points : Dictionary PointData) (prefetch : Prefetch) (id : String)
    (score : σ) : Prop :=
  ∃ point, points.get? id = some point ∧ (prefetch.filter.getD []).accepts point.payload = true ∧
    match prefetch.probe with
    | .dense vector => score = scoring.cosine vector point.dense
    | .sparse vector => ∃ own, point.sparse = some own ∧ score = scoring.dot own vector ∧
        scoring.less scoring.zero score = true

/-- Whether one point is to be listed before another one. -/
def ListsBefore (scoring : Scoring σ) (points : Dictionary PointData) (prefetch : Prefetch)
    (a b : String) : Prop :=
  ∃ x y, scoring.Lists points prefetch a x ∧ scoring.Lists points prefetch b y ∧
    Outranks scoring.less (a, x) (b, y)

/-- **Whether no score is NaN,** of those that the candidate lists of a query compare. -/
def HasNumbers (scoring : Scoring σ) (IsNumber : σ → Prop) (points : Dictionary PointData)
    (asked : HybridQuery) : Prop :=
  ∀ prefetch ∈ asked.prefetch, ∀ id point, points.get? id = some point →
    (prefetch.filter.getD []).accepts point.payload = true →
    ∀ score ∈ scoring.similarity? prefetch.probe point, IsNumber score

/-- The score of an entry, if it is among those to be listed. -/
theorem scores_entry {id : String} {point : PointData} {scored : String × σ}
    (found : (if (prefetch.filter.getD []).accepts point.payload then
      (scoring.score? prefetch.probe point).map fun score => (id, score) else none) = some scored) :
    scored.1 = id ∧ (prefetch.filter.getD []).accepts point.payload = true ∧
      scoring.score? prefetch.probe point = some scored.2 := by
  split at found
  · rename_i accepts
    obtain ⟨score, known, rfl⟩ := Option.map_eq_some_iff.1 found
    exact ⟨rfl, accepts, known⟩
  · cases found

theorem mem_scores_iff {id : String} {score : σ} :
    (id, score) ∈ scoring.scores order points prefetch ↔
      ∃ point, points.get? id = some point ∧
        (prefetch.filter.getD []).accepts point.payload = true ∧
        scoring.score? prefetch.probe point = some score := by
  rw [scores, List.mem_filterMap]
  constructor
  · rintro ⟨⟨other, point⟩, member, found⟩
    obtain ⟨rfl, accepts, scored⟩ := scores_entry found
    exact ⟨point, order.mem_list_iff.1 member, accepts, scored⟩
  · rintro ⟨point, holds, accepts, scored⟩
    refine ⟨(id, point), order.mem_list_iff.2 holds, ?_⟩
    dsimp only
    rw [if_pos accepts, scored]
    rfl

theorem nodup_scores : ((scoring.scores order points prefetch).map (·.1)).Nodup := by
  refine List.pairwise_map.2 (List.Pairwise.filterMap _ (fun a b apart a' found b' found' => ?_)
    (List.pairwise_map.1 (order.nodup points)))
  rw [(scores_entry found).1, (scores_entry found').1]
  exact apart

/-- Without NaN, the points that are scored are those that are to be listed. -/
theorem mem_scores_iff_lists (sound : scoring.IsSound position IsNumber)
    (numbers : scoring.HasNumbers IsNumber points asked) (member : prefetch ∈ asked.prefetch)
    {id : String} {score : σ} :
    (id, score) ∈ scoring.scores order points prefetch ↔
      scoring.Lists points prefetch id score := by
  rw [mem_scores_iff, Lists]
  refine exists_congr fun point => and_congr_right fun holds => and_congr_right fun accepts => ?_
  have number := numbers prefetch member id point holds accepts
  rw [score?, Option.filter_eq_some_iff]
  cases probe : prefetch.probe with
  | dense vector => simp [similarity?, Probe.isSparse, eq_comm]
  | sparse vector =>
      rw [probe] at number
      constructor
      · rintro ⟨known, positive⟩
        obtain ⟨own, has, rfl⟩ := Option.map_eq_some_iff.1 known
        exact ⟨own, has, rfl, (sound.positive _ (number _ known)).symm.trans positive⟩
      · rintro ⟨own, has, rfl, positive⟩
        have known : scoring.similarity? (.sparse vector) point =
            some (scoring.dot own vector) := by
          rw [similarity?, has]
          rfl
        exact ⟨known, (sound.positive _ (number _ known)).trans positive⟩

/-- Scores of what is to be listed are numbers. -/
theorem HasNumbers.isNumber_scores (numbers : scoring.HasNumbers IsNumber points asked)
    (member : prefetch ∈ asked.prefetch) :
    ∀ scored ∈ scoring.scores order points prefetch, IsNumber scored.2 := by
  rintro ⟨id, score⟩ listed
  obtain ⟨point, holds, accepts, scored⟩ := mem_scores_iff.1 listed
  exact numbers prefetch member id point holds accepts score (Option.filter_eq_some_iff.1 scored).1

/-- **What a candidate list is:** the first ones of those that are to be listed. -/
theorem isFirst_candidates (sound : scoring.IsSound position IsNumber)
    (numbers : scoring.HasNumbers IsNumber points asked) (member : prefetch ∈ asked.prefetch) :
    IsFirst prefetch.limit (scoring.ListsBefore points prefetch)
      (fun id => ∃ score, scoring.Lists points prefetch id score)
      (scoring.candidates order points prefetch) := by
  refine (sound.scale.isFirst_rankBy (numbers.isNumber_scores member) nodup_scores
    prefetch.limit).map (fun id => ?_) fun a b listed listed' before => ?_
  · constructor
    · rintro ⟨score, lists⟩
      exact ⟨(id, score), (mem_scores_iff_lists sound numbers member).2 lists, rfl⟩
    · rintro ⟨⟨other, score⟩, listed, rfl⟩
      exact ⟨score, (mem_scores_iff_lists sound numbers member).1 listed⟩
  · exact ⟨a.2, b.2, (mem_scores_iff_lists sound numbers member).1 listed,
      (mem_scores_iff_lists sound numbers member).1 listed', before⟩

/-- Points that are enumerated in the order of their scores are listed in that order. -/
theorem candidates_of_pairwise {scored : List (String × σ)}
    (known : scoring.scores order points prefetch = scored)
    (ordered : scored.Pairwise fun a b => Ranking.ranksBeforeBy scoring.less a b = true) :
    scoring.candidates order points prefetch = (scored.take prefetch.limit).map (·.1) := by
  rw [candidates, known, rankBy, List.mergeSort_of_pairwise ordered]

theorem nodup_candidates : (scoring.candidates order points prefetch).Nodup := by
  rw [candidates, List.map_take]
  refine List.Nodup.sublist (List.take_sublist _ _) ?_
  exact ((Ranking.perm_rankBy _ _).map _).nodup_iff.2 nodup_scores

theorem exists_of_mem_candidates {id : String}
    (member : id ∈ scoring.candidates order points prefetch) :
    ∃ point, points.get? id = some point := by
  obtain ⟨⟨other, score⟩, listed, rfl⟩ := List.mem_map.1 member
  obtain ⟨point, holds, -⟩ := mem_scores_iff.1
    ((Ranking.perm_rankBy _ _).mem_iff.1 (List.mem_of_mem_take listed))
  exact ⟨point, holds⟩

/-- Candidate lists do not depend on how points are enumerated. -/
theorem candidates_congr (sound : scoring.IsSound position IsNumber)
    (numbers : scoring.HasNumbers IsNumber points asked) (member : prefetch ∈ asked.prefetch)
    (order' : Enumeration) :
    scoring.candidates order points prefetch = scoring.candidates order' points prefetch := by
  have perm : (scoring.scores order points prefetch).Perm
      (scoring.scores order' points prefetch) :=
    ((order.perm points).trans (order'.perm points).symm).filterMap _
  rw [candidates, candidates,
    sound.scale.rankBy_eq_of_perm (numbers.isNumber_scores member) nodup_scores perm]

end Scoring

/-! ## Sums -/

namespace Summing

variable {summing : Summing ρ} {position : ρ → μ} {IsNumber : ρ → Prop}
variable {lists : List (List String)} {list : List String} {id : String}

/-- What is added to a sum for the rank in one list. -/
def addRank (summing : Summing ρ) (id : String) (sum : ρ) (list : List String) : ρ :=
  if id ∈ list then summing.add sum (summing.contribution (list.idxOf id)) else sum

/-- The sum over several lists, one list after the other. -/
def total (summing : Summing ρ) (lists : List (List String)) (id : String) : ρ :=
  lists.foldl (summing.addRank id) summing.zero

theorem addRank_of_notMem (missing : id ∉ list) (sum : ρ) : summing.addRank id sum list = sum :=
  if_neg missing

theorem foldl_addRank_of_notMem (missing : ¬∃ list ∈ lists, id ∈ list) (sum : ρ) :
    lists.foldl (summing.addRank id) sum = sum := by
  induction lists with
  | nil => rfl
  | cons list lists ih =>
      rw [List.foldl_cons, addRank_of_notMem fun there => missing ⟨list, List.mem_cons_self, there⟩]
      refine ih fun later => ?_
      obtain ⟨other, member, there⟩ := later
      exact missing ⟨other, List.mem_cons_of_mem _ member, there⟩

/-- What a run over the entries of one list leaves under an identifier. -/
theorem get?_foldl_enter (start : Nat) (sums : Dictionary ρ) (nodup : list.Nodup) :
    ((list.zipIdx start).foldl summing.enter sums).get? id =
      if id ∈ list then
        some (summing.add ((sums.get? id).getD summing.zero)
          (summing.contribution (start + list.idxOf id)))
      else sums.get? id := by
  induction list generalizing start sums with
  | nil => rfl
  | cons first list ih =>
      obtain ⟨fresh, nodup⟩ := List.nodup_cons.1 nodup
      rw [List.zipIdx_cons, List.foldl_cons, ih (start + 1) _ nodup, enter, Dictionary.get?_insert]
      by_cases same : first = id
      · subst same
        simp [fresh]
      · simp [same, Ne.symm same, List.idxOf_cons_ne _ same, Nat.add_assoc, Nat.add_comm 1]

theorem get?_collect (sums : Dictionary ρ) (nodup : list.Nodup) :
    (summing.collect sums list).get? id =
      if id ∈ list then some (summing.addRank id ((sums.get? id).getD summing.zero) list)
      else sums.get? id := by
  rw [collect, get?_foldl_enter 0 sums nodup, addRank, Nat.zero_add]
  split <;> rfl

/-- What a run over all lists leaves under an identifier. -/
theorem get?_foldl_collect (sums : Dictionary ρ) (nodup : ∀ list ∈ lists, list.Nodup) :
    (lists.foldl summing.collect sums).get? id =
      if ∃ list ∈ lists, id ∈ list then
        some (lists.foldl (summing.addRank id) ((sums.get? id).getD summing.zero))
      else sums.get? id := by
  induction lists generalizing sums with
  | nil => simp
  | cons list lists ih =>
      have later := ih (summing.collect sums list) fun other member =>
        nodup other (List.mem_cons_of_mem _ member)
      rw [List.foldl_cons, later, get?_collect sums (nodup list List.mem_cons_self),
        List.foldl_cons]
      by_cases there : id ∈ list
      · by_cases again : ∃ list ∈ lists, id ∈ list
        · simp [there, again]
        · simp [there, again, foldl_addRank_of_notMem again]
      · simp [there, addRank_of_notMem there]

/-- **What is collected:** all that is listed, each identifier with its sum. -/
theorem mem_collected_iff {order : Enumeration} (nodup : ∀ list ∈ lists, list.Nodup) {sum : ρ} :
    (id, sum) ∈ order.list (lists.foldl summing.collect Dictionary.empty) ↔
      (∃ list ∈ lists, id ∈ list) ∧ summing.total lists id = sum := by
  rw [order.mem_list_iff, get?_foldl_collect _ nodup]
  split
  · rename_i listed
    exact ⟨fun same => ⟨listed, Option.some.inj same⟩, fun same => congrArg some same.2⟩
  · rename_i missing
    exact ⟨fun same => (by cases same), fun same => absurd same.1 missing⟩

namespace IsSound

variable (sound : summing.IsSound position IsNumber)

include sound

theorem isNumber_total : IsNumber (summing.total lists id) := by
  have general : ∀ sum, IsNumber sum → IsNumber (lists.foldl (summing.addRank id) sum) := by
    induction lists with
    | nil => exact fun _ number => number
    | cons list lists ih =>
        refine fun sum number => ih _ ?_
        unfold addRank
        split
        · exact sound.add _ _ number (sound.contribution _)
        · exact number
  exact general _ sound.zero

theorem isNumber_collected (order : Enumeration) (nodup : ∀ list ∈ lists, list.Nodup) :
    ∀ summed ∈ order.list (lists.foldl summing.collect Dictionary.empty), IsNumber summed.2 := by
  rintro ⟨id, sum⟩ member
  obtain ⟨-, rfl⟩ := (mem_collected_iff nodup).1 member
  exact sound.isNumber_total

/-- **What is cut off a fused ranking:** the first ones of all that is listed, by their sums. -/
theorem isFirst_fuse (order : Enumeration) (nodup : ∀ list ∈ lists, list.Nodup) (limit : Nat) :
    IsFirst limit
      (fun a b => Outranks summing.less (a, summing.total lists a) (b, summing.total lists b))
      (fun id => ∃ list ∈ lists, id ∈ list)
      (((summing.fuse order lists).take limit).map (·.1)) := by
  refine (sound.scale.isFirst_rankBy (sound.isNumber_collected order nodup) (order.nodup _)
    limit).map (fun id => ?_) ?_
  · constructor
    · intro listed
      exact ⟨(id, summing.total lists id), (mem_collected_iff nodup).2 ⟨listed, rfl⟩, rfl⟩
    · rintro ⟨⟨other, sum⟩, member, rfl⟩
      exact ((mem_collected_iff nodup).1 member).1
  · rintro ⟨a, sum⟩ ⟨b, sum'⟩ member member' before
    obtain ⟨-, rfl⟩ := (mem_collected_iff nodup).1 member
    obtain ⟨-, rfl⟩ := (mem_collected_iff nodup).1 member'
    exact before

theorem fuse_congr (order order' : Enumeration) (nodup : ∀ list ∈ lists, list.Nodup) :
    summing.fuse order lists = summing.fuse order' lists :=
  sound.scale.rankBy_eq_of_perm (sound.isNumber_collected order nodup) (order.nodup _)
    ((order.perm _).trans (order'.perm _).symm)

end IsSound

end Summing

/-! ## Answers -/

namespace Scoring

variable {scoring : Scoring σ} {position : σ → κ} {IsNumber : σ → Prop}
variable {summing : Summing ρ} {position' : ρ → μ} {IsNumber' : ρ → Prop}
variable {order : Enumeration} {points : Dictionary PointData} {asked : HybridQuery}

/-- The identifiers that a query answers. -/
def answeredIds (scoring : Scoring σ) (summing : Summing ρ) (order : Enumeration)
    (points : Dictionary PointData) (asked : HybridQuery) : List String :=
  (scoring.answers summing order points asked).map (·.1)

theorem nodup_lists : ∀ list ∈ scoring.lists order points asked, list.Nodup := by
  intro list member
  obtain ⟨prefetch, -, rfl⟩ := List.mem_map.1 member
  exact nodup_candidates

/-- All that is fused is found. -/
theorem answeredIds_eq : scoring.answeredIds summing order points asked =
    ((summing.fuse order (scoring.lists order points asked)).take asked.limit).map (·.1) := by
  have found : ∀ summed ∈ summing.fuse order (scoring.lists order points asked),
      ∃ point, points.get? summed.1 = some point := by
    rintro ⟨id, sum⟩ member
    obtain ⟨⟨list, listed, there⟩, -⟩ := (Summing.mem_collected_iff nodup_lists).1
      ((Ranking.perm_rankBy _ _).mem_iff.1 member)
    obtain ⟨prefetch, -, rfl⟩ := List.mem_map.1 listed
    exact exists_of_mem_candidates there
  rw [answeredIds, answers, List.map_filterMap]
  refine (List.filterMap_congr fun summed member => ?_).trans (congrFun List.filterMap_eq_map _)
  obtain ⟨point, holds⟩ := found summed (List.mem_of_mem_take member)
  simp [holds]

/-- **What an answer is:** the first ones of all that is listed, by their sums. -/
theorem isFirst_answers (sound : summing.IsSound position' IsNumber') :
    IsFirst asked.limit
      (fun a b => Outranks summing.less (a, summing.total (scoring.lists order points asked) a)
        (b, summing.total (scoring.lists order points asked) b))
      (fun id => ∃ list ∈ scoring.lists order points asked, id ∈ list)
      (scoring.answeredIds summing order points asked) := by
  rw [answeredIds_eq]
  exact sound.isFirst_fuse order nodup_lists asked.limit

theorem lists_congr (sound : scoring.IsSound position IsNumber)
    (numbers : scoring.HasNumbers IsNumber points asked) (order' : Enumeration) :
    scoring.lists order points asked = scoring.lists order' points asked :=
  List.map_congr_left fun _ member => candidates_congr sound numbers member order'

/-- **Answers do not depend on how tables are enumerated.** -/
theorem answers_congr (sound : scoring.IsSound position IsNumber)
    (sound' : summing.IsSound position' IsNumber')
    (numbers : scoring.HasNumbers IsNumber points asked) (order' : Enumeration) :
    scoring.answers summing order points asked = scoring.answers summing order' points asked := by
  have fused : summing.fuse order (scoring.lists order points asked) =
      summing.fuse order' (scoring.lists order' points asked) := by
    rw [lists_congr sound numbers order']
    exact sound'.fuse_congr order order' nodup_lists
  rw [answers, fused, answers]

end Scoring

end CodeIndex
