import CodeIndex.Proofs.Store.Fusion
import Mathlib.Algebra.Order.BigOperators.Group.List
import Mathlib.Algebra.Order.Field.Rat
import Mathlib.Tactic.Linarith
import Mathlib.Tactic.Positivity

/-!
# The reference of a hybrid query

With rational numbers in place of rounded ones, sums of reciprocals are what they are on paper.
What a hybrid query answers then is said without the algorithm: of all that is in some candidate
list, the first ones by the sums of the reciprocals of their ranks, and by their identifiers where
sums are equal.  Whoever has better ranks comes first.  The answer depends on nothing but the
points, neither on the order in which tables are enumerated nor on the sequence of operations that
built a store.

Rounding is the one difference to the query of a store.  Where it keeps the order of the sums, both
answer the same.

## Main definitions

* `Summing.exact`: sums that are not rounded.
* `rankSum`: the sum of reciprocals that an identifier gets.
* `FusedBefore`: the order of the reference.
* `RoundsInOrder`: when rounding does not matter.

## Main statements

* `rankSum_lt_rankSum`: better ranks give larger sums.
* `HybridQuery.answered_by_ranks`
-/

namespace CodeIndex

open Ranking (Outranks rankBy IsScale)

/-- Exact sums. -/
def Summing.exact : Summing ℚ where
  zero := 0
  add x y := x + y
  contribution place := 1 / (60 + (place + 1))
  less x y := x < y

theorem Summing.isSound_exact : exact.IsSound id fun _ => True where
  scale _ _ _ _ := decide_eq_true_iff
  zero := trivial
  add _ _ _ _ := trivial
  contribution _ := trivial

/-- What an identifier gets from one list: the reciprocal of 60 and its rank, counted from one. -/
def rankShare (id : String) (list : List String) : ℚ :=
  if id ∈ list then 1 / (60 + (list.idxOf id + 1)) else 0

/-- **The exact sum of reciprocals** that an identifier gets from several lists. -/
def rankSum (lists : List (List String)) (id : String) : ℚ :=
  (lists.map (rankShare id)).sum

/-- Whether an identifier is fused before another one. -/
def FusedBefore (lists : List (List String)) (a b : String) : Prop :=
  rankSum lists b < rankSum lists a ∨ rankSum lists a = rankSum lists b ∧ a < b

/-- Whether rounding keeps the order of the sums that the listed identifiers get. -/
def RoundsInOrder (lists : List (List String)) : Prop :=
  ∀ a b, (∃ list ∈ lists, a ∈ list) → (∃ list ∈ lists, b ∈ list) →
    (Summing.single.total lists a < Summing.single.total lists b ↔
      rankSum lists a < rankSum lists b)

variable {lists : List (List String)} {a b : String}

theorem total_exact (lists : List (List String)) (id : String) :
    Summing.exact.total lists id = rankSum lists id := by
  have general : ∀ sum : ℚ,
      lists.foldl (Summing.exact.addRank id) sum = sum + rankSum lists id := by
    induction lists with
    | nil => intro sum; simp [rankSum]
    | cons list lists ih =>
        intro sum
        have step : Summing.exact.addRank id sum list = sum + rankShare id list := by
          unfold Summing.addRank rankShare
          split
          · rfl
          · exact (add_zero sum).symm
        rw [List.foldl_cons, ih, step, add_assoc]
        rfl
  exact (general 0).trans (zero_add _)

/-- A better rank gives a larger share. -/
theorem rankShare_lt_rankShare {list : List String} (better : list.idxOf a < list.idxOf b) :
    rankShare b list < rankShare a list := by
  have listed : a ∈ list := List.idxOf_lt_length_iff.1 (better.trans_le List.idxOf_le_length)
  have positive : (0 : ℚ) < 60 + (list.idxOf a + 1) := by positivity
  rw [rankShare, rankShare, if_pos listed]
  split
  · refine one_div_lt_one_div_of_lt positive ?_
    have better : (list.idxOf a : ℚ) < list.idxOf b := Nat.cast_lt.2 better
    linarith
  · exact one_div_pos.2 positive

theorem rankShare_le_rankShare {list : List String} (none_worse : list.idxOf a ≤ list.idxOf b) :
    rankShare b list ≤ rankShare a list := by
  rcases Nat.lt_or_eq_of_le none_worse with better | same
  · exact (rankShare_lt_rankShare better).le
  · have alike : a ∈ list ↔ b ∈ list := by
      rw [← List.idxOf_lt_length_iff, same, List.idxOf_lt_length_iff]
    simp [rankShare, alike, same]

/-- **Better ranks give larger sums:** in no list worse, and in one list better. -/
theorem rankSum_lt_rankSum (none_worse : ∀ list ∈ lists, list.idxOf a ≤ list.idxOf b)
    (better : ∃ list ∈ lists, list.idxOf a < list.idxOf b) :
    rankSum lists b < rankSum lists a := by
  obtain ⟨list, member, better⟩ := better
  exact List.sum_lt_sum _ _ (fun list member => rankShare_le_rankShare (none_worse list member))
    ⟨list, member, rankShare_lt_rankShare better⟩

/-! ## The reference -/

theorem outranks_exact_iff : Outranks Summing.exact.less (a, Summing.exact.total lists a)
    (b, Summing.exact.total lists b) ↔ FusedBefore lists a b := by
  rw [Summing.isSound_exact.scale.outranks_iff trivial trivial, Ranking.placeBy_lt_iff,
    total_exact, total_exact]
  rfl

theorem FusedBefore.not_fusedBefore (before : FusedBefore lists a b) : ¬FusedBefore lists b a := by
  rw [← outranks_exact_iff] at before ⊢
  exact Summing.isSound_exact.scale.not_outranks trivial trivial before

namespace Scoring

variable {σ κ : Type} [LinearOrder κ] {scoring : Scoring σ} {position : σ → κ}
variable {IsNumber : σ → Prop} {order : Enumeration} {points : Dictionary PointData}
variable {asked : HybridQuery}

/-- **What an exact answer is:** the first ones of all that is listed, by the sums of reciprocals of
their ranks. -/
theorem isFirst_exact : IsFirst asked.limit (FusedBefore (scoring.lists order points asked))
    (fun id => ∃ list ∈ scoring.lists order points asked, id ∈ list)
    (scoring.answeredIds .exact order points asked) :=
  (isFirst_answers Summing.isSound_exact).imp fun _ _ _ _ => outranks_exact_iff.1

/-- Where rounding keeps the order of sums, it changes no answer. -/
theorem answeredIds_single_eq (kept : RoundsInOrder (scoring.lists order points asked)) :
    scoring.answeredIds .single order points asked =
      scoring.answeredIds .exact order points asked := by
  have rounded : IsFirst asked.limit (FusedBefore (scoring.lists order points asked))
      (fun id => ∃ list ∈ scoring.lists order points asked, id ∈ list)
      (scoring.answeredIds .single order points asked) := by
    refine (isFirst_answers Summing.isSound_single).imp fun a b listed listed' before => ?_
    rcases before with above | ⟨level, smaller⟩
    · exact .inl ((kept b a listed' listed).1 (of_decide_eq_true above))
    · have level := mt (kept a b listed listed').2 (of_decide_eq_false level)
      exact (not_lt.1 level).lt_or_eq.imp_right fun same => ⟨same.symm, smaller⟩
  exact rounded.unique (fun _ _ _ _ => FusedBefore.not_fusedBefore) isFirst_exact

end Scoring

/-- Stores with the same points answer the same. -/
theorem MemoryStore.query_congr {store store' : MemoryStore} {name : String} {asked : HybridQuery}
    (failing : store.failingQueries = store'.failingQueries)
    (there : store.exists? name = store'.exists? name)
    (same : ∀ id, (store.pointsOf name).get? id = (store'.pointsOf name).get? id) :
    (store.query name asked).1 = (store'.query name asked).1 := by
  have points : store.pointsOf name = store'.pointsOf name := Dictionary.ext_get? same
  unfold query
  rw [← failing]
  cases store.failingQueries with
  | succ left => rfl
  | zero =>
      rw [exists?, exists?, Dictionary.contains, Dictionary.contains] at there
      rw [pointsOf, pointsOf] at points
      cases found : store.collections.get? name with
      | none =>
          cases found' : store'.collections.get? name with
          | none => rfl
          | some collection' => simp [found, found'] at there
      | some collection =>
          cases found' : store'.collections.get? name with
          | none => simp [found, found'] at there
          | some collection' =>
              have points : collection.points = collection'.points := by
                simpa [found, found'] using points
              simp [points]

/-- **A hybrid query answers by ranks alone.**  Scores may be of any kind, as long as numbers among
them are compared as in a linear order; those of a store are in single precision
(`Scoring.isSound_single`).  For every collection and query without NaN scores:

* a candidate list is made of the first ones of the points that pass its filter, by score and
  identifier, as many as its limit allows;
* the answer, each identifier once, is made of the first ones of all that is listed, by the sum of
  the reciprocals of ranks and by identifier, as many as the limit of the query allows;
* whoever is in no list ranked worse than another one, and in some list better, comes before it;
* the answer depends on nothing but the points, and in particular on no order of enumeration;
* rounding sums changes nothing as long as it keeps their order, and the query of a store is this
  algorithm with rounded sums;
* stores with the same points answer the same, whatever was done to build them. -/
theorem HybridQuery.answered_by_ranks {σ κ : Type} [LinearOrder κ] {scoring : Scoring σ}
    {position : σ → κ} {IsNumber : σ → Prop} (sound : scoring.IsSound position IsNumber)
    {points : Dictionary PointData} {asked : HybridQuery}
    (numbers : scoring.HasNumbers IsNumber points asked) (order : Enumeration) :
    (∀ prefetch ∈ asked.prefetch, IsFirst prefetch.limit (scoring.ListsBefore points prefetch)
      (fun id => ∃ score, scoring.Lists points prefetch id score)
      (scoring.candidates order points prefetch)) ∧
    (scoring.answeredIds .exact order points asked).Nodup ∧
    IsFirst asked.limit (FusedBefore (scoring.lists order points asked))
      (fun id => ∃ list ∈ scoring.lists order points asked, id ∈ list)
      (scoring.answeredIds .exact order points asked) ∧
    (∀ a b, (∀ list ∈ scoring.lists order points asked, list.idxOf a ≤ list.idxOf b) →
      (∃ list ∈ scoring.lists order points asked, list.idxOf a < list.idxOf b) →
      b ∈ scoring.answeredIds .exact order points asked →
      a ∈ scoring.answeredIds .exact order points asked ∧
        (scoring.answeredIds .exact order points asked).idxOf a <
          (scoring.answeredIds .exact order points asked).idxOf b) ∧
    (∀ points' order', (∀ id, points'.get? id = points.get? id) →
      scoring.answers .exact order' points' asked = scoring.answers .exact order points asked ∧
      scoring.answers .single order' points' asked = scoring.answers .single order points asked) ∧
    (RoundsInOrder (scoring.lists order points asked) →
      scoring.answeredIds .single order points asked =
        scoring.answeredIds .exact order points asked) ∧
    (∀ (store : MemoryStore) name collection, store.failingQueries = 0 →
      store.collections.get? name = some collection →
      store.query name asked = (.ok ((Scoring.single.answers .single .sorted collection.points
        asked).map fun (id, sum, payload) => ⟨id, sum, payload⟩), store)) ∧
    ∀ (store store' : MemoryStore) name, store.failingQueries = store'.failingQueries →
      store.exists? name = store'.exists? name →
      (∀ id, (store.pointsOf name).get? id = (store'.pointsOf name).get? id) →
      (store.query name asked).1 = (store'.query name asked).1 := by
  refine ⟨fun prefetch member => Scoring.isFirst_candidates sound numbers member,
    Scoring.isFirst_exact.nodup fun _ _ _ _ => FusedBefore.not_fusedBefore,
    Scoring.isFirst_exact, ?dominance, ?contents, Scoring.answeredIds_single_eq, ?store,
    fun _ _ _ => MemoryStore.query_congr⟩
  case dominance =>
    intro a b none_worse better member
    obtain ⟨list, listed, ahead⟩ := better
    have there : a ∈ list := List.idxOf_lt_length_iff.1 (ahead.trans_le List.idxOf_le_length)
    exact Scoring.isFirst_exact.idxOf_lt (fun _ _ _ _ => FusedBefore.not_fusedBefore)
      ⟨list, listed, there⟩ (.inl (rankSum_lt_rankSum none_worse ⟨list, listed, ahead⟩)) member
  case contents =>
    intro points' order' same
    obtain rfl : points' = points := Dictionary.ext_get? same
    exact ⟨Scoring.answers_congr sound Summing.isSound_exact numbers order,
      Scoring.answers_congr sound Summing.isSound_single numbers order⟩
  case store =>
    intro store name collection working found
    rw [MemoryStore.query, working, found, ← MemoryStore.results_eq]

/-- Two points that overlap with one probe, and one of them with another probe as well. -/
def overlapping : Dictionary PointData := Dictionary.ofList
  [("a", ⟨[], some ⟨[1, 2], [2, 1]⟩, Dictionary.empty⟩),
   ("b", ⟨[], some ⟨[1], [1]⟩, Dictionary.empty⟩)]

/-- A query with both probes. -/
def bothProbes : HybridQuery :=
  ⟨[⟨.sparse ⟨[1], [1]⟩, 20, none⟩, ⟨.sparse ⟨[2], [1]⟩, 20, none⟩], 16⟩

theorem hasNumbers_bothProbes :
    Scoring.single.HasNumbers Single.IsNumber overlapping bothProbes := by
  intro prefetch member id point holds _
  have all : ∀ prefetch ∈ bothProbes.prefetch, ∀ entry ∈ overlapping.toList,
      ∀ score ∈ Scoring.single.similarity? prefetch.probe entry.2, Single.IsNumber score :=
    List.forall_iff_forall_mem.1 (by decide +kernel)
  exact all prefetch member (id, point) (Dictionary.mem_toList_iff.2 holds)

theorem lists_bothProbes :
    Scoring.single.lists .sorted overlapping bothProbes = [["a", "b"], ["a"]] := by
  have first : Scoring.single.scores .sorted overlapping ⟨.sparse ⟨[1], [1]⟩, 20, none⟩ =
      [("a", 2), ("b", 1)] := by decide +kernel
  have second : Scoring.single.scores .sorted overlapping ⟨.sparse ⟨[2], [1]⟩, 20, none⟩ =
      [("a", 1)] := by decide +kernel
  have listed := Scoring.candidates_of_pairwise first (by decide +kernel)
  have listed' := Scoring.candidates_of_pairwise second (by decide +kernel)
  rw [Scoring.lists, bothProbes, List.map_cons, List.map_cons, listed, listed']
  rfl

theorem answeredIds_bothProbes :
    Scoring.single.answeredIds .exact .sorted overlapping bothProbes = ["a", "b"] := by
  have collected : Enumeration.sorted.list
      ([["a", "b"], ["a"]].foldl Summing.exact.collect Dictionary.empty) =
      [("a", 2 / 61), ("b", 1 / 62)] := by decide +kernel
  rw [Scoring.answeredIds_eq, lists_bothProbes, Summing.fuse, collected, rankBy,
    List.mergeSort_of_pairwise (by decide +kernel)]
  rfl

/-- Who overlaps with both probes comes first. -/
theorem HybridQuery.answered_by_ranks_bothProbes :
    Scoring.single.HasNumbers Single.IsNumber overlapping bothProbes ∧
      IsFirst 16 (FusedBefore [["a", "b"], ["a"]])
        (fun id => ∃ list ∈ [["a", "b"], ["a"]], id ∈ list) ["a", "b"] := by
  obtain ⟨-, -, first, -⟩ := HybridQuery.answered_by_ranks Scoring.isSound_single
    hasNumbers_bothProbes .sorted
  rw [lists_bothProbes, answeredIds_bothProbes] at first
  exact ⟨hasNumbers_bothProbes, first⟩

end CodeIndex
