import CodeIndex.Proofs.Sparse.Frequencies
import CodeIndex.Proofs.Store.Fusion
import Mathlib.Algebra.BigOperators.Ring.Finset
import Mathlib.Algebra.Order.BigOperators.Group.Finset
import Mathlib.Data.FinEnum

/-!
# Overlap of sparse vectors

The overlap of two vectors is the sum of the products of their weights at common indices.  It is
found in one pass with a place in each vector: the smaller of the two indices is passed over, and at
equal ones the product is added.  That no common index is passed over depends on indices that ascend
(`common_cons`), and that there is a weight at each of them on as many weights as indices
(`IsSorted.exists_drop`).

Then the pass ends, is never out of bounds, and adds up the products at common indices from left to
right (`scan_eq`).  This is said of weights in any arithmetic.  In an exact one the result is a sum
over the common indices, and in single precision it is the overlap of the store, with every rounding
in its place.

Texts overlap if and only if they share the hash of a token.  In single precision this is not a
matter of exact sums: counts and their products are at least one, and so is what they add up to,
even if it is rounded.

## Main definitions

* `Weights.scan`: the pass over two vectors.
* `Weights.common`: the weights at common indices.
* `Token.SharesHash`: two texts share the hash of a token.

## Main statements

* `Weights.common_cons`: what one step of the pass finds.
* `Weights.scan_eq`, `SparseVector.dotFrom_eq`: what the pass adds up.
* `Weights.sum_common_eq`: the sum over common indices.
* `SparseVector.dot_ofText_pos_iff`: texts overlap if they share the hash of a token.
* `Ranking.mem_scores_point_iff`: which points of a store are candidates.
* `SparseVector.overlap_exact`
-/

namespace CodeIndex

open Token (tokenize occurrences)

variable {ν μ : Type} {x y index : UInt32} {u v : ν} {a b : List (UInt32 × ν)}

/-! ## Common indices -/

namespace Weights

/-- **The weights at common indices,** in the order of the first vector. -/
def common (a b : List (UInt32 × ν)) : List (ν × ν) :=
  a.filterMap fun entry => (b.lookup entry.1).map fun weight => (entry.2, weight)

/-- The sum, added to `sum` one by one, of products. -/
def addProducts [Add ν] [Mul ν] (sum : ν) (pairs : List (ν × ν)) : ν :=
  (pairs.map fun pair => pair.1 * pair.2).foldl (· + ·) sum

theorem common_nil (a : List (UInt32 × ν)) : common a [] = [] :=
  List.filterMap_eq_nil_iff.2 fun _ _ => rfl

/-- An index below those of the second vector is passed over. -/
theorem common_cons_of_lt (below : ∀ entry ∈ b, x < entry.1) :
    common ((x, u) :: a) b = common a b :=
  List.filterMap_cons_none (by rw [Table.lookup_eq_none_of_forall_lt below]; rfl)

/-- An index below those of the first vector is passed over. -/
theorem common_cons_right (below : ∀ entry ∈ a, y < entry.1) :
    common a ((y, v) :: b) = common a b := by
  refine List.filterMap_congr fun entry mem => ?_
  rw [Table.lookup_cons, if_neg (UInt32.ne_of_lt (below entry mem)).symm]

/-- Equal indices are common. -/
theorem common_cons_cons (below : ∀ entry ∈ a, x < entry.1) :
    common ((x, u) :: a) ((x, v) :: b) = (u, v) :: common a b := by
  have found : ((x, v) :: b).lookup x = some v := by rw [Table.lookup_cons, if_pos rfl]
  rw [← common_cons_right (v := v) (b := b) below]
  exact List.filterMap_cons_some (by rw [found]; rfl)

/-- **Of two first entries, the one with the smaller index is passed over,** and equal indices are
common. -/
theorem common_cons (ascending : ((x, u) :: a).Pairwise fun e e' => e.1 < e'.1)
    (ascending' : ((y, v) :: b).Pairwise fun e e' => e.1 < e'.1) :
    common ((x, u) :: a) ((y, v) :: b) =
      if x < y then common a ((y, v) :: b)
      else if y < x then common ((x, u) :: a) b
      else (u, v) :: common a b := by
  obtain ⟨below, -⟩ := List.pairwise_cons.1 ascending
  obtain ⟨below', -⟩ := List.pairwise_cons.1 ascending'
  split
  · rename_i less
    refine common_cons_of_lt fun entry mem => ?_
    rcases List.mem_cons.1 mem with rfl | mem
    · exact less
    · exact UInt32.lt_trans less (below' entry mem)
  · split
    · rename_i less
      refine common_cons_right fun entry mem => ?_
      rcases List.mem_cons.1 mem with rfl | mem
      · exact less
      · exact UInt32.lt_trans less (below entry mem)
    · rename_i notLess notLess'
      obtain rfl : x = y := UInt32.le_antisymm (UInt32.not_lt.1 notLess')
        (UInt32.not_lt.1 notLess)
      exact common_cons_cons below

theorem common_map (f : ν → μ) (a b : List (UInt32 × ν)) :
    common (a.map fun entry => (entry.1, f entry.2)) (b.map fun entry => (entry.1, f entry.2)) =
      (common a b).map fun pair => (f pair.1, f pair.2) := by
  unfold common
  rw [List.filterMap_map, List.map_filterMap]
  refine List.filterMap_congr fun entry _ => ?_
  show Option.map _ (List.lookup entry.1 _) = _
  rw [Table.lookup_map]
  cases b.lookup entry.1 <;> rfl

/-! ## The pass -/

/-- **The pass over two vectors,** from the places `i` and `j` on.  There is no result if it reads
what is not there. -/
def scanFrom [Add ν] [Mul ν] (v w : Weights ν) (i j : ℕ) (sum : ν) : Option ν :=
  if _inside : i < v.indices.length ∧ j < w.indices.length then do
    let x ← v.indices[i]?
    let y ← w.indices[j]?
    if x < y then scanFrom v w (i + 1) j sum
    else if y < x then scanFrom v w i (j + 1) sum
    else
      let first ← v.values[i]?
      let second ← w.values[j]?
      scanFrom v w (i + 1) (j + 1) (sum + first * second)
  else some sum
termination_by (v.indices.length - i) + (w.indices.length - j)

/-- The overlap of two vectors, as it is found in one pass. -/
def scan [Zero ν] [Add ν] [Mul ν] (v w : Weights ν) : Option ν := scanFrom v w 0 0 0

variable {w w' : Weights ν} {i j : ℕ}

theorem IsSorted.length_entries (sorted : w.IsSorted) : w.entries.length = w.indices.length := by
  unfold entries
  rw [List.length_zip, sorted.sameLength, min_self]

theorem IsSorted.map_entries (sorted : w.IsSorted) : w.entries.map (·.1) = w.indices :=
  List.map_fst_zip sorted.sameLength.ge

theorem IsSorted.pairwise (sorted : w.IsSorted) : w.entries.Pairwise fun e e' => e.1 < e'.1 := by
  have ascending := sorted.ascending
  rw [← sorted.map_entries] at ascending
  exact List.pairwise_map.1 ascending

theorem IsSorted.pairwise_drop (sorted : w.IsSorted) (i : ℕ) :
    (w.entries.drop i).Pairwise fun e e' => e.1 < e'.1 :=
  sorted.pairwise.drop

/-- Where there is an index, there is a weight. -/
theorem IsSorted.exists_drop (sorted : w.IsSorted) (inside : i < w.indices.length) :
    ∃ x u, w.indices[i]? = some x ∧ w.values[i]? = some u ∧
      w.entries.drop i = (x, u) :: w.entries.drop (i + 1) := by
  have inside' : i < w.values.length := by rwa [sorted.sameLength]
  have inside'' : i < w.entries.length := by rwa [sorted.length_entries]
  refine ⟨w.indices[i], w.values[i], List.getElem?_eq_getElem inside,
    List.getElem?_eq_getElem inside', ?_⟩
  rw [List.drop_eq_getElem_cons inside'']
  congr 1
  exact List.getElem_zip

/-- **The pass adds up the products at common indices,** from left to right. -/
theorem scanFrom_eq [Add ν] [Mul ν] (sorted : w.IsSorted) (sorted' : w'.IsSorted) (i j : ℕ)
    (sum : ν) :
    scanFrom w w' i j sum =
      some (addProducts sum (common (w.entries.drop i) (w'.entries.drop j))) := by
  induction i, j, sum using scanFrom.induct (v := w) (w := w') with
  | case1 i j sum inside left right both =>
      obtain ⟨x, u, index_eq, value_eq, parted⟩ := sorted.exists_drop inside.1
      obtain ⟨y, v, index_eq', value_eq', parted'⟩ := sorted'.exists_drop inside.2
      -- the comparison of the pass is that of the first entries which are left
      have first := common_cons (parted ▸ sorted.pairwise_drop i)
        (parted' ▸ sorted'.pairwise_drop j)
      rw [scanFrom, dif_pos inside, index_eq, index_eq', parted, parted', first]
      show (if x < y then _ else if y < x then _ else _) = _
      split
      · rw [left, parted']
      · split
        · rw [right, parted]
        · rw [value_eq, value_eq']
          exact both u v
  | case2 i j sum outside =>
      have nothing : common (w.entries.drop i) (w'.entries.drop j) = [] := by
        rcases not_and_or.1 outside with past | past
        · have empty : w.entries.drop i = [] :=
            List.drop_eq_nil_of_le (by rw [sorted.length_entries]; exact Nat.not_lt.1 past)
          rw [empty]
          rfl
        · have empty : w'.entries.drop j = [] :=
            List.drop_eq_nil_of_le (by rw [sorted'.length_entries]; exact Nat.not_lt.1 past)
          rw [empty, common_nil]
      rw [scanFrom, dif_neg outside, nothing]
      rfl

theorem scan_eq [Zero ν] [Add ν] [Mul ν] (sorted : w.IsSorted) (sorted' : w'.IsSorted) :
    scan w w' = some (addProducts 0 (common w.entries w'.entries)) :=
  scanFrom_eq sorted sorted' 0 0 0

/-! ## Exact sums -/

section Exact

variable [CommSemiring ν]

theorem addProducts_eq (sum : ν) (pairs : List (ν × ν)) :
    addProducts sum pairs = sum + (pairs.map fun pair => pair.1 * pair.2).sum := by
  induction pairs generalizing sum with
  | nil => exact (add_zero sum).symm
  | cons pair pairs ih =>
      show addProducts (sum + pair.1 * pair.2) pairs = _
      rw [ih, List.map_cons, List.sum_cons, add_assoc]

/-- Without a weight in the second vector, nothing is added. -/
theorem sum_common (a b : List (UInt32 × ν)) :
    ((common a b).map fun pair => pair.1 * pair.2).sum =
      (a.map fun entry => entry.2 * (b.lookup entry.1).getD 0).sum := by
  induction a with
  | nil => rfl
  | cons entry a ih =>
      cases found : b.lookup entry.1 with
      | none =>
          have skipped : common (entry :: a) b = common a b :=
            List.filterMap_cons_none (by rw [found]; rfl)
          rw [skipped, ih, List.map_cons, List.sum_cons, found, Option.getD_none, mul_zero,
            zero_add]
      | some weight =>
          have taken : common (entry :: a) b = (entry.2, weight) :: common a b :=
            List.filterMap_cons_some (by rw [found]; rfl)
          rw [taken, List.map_cons, List.sum_cons, ih, List.map_cons, List.sum_cons, found,
            Option.getD_some]

/-- A weight that is not zero is at one of the indices. -/
theorem IsSorted.weight_eq_zero (sorted : w.IsSorted) (absent : index ∉ w.indices) :
    w.weight index = 0 := by
  rw [← sorted.map_entries, Table.mem_keys_iff, Bool.not_eq_true, Option.isSome_eq_false_iff,
    Option.isNone_iff_eq_none] at absent
  unfold weight
  rw [absent]
  rfl

/-- **In exact arithmetic the pass gives the sum over the common indices.** -/
theorem sum_common_eq (sorted : w.IsSorted) (sorted' : w'.IsSorted) :
    addProducts 0 (common w.entries w'.entries) =
      ∑ index ∈ w.indices.toFinset ∩ w'.indices.toFinset, w.weight index * w'.weight index := by
  have weights : w.entries.map (fun entry => entry.2 * (w'.entries.lookup entry.1).getD 0) =
      w.indices.map fun index => w.weight index * w'.weight index := by
    rw [← sorted.map_entries, List.map_map]
    refine List.map_congr_left fun entry mem => ?_
    have found : w.weight entry.1 = entry.2 := by
      unfold weight
      rw [Table.lookup_of_mem sorted.pairwise mem]
      rfl
    show _ = w.weight entry.1 * w'.weight entry.1
    rw [found]
    rfl
  have nodup : w.indices.Nodup := sorted.ascending.imp UInt32.ne_of_lt
  calc addProducts 0 (common w.entries w'.entries)
      = (w.indices.map fun index => w.weight index * w'.weight index).sum := by
        rw [addProducts_eq, zero_add, sum_common, weights]
    _ = ∑ index ∈ w.indices.toFinset, w.weight index * w'.weight index :=
        (List.sum_toFinset _ nodup).symm
    _ = ∑ index ∈ w.indices.toFinset ∩ w'.indices.toFinset, w.weight index * w'.weight index := by
        refine (Finset.sum_subset Finset.inter_subset_left fun index mem absent => ?_).symm
        have absent' : index ∉ w'.indices := fun mem' =>
          absent (Finset.mem_inter.2 ⟨mem, List.mem_toFinset.2 mem'⟩)
        rw [sorted'.weight_eq_zero absent', mul_zero]

theorem scan_eq_sum (sorted : w.IsSorted) (sorted' : w'.IsSorted) :
    scan w w' =
      some (∑ index ∈ w.indices.toFinset ∩ w'.indices.toFinset,
        w.weight index * w'.weight index) := by
  rw [scan_eq sorted sorted', sum_common_eq sorted sorted']

/-- In exact arithmetic the overlap is symmetric. -/
theorem scan_comm (sorted : w.IsSorted) (sorted' : w'.IsSorted) : scan w' w = scan w w' := by
  rw [scan_eq_sum sorted sorted', scan_eq_sum sorted' sorted, Finset.inter_comm]
  simp only [mul_comm]

end Exact

end Weights

/-! ## Overlap in single precision -/

namespace SparseVector

open Weights (common addProducts)

variable {a b : List (UInt32 × Float32)}

/-- **The overlap of the store is the same pass:** as many steps as there are entries are enough. -/
theorem dotFrom_eq {steps : ℕ} (enough : a.length + b.length ≤ steps)
    (ascending : a.Pairwise fun e e' => e.1 < e'.1)
    (ascending' : b.Pairwise fun e e' => e.1 < e'.1) (sum : Float32) :
    dotFrom sum steps a b = addProducts sum (common a b) := by
  induction steps generalizing a b sum with
  | zero =>
      obtain rfl : a = [] := List.eq_nil_of_length_eq_zero (by omega)
      rfl
  | succ steps ih =>
      cases a with
      | nil => rfl
      | cons head a =>
          cases b with
          | nil =>
              rw [Weights.common_nil]
              rfl
          | cons head' b =>
              obtain ⟨-, rest⟩ := List.pairwise_cons.1 ascending
              obtain ⟨-, rest'⟩ := List.pairwise_cons.1 ascending'
              have fewer : a.length + b.length < steps := by
                rw [List.length_cons, List.length_cons] at enough
                omega
              rw [Weights.common_cons ascending ascending', dotFrom]
              split
              · exact ih (by rw [List.length_cons]; omega) rest ascending' sum
              · split
                · exact ih (by rw [List.length_cons]; omega) ascending rest' sum
                · exact ih fewer.le rest rest' _

/-- What the pass does with two vectors, it does with them the other way round. -/
theorem dotFrom_comm (steps : ℕ) (sum : Float32) (a b : List (UInt32 × Float32)) :
    dotFrom sum steps b a = dotFrom sum steps a b := by
  induction steps generalizing a b sum with
  | zero => rfl
  | succ steps ih =>
      cases a with
      | nil => cases b <;> rfl
      | cons head a =>
          cases b with
          | nil => rfl
          | cons head' b =>
              obtain ⟨i, x⟩ := head
              obtain ⟨j, y⟩ := head'
              simp only [dotFrom]
              by_cases less : i < j
              · rw [if_pos less, if_neg (UInt32.lt_asymm less), if_pos less, ih]
              · by_cases less' : j < i
                · rw [if_pos less', if_neg less, if_pos less', ih]
                · rw [if_neg less', if_neg less, if_neg less, if_neg less', ih,
                    Single.mul_comm y x]

/-- Overlap is symmetric, with all its roundings. -/
theorem dot_comm (v w : SparseVector) : dot w v = dot v w := by
  unfold dot
  rw [Nat.add_comm]
  exact dotFrom_comm _ _ _ _

variable {v w : SparseVector}

theorem dot_eq (sorted : v.weights.IsSorted) (sorted' : w.weights.IsSorted) :
    dot v w = addProducts 0 (common v.weights.entries w.weights.entries) := by
  refine dotFrom_eq ?_ sorted.pairwise sorted'.pairwise 0
  show v.weights.entries.length + w.weights.entries.length ≤ _
  rw [sorted.length_entries, sorted'.length_entries]
  exact le_rfl

/-- **The pass over two vectors finds their overlap:** it ends, and it is never out of bounds. -/
theorem scan_weights (sorted : v.weights.IsSorted) (sorted' : w.weights.IsSorted) :
    Weights.scan v.weights w.weights = some (dot v w) := by
  rw [Weights.scan_eq sorted sorted', dot_eq sorted sorted']

end SparseVector

/-! ## Overlap of texts -/

/-- **Whether two texts share the hash of a token.**  Texts that share a token do. -/
def Token.SharesHash (p q : List Char) : Prop :=
  ∃ token ∈ tokenize p, ∃ token' ∈ tokenize q, Hash.fnv1a token = Hash.fnv1a token'

theorem Token.sharesHash_iff {p q : List Char} :
    SharesHash p q ↔ ∃ index, 0 < occurrences p index ∧ 0 < occurrences q index := by
  simp only [occurrences_pos_iff]
  constructor
  · rintro ⟨token, mem, token', mem', same⟩
    exact ⟨_, ⟨token, mem, same⟩, token', mem', rfl⟩
  · rintro ⟨_, ⟨token, mem, same⟩, token', mem', rfl⟩
    exact ⟨token, mem, token', mem', same⟩

namespace Weights

variable (p q : List Char)

/-- The counts of two texts at the hashes that both of them have. -/
def commonCounts : List (ℕ × ℕ) := common (frequencies id p).entries (frequencies id q).entries

/-- **The exact overlap of two texts.** -/
theorem addProducts_commonCounts :
    addProducts 0 (commonCounts p q) = ∑ index, occurrences p index * occurrences q index := by
  have sorted := isSorted_frequencies id p
  have sorted' := isSorted_frequencies id q
  have weights (text : List Char) (index : UInt32) :
      (frequencies id text).weight index = occurrences text index := weight_frequencies rfl _ _
  rw [commonCounts, sum_common_eq sorted sorted']
  simp only [weights]
  refine Finset.sum_subset (Finset.subset_univ _) fun index _ absent => ?_
  rw [Finset.mem_inter, List.mem_toFinset, List.mem_toFinset, not_and_or] at absent
  rcases absent with absent | absent
  · have none := sorted.weight_eq_zero absent
    rw [weights] at none
    rw [none, Nat.zero_mul]
  · have none := sorted'.weight_eq_zero absent
    rw [weights] at none
    rw [none, Nat.mul_zero]

theorem pos_of_mem_commonCounts {pair : ℕ × ℕ} (mem : pair ∈ commonCounts p q) :
    0 < pair.1 ∧ 0 < pair.2 := by
  obtain ⟨entry, mem', found⟩ := List.mem_filterMap.1 mem
  obtain ⟨weight, found', rfl⟩ := Option.map_eq_some_iff.1 found
  have own := Table.lookup_of_mem (isSorted_frequencies id p).pairwise mem'
  rw [lookup_entries_frequencies, Option.ite_none_right_eq_some] at own found'
  obtain ⟨positive, count_eq⟩ := own
  obtain ⟨positive', count_eq'⟩ := found'
  exact ⟨Option.some.inj count_eq ▸ positive, Option.some.inj count_eq' ▸ positive'⟩

theorem exact_pos_iff :
    0 < ∑ index, occurrences p index * occurrences q index ↔ Token.SharesHash p q := by
  rw [Finset.sum_pos_iff, Token.sharesHash_iff]
  simp only [Finset.mem_univ, true_and, CanonicallyOrderedAdd.mul_pos]

theorem commonCounts_ne_nil_iff : commonCounts p q ≠ [] ↔ Token.SharesHash p q := by
  rw [← exact_pos_iff, ← addProducts_commonCounts, addProducts_eq, Nat.zero_add]
  cases pairs : commonCounts p q with
  | nil => simp
  | cons pair rest =>
      have mem : pair ∈ commonCounts p q := pairs ▸ List.mem_cons_self
      obtain ⟨positive, positive'⟩ := pos_of_mem_commonCounts p q mem
      rw [List.map_cons, List.sum_cons]
      exact ⟨fun _ => Nat.add_pos_left (Nat.mul_pos positive positive') _,
        fun _ => List.cons_ne_nil _ _⟩

end Weights

namespace SparseVector

open Weights (common addProducts commonCounts frequencies)

variable {p q : List Char}

/-- In single precision the counts are multiplied and added up as they are stored. -/
theorem dot_ofText (p q : List Char) :
    dot (ofText p) (ofText q) =
      ((commonCounts p q).map fun pair =>
        Float32.ofNat pair.1 * Float32.ofNat pair.2).foldl (· + ·) 0 := by
  have stored : common (ofText p).weights.entries (ofText q).weights.entries =
      (commonCounts p q).map fun pair => (Float32.ofNat pair.1, Float32.ofNat pair.2) := by
    simp only [commonCounts, Weights.weights_ofText, Weights.entries_frequencies,
      Weights.common_map, List.map_map]
    rfl
  rw [dot_eq (Weights.isSorted_ofText p) (Weights.isSorted_ofText q), stored, addProducts,
    List.map_map]
  rfl

/-- **Small overlaps are exact.** -/
theorem dot_ofText_eq (small : ∑ index, occurrences p index * occurrences q index < 2 ^ 24) :
    dot (ofText p) (ofText q) =
      Float32.ofNat (∑ index, occurrences p index * occurrences q index) := by
  rw [← Weights.addProducts_commonCounts, Weights.addProducts_eq] at small ⊢
  have products : (commonCounts p q).map (fun pair => Float32.ofNat pair.1 * Float32.ofNat pair.2) =
      ((commonCounts p q).map fun pair => pair.1 * pair.2).map Float32.ofNat := by
    rw [List.map_map]
    refine List.map_congr_left fun pair mem => ?_
    obtain ⟨positive, positive'⟩ := Weights.pos_of_mem_commonCounts p q mem
    have atMost : pair.1 * pair.2 ≤ ((commonCounts p q).map fun pair => pair.1 * pair.2).sum :=
      List.single_le_sum (fun _ _ => Nat.zero_le _) _ (List.mem_map_of_mem mem)
    exact Single.ofNat_mul (by omega) positive positive'
  rw [dot_ofText, products]
  exact Single.foldl_ofNat_add _ small

/-- **Texts overlap if and only if they share the hash of a token:** their overlap is at least one,
or it is zero. -/
theorem dot_ofText_cases (p q : List Char) :
    Token.SharesHash p q ∧ Single.IsLarge (dot (ofText p) (ofText q)) ∨
      ¬Token.SharesHash p q ∧ dot (ofText p) (ofText q) = 0 := by
  rw [dot_ofText, ← Weights.commonCounts_ne_nil_iff]
  -- a count is at least one, or its hash would not be in the table
  have large : ∀ pair ∈ commonCounts p q,
      Single.IsLarge (Float32.ofNat pair.1 * Float32.ofNat pair.2) := by
    intro pair mem
    obtain ⟨positive, positive'⟩ := Weights.pos_of_mem_commonCounts p q mem
    exact (Single.isLarge_ofNat positive).mul (Single.isLarge_ofNat positive')
  cases pairs : commonCounts p q with
  | nil => exact .inr ⟨fun nonempty => nonempty rfl, rfl⟩
  | cons pair rest =>
      rw [pairs] at large
      obtain ⟨first, others⟩ := List.forall_mem_cons.1 large
      exact .inl ⟨List.cons_ne_nil _ _,
        first.zero_add.foldl_add (List.forall_mem_map.2 others)⟩

theorem dot_ofText_pos_iff : 0 < dot (ofText p) (ofText q) ↔ Token.SharesHash p q := by
  rcases dot_ofText_cases p q with ⟨shares, large⟩ | ⟨shares, zero⟩
  · exact iff_of_true large.pos shares
  · rw [zero]
    exact iff_of_false (by decide) shares

end SparseVector

namespace Ranking

open FilePoints (lexicalText)

/-- A sparse probe passes over a point unless there is overlap. -/
theorem isSome_score?_sparse_iff {vector : SparseVector} {point : PointData} :
    (score? (.sparse vector) point).isSome = true ↔
      ∃ own, point.sparse = some own ∧ ¬own.dot vector ≤ 0 := by
  cases has : point.sparse with
  | none => simp [score?, has]
  | some own => simp [score?, has]

/-- A chunk has a score for a text if and only if the two share the hash of a token. -/
theorem isSome_score?_point_iff (repository path : String) (headerId : Option String)
    (described : DescribedChunk) (dense : List Float32) (query : List Char) :
    (score? (.sparse (SparseVector.ofText query))
      (FilePoints.point repository path headerId described dense).toPointData).isSome = true ↔
      Token.SharesHash (lexicalText described.chunk).toList query := by
  rw [isSome_score?_sparse_iff]
  constructor
  · rintro ⟨own, has, overlaps⟩
    obtain ⟨-, same⟩ := Option.ite_none_left_eq_some.1 has
    obtain rfl := Option.some.inj same
    rcases SparseVector.dot_ofText_cases (lexicalText described.chunk).toList query with
      ⟨shares, -⟩ | ⟨-, zero⟩
    · exact shares
    · rw [zero] at overlaps
      exact absurd (by decide) overlaps
  · intro shares
    have nonempty : ¬(SparseVector.ofText (lexicalText described.chunk).toList).isEmpty := by
      intro empty
      obtain ⟨token, mem, -⟩ := shares
      have listed := Weights.mem_indices_ofText.2 ⟨token, mem, rfl⟩
      exact List.not_mem_nil (List.isEmpty_iff.1 empty ▸ listed)
    refine ⟨_, if_neg nonempty, ?_⟩
    rcases SparseVector.dot_ofText_cases (lexicalText described.chunk).toList query with
      ⟨-, large⟩ | ⟨apart, -⟩
    · exact large.not_le_zero
    · exact absurd shares apart

/-- **A sparse candidate list considers a chunk** that passes its filter if and only if the two
texts share the hash of a token. -/
theorem mem_scores_point_iff {points : Dictionary PointData} {id repository path : String}
    {headerId : Option String} {described : DescribedChunk} {dense : List Float32}
    (held : points.get? id =
      some (FilePoints.point repository path headerId described dense).toPointData)
    (query : List Char) (limit : ℕ) (filter : Option Filter) :
    id ∈ (scores points ⟨.sparse (SparseVector.ofText query), limit, filter⟩).map (·.1) ↔
      (filter.getD []).accepts
        (FilePoints.point repository path headerId described dense).payload = true ∧
      Token.SharesHash (lexicalText described.chunk).toList query := by
  rw [scores_eq, List.mem_map, ← isSome_score?_point_iff repository path headerId described dense,
    score?_eq]
  constructor
  · rintro ⟨⟨id, score⟩, mem, rfl⟩
    obtain ⟨point, found, accepts, scored⟩ := Scoring.mem_scores_iff.1 mem
    obtain rfl := Option.some.inj (held.symm.trans found)
    exact ⟨accepts, Option.isSome_of_eq_some scored⟩
  · rintro ⟨accepts, isSome⟩
    obtain ⟨score, scored⟩ := Option.isSome_iff_exists.1 isSome
    exact ⟨(id, score), Scoring.mem_scores_iff.2 ⟨_, held, accepts, scored⟩, rfl⟩

end Ranking

namespace SparseVector

open Weights (scan frequencies)
open FilePoints (lexicalText)

/-- **Overlap is what it says.**  For sorted vectors the pass ends, is never out of bounds and, in
any exact arithmetic, gives the sum over the common indices of the products of their weights,
whichever vector is first.  The overlap of the store is this pass in single precision.

For texts, the exact overlap is the sum over all hashes of the products of the numbers of tokens,
and so is the overlap of the store unless it is too large for single precision.  Either is positive
if and only if the texts share the hash of a token, and these are the chunks that a sparse candidate
list considers, of those that its filter accepts. -/
theorem overlap_exact :
    (∀ {ν : Type} [CommSemiring ν] (v w : Weights ν), v.IsSorted → w.IsSorted →
      scan v w = some (∑ index ∈ v.indices.toFinset ∩ w.indices.toFinset,
        v.weight index * w.weight index) ∧
      scan w v = scan v w) ∧
    (∀ v w : SparseVector, v.weights.IsSorted → w.weights.IsSorted →
      scan v.weights w.weights = some (dot v w) ∧ dot w v = dot v w) ∧
    (∀ p q,
      scan (frequencies id p) (frequencies id q) =
        some (∑ index, occurrences p index * occurrences q index) ∧
      (∑ index, occurrences p index * occurrences q index < 2 ^ 24 →
        Single.value? (dot (ofText p) (ofText q)) =
          some ((∑ index, occurrences p index * occurrences q index : ℕ) : ℚ)) ∧
      (0 < ∑ index, occurrences p index * occurrences q index ↔ Token.SharesHash p q) ∧
      (0 < dot (ofText p) (ofText q) ↔ Token.SharesHash p q)) ∧
    ∀ (points : Dictionary PointData) (id repository path : String) (headerId : Option String)
      (described : DescribedChunk) (dense : List Float32) (query : List Char) (limit : ℕ)
      (filter : Option Filter),
      points.get? id =
        some (FilePoints.point repository path headerId described dense).toPointData →
      (id ∈ (Ranking.scores points ⟨.sparse (ofText query), limit, filter⟩).map (·.1) ↔
        (filter.getD []).accepts
          (FilePoints.point repository path headerId described dense).payload = true ∧
        Token.SharesHash (lexicalText described.chunk).toList query) := by
  refine ⟨fun v w sorted sorted' => ⟨Weights.scan_eq_sum sorted sorted',
      Weights.scan_comm sorted sorted'⟩,
    fun v w sorted sorted' => ⟨scan_weights sorted sorted', dot_comm v w⟩,
    fun p q => ⟨?_, fun small => ?_, Weights.exact_pos_iff p q, dot_ofText_pos_iff⟩,
    fun points id repository path headerId described dense query limit filter held =>
      Ranking.mem_scores_point_iff held query limit filter⟩
  · rw [Weights.scan_eq (Weights.isSorted_frequencies _ p) (Weights.isSorted_frequencies _ q)]
    exact congrArg some (Weights.addProducts_commonCounts p q)
  · rw [dot_ofText_eq small]
    exact Single.value?_ofNat small

/-- Two of several indices are common, and a word of a query is in the name of a chunk. -/
theorem overlap_exact_invoice :
    let chunk : Chunk :=
      { content := "class PostedInvoice {}", path := "PostedInvoice.java", language := .java,
        layer := "other", startLine := 1, endLine := 1, symbol := some "PostedInvoice",
        parent := none, kind := .classLike, annotations := [], index := 0, total := 1 }
    let data := (FilePoints.point "r" "PostedInvoice.java" none ⟨chunk, ""⟩ []).toPointData
    scan ⟨[1, 3, 7], [2, 4, 6]⟩ ⟨[3, 4, 7, 9], [5, 6, 7, 8]⟩ = some 62 ∧
      Single.value? (dot (ofText "postInvoice invoice".toList) (ofText "the Invoice".toList)) =
        some 2 ∧
      "1" ∈ (Ranking.scores (Dictionary.empty.insert "1" data)
        ⟨.sparse (ofText "the Invoice".toList), 10, none⟩).map (·.1) := by
  intro chunk data
  obtain ⟨exact, -, texts, considered⟩ := overlap_exact
  refine ⟨?_, ?_, ?_⟩
  · exact (exact (ν := ℕ) _ _ ⟨by decide, rfl⟩ ⟨by decide, rfl⟩).1
  · have twice : ∑ index, occurrences "postInvoice invoice".toList index *
        occurrences "the Invoice".toList index = 2 := by
      rw [← Weights.addProducts_commonCounts]
      decide +kernel
    have value := (texts "postInvoice invoice".toList "the Invoice".toList).2.1
      (by rw [twice]; decide)
    rw [twice] at value
    exact value
  · refine (considered _ "1" "r" "PostedInvoice.java" none ⟨chunk, ""⟩ [] _ 10 none
      (by rw [Dictionary.get?_insert, if_pos rfl])).2 ⟨rfl, ?_⟩
    exact ⟨"invoice".toList, by decide +kernel, "invoice".toList, by decide +kernel, rfl⟩

end SparseVector

end CodeIndex
