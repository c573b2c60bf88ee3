import CodeIndex.Proofs.Number.Whole
import CodeIndex.Proofs.Sparse.Segments
import CodeIndex.Run.FilePoints
import Mathlib.Algebra.BigOperators.Group.List.Basic
import Mathlib.Data.List.Induction

/-!
# Term frequencies

The vector of a text has at each hash the number of tokens with this hash, so that hashes that two
tokens share are counted together.  Counting goes through a table in ascending order, in which every
step either makes an entry larger or puts a new one in its place (`lookup_countIn`).

Since separators separate, the vectors of texts add up to that of the texts joined by a separator.
In single precision this is so as long as a text has fewer than `2 ^ 24` tokens, when no count is
rounded.  Without rounding, it is so of all texts, and so vectors are looked at with weights in any
arithmetic (`Weights`).

## Main definitions

* `Weights`: weights at indices, in any arithmetic.
* `Token.occurrences`: how many tokens of a text have a hash.
* `Weights.frequencies`: the vector of a text, in any arithmetic.
* `Weights.IsSum`: one vector is the sum of others.

## Main statements

* `SparseVector.lookup_counts`: what a table of counts holds.
* `Weights.weight_frequencies`: what the vector of a text holds.
* `Token.occurrences_intercalate`
* `SparseVector.frequencies_compositional`
-/

namespace CodeIndex

open Token (tokenize classOf)

/-! ## Weights -/

/-- **Weights at indices, in any arithmetic.** -/
structure Weights (ν : Type) where
  indices : List UInt32
  values : List ν

/-- The weights of a vector are in single precision. -/
def SparseVector.weights (v : SparseVector) : Weights Float32 := ⟨v.indices, v.values⟩

namespace Weights

variable {ν : Type}

/-- The indices with their weights. -/
def entries (w : Weights ν) : List (UInt32 × ν) := w.indices.zip w.values

/-- The weight at an index; zero where there is none. -/
def weight [Zero ν] (w : Weights ν) (index : UInt32) : ν := (w.entries.lookup index).getD 0

/-- **Whether the indices ascend,** and each of them has a weight. -/
structure IsSorted (w : Weights ν) : Prop where
  ascending : w.indices.Pairwise (· < ·)
  sameLength : w.values.length = w.indices.length

/-- **Whether one vector is the sum of others:** it has the indices that one of them has, and at
each index the sum of their weights. -/
structure IsSum [Zero ν] [Add ν] (whole : Weights ν) (parts : List (Weights ν)) : Prop where
  sorted : whole.IsSorted
  mem_indices : ∀ index, index ∈ whole.indices ↔ ∃ part ∈ parts, index ∈ part.indices
  weight : ∀ index, whole.weight index = (parts.map (·.weight index)).foldl (· + ·) 0

end Weights

/-! ## Tables -/

namespace Table

variable {α β : Type} {index : UInt32} {table : List (UInt32 × α)}

theorem lookup_cons (index key : UInt32) (a : α) (rest : List (UInt32 × α)) :
    ((key, a) :: rest).lookup index = if index = key then some a else rest.lookup index := by
  rw [List.lookup_cons]
  by_cases same : index = key
  · rw [if_pos same, beq_iff_eq.2 same]
  · rw [if_neg same, beq_eq_false_iff_ne.2 same]

theorem lookup_eq_none_of_forall_lt (above : ∀ entry ∈ table, index < entry.1) :
    table.lookup index = none := by
  rw [List.lookup_eq_none_iff]
  intro entry mem
  exact bne_iff_ne.2 (UInt32.ne_of_lt (above entry mem))

theorem lookup_map (f : α → β) (table : List (UInt32 × α)) (index : UInt32) :
    (table.map fun entry => (entry.1, f entry.2)).lookup index = (table.lookup index).map f := by
  induction table with
  | nil => rfl
  | cons entry table ih =>
      rw [List.map_cons, lookup_cons, ih, lookup_cons]
      split <;> rfl

theorem mem_keys_iff : index ∈ table.map (·.1) ↔ (table.lookup index).isSome = true := by
  induction table with
  | nil => simp
  | cons entry table ih =>
      rw [List.map_cons, List.mem_cons, lookup_cons, ih]
      by_cases same : index = entry.1
      · simp [same]
      · simp [same]

/-- In a table with ascending indices every entry is found. -/
theorem lookup_of_mem {a : α} (ascending : table.Pairwise fun x y => x.1 < y.1)
    (mem : (index, a) ∈ table) : table.lookup index = some a := by
  induction table with
  | nil => cases mem
  | cons head rest ih =>
      obtain ⟨key, value⟩ := head
      obtain ⟨above, ascending'⟩ := List.pairwise_cons.1 ascending
      rw [lookup_cons]
      rcases List.mem_cons.1 mem with same | mem
      · obtain ⟨rfl, rfl⟩ := Prod.mk.inj same
        exact if_pos rfl
      · rw [if_neg (UInt32.ne_of_lt (above _ mem)).symm]
        exact ih ascending' mem

end Table

namespace SparseVector

/-! ## Counting -/

variable {hash index : UInt32} {table : List (UInt32 × ℕ)}

/-- Counting adds no other index. -/
theorem eq_or_mem_of_mem_countIn {entry : UInt32 × ℕ} (mem : entry ∈ countIn hash table) :
    entry.1 = hash ∨ ∃ earlier ∈ table, earlier.1 = entry.1 := by
  induction table with
  | nil => exact .inl (congrArg Prod.fst (List.mem_singleton.1 mem))
  | cons head rest ih =>
      obtain ⟨key, n⟩ := head
      simp only [countIn] at mem
      split at mem
      · rcases List.mem_cons.1 mem with rfl | mem
        · exact .inl rfl
        · exact .inr ⟨entry, mem, rfl⟩
      · split at mem
        · rename_i same
          rcases List.mem_cons.1 mem with rfl | mem
          · exact .inl same.symm
          · exact .inr ⟨entry, List.mem_cons_of_mem _ mem, rfl⟩
        · rcases List.mem_cons.1 mem with rfl | mem
          · exact .inr ⟨(key, n), List.mem_cons_self, rfl⟩
          · rcases ih mem with new | ⟨earlier, mem, same⟩
            · exact .inl new
            · exact .inr ⟨earlier, List.mem_cons_of_mem _ mem, same⟩

/-- Indices keep ascending. -/
theorem pairwise_countIn (ascending : table.Pairwise fun x y => x.1 < y.1) :
    (countIn hash table).Pairwise fun x y => x.1 < y.1 := by
  induction table with
  | nil => exact List.pairwise_singleton _ _
  | cons head rest ih =>
      obtain ⟨key, n⟩ := head
      obtain ⟨above, ascending'⟩ := List.pairwise_cons.1 ascending
      simp only [countIn]
      split
      · rename_i below
        refine List.pairwise_cons.2 ⟨?_, ascending⟩
        intro entry mem
        rcases List.mem_cons.1 mem with rfl | mem
        · exact below
        · exact UInt32.lt_trans below (above entry mem)
      · split
        · exact List.pairwise_cons.2 ⟨above, ascending'⟩
        · rename_i notBelow other
          refine List.pairwise_cons.2 ⟨?_, ih ascending'⟩
          intro entry mem
          rcases eq_or_mem_of_mem_countIn mem with same | ⟨earlier, mem, same⟩
          · exact same ▸ UInt32.lt_of_le_of_ne (UInt32.not_lt.1 notBelow) (Ne.symm other)
          · exact same ▸ above earlier mem

/-- **Counting a hash adds one at its index** and keeps everything else. -/
theorem lookup_countIn (ascending : table.Pairwise fun x y => x.1 < y.1) :
    (countIn hash table).lookup index =
      if index = hash then some ((table.lookup hash).getD 0 + 1) else table.lookup index := by
  induction table with
  | nil => exact Table.lookup_cons index hash 1 []
  | cons head rest ih =>
      obtain ⟨key, n⟩ := head
      obtain ⟨above, ascending'⟩ := List.pairwise_cons.1 ascending
      simp only [countIn]
      split
      · rename_i below
        have new : ((key, n) :: rest).lookup hash = none := by
          refine Table.lookup_eq_none_of_forall_lt fun entry mem => ?_
          rcases List.mem_cons.1 mem with rfl | mem
          · exact below
          · exact UInt32.lt_trans below (above entry mem)
        rw [Table.lookup_cons, new]
        rfl
      · split
        · rename_i same
          subst same
          simp only [Table.lookup_cons, if_true, Option.getD_some]
          split <;> rfl
        · rename_i other
          rw [Table.lookup_cons, ih ascending', Table.lookup_cons index key,
            Table.lookup_cons hash key, if_neg other]
          by_cases same : index = key
          · rw [if_pos same, if_neg (same ▸ Ne.symm other), if_pos same]
          · rw [if_neg same, if_neg same]

/-- What counting gives, whatever is counted. -/
theorem counts_append_singleton (hashes : List UInt32) (hash : UInt32) :
    counts (hashes ++ [hash]) = countIn hash (counts hashes) :=
  List.foldl_concat ..

theorem pairwise_counts (hashes : List UInt32) :
    (counts hashes).Pairwise fun x y => x.1 < y.1 := by
  induction hashes using List.reverseRecOn with
  | nil => exact .nil
  | append_singleton hashes hash ih =>
      rw [counts_append_singleton]
      exact pairwise_countIn ih

/-- **A table of counts holds the counts** of those hashes that occur. -/
theorem lookup_counts (hashes : List UInt32) (index : UInt32) :
    (counts hashes).lookup index =
      if 0 < hashes.count index then some (hashes.count index) else none := by
  induction hashes using List.reverseRecOn with
  | nil => rfl
  | append_singleton hashes hash ih =>
      rw [counts_append_singleton, lookup_countIn (pairwise_counts hashes), List.count_append,
        List.count_singleton]
      by_cases same : index = hash
      · subst same
        have earlier : ((counts hashes).lookup index).getD 0 = hashes.count index := by
          rw [ih]
          split
          · rfl
          · rename_i none
            exact (Nat.eq_zero_of_not_pos none).symm
        rw [if_pos rfl, earlier, beq_self_eq_true, if_pos rfl, if_pos (Nat.succ_pos _)]
      · rw [if_neg same, ih, beq_eq_false_iff_ne.2 (Ne.symm same)]
        rfl

end SparseVector

/-! ## Frequencies -/

namespace Token

variable {text : List Char} {index : UInt32}

/-- **How many tokens of a text have a hash.** -/
def occurrences (text : List Char) (index : UInt32) : ℕ :=
  (tokenize text).countP fun token => Hash.fnv1a token = index

theorem count_map_fnv1a (text : List Char) (index : UInt32) :
    ((tokenize text).map Hash.fnv1a).count index = occurrences text index := by
  unfold List.count occurrences
  rw [List.countP_map]
  exact List.countP_congr fun token _ => by simp

theorem occurrences_pos_iff :
    0 < occurrences text index ↔ ∃ token ∈ tokenize text, Hash.fnv1a token = index := by
  unfold occurrences
  rw [List.countP_pos_iff]
  simp

theorem occurrences_le (text : List Char) (index : UInt32) :
    occurrences text index ≤ (tokenize text).length :=
  List.countP_le_length

theorem joinWith_eq_intercalate (separator : List Char) (texts : List (List Char)) :
    Text.joinWith separator texts = separator.intercalate texts := by
  induction texts with
  | nil => rfl
  | cons text texts ih =>
      cases texts with
      | nil => exact (List.append_nil text).symm
      | cons text' texts =>
          show text ++ separator ++ Text.joinWith separator (text' :: texts) = _
          rw [ih, List.append_assoc]
          rfl

/-- **The tokens of texts that are joined add up.** -/
theorem occurrences_intercalate {separator : Char} (other : classOf separator = .other)
    (texts : List (List Char)) (index : UInt32) :
    occurrences ([separator].intercalate texts) index =
      (texts.map (occurrences · index)).sum := by
  unfold occurrences
  rw [← joinWith_eq_intercalate, tokenize_joinWith other, List.countP_flatMap]
  rfl

end Token

namespace Weights

variable {ν : Type} {text : List Char}

/-- A table of counts as a vector. -/
def ofCounts (of : ℕ → ν) (table : List (UInt32 × ℕ)) : Weights ν :=
  ⟨table.map (·.1), table.map fun entry => of entry.2⟩

/-- **The vector of a text, in an arithmetic** where `of` says what whole numbers are. -/
def frequencies (of : ℕ → ν) (text : List Char) : Weights ν :=
  ofCounts of (SparseVector.counts ((tokenize text).map Hash.fnv1a))

theorem weights_ofText (text : List Char) :
    (SparseVector.ofText text).weights = frequencies Float32.ofNat text := rfl

theorem entries_frequencies (of : ℕ → ν) (text : List Char) :
    (frequencies of text).entries =
      (SparseVector.counts ((tokenize text).map Hash.fnv1a)).map fun entry =>
        (entry.1, of entry.2) :=
  List.zip_map' ..

theorem isSorted_frequencies (of : ℕ → ν) (text : List Char) :
    (frequencies of text).IsSorted where
  ascending := List.pairwise_map.2 (SparseVector.pairwise_counts _)
  sameLength := by
    show (List.map _ _).length = (List.map _ _).length
    rw [List.length_map, List.length_map]

theorem mem_indices_frequencies (of : ℕ → ν) {index : UInt32} :
    index ∈ (frequencies of text).indices ↔ ∃ token ∈ tokenize text, Hash.fnv1a token = index := by
  show index ∈ List.map _ _ ↔ _
  rw [Table.mem_keys_iff, SparseVector.lookup_counts, Token.count_map_fnv1a,
    ← Token.occurrences_pos_iff]
  split <;> simp_all

theorem lookup_entries_frequencies (of : ℕ → ν) (text : List Char) (index : UInt32) :
    (frequencies of text).entries.lookup index =
      if 0 < Token.occurrences text index then some (of (Token.occurrences text index))
      else none := by
  rw [entries_frequencies, Table.lookup_map, SparseVector.lookup_counts, Token.count_map_fnv1a]
  split <;> rfl

/-- **The vector of a text has at each hash the number of tokens with this hash.** -/
theorem weight_frequencies [Zero ν] {of : ℕ → ν} (zero : of 0 = 0) (text : List Char)
    (index : UInt32) :
    (frequencies of text).weight index = of (Token.occurrences text index) := by
  unfold weight
  rw [lookup_entries_frequencies]
  split
  · rfl
  · rename_i none
    rw [Nat.eq_zero_of_not_pos none, zero]
    rfl

theorem isSorted_ofText (text : List Char) : (SparseVector.ofText text).weights.IsSorted :=
  isSorted_frequencies Float32.ofNat text

theorem mem_indices_ofText {index : UInt32} :
    index ∈ (SparseVector.ofText text).indices ↔
      ∃ token ∈ tokenize text, Hash.fnv1a token = index :=
  mem_indices_frequencies Float32.ofNat

/-- In single precision this is so as well. -/
theorem weight_ofText (text : List Char) (index : UInt32) :
    (SparseVector.ofText text).weights.weight index =
      Float32.ofNat (Token.occurrences text index) :=
  weight_frequencies rfl text index

/-- **The vectors of texts add up** to that of the joined text, as long as that is short. -/
theorem isSum_ofText {separator : Char} (other : classOf separator = .other)
    {texts : List (List Char)}
    (short : (tokenize ([separator].intercalate texts)).length < 2 ^ 24) :
    (SparseVector.ofText ([separator].intercalate texts)).weights.IsSum
      (texts.map fun text => (SparseVector.ofText text).weights) where
  sorted := isSorted_ofText _
  mem_indices index := by
    simp only [weights_ofText, List.mem_map, exists_exists_and_eq_and, mem_indices_frequencies,
      ← Token.joinWith_eq_intercalate, Token.tokenize_joinWith other, List.mem_flatMap]
    constructor
    · rintro ⟨token, ⟨text, mem, mem'⟩, same⟩
      exact ⟨text, mem, token, mem', same⟩
    · rintro ⟨text, mem, token, mem', same⟩
      exact ⟨token, ⟨text, mem, mem'⟩, same⟩
  weight index := by
    have added := Token.occurrences_intercalate other texts index
    have small : 0 + (texts.map (Token.occurrences · index)).sum < 2 ^ 24 := by
      rw [Nat.zero_add, ← added]
      exact Nat.lt_of_le_of_lt (Token.occurrences_le _ index) short
    have sum := Single.foldl_ofNat_add _ small
    rw [Nat.zero_add] at sum
    rw [weight_ofText, added, ← sum, List.map_map, List.map_map]
    refine congrArg (List.foldl _ _) (List.map_congr_left fun text _ => ?_)
    exact (weight_ofText text index).symm

end Weights

/-- The texts of a chunk whose words are counted. -/
def FilePoints.lexicalParts (chunk : Chunk) : List String :=
  content chunk :: (chunk.symbol.toList ++ chunk.parent.toList ++ chunk.annotations)

theorem FilePoints.toList_lexicalText (chunk : Chunk) :
    (lexicalText chunk).toList = ['\n'].intercalate ((lexicalParts chunk).map String.toList) :=
  String.toList_intercalate

namespace SparseVector

open FilePoints (lexicalText lexicalParts)

/-- **Tokens and frequencies are compositional.**  A separator between two texts separates their
tokens.  The vector of a text with fewer than `2 ^ 24` tokens is sorted, its indices are the hashes
of its tokens, and at each hash it has exactly as many as there are tokens with this hash.  So the
vector of a chunk is the sum of the vectors of its content, its names and its annotations. -/
theorem frequencies_compositional :
    (∀ (separator : Char) (first second : List Char), classOf separator = .other →
      tokenize (first ++ separator :: second) = tokenize first ++ tokenize second) ∧
    (∀ text, (tokenize text).length < 2 ^ 24 →
      (ofText text).weights.IsSorted ∧
      ∀ index,
        (index ∈ (ofText text).indices ↔ ∃ token ∈ tokenize text, Hash.fnv1a token = index) ∧
        Single.value? ((ofText text).weights.weight index) =
          some (Token.occurrences text index : ℚ)) ∧
    ∀ chunk,
      (∀ index, Token.occurrences (lexicalText chunk).toList index =
        ((lexicalParts chunk).map fun part => Token.occurrences part.toList index).sum) ∧
      ((tokenize (lexicalText chunk).toList).length < 2 ^ 24 →
        (ofText (lexicalText chunk).toList).weights.IsSum
          ((lexicalParts chunk).map fun part => (ofText part.toList).weights)) := by
  have newline : classOf '\n' = .other := by decide
  refine ⟨fun separator first second other => Token.tokenize_append_cons other first second,
    fun text short => ⟨Weights.isSorted_ofText text, fun index => ⟨?_, ?_⟩⟩,
    fun chunk => ⟨fun index => ?_, fun short => ?_⟩⟩
  · exact Weights.mem_indices_ofText
  · rw [Weights.weight_ofText]
    exact Single.value?_ofNat (Nat.lt_of_le_of_lt (Token.occurrences_le text index) short)
  · rw [FilePoints.toList_lexicalText, Token.occurrences_intercalate newline, List.map_map]
    rfl
  · rw [FilePoints.toList_lexicalText] at short ⊢
    have sum := Weights.isSum_ofText newline short
    rw [List.map_map] at sum
    exact sum

/-- Two tokens of one text that are the same word, and a chunk whose name is in its content. -/
theorem frequencies_compositional_ledger :
    let chunk : Chunk :=
      { content := "class Ledger {}", path := "Ledger.java", language := .java, layer := "other",
        startLine := 1, endLine := 1, symbol := some "Ledger", parent := none,
        kind := .classLike, annotations := ["@Entity"], index := 0, total := 1 }
    tokenize "postLedger ledger".toList = tokenize "postLedger".toList ++ tokenize "ledger".toList ∧
      Single.value? ((ofText "postLedger ledger".toList).weights.weight
        (Hash.fnv1a "ledger".toList)) = some 2 ∧
      (ofText (lexicalText chunk).toList).weights.IsSum
        ((lexicalParts chunk).map fun part => (ofText part.toList).weights) := by
  intro chunk
  obtain ⟨separated, counted, summed⟩ := frequencies_compositional
  refine ⟨separated ' ' "postLedger".toList "ledger".toList (by decide), ?_,
    (summed chunk).2 (by decide +kernel)⟩
  have exact := ((counted "postLedger ledger".toList (by decide +kernel)).2
    (Hash.fnv1a "ledger".toList)).2
  have twice : Token.occurrences "postLedger ledger".toList (Hash.fnv1a "ledger".toList) = 2 := by
    decide +kernel
  rw [twice] at exact
  exact exact

end SparseVector

end CodeIndex
