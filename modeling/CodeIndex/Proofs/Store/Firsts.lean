import Mathlib.Data.List.Perm.Subperm
import Mathlib.Data.Prod.Lex
import Mathlib.Data.String.Basic

/-!
# The first of a ranking

A ranking is cut off: of all candidates the first ones stay.  `IsFirst` says which list these make,
without any sorting: it is in order, it is no longer than it may be, and whoever is left out comes
behind all in it, and only if it is full.  In a strict order there is one such list at most
(`IsFirst.unique`), so that what is cut off does not depend on how the candidates were enumerated.

Sorting by score and identifier makes these lists, whatever scores are, as long as they are compared
by their positions in a linear order.

## Main definitions

* `IsFirst`
* `Ranking.Outranks`: the order of a ranking, for scores of any kind.
* `Ranking.rankBy`: sorting by it.
* `Ranking.IsScale`: a comparison of scores that is that of a linear order.

## Main statements

* `IsFirst.unique`
* `IsFirst.idxOf_lt`: who comes before one of the first is one of them.
* `Ranking.IsScale.isFirst_rankBy`: what is cut off a ranking.
-/

namespace CodeIndex

variable {α β : Type}

/-- **Whether a list is made of the first ones,** at most `count`, of all that are among some. -/
structure IsFirst (count : Nat) (Before : α → α → Prop) (Among : α → Prop) (list : List α) :
    Prop where
  among : ∀ a ∈ list, Among a
  ordered : list.Pairwise Before
  length_le : list.length ≤ count
  others : ∀ a, Among a → a ∉ list → list.length = count ∧ ∀ b ∈ list, Before b a

namespace IsFirst

variable {count : Nat} {Before : α → α → Prop} {Among : α → Prop} {list list' : List α}

/-- The beginning of a list in order. -/
theorem take (ordered : list.Pairwise Before) (all : ∀ a, a ∈ list ↔ Among a) :
    IsFirst count Before Among (list.take count) where
  among a member := (all a).1 (List.mem_of_mem_take member)
  ordered := ordered.sublist (List.take_sublist _ _)
  length_le := List.length_take_le _ _
  others a among missing := by
    have whole := ordered
    rw [← List.take_append_drop count list, List.pairwise_append] at whole
    have member := (all a).2 among
    rw [← List.take_append_drop count list, List.mem_append] at member
    have behind : a ∈ list.drop count := member.resolve_left missing
    have short := List.length_pos_of_mem behind
    rw [List.length_drop] at short
    exact ⟨List.length_take_of_le (by omega), fun b there => whole.2.2 b there a behind⟩

/-- The first ones in one order are the first ones in another one that agrees with it. -/
theorem imp {Before' : α → α → Prop} (first : IsFirst count Before Among list)
    (before : ∀ a b, Among a → Among b → Before a b → Before' a b) :
    IsFirst count Before' Among list where
  among := first.among
  ordered := first.ordered.imp_of_mem fun {a b} member member' order =>
    before a b (first.among a member) (first.among b member') order
  length_le := first.length_le
  others a among missing := by
    obtain ⟨full, ahead⟩ := first.others a among missing
    exact ⟨full, fun b member => before b a (first.among b member) among (ahead b member)⟩

/-- The first ones under other names. -/
theorem map {f : α → β} {Before' : β → β → Prop} {Among' : β → Prop}
    (first : IsFirst count Before Among list) (named : ∀ b, Among' b ↔ ∃ a, Among a ∧ f a = b)
    (before : ∀ a b, Among a → Among b → Before a b → Before' (f a) (f b)) :
    IsFirst count Before' Among' (list.map f) where
  among b member := by
    obtain ⟨a, there, rfl⟩ := List.mem_map.1 member
    exact (named _).2 ⟨a, first.among a there, rfl⟩
  ordered := by
    rw [List.pairwise_map]
    exact first.ordered.imp_of_mem fun {a b} member member' order =>
      before a b (first.among a member) (first.among b member') order
  length_le := by
    rw [List.length_map]
    exact first.length_le
  others b among missing := by
    obtain ⟨a, known, rfl⟩ := (named b).1 among
    obtain ⟨full, ahead⟩ := first.others a known fun member => missing (List.mem_map_of_mem member)
    refine ⟨(List.length_map f).trans full, fun c member => ?_⟩
    obtain ⟨d, there, rfl⟩ := List.mem_map.1 member
    exact before d a (first.among d there) known (ahead d there)

section Strict

variable (strict : ∀ a b, Among a → Among b → Before a b → ¬Before b a)

include strict

theorem nodup (first : IsFirst count Before Among list) : list.Nodup := by
  refine first.ordered.imp_of_mem fun {a b} member member' order => ?_
  rintro rfl
  exact strict a a (first.among a member) (first.among a member) order order

/-- Who is in one list is in the other one. -/
theorem subset (first : IsFirst count Before Among list)
    (other : IsFirst count Before Among list') : list ⊆ list' := by
  intro a member
  by_contra missing
  obtain ⟨full, ahead⟩ := other.others a (first.among a member) missing
  -- the other list is full, and so somebody in it is missing here
  have exists_missing : ∃ b ∈ list', b ∉ list := by
    by_contra none
    push Not at none
    have longer : (a :: list').length ≤ list.length :=
      (List.subperm_of_subset (List.nodup_cons.2 ⟨missing, other.nodup strict⟩)
        (List.cons_subset.2 ⟨member, none⟩)).length_le
    have short := first.length_le
    rw [List.length_cons] at longer
    omega
  obtain ⟨b, member', missing'⟩ := exists_missing
  have order := (first.others b (other.among b member') missing').2 a member
  exact strict a b (first.among a member) (other.among b member') order (ahead b member')

/-- **There is one list of the first ones at most.** -/
theorem unique (first : IsFirst count Before Among list)
    (other : IsFirst count Before Among list') : list = list' := by
  have same : list.Perm list' :=
    (List.perm_ext_iff_of_nodup (first.nodup strict) (other.nodup strict)).2 fun a =>
      ⟨fun member => first.subset strict other member,
        fun member => other.subset strict first member⟩
  refine List.Perm.eq_of_pairwise (fun a b member member' order order' => ?_) first.ordered
    other.ordered same
  exact absurd order' (strict a b (first.among a member) (other.among b member') order)

end Strict

end IsFirst

/-! ## Who comes before whom -/

namespace IsFirst

variable {count : Nat} {Before : α → α → Prop} {Among : α → Prop} {list : List α}

/-- Who comes before one of the first is one of them, and has an earlier place. -/
theorem idxOf_lt [DecidableEq α] (strict : ∀ a b, Among a → Among b → Before a b → ¬Before b a)
    (first : IsFirst count Before Among list) {a b : α} (among : Among a) (order : Before a b)
    (member : b ∈ list) : a ∈ list ∧ list.idxOf a < list.idxOf b := by
  have known := first.among b member
  have listed : a ∈ list := by
    by_contra missing
    exact strict a b among known order ((first.others a among missing).2 b member)
  refine ⟨listed, ?_⟩
  have within := List.idxOf_lt_length_of_mem listed
  have within' := List.idxOf_lt_length_of_mem member
  by_contra later
  rcases Nat.lt_or_eq_of_le (Nat.le_of_not_lt later) with behind | same
  · have order' := List.pairwise_iff_getElem.1 first.ordered _ _ within' within behind
    rw [List.getElem_idxOf, List.getElem_idxOf] at order'
    exact strict a b among known order order'
  · obtain rfl : b = a := (List.idxOf_inj member).1 same
    exact strict b b among among order order

end IsFirst

/-! ## Sorting by score and identifier -/

namespace Ranking

variable {ρ κ : Type} [LinearOrder κ] {less : ρ → ρ → Bool} {position : ρ → κ}
variable {IsNumber : ρ → Prop} {a b : String × ρ} {scored scored' : List (String × ρ)}

/-- The order of a ranking: a higher score, or none that is lower and a smaller identifier. -/
def Outranks (less : ρ → ρ → Bool) (a b : String × ρ) : Prop :=
  less b.2 a.2 = true ∨ less a.2 b.2 = false ∧ a.1 < b.1

/-- Whether one scored identifier may stand before another. -/
def ranksBeforeBy (less : ρ → ρ → Bool) (a b : String × ρ) : Bool :=
  if less b.2 a.2 then true else if less a.2 b.2 then false else a.1 ≤ b.1

/-- Scored identifiers in the order of their ranks, for scores of any kind. -/
def rankBy (less : ρ → ρ → Bool) (scored : List (String × ρ)) : List (String × ρ) :=
  scored.mergeSort (ranksBeforeBy less)

theorem perm_rankBy (less : ρ → ρ → Bool) (scored : List (String × ρ)) :
    (rankBy less scored).Perm scored :=
  List.mergeSort_perm ..

/-- **Whether scores are compared by their positions** in a linear order, provided that they are
numbers. -/
def IsScale (less : ρ → ρ → Bool) (position : ρ → κ) (IsNumber : ρ → Prop) : Prop :=
  ∀ x y, IsNumber x → IsNumber y → (less x y = true ↔ position x < position y)

/-- The place of a scored identifier, the best first. -/
def placeBy (position : ρ → κ) (a : String × ρ) : κᵒᵈ ×ₗ String :=
  toLex (.toDual (position a.2), a.1)

/-- Whether one place is not behind another. -/
def inPlace (position : ρ → κ) (a b : String × ρ) : Bool :=
  decide (placeBy position a ≤ placeBy position b)

theorem placeBy_lt_iff : placeBy position a < placeBy position b ↔
    position b.2 < position a.2 ∨ position a.2 = position b.2 ∧ a.1 < b.1 :=
  Prod.Lex.toLex_lt_toLex

theorem placeBy_le_iff : placeBy position a ≤ placeBy position b ↔
    position b.2 < position a.2 ∨ position a.2 = position b.2 ∧ a.1 ≤ b.1 :=
  Prod.Lex.toLex_le_toLex

namespace IsScale

variable (scale : IsScale less position IsNumber)

include scale

theorem outranks_iff (number : IsNumber a.2) (number' : IsNumber b.2) :
    Outranks less a b ↔ placeBy position a < placeBy position b := by
  rw [Outranks, placeBy_lt_iff, scale _ _ number' number, ← Bool.not_eq_true,
    scale _ _ number number', not_lt]
  constructor
  · rintro (above | ⟨level, smaller⟩)
    · exact .inl above
    · exact level.lt_or_eq.imp_right fun same => ⟨same.symm, smaller⟩
  · exact Or.imp_right fun tie => ⟨tie.1.ge, tie.2⟩

theorem not_outranks (number : IsNumber a.2) (number' : IsNumber b.2) (order : Outranks less a b) :
    ¬Outranks less b a := by
  rw [scale.outranks_iff number number'] at order
  rw [scale.outranks_iff number' number]
  exact order.not_gt

theorem ranksBeforeBy_eq (number : IsNumber a.2) (number' : IsNumber b.2) :
    ranksBeforeBy less a b = inPlace position a b := by
  have above := scale _ _ number' number
  have below := scale _ _ number number'
  rw [Bool.eq_iff_iff, ranksBeforeBy, inPlace, decide_eq_true_iff, placeBy_le_iff]
  rcases lt_trichotomy (position a.2) (position b.2) with lower | same | higher
  · simp [below.2 lower, Bool.eq_false_iff.2 (mt above.1 lower.not_gt), lower.not_gt, lower.ne]
  · simp [Bool.eq_false_iff.2 (mt above.1 same.not_gt),
      Bool.eq_false_iff.2 (mt below.1 same.not_lt), same]
  · simp [above.2 higher, higher]

/-- **Sorting sorts.** -/
theorem pairwise_inPlace (numbers : ∀ a ∈ scored, IsNumber a.2) :
    (rankBy less scored).Pairwise fun a b => inPlace position a b = true := by
  have same : rankBy less scored = scored.mergeSort (inPlace position) := by
    have agree : ∀ a ∈ scored, ∀ b ∈ scored,
        ranksBeforeBy less a b = inPlace position (id a) (id b) :=
      fun a member b member' => scale.ranksBeforeBy_eq (numbers a member) (numbers b member')
    simpa [rankBy] using List.map_mergeSort agree
  rw [same]
  exact List.pairwise_mergeSort (fun a b c => by simpa [inPlace] using le_trans)
    (fun a b => by simpa [inPlace] using le_total _ _) scored

theorem pairwise_rankBy (numbers : ∀ a ∈ scored, IsNumber a.2)
    (nodup : (scored.map (·.1)).Nodup) : (rankBy less scored).Pairwise (Outranks less) := by
  -- no two of them have one place, since no two have one identifier
  have apart : (rankBy less scored).Pairwise fun a b => a.1 ≠ b.1 :=
    List.pairwise_map.1 (((perm_rankBy less scored).map _).nodup_iff.2 nodup)
  refine ((scale.pairwise_inPlace numbers).and apart).imp_of_mem
    fun {a b} member member' order => ?_
  rw [scale.outranks_iff (numbers a ((perm_rankBy less scored).mem_iff.1 member))
    (numbers b ((perm_rankBy less scored).mem_iff.1 member'))]
  refine lt_of_le_of_ne (of_decide_eq_true order.1) fun tie => order.2 ?_
  exact congrArg (fun place => (ofLex place).2) tie

/-- **What is cut off a ranking.** -/
theorem isFirst_rankBy (numbers : ∀ a ∈ scored, IsNumber a.2)
    (nodup : (scored.map (·.1)).Nodup) (count : Nat) :
    IsFirst count (Outranks less) (· ∈ scored) ((rankBy less scored).take count) :=
  .take (scale.pairwise_rankBy numbers nodup) fun _ => (perm_rankBy less scored).mem_iff

/-- It does not matter in which order the scored identifiers came. -/
theorem rankBy_eq_of_perm (numbers : ∀ a ∈ scored, IsNumber a.2)
    (nodup : (scored.map (·.1)).Nodup) (perm : scored.Perm scored') :
    rankBy less scored = rankBy less scored' := by
  have numbers' : ∀ a ∈ scored', IsNumber a.2 := fun a member => numbers a (perm.mem_iff.2 member)
  have nodup' : (scored'.map (·.1)).Nodup := (perm.map _).nodup_iff.1 nodup
  have same := (perm_rankBy less scored).trans (perm.trans (perm_rankBy less scored').symm)
  refine same.eq_of_pairwise (fun a b member member' order order' => ?_)
    (scale.pairwise_rankBy numbers nodup) (scale.pairwise_rankBy numbers' nodup')
  have listed := (perm_rankBy less scored).mem_iff.1 member
  have listed' := (perm_rankBy less scored').mem_iff.1 member'
  exact absurd order' (scale.not_outranks (numbers a listed) (numbers' b listed') order)

end IsScale

end Ranking

end CodeIndex
