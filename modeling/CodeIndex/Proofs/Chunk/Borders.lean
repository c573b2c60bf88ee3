import CodeIndex.Proofs.Chunk.Tiling
import Mathlib.Data.List.TakeWhile

/-!
# Borders between spans

`Span.normalize` keeps of the spans that it is given only the rows on which they start, and makes
each of these rows a border.  So two rows of a file stay together if and only if no span starts
behind the first one and not behind the second (`Span.together_normalize_iff`).  The rows above all
spans are an exception: they go to the first span, and the row on which that one starts is no
border.

## Main definitions

* `Span.Together`: whether two rows belong to one span.

## Main statements

* `Span.together_normalize_iff`: where a partition made of spans has its borders.
-/

namespace CodeIndex

namespace Span

/-- Whether two rows belong to one of some spans. -/
def Together (spans : List Span) (row row' : Nat) : Prop :=
  ∃ span ∈ spans, span.Contains row ∧ span.Contains row'

variable {spans : List Span} {lastRow row row' : Nat}

theorem together_cons {span : Span} :
    Together (span :: spans) row row' ↔
      span.Contains row ∧ span.Contains row' ∨ Together spans row row' := by
  simp [Together]

/-- What lies between two rows that are together is with them. -/
theorem Together.mono {a b : Nat} (together : Together spans row row')
    (inside : row ≤ a ∧ a ≤ row') (inside' : row ≤ b ∧ b ≤ row') : Together spans a b := by
  obtain ⟨span, member, ⟨start, _⟩, ⟨_, stop⟩⟩ := together
  refine ⟨span, member, ⟨?_, ?_⟩, ⟨?_, ?_⟩⟩ <;> omega

/-- Some span is kept on every row on which one starts. -/
theorem exists_start_distinctStarts {span : Span} (member : span ∈ spans)
    (sorted : spans.Pairwise fun a b => a.start ≤ b.start) :
    ∃ kept ∈ distinctStarts spans, kept.start = span.start := by
  induction spans with
  | nil => cases member
  | cons head rest ih =>
      obtain ⟨before, sorted⟩ := List.pairwise_cons.1 sorted
      rcases List.mem_cons.1 member with rfl | member
      · exact ⟨span, List.mem_cons_self, rfl⟩
      · obtain ⟨kept, there, same⟩ := ih member sorted
        by_cases equal : head.start = span.start
        · exact ⟨head, List.mem_cons_self, equal⟩
        · have later := before span member
          refine ⟨kept, List.mem_cons_of_mem _ ?_, same⟩
          -- what starts later than the head is not dropped behind it
          have split := List.takeWhile_append_dropWhile
            (p := fun other : Span => decide (other.start ≤ head.start)) (l := distinctStarts rest)
          rw [← split, List.mem_append] at there
          refine there.resolve_left fun taken => ?_
          have dropped := List.mem_takeWhile_imp taken
          simp only [decide_eq_true_eq] at dropped
          omega

/-- Spans that have been closed hold two rows together if one of them starts no later than the first
row, and none between the two. -/
theorem together_closeGaps_iff (ascending : spans.Pairwise fun a b => a.start < b.start)
    (le : row ≤ row') (inside : row' ≤ lastRow) :
    Together (closeGaps lastRow spans) row row' ↔
      (∃ span ∈ spans, span.start ≤ row) ∧
        ∀ span ∈ spans, ¬(row < span.start ∧ span.start ≤ row') := by
  induction spans with
  | nil => simp [Together, closeGaps]
  | cons span rest ih =>
      obtain ⟨before, ascending⟩ := List.pairwise_cons.1 ascending
      have ih := ih ascending
      cases rest with
      | nil =>
          simp only [closeGaps, Together, Contains, List.mem_singleton, exists_eq_left, forall_eq]
          omega
      | cons next rest =>
          have later : ∀ other ∈ next :: rest, next.start ≤ other.start := by
            intro other member
            rcases List.mem_cons.1 member with rfl | member
            · exact Nat.le_refl _
            · exact Nat.le_of_lt ((List.pairwise_cons.1 ascending).1 other member)
          have first := before next List.mem_cons_self
          show Together (_ :: closeGaps lastRow (next :: rest)) row row' ↔ _
          rw [together_cons, ih, List.exists_mem_cons_iff (a := span),
            List.forall_mem_cons (a := span)]
          constructor
          · rintro (⟨⟨start, _⟩, _, stop⟩ | ⟨⟨other, member, start⟩, none⟩)
            · have start : span.start ≤ row := start
              have stop : row' ≤ next.start - 1 := stop
              refine ⟨.inl start, by omega, fun other member cut => ?_⟩
              have := later other member
              omega
            · have := before other member
              exact ⟨.inr ⟨other, member, start⟩, by omega, none⟩
          · rintro ⟨start, _, none⟩
            by_cases beyond : next.start ≤ row
            · exact .inr ⟨⟨next, List.mem_cons_self, beyond⟩, none⟩
            · have uncut := none next List.mem_cons_self
              have start : span.start ≤ row := by
                rcases start with start | ⟨other, member, start⟩
                · exact start
                · have := later other member
                  omega
              refine .inl ⟨⟨start, ?_⟩, ⟨?_, ?_⟩⟩
              · show row ≤ next.start - 1
                omega
              · show span.start ≤ row'
                omega
              · show row' ≤ next.start - 1
                omega

/-- The first of spans that have been closed starts no later than any of them did. -/
theorem start_head?_closeGaps_le (ascending : spans.Pairwise fun a b => a.start < b.start)
    {span : Span} (member : span ∈ spans) :
    ∀ first ∈ (closeGaps lastRow spans).head?, first.start ≤ span.start := by
  cases spans with
  | nil => cases member
  | cons head rest =>
      have least : head.start ≤ span.start := by
        rcases List.mem_cons.1 member with rfl | member
        · exact Nat.le_refl _
        · exact Nat.le_of_lt ((List.pairwise_cons.1 ascending).1 span member)
      intro first there
      cases rest with
      | nil =>
          obtain rfl := Option.some.inj there
          exact least
      | cons next rest =>
          obtain rfl := Option.some.inj there
          exact least

/-- Letting the first span begin earlier makes no difference to rows that it does not come to. -/
theorem together_startAt_iff {top : Nat} (above : ∀ span ∈ spans.head?, top ≤ span.start)
    (below : ∀ span ∈ spans.head?, span.start ≤ row) (le : row ≤ row') :
    Together (startAt top spans) row row' ↔ Together spans row row' := by
  cases spans with
  | nil => rfl
  | cons span spans =>
      have above := above span rfl
      have below := below span rfl
      show Together ({ span with start := top } :: spans) row row' ↔ _
      rw [together_cons, together_cons]
      refine or_congr_left ?_
      simp only [Contains]
      omega

/-- **Where a partition made of spans has its borders.**  Two rows below the start of some span stay
together if and only if no span starts behind the first and not behind the second. -/
theorem together_normalize_iff (below : ∃ span ∈ spans, span.start ≤ row) (le : row ≤ row')
    (inside : row' ≤ lastRow) :
    Together (normalize spans lastRow) row row' ↔
      ∀ span ∈ spans, ¬(row < span.start ∧ span.start ≤ row') := by
  let kept := distinctStarts ((spans.filter (·.start ≤ lastRow)).mergeSort startsBy)
  have ascending : kept.Pairwise fun a b => a.start < b.start := ascending_kept spans lastRow
  have starts : ∀ span ∈ spans, span.start ≤ lastRow → ∃ other ∈ kept, other.start = span.start :=
    fun span member early =>
      exists_start_distinctStarts
        ((List.mergeSort_perm _ _).mem_iff.2 (List.mem_filter.2 ⟨member, by simpa using early⟩))
        (sorted_mergeSort _)
  obtain ⟨span, member, start⟩ := below
  obtain ⟨other, there, same⟩ := starts span member (by omega)
  have first : ∀ span ∈ (closeGaps lastRow kept).head?, span.start ≤ row := by
    intro first head
    have := start_head?_closeGaps_le ascending there first head
    omega
  show Together (startAt 0 (closeGaps lastRow kept)) row row' ↔ _
  rw [together_startAt_iff (fun _ _ => Nat.zero_le _) first le,
    together_closeGaps_iff ascending le inside]
  constructor
  · rintro ⟨-, none⟩ span member ⟨behind, before⟩
    obtain ⟨other, there, same⟩ := starts span member (by omega)
    exact none other there (by omega)
  · refine fun none => ⟨⟨other, there, by omega⟩, fun span member => ?_⟩
    exact none span (mem_of_mem_kept member).1

end Span

end CodeIndex
