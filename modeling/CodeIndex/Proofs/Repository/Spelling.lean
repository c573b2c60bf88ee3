import CodeIndex.Proofs.Text.Split
import CodeIndex.Repository.WorkTree

/-!
# How paths are spelled

One file can be named in many ways: with doubled slashes, with single points between them, by a
detour over the directory above.  A tree knows each entry under one spelling, the `IsCanonical` one.
Discovery respells what it finds with slashes in place of backslashes, and such a path need not be
the name of anything, or may be an uncanonical name of another file.

## Main statements

* `Path.splitOn_joinWith`: segments can be read back from a path.
* `Path.slashed_eq_self_iff`: the paths that respelling leaves as they are.
-/

namespace CodeIndex

open CodeIndex.Text

namespace Path

/-! ## Segments of a path -/

/-- Segments contain no slashes. -/
theorem slash_notMem_of_mem_segments {path segment : List Char} (member : segment ∈ segments path) :
    '/' ∉ segment := by
  intro slash
  have clean := forall_of_mem_splitFrom (fun _ listed => absurd listed List.not_mem_nil)
    (List.mem_filter.1 member).1 '/' slash
  simp at clean

/-- Segments name something. -/
theorem ne_nil_of_mem_segments {path segment : List Char} (member : segment ∈ segments path) :
    segment ≠ [] ∧ segment ≠ ['.'] := by
  have named := (List.mem_filter.1 member).2
  simpa using named

/-- **Segments can be read back** from the path that they are joined to. -/
theorem splitOn_joinWith {pieces : List (List Char)} (some : pieces ≠ [])
    (clean : ∀ piece ∈ pieces, '/' ∉ piece) :
    splitOn (· == '/') (joinWith ['/'] pieces) = pieces := by
  induction pieces with
  | nil => exact absurd rfl some
  | cons piece pieces ih =>
      have here : splitOn (· == '/') piece = [piece] := splitOn_of_clean fun c listed =>
        beq_false_of_ne fun same => clean piece List.mem_cons_self (same ▸ listed)
      cases pieces with
      | nil => exact here
      | cons next pieces =>
          have rest := ih (List.cons_ne_nil next pieces) fun piece member =>
            clean piece (List.mem_cons_of_mem _ member)
          have joined : joinWith ['/'] (piece :: next :: pieces) =
              piece ++ '/' :: joinWith ['/'] (next :: pieces) := List.append_assoc piece ['/'] _
          rw [joined]
          refine (splitOn_append_cons (by decide) _ _).trans ?_
          rw [here, rest, List.singleton_append]

/-! ## Canonical spellings -/

/-- Whether a path is spelled as trees spell the paths of their entries. -/
structure IsCanonical (path : String) : Prop where
  spelled : ofSegments (segments path.toList) = path
  named : segments path.toList ≠ []
  inside : ['.', '.'] ∉ segments path.toList

namespace IsCanonical

variable {path : String} (canonical : IsCanonical path)

include canonical

theorem toList_eq : path.toList = joinWith ['/'] (segments path.toList) := by
  have spelled := congrArg String.toList canonical.spelled
  rw [ofSegments, String.toList_ofList] at spelled
  exact spelled.symm

theorem splitOn_eq : splitOn (· == '/') path.toList = segments path.toList := by
  have joined := congrArg (splitOn (· == '/')) canonical.toList_eq
  exact joined.trans
    (splitOn_joinWith canonical.named fun _ member => slash_notMem_of_mem_segments member)

/-- A canonical path does not begin with a slash. -/
theorem head?_ne_slash : (path.toList.head? == some '/') = false := by
  rw [canonical.toList_eq]
  cases split : segments path.toList with
  | nil => exact absurd split canonical.named
  | cons segment others =>
      have member : segment ∈ segments path.toList := split ▸ List.mem_cons_self
      cases segment with
      | nil => exact absurd rfl (ne_nil_of_mem_segments member).1
      | cons c segment =>
          have other : c ≠ '/' := by
            rintro rfl
            exact slash_notMem_of_mem_segments member List.mem_cons_self
          cases others <;> simp [joinWith, other]

/-- A canonical path ends with a name. -/
theorem asksForDirectory_eq_false : asksForDirectory path.toList = false := by
  rw [asksForDirectory, canonical.splitOn_eq]
  cases last : (segments path.toList).getLast? with
  | none => rfl
  | some segment =>
      obtain ⟨some, other⟩ := ne_nil_of_mem_segments (List.mem_of_getLast? last)
      simp [some, other]

end IsCanonical

/-! ## Respelling -/

theorem toList_slashed (path : String) :
    (slashed path).toList = path.toList.map fun c => if c = '\\' then '/' else c := by
  rw [slashed, String.toList_ofList]

/-- A path that was respelled has no backslashes. -/
theorem backslash_notMem_slashed (path : String) : '\\' ∉ (slashed path).toList := by
  rw [toList_slashed, List.mem_map]
  rintro ⟨c, -, same⟩
  by_cases back : c = '\\'
  · rw [if_pos back] at same
    cases same
  · rw [if_neg back] at same
    exact back same

/-- **Respelling leaves a path as it is** if and only if it has no backslashes. -/
theorem slashed_eq_self_iff {path : String} : slashed path = path ↔ '\\' ∉ path.toList := by
  constructor
  · intro same
    rw [← same]
    exact backslash_notMem_slashed path
  · intro none
    refine String.toList_inj.1 ?_
    rw [toList_slashed]
    refine (List.map_congr_left fun c member => if_neg ?_).trans (List.map_id' _)
    rintro rfl
    exact none member

end Path

end CodeIndex
