import CodeIndex.Proofs.Store.Points
import Mathlib.Data.List.Induction
import Mathlib.Logic.Function.Basic

/-!
# Layouts

A collection is a dictionary from identifiers to points, and says nothing about files.  A `Layout`
says which points each owner has, a file for example, as a list in the order in which they were
written.  A collection that `Reflects` a layout holds what the owners have stored, each on its own,
and nothing else.

Owners do not get in each other's way if their identifiers differ.  This is what `Apart` assumes; no
other assumption about identifiers is made.  In particular one owner may have several points under
one identifier, of which the last one is held.

## Main statements

* `Reflects.ext`: a layout determines the collection.
* `Reflects.keep`: filters that take or leave whole owners.
* `Reflects.writeAll`: a list of owners with new points, written one after the other.
-/

namespace CodeIndex

variable {κ : Type}

/-- Which points each owner has. -/
abbrev Layout (κ : Type) := κ → List Point

/-- Whether the identifiers of different owners differ. -/
def Apart (owns : κ → String → Prop) : Prop :=
  ∀ a b id, owns a id → owns b id → a = b

/-- **Whether a collection holds what its owners have stored,** and nothing else. -/
structure Reflects (owns : κ → String → Prop) (held : Dictionary PointData) (layout : Layout κ) :
    Prop where
  holds_iff : ∀ id data, held.get? id = some data ↔
    ∃ owner, (stored (layout owner)).get? id = some data
  owned : ∀ owner, ∀ point ∈ layout owner, owns owner point.id

namespace Reflects

variable {owns : κ → String → Prop} {held other : Dictionary PointData} {layout : Layout κ}

theorem empty (owns : κ → String → Prop) : Reflects owns Dictionary.empty (fun _ => []) :=
  ⟨fun id data => by simp [get?_stored], fun _ _ member => absurd member List.not_mem_nil⟩

/-- **A layout determines the collection.** -/
theorem ext (reflects : Reflects owns held layout) (reflects' : Reflects owns other layout) :
    held = other := by
  refine Dictionary.ext_get? fun id => Option.ext fun data => ?_
  rw [reflects.holds_iff, reflects'.holds_iff]

/-- Identifiers of an owner under which something is stored are its own. -/
theorem owns_of_stored (reflects : Reflects owns held layout) {owner : κ} {id : String}
    {data : PointData} (holds : (stored (layout owner)).get? id = some data) : owns owner id := by
  obtain ⟨point, member, rfl, -⟩ := exists_of_get?_stored holds
  exact reflects.owned owner point member

/-- A filter that takes or leaves all points of an owner leaves a part of the layout. -/
theorem keep (reflects : Reflects owns held layout) {keep : PointData → Bool} {kept : κ → Bool}
    (whole : ∀ owner, ∀ point ∈ layout owner, keep point.toPointData = kept owner) :
    Reflects owns (held.filter fun _ data => keep data)
      (fun owner => if kept owner then layout owner else []) := by
  refine ⟨fun id data => ?_, fun owner point member => ?_⟩
  · rw [Dictionary.get?_filter, Option.filter_eq_some_iff, reflects.holds_iff]
    constructor
    · rintro ⟨⟨owner, holds⟩, keeps⟩
      obtain ⟨point, member, -, rfl⟩ := exists_of_get?_stored holds
      rw [whole owner point member] at keeps
      exact ⟨owner, by rwa [if_pos keeps]⟩
    · rintro ⟨owner, holds⟩
      by_cases keeps : kept owner
      · rw [if_pos keeps] at holds
        obtain ⟨point, member, -, rfl⟩ := exists_of_get?_stored holds
        exact ⟨⟨owner, holds⟩, (whole owner point member).trans keeps⟩
      · rw [if_neg keeps] at holds
        cases holds
  · by_cases keeps : kept owner
    · rw [if_pos keeps] at member
      exact reflects.owned owner point member
    · rw [if_neg keeps] at member
      cases member

section Write

variable [DecidableEq κ]

/-- Points that cover all identifiers that an owner has used replace what it had. -/
theorem write (apart : Apart owns) (reflects : Reflects owns held layout) {owner : κ}
    {points : List Point} (own : ∀ point ∈ points, owns owner point.id)
    (covers : ∀ point ∈ layout owner, ∃ new ∈ points, new.id = point.id) :
    Reflects owns (written held points) (Function.update layout owner points) := by
  refine ⟨fun id data => ?_, fun other point member => ?_⟩
  · rw [get?_written_eq_or, Option.or_eq_some_iff, reflects.holds_iff]
    constructor
    · rintro (new | ⟨unwritten, other, holds⟩)
      · exact ⟨owner, by rwa [Function.update_self]⟩
      · refine ⟨other, ?_⟩
        by_cases same : other = owner
        · -- all that this owner had is written again, so this was not of it
          subst same
          obtain ⟨point, member, rfl, -⟩ := exists_of_get?_stored holds
          obtain ⟨new, listed, id⟩ := covers point member
          obtain ⟨_, there⟩ := exists_get?_stored listed
          rw [id, unwritten] at there
          cases there
        · rwa [Function.update_of_ne same]
    · rintro ⟨other, holds⟩
      by_cases same : other = owner
      · subst same
        rw [Function.update_self] at holds
        exact .inl holds
      · rw [Function.update_of_ne same] at holds
        -- the identifier is one of `other`, so the new points cannot have it
        refine .inr ⟨?_, other, holds⟩
        have mine := reflects.owns_of_stored holds
        cases unwritten : (stored points).get? id with
        | none => rfl
        | some data =>
            obtain ⟨point, member, rfl, -⟩ := exists_of_get?_stored unwritten
            exact absurd (apart _ _ _ mine (own point member)) same
  · by_cases same : other = owner
    · subst same
      rw [Function.update_self] at member
      exact own point member
    · rw [Function.update_of_ne same] at member
      exact reflects.owned other point member

variable {β : Type}

/-- **Owners that have nothing, and are given points one after the other,** have the points that
they were given, and the other owners what they had.  An owner may be given points several times, if
the identifiers are the same each time. -/
theorem writeAll (apart : Apart owns) (owner : β → κ) (points : β → List Point) {entries : List β}
    (reflects : Reflects owns held layout)
    (own : ∀ entry ∈ entries, ∀ point ∈ points entry, owns (owner entry) point.id)
    (nothing : ∀ entry ∈ entries, layout (owner entry) = [])
    (alike : ∀ first ∈ entries, ∀ second ∈ entries, owner first = owner second →
      ∀ point ∈ points first, ∃ again ∈ points second, again.id = point.id) :
    ∃ layout', Reflects owns (written held (entries.flatMap points)) layout' ∧
      ∀ k, (layout' k = layout k ∧ ∀ entry ∈ entries, owner entry ≠ k) ∨
        ∃ entry ∈ entries, owner entry = k ∧ layout' k = points entry := by
  -- from the right, because the last owner written is the one that an update shows
  induction entries using List.reverseRecOn with
  | nil =>
      exact ⟨layout, reflects,
        fun k => .inl ⟨rfl, fun _ member => absurd member List.not_mem_nil⟩⟩
  | append_singleton entries last ih =>
      obtain ⟨layout', reflects', given⟩ := ih
        (fun entry member => own entry (List.mem_append_left _ member))
        (fun entry member => nothing entry (List.mem_append_left _ member))
        (fun first member second member' => alike first (List.mem_append_left _ member) second
          (List.mem_append_left _ member'))
      have isLast : last ∈ entries ++ [last] := List.mem_append_right _ List.mem_cons_self
      refine ⟨Function.update layout' (owner last) (points last), ?_, fun k => ?_⟩
      · rw [List.flatMap_append, written_append]
        have single : [last].flatMap points = points last := List.flatMap_singleton points last
        rw [single]
        refine reflects'.write apart (own last isLast) fun point member => ?_
        rcases given (owner last) with ⟨same, -⟩ | ⟨entry, listed, same, layout_eq⟩
        · rw [same, nothing last isLast] at member
          cases member
        · rw [layout_eq] at member
          exact alike entry (List.mem_append_left _ listed) last isLast same point member
      · by_cases same : k = owner last
        · subst same
          exact .inr ⟨last, isLast, rfl, Function.update_self ..⟩
        · rw [Function.update_of_ne same]
          rcases given k with ⟨unchanged, absent⟩ | ⟨entry, listed, mine, layout_eq⟩
          · refine .inl ⟨unchanged, fun entry member => ?_⟩
            rcases List.mem_append.1 member with member | member
            · exact absent entry member
            · obtain rfl := List.mem_singleton.1 member
              exact Ne.symm same
          · exact .inr ⟨entry, List.mem_append_left _ listed, mine, layout_eq⟩

end Write

end Reflects

end CodeIndex
