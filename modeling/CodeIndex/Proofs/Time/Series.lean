import CodeIndex.Time.Call
import Mathlib.Algebra.BigOperators.Group.Finset.Basic

/-!
# Calls one after the other

What is tried several times is a series of calls.  Each call takes some time and decides whether
there is a next one, which begins after a pause.  A series ends with the first call that decides it,
or with the last one that is allowed; `IsLast` says which one that is, and `IsPaced` says when calls
are made.

To speak of all behaviours of the calls of a series, they are written down beforehand: a script
tells how long each call takes and what comes of it, and a request that follows the script notes the
times at which it is made.  Its state is these notes, so their number is the number of calls.

## Main definitions

* `CallScript`, `CallScript.request`
* `IsLast`, `IsEarliest`
* `IsPaced`

## Main statements

* `IsLast.eq_min`: the last call is the deciding one, if that is allowed.
* `isPaced_beginnings`, `beginning_eq`: when calls begin, step by step and all in all.
-/

namespace CodeIndex

variable {α : Type}

/-- A call as it is written down: how long it takes when nobody gives it up, and what comes of
it. -/
structure ScriptedCall (α : Type) where
  duration : Nat
  result : α

/-- What is written down about the calls of a series, by their numbers; calls count from one. -/
abbrev CallScript (α : Type) := Nat → ScriptedCall α

/-- The request whose calls go as it is written.  It notes when they are made, also if they are
given up. -/
def CallScript.request (script : CallScript α) : Request (List Nat) α := fun now starts =>
  let call := script (starts.length + 1)
  ⟨call.duration, call.result, starts ++ [now], fun _ => starts ++ [now]⟩

/-! ## The last call of a series -/

/-- Whether a call is the first one that decides a series. -/
structure IsEarliest (Decides : Nat → Prop) (call : Nat) : Prop where
  one_le : 1 ≤ call
  decides : Decides call
  undecided : ∀ earlier, 1 ≤ earlier → earlier < call → ¬Decides earlier

/-- Whether a call is the last one of a series that begins with call `first`, if `further` calls may
follow that one: it decides the series, or no other is allowed. -/
structure IsLast (Decides : Nat → Prop) (first further last : Nat) : Prop where
  first_le : first ≤ last
  le_add : last ≤ first + further
  undecided : ∀ call, first ≤ call → call < last → ¬Decides call
  decides_or : Decides last ∨ last = first + further

namespace IsLast

variable {Decides : Nat → Prop} {first further budget last call : Nat}

theorem single : IsLast Decides first 0 first where
  first_le := le_refl _
  le_add := le_refl _
  undecided _ above below := absurd below (Nat.not_lt.2 above)
  decides_or := .inr rfl

theorem here (decides : Decides first) : IsLast Decides first further first where
  first_le := le_refl _
  le_add := Nat.le_add_right _ _
  undecided _ above below := absurd below (Nat.not_lt.2 above)
  decides_or := .inl decides

theorem later (undecided : ¬Decides first) (rest : IsLast Decides (first + 1) further last) :
    IsLast Decides first (further + 1) last where
  first_le := Nat.le_of_succ_le rest.first_le
  le_add := by
    have := rest.le_add
    omega
  undecided call above below := by
    rcases Nat.eq_or_lt_of_le above with rfl | above
    · exact undecided
    · exact rest.undecided call above below
  decides_or := rest.decides_or.imp_right fun last => by omega

/-- **The last call is the first one that decides, if so many are allowed.** -/
theorem eq_min (series : IsLast Decides 1 (budget - 1) last) (some : 1 ≤ budget)
    (earliest : IsEarliest Decides call) : last = min call budget := by
  have bound := series.le_add
  rcases Nat.lt_trichotomy last call with before | rfl | behind
  · have whole := series.decides_or.resolve_left (earliest.undecided last series.first_le before)
    omega
  · omega
  · exact absurd earliest.decides (series.undecided call earliest.one_le behind)

/-- Without a call that decides, as many are made as are allowed. -/
theorem eq_budget (series : IsLast Decides 1 (budget - 1) last) (some : 1 ≤ budget)
    (undecided : ∀ call, 1 ≤ call → call ≤ budget → ¬Decides call) : last = budget := by
  have bound := series.le_add
  have whole := series.decides_or.resolve_left (undecided last series.first_le (by omega))
  omega

end IsLast

/-! ## When calls are made -/

variable {now : Nat} {duration pause : Nat → Nat}

/-- When a call begins, by the number of calls before it: the first one at once, and each further
one when the one before it is over and a pause was made. -/
def beginning (now : Nat) (duration pause : Nat → Nat) : Nat → Nat
  | 0 => now
  | before + 1 =>
    beginning now duration pause before + duration (before + 1) + pause (before + 1)

/-- When the first calls begin. -/
def beginnings (now : Nat) (duration pause : Nat → Nat) (calls : Nat) : List Nat :=
  (List.range calls).map (beginning now duration pause)

@[simp] theorem length_beginnings (calls : Nat) :
    (beginnings now duration pause calls).length = calls := by
  simp [beginnings]

theorem beginnings_succ (calls : Nat) : beginnings now duration pause (calls + 1) =
    beginnings now duration pause calls ++ [beginning now duration pause calls] := by
  simp [beginnings, List.range_succ]

/-- A call begins when all calls before it and the pauses after them are over. -/
theorem beginning_eq (before : Nat) : beginning now duration pause before =
    now + ∑ call ∈ Finset.range before, duration (call + 1) +
      ∑ call ∈ Finset.range before, pause (call + 1) := by
  induction before with
  | zero => simp [beginning]
  | succ before ih =>
      rw [beginning, ih, Finset.sum_range_succ, Finset.sum_range_succ]
      omega

/-- **Whether calls are made one after the other.**  The first one begins at once, each further one
when the one before it is over and the pause after it was made, and nothing follows the last one. -/
structure IsPaced (now : Nat) (duration pause : Nat → Nat) (starts : List Nat) (finish : Nat) :
    Prop where
  first : starts.head? = some now
  next : ∀ before (further : before + 1 < starts.length),
    starts[before + 1] = starts[before] + duration (before + 1) + pause (before + 1)
  last : ∃ start, starts.getLast? = some start ∧ finish = start + duration starts.length

theorem isPaced_beginnings (now : Nat) (duration pause : Nat → Nat) (before : Nat) :
    IsPaced now duration pause (beginnings now duration pause (before + 1))
      (beginning now duration pause before + duration (before + 1)) where
  first := by simp [beginnings, List.range_succ_eq_map, beginning]
  next call further := by simp [beginnings, beginning]
  last := ⟨_, by rw [beginnings_succ, List.getLast?_concat], by rw [length_beginnings]⟩

end CodeIndex
