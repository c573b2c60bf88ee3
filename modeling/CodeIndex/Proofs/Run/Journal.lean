import CodeIndex.Proofs.Run.Embedding
import CodeIndex.Proofs.Run.IncrementalRun

/-!
# Journals of runs

A report counts what a run has done, and the store that a run leaves does not say how it came about.
So what a run does is written down while it goes on: a `Journaled` computation is a computation
together with its journal, the deeds that it has done by the time it ends.  A deed is written down
behind the request that it is about, and only if that has succeeded.

The journal is for looking on: `computation_journaledReindex` says that a run with a journal is the
run.  A sequence keeps the journals of its parts one behind the other, as far as it gets
(`Journaled.of_course_bind`).

## Main definitions

* `Deed`: what runs do.
* `Journaled`, `Journaled.course`
* `Indexer.journaledRun`, `Indexer.journaledReindex`: runs with journals.

## Main statements

* `Journaled.of_course_bind`: the journal of a sequence.
* `Indexer.computation_journaledReindex`: without its journal, it is the run.
-/

namespace CodeIndex

/-- Something that a run has done. -/
inductive Deed where
  /-- The points that a filter accepts were removed. -/
  | removed (filter : Filter)
  /-- The steps of a file were begun. -/
  | began (path : String)
  /-- A batch of points was stored. -/
  | stored (points : List Point)
  /-- A file was left out, with a message. -/
  | gaveUp (path message : String)

/-- A computation, and what it has done by the time it ends. -/
structure Journaled (σ γ α : Type) where
  computation : RunM σ γ α
  journal : Clocked (World σ γ) → List Deed

variable {σ γ α β : Type}

namespace Journaled

/-- A sequence goes on with its second part, and its journal, if the first part succeeds. -/
instance : Monad (Journaled σ γ) where
  pure a := ⟨pure a, fun _ => []⟩
  bind first next :=
    ⟨first.computation >>= fun a => (next a).computation, fun before =>
      first.journal before ++
        match first.computation.outcome before with
        | (.ok a, middle) => (next a).journal middle
        | (.error _, _) => []⟩

/-- A computation of which nothing is written down. -/
def silent (computation : RunM σ γ α) : Journaled σ γ α := ⟨computation, fun _ => []⟩

/-- Writes down a deed. -/
def note (deed : Deed) : Journaled σ γ Unit := ⟨pure (), fun _ => [deed]⟩

/-- A computation whose failure is its result. -/
def caught (journaled : Journaled σ γ α) : Journaled σ γ (Except RunError α) :=
  ⟨journaled.computation.caught, journaled.journal⟩

/-! ### Leaving out the journal -/

@[simp] theorem computation_pure (a : α) : (pure a : Journaled σ γ α).computation = pure a := rfl

@[simp] theorem computation_bind (first : Journaled σ γ α) (next : α → Journaled σ γ β) :
    (first >>= next).computation = first.computation >>= fun a => (next a).computation := rfl

@[simp] theorem computation_silent (computation : RunM σ γ α) :
    (silent computation).computation = computation := rfl

@[simp] theorem computation_note (deed : Deed) :
    (note deed : Journaled σ γ Unit).computation = pure () := rfl

@[simp] theorem computation_caught (journaled : Journaled σ γ α) :
    journaled.caught.computation = journaled.computation.caught := rfl

@[simp] theorem computation_ite {p : Prop} [Decidable p] (yes no : Journaled σ γ α) :
    (if p then yes else no).computation = if p then yes.computation else no.computation := by
  split <;> rfl

theorem computation_forM (f : α → Journaled σ γ PUnit) (items : List α) :
    (items.forM f).computation = items.forM fun a => (f a).computation := by
  induction items with
  | nil => rfl
  | cons a items ih => exact congrArg ((f a).computation >>= fun _ => ·) ih

theorem computation_mapM' (f : α → Journaled σ γ β) (items : List α) :
    (items.mapM' f).computation = items.mapM fun a => (f a).computation := by
  rw [← List.mapM'_eq_mapM]
  induction items with
  | nil => rfl
  | cons a items ih => simp [List.mapM', ih]

/-! ### What becomes of a computation with its journal -/

variable {journaled : Journaled σ γ α} {next : α → Journaled σ γ β}
variable {before after : Clocked (World σ γ)} {deeds : List Deed}

/-- What a computation comes to, what it leaves behind, and what it has done. -/
def course (journaled : Journaled σ γ α) (before : Clocked (World σ γ)) :
    (Except RunError α × Clocked (World σ γ)) × List Deed :=
  (journaled.computation.outcome before, journaled.journal before)

/-- **The journal of a sequence** is that of its first part if this failed, and otherwise has the
journal of the second part behind it. -/
theorem of_course_bind {result : Except RunError β}
    (whole : (journaled >>= next).course before = ((result, after), deeds)) :
    (∃ e, journaled.course before = ((.error e, after), deeds) ∧ result = .error e) ∨
      ∃ a middle early late, journaled.course before = ((.ok a, middle), early) ∧
        (next a).course middle = ((result, after), late) ∧ deeds = early ++ late := by
  obtain ⟨outcome, written⟩ := Prod.mk.inj whole
  rcases RunM.of_outcome_bind outcome with ⟨e, failed, rfl⟩ | ⟨a, middle, made, rest⟩
  · refine .inl ⟨e, Prod.ext failed ?_, rfl⟩
    rw [← written]
    simp only [course, bind, failed, List.append_nil]
  · refine .inr ⟨a, middle, journaled.journal before, (next a).journal middle,
      Prod.ext made rfl, Prod.ext rest rfl, ?_⟩
    rw [← written]
    simp only [bind, made]

/-- The journal of a sequence that succeeds. -/
theorem of_course_bind_ok {b : β}
    (whole : (journaled >>= next).course before = ((.ok b, after), deeds)) :
    ∃ a middle early late, journaled.course before = ((.ok a, middle), early) ∧
      (next a).course middle = ((.ok b, after), late) ∧ deeds = early ++ late := by
  rcases of_course_bind whole with ⟨e, -, impossible⟩ | both
  · cases impossible
  · exact both

theorem of_course_pure {a : α} {result : Except RunError α}
    (course : (pure a : Journaled σ γ α).course before = ((result, after), deeds)) :
    result = .ok a ∧ after = before ∧ deeds = [] := by
  obtain ⟨outcome, rfl⟩ := Prod.mk.inj course
  obtain ⟨rfl, rfl⟩ := Prod.mk.inj outcome
  exact ⟨rfl, rfl, rfl⟩

/-- Nothing is written down about a silent computation. -/
theorem of_course_silent {computation : RunM σ γ α} {result : Except RunError α}
    (course : (silent computation).course before = ((result, after), deeds)) :
    computation.outcome before = (result, after) ∧ deeds = [] := by
  obtain ⟨outcome, rfl⟩ := Prod.mk.inj course
  exact ⟨outcome, rfl⟩

/-- A note stands in front of what follows. -/
theorem of_course_note_bind {deed : Deed} {next : Unit → Journaled σ γ β}
    {result : Except RunError β}
    (course : (note deed >>= next).course before = ((result, after), deeds)) :
    ∃ late, (next ()).course before = ((result, after), late) ∧ deeds = deed :: late := by
  rcases of_course_bind course with ⟨e, impossible, -⟩ | ⟨⟨⟩, _, _, late, noted, rest, rfl⟩
  · cases (Prod.mk.inj (Prod.mk.inj impossible).1).1
  · obtain ⟨outcome, rfl⟩ := Prod.mk.inj noted
    obtain ⟨-, rfl⟩ := Prod.mk.inj outcome
    exact ⟨late, rest, rfl⟩

/-- A computation whose failure is its result goes on with it. -/
theorem of_course_caught_bind {next : Except RunError α → Journaled σ γ β}
    {result : Except RunError β}
    (course : (journaled.caught >>= next).course before = ((result, after), deeds)) :
    ∃ answer middle early late, journaled.course before = ((answer, middle), early) ∧
      (next answer).course middle = ((result, after), late) ∧ deeds = early ++ late := by
  rcases of_course_bind course with ⟨e, impossible, -⟩ | ⟨answer, middle, early, late, made, both⟩
  · cases (Prod.mk.inj (Prod.mk.inj impossible).1).1
  · obtain ⟨outcome, rfl⟩ := Prod.mk.inj made
    obtain ⟨same, rfl⟩ := Prod.mk.inj outcome
    obtain rfl := Except.ok.inj same
    exact ⟨_, _, _, late, rfl, both⟩

/-- A note behind a computation is there if it succeeds. -/
theorem of_course_noted {computation : RunM σ γ α} {deed : α → Deed} {result : Except RunError α}
    (course : (do
      let a ← silent computation
      note (deed a)
      return a).course before = ((result, after), deeds)) :
    computation.outcome before = (result, after) ∧
      ((∃ e, result = .error e) ∧ deeds = [] ∨ ∃ a, result = .ok a ∧ deeds = [deed a]) := by
  rcases of_course_bind course with ⟨e, failed, rfl⟩ | ⟨a, middle, _, _, made, rest, rfl⟩
  · obtain ⟨outcome, none⟩ := of_course_silent failed
    exact ⟨outcome, .inl ⟨⟨e, rfl⟩, none⟩⟩
  · obtain ⟨outcome, rfl⟩ := of_course_silent made
    obtain ⟨_, ending, rfl⟩ := of_course_note_bind rest
    obtain ⟨rfl, rfl, rfl⟩ := of_course_pure ending
    exact ⟨outcome, .inr ⟨a, rfl, rfl⟩⟩

end Journaled

/-! ## Runs with journals -/

namespace Indexer

open Journaled

variable (indexer : Indexer σ γ) (around : Surroundings σ)

/-- Removes points, and writes down which. -/
def journaledPurge (repository : Repository) (scope : PurgeScope) : Journaled σ γ Unit :=
  (scope.filters repository.name).forM fun filter => do
    silent <| retried indexer.settings.storePolicy "delete" <| storeRequest around fun store =>
      store.delete indexer.settings.collection filter
    note (.removed filter)

/-- Indexes a file, and writes down the points that were stored. -/
def journaledIndexFile (repository : Repository) (path : String) : Journaled σ γ (Nat × Nat) := do
  match ← silent (indexer.embedFile around path) with
  | none => return (0, 0)
  | some (described, vectors) =>
    if vectors.length = described.length then
      let points := FilePoints.points repository.name path described vectors
      let counts ← silent (indexer.storePoints around described points)
      note (.stored points)
      return counts
    else silent (throw (.provider (.batchMismatch described.length vectors.length)))

/-- Takes a file through its steps, and writes down that it was begun and whether it was left
out. -/
def journaledFile (repository : Repository) (path : String) : Journaled σ γ FileOutcome := do
  if ← silent (isCancelled around) then return .notStarted
  note (.began path)
  match ← (indexer.journaledIndexFile around repository path).caught with
  | .ok (chunks, undescribed) => return .indexed chunks undescribed
  | .error e =>
    note (.gaveUp path e.message)
    return .skipped path e.message

/-- Gets the collection ready and removes what is in scope. -/
def journaledMakeRoom (repository : Repository) (files : List String) (scope : PurgeScope) :
    Journaled σ γ Unit := do
  if ← silent (indexer.isReady around files) then indexer.journaledPurge around repository scope

/-- A run over some files with its journal. -/
def journaledRun (repository : Repository) (files : List String) (scope : PurgeScope) :
    Journaled σ γ Report := do
  if ← silent (isCancelled around) then return { cancelled := true }
  indexer.journaledMakeRoom around repository files scope
  let outcomes ← (around.order files).mapM' (indexer.journaledFile around repository)
  return .ofOutcomes outcomes

/-- An incremental run with its journal. -/
def journaledReindex (repository : Repository) : Journaled σ γ Report := do
  let (head, changes) ← silent (findChanges around repository)
  let files ← silent (eligibleChanges around changes.changed)
  let report ← indexer.journaledRun around repository files (.files (purgedPaths changes))
  silent (close around repository head changes report)

variable {indexer around}

theorem computation_journaledPurge (repository : Repository) (scope : PurgeScope) :
    (indexer.journaledPurge around repository scope).computation =
      indexer.purge around repository scope := by
  rw [journaledPurge, computation_forM, purge]
  simp only [computation_bind, computation_silent, computation_note, bind_pure_unit]

theorem computation_journaledIndexFile (repository : Repository) (path : String) :
    (indexer.journaledIndexFile around repository path).computation =
      indexer.indexFile around repository path := by
  rw [indexFile_eq, journaledIndexFile, computation_bind, computation_silent]
  congr 1
  funext embedded
  match embedded with
  | none => rfl
  | some (described, vectors) => simp [storeFile]

theorem computation_journaledFile (repository : Repository) (path : String) :
    (indexer.journaledFile around repository path).computation =
      indexer.processFile around repository path := by
  unfold journaledFile processFile
  rw [computation_bind, computation_silent]
  congr 1
  funext stop
  cases stop with
  | true => rfl
  | false =>
      simp only [Bool.false_eq_true, if_false, computation_bind, computation_note, pure_bind,
        computation_caught, computation_journaledIndexFile]
      congr 1
      funext result
      cases result <;> rfl

theorem computation_journaledMakeRoom (repository : Repository) (files : List String)
    (scope : PurgeScope) :
    (indexer.journaledMakeRoom around repository files scope).computation =
      indexer.makeRoom around repository files scope := by
  unfold journaledMakeRoom makeRoom
  rw [computation_bind, computation_silent]
  congr 1
  funext ready
  cases ready with
  | true => exact computation_journaledPurge repository scope
  | false => rfl

theorem computation_journaledRun (repository : Repository) (files : List String)
    (scope : PurgeScope) :
    (indexer.journaledRun around repository files scope).computation =
      indexer.run around repository files scope := by
  rw [run_eq, journaledRun, computation_bind, computation_silent]
  congr 1
  funext stop
  cases stop with
  | true => rfl
  | false =>
      simp only [Bool.false_eq_true, if_false, computation_bind, computation_journaledMakeRoom,
        computation_mapM', computation_journaledFile]
      rfl

/-- **Without its journal, it is the run.** -/
theorem computation_journaledReindex (repository : Repository) :
    (indexer.journaledReindex around repository).computation =
      indexer.reindex around repository := by
  rw [reindex_eq]
  simp only [journaledReindex, computation_bind, computation_silent, computation_journaledRun]

end Indexer

end CodeIndex
