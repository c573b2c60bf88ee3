import CodeIndex.Proofs.Run.FullRun

/-!
# Incremental runs

An incremental run asks what has changed, removes the points of the paths that it is told, and
stores those of the changed files that are eligible.  It is more easily stopped than a full run:
checkpoints that cannot be used, a head that cannot be read, and changes that cannot be told all end
it, before it has touched the store.

## Main statements

* `Indexer.reindex_cases`: how an incremental run ends.
* `Indexer.mem_purgedPaths`: the paths whose points it removes.
-/

namespace CodeIndex

variable {σ γ : Type}

/-- The changed paths that are eligible files at a look at the surroundings. -/
def Surroundings.eligibleAt (around : Surroundings σ) (step : Nat) (changed : List String) :
    List String :=
  let tree := (around.tree step).getD WorkTree.empty
  changed.filter fun path => isEligible (IgnoreRules.load tree) path && tree.isFile path

namespace Indexer

variable {indexer : Indexer σ γ} {around : Surroundings σ} {repository : Repository}
variable {before after : Clocked (World σ γ)}

/-- **The paths whose points are removed** are the deleted and the changed ones. -/
theorem mem_purgedPaths {changes : ChangeSet} {path : String} :
    path ∈ purgedPaths changes ↔ path ∈ changes.deleted ∨ path ∈ changes.changed := by
  have general : ∀ (changed paths : List String),
      path ∈ changed.foldl
        (fun paths path => if paths.contains path then paths else paths ++ [path]) paths ↔
        path ∈ paths ∨ path ∈ changed := by
    intro changed
    induction changed with
    | nil => simp
    | cons next changed ih =>
        intro paths
        rw [List.foldl_cons, ih]
        by_cases known : next ∈ paths
        · have : path = next → path ∈ paths := fun same => same ▸ known
          simp only [List.contains_iff_mem, known, if_true, List.mem_cons]
          tauto
        · simp only [List.contains_iff_mem, known, if_false, List.mem_append, List.mem_cons,
            List.not_mem_nil, or_false]
          tauto
  exact general changes.changed changes.deleted

theorem outcome_eligibleChanges_bind {α : Type} (changed : List String)
    (next : List String → RunM σ γ α) (before : Clocked (World σ γ)) :
    (eligibleChanges around changed >>= next).outcome before =
      (next (around.eligibleAt before.state.step changed)).outcome (RunM.looked before) :=
  RunM.outcome_bind_of_ok rfl

/-- What an incremental run finds out before it starts: the head, and what has changed. -/
def findChanges (around : Surroundings σ) (repository : Repository) :
    RunM σ γ (String × ChangeSet) := do
  requireDirectory around repository
  let since ← checkpoint? around repository
  let head ← (← RunM.see around.head : Except RunError String)
  RunM.noteQuestion since
  let changes ← (← RunM.see (around.changes · since) : Except RunError ChangeSet)
  return (head, changes)

/-- What an incremental run does after its files. -/
def close (around : Surroundings σ) (repository : Repository) (head : String)
    (changes : ChangeSet) (report : Report) : RunM σ γ Report := do
  let report := { report with filesDeleted := changes.deleted.length }
  if report.cancelled then return report
  setCheckpoint around repository head
  return { report with checkpoint := some head }

theorem reindex_eq (repository : Repository) :
    indexer.reindex around repository = (do
      let (head, changes) ← findChanges around repository
      let files ← eligibleChanges around changes.changed
      let report ← indexer.run around repository files (.files (purgedPaths changes))
      close around repository head changes report) := by
  simp only [reindex, findChanges, close, bind_assoc, pure_bind]

/-- Finding out about changes leaves the store alone. -/
theorem findChanges_cases {result : Except RunError (String × ChangeSet)}
    (run : (findChanges around repository).outcome before = (result, after)) :
    after.state.store = before.state.store ∧
      ((∃ e, result = .error e ∧ (around.tree before.state.step = none ∨
          (∃ step detail, around.checkpointFailure step = some detail) ∨
          (∃ step e, around.head step = .error e) ∨
          ∃ e, around.changes (before.state.step + 3)
            (before.state.checkpoints.get? repository.name) = .error e)) ∨
        ∃ head changes, result = .ok (head, changes) ∧
          around.changes (before.state.step + 3)
            (before.state.checkpoints.get? repository.name) = .ok changes ∧
          after.state.step = before.state.step + 4 ∧
          after.state.embedder = before.state.embedder) := by
  rcases RunM.of_outcome_bind run with ⟨e, failed, rfl⟩ | ⟨⟨⟩, middle, made, rest⟩
  · obtain ⟨rfl, ⟨_, -, missing⟩ | impossible⟩ := requireDirectory_cases failed
    · exact ⟨rfl, .inl ⟨e, rfl, .inl missing⟩⟩
    · cases impossible
  obtain ⟨rfl, -⟩ := requireDirectory_cases made
  rcases RunM.of_outcome_bind rest with ⟨e, failed, rfl⟩ | ⟨since, asked, made, rest⟩
  · rcases RunM.of_outcome_bind failed with ⟨_, failed, same⟩ | ⟨_, _, _, impossible⟩
    · obtain ⟨rfl, ⟨detail, -, failure⟩ | impossible⟩ := requireCheckpoints_cases failed
      · exact ⟨rfl, .inl ⟨e, rfl, .inr (.inl ⟨_, detail, failure⟩)⟩⟩
      · cases impossible
    · cases (Prod.mk.inj impossible).1
  -- the second look was at the checkpoints, the third is at the head, the fourth at the changes
  obtain ⟨⟨⟩, looked, usable, got⟩ := RunM.of_outcome_bind_ok made
  obtain ⟨rfl, -⟩ := requireCheckpoints_cases usable
  obtain ⟨same, rfl⟩ := Prod.mk.inj got
  obtain rfl := Except.ok.inj same
  rw [RunM.outcome_see_bind] at rest
  rcases RunM.of_outcome_bind rest with ⟨e, unreadable, rfl⟩ | ⟨head, _, made, rest⟩
  · rw [RunM.outcome_liftM] at unreadable
    obtain ⟨failure, rfl⟩ := Prod.mk.inj unreadable
    exact ⟨rfl, .inl ⟨e, rfl, .inr (.inr (.inl ⟨_, e, failure⟩))⟩⟩
  rw [RunM.outcome_liftM] at made
  obtain ⟨-, rfl⟩ := Prod.mk.inj made
  obtain ⟨⟨⟩, noted, noting, rest⟩ :=
    (RunM.of_outcome_bind rest).resolve_left fun ⟨_, impossible, _⟩ => by cases impossible
  obtain ⟨-, rfl⟩ := Prod.mk.inj noting
  rw [RunM.outcome_see_bind] at rest
  rcases RunM.of_outcome_bind rest with ⟨e, unreadable, rfl⟩ | ⟨changes, _, made, rest⟩
  · rw [RunM.outcome_liftM] at unreadable
    obtain ⟨failure, rfl⟩ := Prod.mk.inj unreadable
    exact ⟨rfl, .inl ⟨e, rfl, .inr (.inr (.inr ⟨e, failure⟩))⟩⟩
  rw [RunM.outcome_liftM] at made
  obtain ⟨told, rfl⟩ := Prod.mk.inj made
  obtain ⟨rfl, rfl⟩ := Prod.mk.inj rest
  exact ⟨rfl, .inr ⟨head, changes, rfl, told, rfl, rfl⟩⟩

/-- The end of an incremental run leaves the store alone. -/
theorem close_cases {head : String} {changes : ChangeSet} {report : Report}
    {result : Except RunError Report}
    (run : (close around repository head changes report).outcome before = (result, after)) :
    after.state.store = before.state.store ∧ before.state.step ≤ after.state.step ∧
      ((∃ report, result = .ok report) ∨
        ∃ e step detail, result = .error e ∧ around.checkpointFailure step = some detail) := by
  unfold close at run
  dsimp only at run
  by_cases stop : report.cancelled
  · rw [if_pos stop] at run
    obtain ⟨rfl, rfl⟩ := Prod.mk.inj run
    exact ⟨rfl, Nat.le_refl _, .inl ⟨_, rfl⟩⟩
  rw [if_neg stop] at run
  rcases RunM.of_outcome_bind run with ⟨e, failed, rfl⟩ | ⟨⟨⟩, saved, saving, rest⟩
  · obtain ⟨same, step, ⟨detail, -, failure⟩ | impossible⟩ := setCheckpoint_cases failed
    · exact ⟨same, by omega, .inr ⟨e, _, detail, rfl, failure⟩⟩
    · cases impossible
  · obtain ⟨same, step, -⟩ := setCheckpoint_cases saving
    obtain ⟨rfl, rfl⟩ := Prod.mk.inj rest
    exact ⟨same, by omega, .inl ⟨_, rfl⟩⟩

/-- The end of an incremental run fills in the number of deleted files and a checkpoint. -/
theorem close_report {head : String} {changes : ChangeSet} {counted report : Report}
    (run : (close around repository head changes counted).outcome before = (.ok report, after)) :
    ∃ checkpoint, report = { counted with filesDeleted := changes.deleted.length, checkpoint } := by
  unfold close at run
  dsimp only at run
  by_cases stop : counted.cancelled
  · rw [if_pos stop] at run
    obtain ⟨success, -⟩ := Prod.mk.inj run
    exact ⟨_, (Except.ok.inj success).symm⟩
  · rw [if_neg stop] at run
    obtain ⟨⟨⟩, saved, -, rest⟩ := RunM.of_outcome_bind_ok run
    obtain ⟨success, -⟩ := Prod.mk.inj rest
    exact ⟨some head, (Except.ok.inj success).symm⟩

/-- **How an incremental run ends.**  It is stopped before it touches any points; or it fails while
it removes points; or it completes, and may still fail to store a checkpoint. -/
theorem reindex_cases (accepts : before.state.store.AcceptsSparse indexer.settings.collection)
    {result : Except RunError Report}
    (run : (indexer.reindex around repository).outcome before = (result, after)) :
    (before.state.store.SamePoints after.state.store ∧
        ((∃ e, result = .error e ∧ (around.tree before.state.step = none ∨
            (∃ step detail, around.checkpointFailure step = some detail) ∨
            (∃ step e, around.head step = .error e) ∨
            ∃ e, around.changes (before.state.step + 3)
              (before.state.checkpoints.get? repository.name) = .error e)) ∨
          around.isCancelled (before.state.step + 5) before.state.embedder = true)) ∨
      ∃ changes, around.changes (before.state.step + 3)
          (before.state.checkpoints.get? repository.name) = .ok changes ∧
        ((∃ e done, result = .error e ∧ ¬indexer.Unhindered around before.state.store ∧
            done <+: (PurgeScope.files (purgedPaths changes)).filters repository.name ∧
            before.state.store.Changes indexer.settings.collection (purged done)
              after.state.store) ∨
          ∃ handled, indexer.Completed around repository
              (around.eligibleAt (before.state.step + 4) changes.changed)
              (.files (purgedPaths changes)) before.state after.state handled ∧
            ((∃ report, result = .ok report) ∨
              ∃ e step detail, result = .error e ∧
                around.checkpointFailure step = some detail)) := by
  rw [reindex_eq] at run
  rcases RunM.of_outcome_bind run with ⟨e, failed, rfl⟩ | ⟨⟨head, changes⟩, told, made, rest⟩
  · obtain ⟨same, ⟨_, -, cause⟩ | ⟨_, _, impossible, -⟩⟩ := findChanges_cases failed
    · exact .inl ⟨same ▸ .refl _, .inl ⟨e, rfl, cause⟩⟩
    · cases impossible
  obtain ⟨same, ⟨_, impossible, -⟩ | ⟨_, _, success, changes_eq, step, embedder⟩⟩ :=
    findChanges_cases made
  · cases impossible
  cases success
  rw [outcome_eligibleChanges_bind, step] at rest
  -- the run starts from the store that was there, with the look after these
  have store : (RunM.looked told).state.store = before.state.store := same
  have started : before.state.step ≤ (RunM.looked told).state.step := by
    show before.state.step ≤ told.state.step + 1
    omega
  have first : (RunM.looked told).state.step = before.state.step + 5 := by
    show told.state.step + 1 = before.state.step + 5
    omega
  have accepts := store ▸ accepts
  rcases RunM.of_outcome_bind rest with ⟨e, failed, rfl⟩ | ⟨report, done, made, rest⟩
  · rcases run_cases accepts failed with
      ⟨impossible, -⟩ | ⟨_, filters, -, hindered, ordered, purge⟩ | ⟨_, -, impossible⟩
    · cases impossible
    · rw [store] at hindered purge
      exact .inr ⟨changes, changes_eq, .inl ⟨e, filters, rfl, hindered, ordered, purge⟩⟩
    · cases impossible
  obtain ⟨same', later, ending⟩ := close_cases rest
  rcases run_cases accepts made with
    ⟨-, cancelled, kept⟩ | ⟨_, _, impossible, -⟩ | ⟨handled, completed, -⟩
  · rw [first] at cancelled
    rw [store, ← same'] at kept
    exact .inl ⟨kept, .inr (embedder ▸ cancelled)⟩
  · cases impossible
  · exact .inr ⟨changes, changes_eq, .inr ⟨handled,
      completed.widen store started same' later, ending⟩⟩

end Indexer

end CodeIndex
