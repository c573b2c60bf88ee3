import CodeIndex.Command.Action
import CodeIndex.Proofs.Run.IncrementalRun

/-!
# Checkpoints

The checkpoint of a repository decides what the next incremental run looks at.  If it moves too far,
changes are lost; if it does not move, they are done again.  A run moves it to the commit that it
brings (`Indexer.commit?`): the head that it read, provided that it ended well, was not cancelled,
could store a checkpoint, and, if it was a full run, had files to index.  A run that brings no
commit leaves all checkpoints as they are, and no run touches the checkpoint of another repository.

Runs read the head before their files and store the checkpoint after them.  Looks are numbered, so
both are told by their numbers: the head is the third look of a run, and whether a checkpoint could
be stored is decided at the last one.

An incremental run asks for the changes since the stored checkpoint and for no others.  This is said
of the run, not of what it writes down: with other answers to all other questions it is the same
run.

## Main definitions

* `Indexer.commit?`: the commit that a run brings.
* `Indexer.ChecksIn`: what a run does to checkpoints.
* `CheckpointHistory`: the checkpoints that runs can leave, with the commits that they brought.

## Main statements

* `Indexer.perform_checksIn`: what one run does to checkpoints.
* `CheckpointHistory.disciplined`: what any sequence of runs does to them.
-/

namespace CodeIndex

variable {σ γ : Type}

theorem Report.checkpoint_ofOutcomes (outcomes : List FileOutcome) :
    (Report.ofOutcomes outcomes).checkpoint = none := by
  have general : ∀ report : Report,
      (outcomes.foldl Report.add report).checkpoint = report.checkpoint := by
    induction outcomes with
    | nil => exact fun _ => rfl
    | cons outcome outcomes ih =>
        intro report
        rw [List.foldl_cons, ih]
        cases outcome <;> rfl
  exact general {}

/-- Surroundings in which questions about changes have other answers. -/
def Surroundings.answering (around : Surroundings σ)
    (changes : Nat → Option String → Except RunError ChangeSet) : Surroundings σ :=
  { around with changes }

namespace Indexer

variable (indexer : Indexer σ γ) (around : Surroundings σ) (repository : Repository)

/-- The run of a mode. -/
def perform [Walk] : RunMode → RunM σ γ Report
  | .full => indexer.index around repository
  | .incremental => indexer.reindex around repository

/-- **The commit that a run brings:** the head that it read, if it ended well, was not cancelled,
could store a checkpoint, and, as a full run, found files. -/
def commit? [Walk] (mode : RunMode) (start : Clocked (World σ γ)) : Option String :=
  match (indexer.perform around repository mode).outcome start with
  | (.error _, _) => none
  | (.ok report, after) =>
    if report.cancelled ∨ around.checkpointFailure (after.state.step - 1) ≠ none ∨
        mode = .full ∧ around.discoveredAt (start.state.step + 1) = [] then none
    else (around.head (start.state.step + 2)).toOption

variable {indexer around repository} {before after : Clocked (World σ γ)}

/-! ## The parts of a run -/

/-- What full and incremental runs share has no business with checkpoints. -/
theorem isOnward_run (files : List String) (scope : PurgeScope) :
    (indexer.run around repository files scope).IsOnward := by
  rw [run_eq]
  refine (isOnward_isCancelled around).bind fun cancelled => ?_
  split
  · exact RunM.isOnward_pure _
  · refine (isOnward_makeRoom repository files scope).bind fun _ => ?_
    exact (RunM.isOnward_mapM (isOnward_processFile indexer around repository) _).bind fun _ =>
      RunM.isOnward_pure _

theorem run_checkpoint_eq_none {files : List String} {scope : PurgeScope} {report : Report}
    (run : (indexer.run around repository files scope).outcome before = (.ok report, after)) :
    report.checkpoint = none := by
  rw [run_eq] at run
  obtain ⟨cancelled, middle, -, rest⟩ := RunM.of_outcome_bind_ok run
  cases cancelled with
  | true =>
      obtain ⟨success, -⟩ := Prod.mk.inj rest
      obtain rfl := Except.ok.inj success
      rfl
  | false =>
      obtain ⟨-, ready, -, rest⟩ := RunM.of_outcome_bind_ok rest
      obtain ⟨outcomes, last, -, rest⟩ := RunM.of_outcome_bind_ok rest
      obtain ⟨success, -⟩ := Prod.mk.inj rest
      obtain rfl := Except.ok.inj success
      exact Report.checkpoint_ofOutcomes outcomes

/-- The clock and world after a checkpoint was stored. -/
def saved (repository : Repository) (commit : String) (clocked : Clocked (World σ γ)) :
    Clocked (World σ γ) :=
  { clocked with state :=
    { clocked.state with
      step := clocked.state.step + 1
      checkpoints := clocked.state.checkpoints.insert repository.name commit } }

theorem outcome_requireDirectory (around : Surroundings σ) (repository : Repository)
    (before : Clocked (World σ γ)) :
    (requireDirectory around repository).outcome before =
      (if (around.tree before.state.step).isNone then
        .error (.repositoryNotFound repository.path) else .ok (), RunM.looked before) := by
  rw [requireDirectory, RunM.outcome_see_bind]
  cases around.tree before.state.step <;> rfl

theorem outcome_requireCheckpoints (around : Surroundings σ) (before : Clocked (World σ γ)) :
    (requireCheckpoints around).outcome before =
      (match around.checkpointFailure before.state.step with
        | some detail => .error (.checkpoint detail)
        | none => .ok (), RunM.looked before) := by
  rw [requireCheckpoints, RunM.outcome_see_bind]
  cases around.checkpointFailure before.state.step <;> rfl

/-- Storing a checkpoint works unless the surroundings let it fail. -/
theorem outcome_setCheckpoint (around : Surroundings σ) (repository : Repository) (commit : String)
    (before : Clocked (World σ γ)) :
    (setCheckpoint around repository commit).outcome before =
      match around.checkpointFailure before.state.step with
      | some detail => (.error (.checkpoint detail), RunM.looked before)
      | none => (.ok (), saved repository commit before) := by
  have required := outcome_requireCheckpoints around before
  cases failure : around.checkpointFailure before.state.step with
  | some detail =>
      rw [failure] at required
      exact RunM.outcome_bind_of_error required
  | none =>
      rw [failure] at required
      exact RunM.outcome_bind_of_ok required

/-- The end of a full run stores the head if there is one to store, and says so. -/
theorem finish_checkpoint {head : Except RunError String} {report : Report}
    {result : Except RunError Report} (fresh : report.checkpoint = none)
    (run : (finish around repository head report).outcome before = (result, after)) :
    after.state.asked = before.state.asked ∧
      ∃ report', result = .ok report' ∧ report'.cancelled = report.cancelled ∧
        ((report'.checkpoint = none ∧ after.state.checkpoints = before.state.checkpoints ∧
            (report.cancelled = true ∨ (∃ e, head = .error e) ∨
              around.checkpointFailure (after.state.step - 1) ≠ none)) ∨
          ∃ commit, head = .ok commit ∧ report.cancelled = false ∧
            around.checkpointFailure (after.state.step - 1) = none ∧
            report'.checkpoint = some commit ∧
            after.state.checkpoints =
              before.state.checkpoints.insert repository.name commit) := by
  unfold finish at run
  by_cases stop : report.cancelled = true
  · rw [if_pos stop] at run
    obtain ⟨rfl, rfl⟩ := Prod.mk.inj run
    exact ⟨rfl, report, rfl, rfl, .inl ⟨fresh, rfl, .inl stop⟩⟩
  rw [if_neg stop] at run
  cases head with
  | error e =>
      obtain ⟨rfl, rfl⟩ := Prod.mk.inj run
      exact ⟨rfl, report, rfl, rfl, .inl ⟨fresh, rfl, .inr (.inl ⟨e, rfl⟩)⟩⟩
  | ok commit =>
      dsimp only at run
      rw [RunM.outcome_caught_bind, outcome_setCheckpoint] at run
      cases failure : around.checkpointFailure before.state.step with
      | some detail =>
          rw [failure] at run
          obtain ⟨rfl, rfl⟩ := Prod.mk.inj run
          refine ⟨rfl, _, rfl, rfl, .inl ⟨fresh, rfl, .inr (.inr ?_)⟩⟩
          show around.checkpointFailure before.state.step ≠ none
          rw [failure]
          exact Option.some_ne_none detail
      | none =>
          rw [failure] at run
          obtain ⟨rfl, rfl⟩ := Prod.mk.inj run
          exact ⟨rfl, _, rfl, rfl, .inr ⟨commit, rfl, Bool.eq_false_iff.2 stop, failure, rfl, rfl⟩⟩

/-- The clock and world after a question about changes was asked and answered. -/
def questioned (repository : Repository) (clocked : Clocked (World σ γ)) :
    Clocked (World σ γ) :=
  { clocked with state :=
    { clocked.state with
      step := clocked.state.step + 4
      asked := clocked.state.asked ++ [clocked.state.checkpoints.get? repository.name] } }

/-- **What an incremental run finds out before it starts,** look by look. -/
theorem outcome_findChanges (around : Surroundings σ) (repository : Repository)
    (before : Clocked (World σ γ)) :
    (findChanges around repository).outcome before =
      if (around.tree before.state.step).isNone then
        (.error (.repositoryNotFound repository.path), RunM.looked before)
      else
        match around.checkpointFailure (before.state.step + 1), around.head (before.state.step + 2)
        with
        | some detail, _ => (.error (.checkpoint detail), RunM.looked (RunM.looked before))
        | none, .error e => (.error e, RunM.looked (RunM.looked (RunM.looked before)))
        | none, .ok head =>
          ((around.changes (before.state.step + 3)
            (before.state.checkpoints.get? repository.name)).map (head, ·),
            questioned repository before) := by
  have there := outcome_requireDirectory around repository before
  unfold findChanges
  by_cases missing : (around.tree before.state.step).isNone
  · rw [if_pos missing] at there ⊢
    exact RunM.outcome_bind_of_error there
  rw [if_neg missing] at there ⊢
  rw [RunM.outcome_bind_of_ok there]
  have usable := outcome_requireCheckpoints around (RunM.looked before)
  have step : (RunM.looked before).state.step = before.state.step + 1 := rfl
  rw [step] at usable
  cases failure : around.checkpointFailure (before.state.step + 1) with
  | some detail =>
      rw [failure] at usable
      exact RunM.outcome_bind_of_error (RunM.outcome_bind_of_error usable)
  | none =>
      rw [failure] at usable
      have since : (checkpoint? around repository).outcome (RunM.looked before) =
          (.ok (before.state.checkpoints.get? repository.name),
            RunM.looked (RunM.looked before)) := RunM.outcome_bind_of_ok usable
      rw [RunM.outcome_bind_of_ok since, RunM.outcome_see_bind]
      have step : (RunM.looked (RunM.looked before)).state.step = before.state.step + 2 := rfl
      rw [step]
      cases around.head (before.state.step + 2) with
      | error e => rfl
      | ok head =>
          show RunM.outcome (do
            let changes ← (← RunM.see (around.changes ·
              (before.state.checkpoints.get? repository.name)) : Except RunError ChangeSet)
            return (head, changes)) _ = _
          rw [RunM.outcome_see_bind]
          show RunM.outcome (liftM (around.changes (before.state.step + 3)
            (before.state.checkpoints.get? repository.name)) >>= _) _ = _
          cases around.changes (before.state.step + 3) _ <;> rfl

/-- The end of an incremental run stores the head, or fails. -/
theorem close_checkpoint {head : String} {changes : ChangeSet} {report : Report}
    {result : Except RunError Report} (fresh : report.checkpoint = none)
    (run : (close around repository head changes report).outcome before = (result, after)) :
    after.state.asked = before.state.asked ∧
      ((after.state.checkpoints = before.state.checkpoints ∧
          ((∃ e, result = .error e) ∨ ∃ report', result = .ok report' ∧ report'.cancelled = true ∧
            report'.checkpoint = none)) ∨
        ∃ report', result = .ok report' ∧ report'.cancelled = false ∧
          around.checkpointFailure (after.state.step - 1) = none ∧
          report'.checkpoint = some head ∧
          after.state.checkpoints = before.state.checkpoints.insert repository.name head) := by
  unfold close at run
  dsimp only at run
  by_cases stop : report.cancelled = true
  · rw [if_pos stop] at run
    obtain ⟨rfl, rfl⟩ := Prod.mk.inj run
    exact ⟨rfl, .inl ⟨rfl, .inr ⟨_, rfl, stop, fresh⟩⟩⟩
  rw [if_neg stop] at run
  have saving := outcome_setCheckpoint around repository head before
  cases failure : around.checkpointFailure before.state.step with
  | some detail =>
      rw [failure] at saving
      obtain ⟨rfl, rfl⟩ := Prod.mk.inj ((RunM.outcome_bind_of_error saving).symm.trans run)
      exact ⟨rfl, .inl ⟨rfl, .inl ⟨_, rfl⟩⟩⟩
  | none =>
      rw [failure] at saving
      obtain ⟨rfl, rfl⟩ := Prod.mk.inj ((RunM.outcome_bind_of_ok saving).symm.trans run)
      exact ⟨rfl, .inr ⟨_, rfl, Bool.eq_false_iff.2 stop, failure, rfl, rfl⟩⟩

/-! ## What one run does -/

theorem commit?_of_error [Walk] {mode : RunMode} {e : RunError}
    (run : (indexer.perform around repository mode).outcome before = (.error e, after)) :
    indexer.commit? around repository mode before = none := by
  rw [commit?, run]

theorem commit?_of_ok [Walk] {mode : RunMode} {report : Report}
    (run : (indexer.perform around repository mode).outcome before = (.ok report, after)) :
    indexer.commit? around repository mode before =
      if report.cancelled ∨ around.checkpointFailure (after.state.step - 1) ≠ none ∨
          mode = .full ∧ around.discoveredAt (before.state.step + 1) = [] then none
      else (around.head (before.state.step + 2)).toOption := by
  rw [commit?, run]

/-- **What one run does to checkpoints,** told by the commit that it brings. -/
structure ChecksIn [Walk] (indexer : Indexer σ γ) (around : Surroundings σ)
    (repository : Repository) (mode : RunMode) (start : Clocked (World σ γ))
    (result : Except RunError Report) (after : Clocked (World σ γ)) : Prop where
  /-- The commit is stored; without one all checkpoints stay as they are. -/
  stored : after.state.checkpoints =
    (indexer.commit? around repository mode start).elim start.state.checkpoints
      (start.state.checkpoints.insert repository.name)
  /-- The report tells which commit it was. -/
  reported : ∀ report, result = .ok report →
    report.checkpoint = indexer.commit? around repository mode start
  /-- A full run asks for no changes. -/
  asked_full : mode = .full → after.state.asked = start.state.asked
  /-- An incremental run asks for those since the stored checkpoint, unless it fails before. -/
  asked_incremental : mode = .incremental →
    after.state.asked =
        start.state.asked ++ [start.state.checkpoints.get? repository.name] ∨
      after.state.asked = start.state.asked ∧ ∃ e, result = .error e

section Ends

variable {mode : RunMode} {start : Clocked (World σ γ)}

/-- A run that fails has only to leave the checkpoints alone. -/
theorem ChecksIn.of_error [Walk] {e : RunError}
    (run : (indexer.perform around repository mode).outcome start = (.error e, after))
    (kept : after.state.checkpoints = start.state.checkpoints)
    (full : mode = .full → after.state.asked = start.state.asked)
    (incremental : mode = .incremental →
      after.state.asked =
          start.state.asked ++ [start.state.checkpoints.get? repository.name] ∨
        after.state.asked = start.state.asked) :
    indexer.ChecksIn around repository mode start (.error e) after where
  stored := by
    rw [commit?_of_error run]
    exact kept
  reported := nofun
  asked_full := full
  asked_incremental isIncremental :=
    (incremental isIncremental).imp_right fun same => ⟨same, e, rfl⟩

/-- A run that ends with a report tells and stores one and the same commit, or none. -/
theorem ChecksIn.of_report [Walk] {report : Report} {commit : Option String}
    (brought : indexer.commit? around repository mode start = commit)
    (told : report.checkpoint = commit)
    (stored : after.state.checkpoints =
      commit.elim start.state.checkpoints (start.state.checkpoints.insert repository.name))
    (full : mode = .full → after.state.asked = start.state.asked)
    (incremental : mode = .incremental → after.state.asked =
      start.state.asked ++ [start.state.checkpoints.get? repository.name]) :
    indexer.ChecksIn around repository mode start (.ok report) after where
  stored := by rw [brought, stored]
  reported report' success := by
    obtain rfl := Except.ok.inj success
    rw [told, brought]
  asked_full := full
  asked_incremental isIncremental := .inl (incremental isIncremental)

end Ends

theorem perform_checksIn_full [Walk] {start : Clocked (World σ γ)} {result : Except RunError Report}
    (run : (indexer.perform around repository .full).outcome start = (result, after)) :
    indexer.ChecksIn around repository .full start result after := by
  have whole := run
  change (indexer.index around repository).outcome start = (result, after) at run
  rw [index_eq] at run
  have there := outcome_requireDirectory around repository start
  by_cases missing : (around.tree start.state.step).isNone
  · rw [if_pos missing] at there
    obtain ⟨rfl, rfl⟩ := Prod.mk.inj ((RunM.outcome_bind_of_error there).symm.trans run)
    exact .of_error whole rfl (fun _ => rfl) nofun
  rw [if_neg missing] at there
  rw [RunM.outcome_bind_of_ok there, outcome_discovered_bind] at run
  have step : (RunM.looked start).state.step = start.state.step + 1 := rfl
  rw [step] at run
  by_cases nothing : around.discoveredAt (start.state.step + 1) = []
  · simp only [nothing, List.isEmpty_nil, if_true, RunM.outcome_pure] at run
    obtain ⟨rfl, rfl⟩ := Prod.mk.inj run
    have none := commit?_of_ok whole
    rw [if_pos (.inr (.inr ⟨rfl, nothing⟩))] at none
    exact .of_report none rfl rfl (fun _ => rfl) nofun
  simp only [List.isEmpty_iff, nothing, if_false, RunM.outcome_see_bind] at run
  have step : (RunM.looked (RunM.looked start)).state.step = start.state.step + 2 := rfl
  rw [step] at run
  rcases RunM.of_outcome_bind run with ⟨e, failed, rfl⟩ | ⟨report, done, made, rest⟩
  · have onward := (isOnward_run _ _).of_outcome failed
    exact .of_error whole onward.checkpoints_eq (fun _ => onward.asked_eq) nofun
  have onward := (isOnward_run _ _).of_outcome made
  have checkpoints : done.state.checkpoints = start.state.checkpoints := onward.checkpoints_eq
  obtain ⟨asked, report', rfl, same, ending⟩ :=
    finish_checkpoint (run_checkpoint_eq_none made) rest
  have commit := commit?_of_ok whole
  simp only [same, nothing, and_false, or_false] at commit
  rcases ending with ⟨none, kept, cause⟩ | ⟨head, read, ended, could, told, stored⟩
  · have nothing : indexer.commit? around repository .full start = Option.none := by
      rw [commit]
      split
      · rfl
      · rename_i going
        simp only [not_or, not_not] at going
        rcases cause with cancelled | ⟨e, unreadable⟩ | failed
        · exact absurd cancelled going.1
        · rw [unreadable]
          rfl
        · exact absurd going.2 failed
    exact .of_report nothing none (kept.trans checkpoints)
      (fun _ => asked.trans onward.asked_eq) nofun
  · have brought : indexer.commit? around repository .full start = some head := by
      rw [commit, read]
      simp [ended, could, Except.toOption]
    exact .of_report brought told (checkpoints ▸ stored)
      (fun _ => asked.trans onward.asked_eq) nofun

theorem perform_checksIn_incremental [Walk] {start : Clocked (World σ γ)}
    {result : Except RunError Report}
    (run : (indexer.perform around repository .incremental).outcome start = (result, after)) :
    indexer.ChecksIn around repository .incremental start result after := by
  have whole := run
  change (indexer.reindex around repository).outcome start = (result, after) at run
  rw [reindex_eq] at run
  have found := outcome_findChanges around repository start
  -- a run that does not get to its files leaves checkpoints alone, and has asked once or not at all
  have stopped : ∀ {e middle},
      (findChanges around repository).outcome start = (.error e, middle) →
      middle.state.checkpoints = start.state.checkpoints →
      (middle.state.asked =
          start.state.asked ++ [start.state.checkpoints.get? repository.name] ∨
        middle.state.asked = start.state.asked) →
      indexer.ChecksIn around repository .incremental start result after := by
    intro e middle failed kept asked
    obtain ⟨rfl, rfl⟩ := Prod.mk.inj ((RunM.outcome_bind_of_error failed).symm.trans run)
    exact .of_error whole kept nofun fun _ => asked
  by_cases missing : (around.tree start.state.step).isNone
  · rw [if_pos missing] at found
    exact stopped found rfl (.inr rfl)
  rw [if_neg missing] at found
  cases unusable : around.checkpointFailure (start.state.step + 1) with
  | some detail =>
      rw [unusable] at found
      exact stopped found rfl (.inr rfl)
  | none =>
  cases read : around.head (start.state.step + 2) with
  | error e =>
      rw [unusable, read] at found
      exact stopped found rfl (.inr rfl)
  | ok head =>
  rw [unusable, read] at found
  cases told : around.changes (start.state.step + 3)
      (start.state.checkpoints.get? repository.name) with
  | error e =>
      rw [told] at found
      exact stopped found rfl (.inl rfl)
  | ok changes =>
  rw [told] at found
  rw [RunM.outcome_bind_of_ok found, outcome_eligibleChanges_bind] at run
  rcases RunM.of_outcome_bind run with ⟨e, failed, rfl⟩ | ⟨report, done, made, rest⟩
  · have onward := (isOnward_run _ _).of_outcome failed
    exact .of_error whole onward.checkpoints_eq nofun fun _ => .inl onward.asked_eq
  have onward := (isOnward_run _ _).of_outcome made
  have checkpoints : done.state.checkpoints = start.state.checkpoints := onward.checkpoints_eq
  obtain ⟨asked, ending⟩ := close_checkpoint (run_checkpoint_eq_none made) rest
  have asked := asked.trans onward.asked_eq
  rcases ending with ⟨kept, ⟨e, rfl⟩ | ⟨report', rfl, cancelled, fresh⟩⟩ |
    ⟨report', rfl, ended, could, stamped, stored⟩
  · exact .of_error whole (kept.trans checkpoints) nofun fun _ => .inl asked
  · have none := commit?_of_ok whole
    rw [if_pos (.inl cancelled)] at none
    exact .of_report none fresh (kept.trans checkpoints) nofun fun _ => asked
  · have brought := commit?_of_ok whole
    rw [if_neg (by simp [ended, could]), read] at brought
    change _ = some head at brought
    exact .of_report brought stamped (checkpoints ▸ stored) nofun fun _ => asked

/-- **What any run does to checkpoints.** -/
theorem perform_checksIn [Walk] {mode : RunMode} {start : Clocked (World σ γ)}
    {result : Except RunError Report}
    (run : (indexer.perform around repository mode).outcome start = (result, after)) :
    indexer.ChecksIn around repository mode start result after := by
  cases mode with
  | full => exact perform_checksIn_full run
  | incremental => exact perform_checksIn_incremental run

/-- **A run makes use of no answer about changes** but that to its own question: those since the
stored checkpoint, at the fourth look of an incremental run. -/
theorem outcome_perform_answering [Walk] {mode : RunMode} {start : Clocked (World σ γ)}
    {changes : Nat → Option String → Except RunError ChangeSet}
    (same : mode = .incremental →
      changes (start.state.step + 3) (start.state.checkpoints.get? repository.name) =
        around.changes (start.state.step + 3) (start.state.checkpoints.get? repository.name)) :
    (indexer.perform (around.answering changes) repository mode).outcome start =
      (indexer.perform around repository mode).outcome start := by
  cases mode with
  | full => rfl
  | incremental =>
      have found : (findChanges (around.answering changes) repository).outcome start =
          (findChanges around repository).outcome start := by
        rw [outcome_findChanges, outcome_findChanges]
        simp only [Surroundings.answering, same]
      show (indexer.reindex (around.answering changes) repository).outcome start =
        (indexer.reindex around repository).outcome start
      rw [reindex_eq, reindex_eq]
      rcases told : (findChanges around repository).outcome start with ⟨answer, middle⟩
      rw [told] at found
      cases answer with
      | error e => rw [RunM.outcome_bind_of_error found, RunM.outcome_bind_of_error told]
      | ok answer =>
          rw [RunM.outcome_bind_of_ok found, RunM.outcome_bind_of_ok told]
          rfl

/-- Whether a run leaves checkpoints alone unless it has a commit to store, and keeps to its own. -/
structure IsDisciplined [Walk] (indexer : Indexer σ γ) (around : Surroundings σ)
    (repository : Repository) (mode : RunMode) (start : Clocked (World σ γ))
    (result : Except RunError Report) (after : Clocked (World σ γ)) : Prop
    extends indexer.ChecksIn around repository mode start result after where
  /-- A failure or a cancellation keeps all checkpoints. -/
  kept : ((∃ e, result = .error e) ∨ ∃ report, result = .ok report ∧ report.cancelled = true) →
    after.state.checkpoints = start.state.checkpoints
  /-- Checkpoints of other repositories are kept in any case. -/
  others : ∀ name, name ≠ repository.name →
    after.state.checkpoints.get? name = start.state.checkpoints.get? name
  /-- The stored checkpoint is all that an incremental run wants to know changes since. -/
  since : ∀ changes : Nat → Option String → Except RunError ChangeSet,
    (mode = .incremental →
      changes (start.state.step + 3) (start.state.checkpoints.get? repository.name) =
        around.changes (start.state.step + 3) (start.state.checkpoints.get? repository.name)) →
    (indexer.perform (around.answering changes) repository mode).outcome start = (result, after)

theorem perform_isDisciplined [Walk] {mode : RunMode} {start : Clocked (World σ γ)}
    {result : Except RunError Report}
    (run : (indexer.perform around repository mode).outcome start = (result, after)) :
    indexer.IsDisciplined around repository mode start result after := by
  have checks := perform_checksIn run
  refine ⟨checks, fun stopped => ?_, fun name other => ?_, fun changes same =>
    (outcome_perform_answering same).trans run⟩
  · have none : indexer.commit? around repository mode start = none := by
      rcases stopped with ⟨e, rfl⟩ | ⟨report, rfl, cancelled⟩
      · exact commit?_of_error run
      · exact (commit?_of_ok run).trans (if_pos (.inl cancelled))
    rw [checks.stored, none]
    rfl
  · rw [checks.stored]
    cases indexer.commit? around repository mode start with
    | none => rfl
    | some commit => exact (Dictionary.get?_insert ..).trans (if_neg (Ne.symm other))

end Indexer

/-! ## What any sequence of runs does -/

/-- A run that was made: over which repository, and which commit it brought. -/
structure RunRecord where
  repository : String
  commit? : Option String

/-- The commit that the last run over a repository brought, of those that brought one. -/
def lastCommit? (name : String) (records : List RunRecord) : Option String :=
  (records.filterMap fun record =>
    if record.repository = name then record.commit? else none).getLast?

theorem lastCommit?_concat (name : String) (records : List RunRecord) (record : RunRecord) :
    lastCommit? name (records ++ [record]) =
      if record.repository = name then record.commit?.or (lastCommit? name records)
      else lastCommit? name records := by
  unfold lastCommit?
  rw [List.filterMap_append, List.getLast?_append]
  by_cases mine : record.repository = name
  · cases commit : record.commit? <;> simp [mine, commit]
  · simp [mine]

/-- **The checkpoints that runs can leave,** one after the other, starting from none, and what the
runs brought.  Each run has its own indexer, providers, surroundings and repository, and whatever
happens between runs does not touch checkpoints. -/
inductive CheckpointHistory [Walk] : List RunRecord → Checkpoints → Prop where
  | empty : CheckpointHistory [] Dictionary.empty
  | run {σ γ : Type} {records : List RunRecord} (indexer : Indexer σ γ) (around : Surroundings σ)
      (repository : Repository) (mode : RunMode) (start : Clocked (World σ γ)) :
      CheckpointHistory records start.state.checkpoints →
        CheckpointHistory
          (records ++ [⟨repository.name, indexer.commit? around repository mode start⟩])
          ((indexer.perform around repository mode).outcome start).2.state.checkpoints

/-- The stored checkpoint is that of the last run that brought one. -/
theorem CheckpointHistory.get?_eq [Walk] {records : List RunRecord} {checkpoints : Checkpoints}
    (history : CheckpointHistory records checkpoints) (name : String) :
    checkpoints.get? name = lastCommit? name records := by
  induction history with
  | empty => rfl
  | run indexer around repository mode start _ ih =>
      rcases made : (indexer.perform around repository mode).outcome start with ⟨result, after⟩
      rw [lastCommit?_concat, (Indexer.perform_checksIn made).stored, ← ih]
      cases indexer.commit? around repository mode start with
      | none => exact (ite_self _).symm
      | some commit => exact Dictionary.get?_insert ..

/-- **Checkpoints are kept with discipline.**  After any sequence of runs of both kinds, over any
repositories and with whatever failures and cancellations, the checkpoint of a repository is the
commit that its last run brought, of those that brought one.  And the next run, whatever it is, does
what `IsDisciplined` says. -/
theorem CheckpointHistory.disciplined [Walk] {records : List RunRecord} {checkpoints : Checkpoints}
    (history : CheckpointHistory records checkpoints) :
    (∀ name, checkpoints.get? name = lastCommit? name records) ∧
      ∀ {σ γ : Type} (indexer : Indexer σ γ) (around : Surroundings σ) (repository : Repository)
        (mode : RunMode) (start : Clocked (World σ γ)), start.state.checkpoints = checkpoints →
        ∃ result after, (indexer.perform around repository mode).outcome start = (result, after) ∧
          indexer.IsDisciplined around repository mode start result after ∧
          CheckpointHistory
            (records ++ [⟨repository.name, indexer.commit? around repository mode start⟩])
            after.state.checkpoints := by
  refine ⟨history.get?_eq, fun indexer around repository mode start same => ?_⟩
  subst same
  exact ⟨_, _, rfl, Indexer.perform_isDisciplined rfl, history.run indexer around repository mode⟩

/-- A first incremental run that is told of no changes brings the head all the same, and a run over
another repository that fails leaves it. -/
theorem CheckpointHistory.disciplined_unchanged :
    let unchanged : Surroundings Unit := .still (some .empty) (.ok "head") fun _ => .ok ⟨[], []⟩
    let missing : Surroundings Unit := .still none (.ok "other") fun _ => .ok ⟨[], []⟩
    let first := (Indexer.bare.perform unchanged ⟨"a", "/a"⟩ .incremental).outcome
      Indexer.freshWorld
    let second := (Indexer.bare.perform missing ⟨"b", "/b"⟩ .full).outcome first.2
    CheckpointHistory [⟨"a", some "head"⟩, ⟨"b", none⟩] second.2.state.checkpoints ∧
      second.2.state.checkpoints.get? "a" = some "head" ∧
      second.2.state.checkpoints.get? "b" = none := by
  intro unchanged missing first second
  have history : CheckpointHistory [⟨"a", some "head"⟩, ⟨"b", none⟩] second.2.state.checkpoints :=
    (CheckpointHistory.empty.run Indexer.bare unchanged ⟨"a", "/a"⟩ .incremental
      Indexer.freshWorld).run Indexer.bare missing ⟨"b", "/b"⟩ .full first.2
  exact ⟨history, history.disciplined.1 "a", history.disciplined.1 "b"⟩

end CodeIndex
