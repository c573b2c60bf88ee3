import CodeIndex.Proofs.Run.Journal

/-!
# What reports say about journals

The report of an incremental run is put together in two places: the outcomes of the files are added
up one by one, and the number of deleted files is filled in at the end, whatever has become of the
run.  Here both are compared with the journal of the run, for any store, any changes, any failures,
and any moment at which the run is told to stop.

What is added up is right: `Report.Accounts` holds of an empty report, and each file carries it on
(`Accounts.file`).  What is filled in need not be.  It is the number of deleted paths that the run
was told of, also where it has removed no points at all: since it was stopped before, or since there
were no files to index and no collection.

## Main definitions

* `Deed.begun?`, `stored?`, `complaint?`, `removed?`: what journals are read for.
* `Report.Accounts`: whether a report says what a journal says.

## Main statements

* `Indexer.journaledFile_cases`: what is written down about a file.
* `Report.Accounts.file`, `Report.Accounts.all`: reports are added up rightly.
* `Indexer.reindex_accounts`: what the report of an incremental run says, and when it is right about
  deleted files.
-/

namespace CodeIndex

variable {σ γ : Type}

namespace Deed

/-- The file that was begun. -/
def begun? : Deed → Option String
  | began path => some path
  | _ => none

/-- The points that were stored. -/
def stored? : Deed → Option (List Point)
  | stored points => some points
  | _ => none

/-- The message about a file that was left out. -/
def complaint? : Deed → Option String
  | gaveUp path message => some (path ++ ": " ++ message)
  | _ => none

/-- The filter by which points were removed. -/
def removed? : Deed → Option Filter
  | removed filter => some filter
  | _ => none

end Deed

/-- **Whether a report says what a journal says** of a run that was to remove points and take some
files: how many files were begun, how many chunks were stored, and why files were left out.  The run
is called cancelled if it was stopped at the beginning, or has not begun all files. -/
structure Report.Accounts (report : Report) (stopped : Prop) (purge : List Filter)
    (files : List String) (deeds : List Deed) : Prop where
  removed : deeds.filterMap Deed.removed? = purge
  begun : (deeds.filterMap Deed.begun?).Sublist files
  counted : report.filesProcessed + report.filesSkipped = (deeds.filterMap Deed.begun?).length
  chunksIndexed : report.chunksIndexed = ((deeds.filterMap Deed.stored?).map List.length).sum
  errors : report.errors = deeds.filterMap Deed.complaint?
  filesSkipped : report.errors.length = report.filesSkipped
  cancelled : report.cancelled = true ↔ stopped ∨ deeds.filterMap Deed.begun? ≠ files

namespace Indexer

open Journaled

variable {indexer : Indexer σ γ} {around : Surroundings σ} {repository : Repository}
variable {before after : Clocked (World σ γ)} {deeds : List Deed}

/-! ## One file -/

/-- **What is written down about the steps of a file:** nothing if they fail or there are no chunks,
and otherwise the points, one for each chunk. -/
theorem journaledIndexFile_cases {path : String} {result : Except RunError (Nat × Nat)}
    (course : (indexer.journaledIndexFile around repository path).course before =
      ((result, after), deeds)) :
    (((∃ e, result = .error e) ∨ result = .ok (0, 0)) ∧ deeds = []) ∨
      ∃ points undescribed, result = .ok (points.length, undescribed) ∧
        deeds = [.stored points] := by
  rcases of_course_bind course with ⟨e, failed, rfl⟩ | ⟨embedded, middle, _, _, made, rest, rfl⟩
  · exact .inl ⟨.inl ⟨e, rfl⟩, (of_course_silent failed).2⟩
  obtain ⟨-, rfl⟩ := of_course_silent made
  match embedded with
  | none =>
      obtain ⟨same, rfl⟩ := Prod.mk.inj rest
      obtain ⟨rfl, -⟩ := Prod.mk.inj same
      exact .inl ⟨.inr rfl, rfl⟩
  | some (described, vectors) =>
      dsimp only at rest
      split at rest
      · rename_i complete
        obtain ⟨outcome, ⟨⟨e, rfl⟩, rfl⟩ | ⟨counts, rfl, rfl⟩⟩ := of_course_noted rest
        · exact .inl ⟨.inl ⟨e, rfl⟩, rfl⟩
        · obtain ⟨_, _, -, counted⟩ := RunM.of_outcome_bind_ok outcome
          obtain ⟨same, -⟩ := Prod.mk.inj counted
          obtain rfl := Except.ok.inj same
          refine .inr ⟨FilePoints.points repository.name path described vectors,
            described.countP (·.description.isEmpty), ?_, rfl⟩
          rw [FilePoints.points, List.length_zipWith, complete, Nat.min_self]
      · obtain ⟨outcome, rfl⟩ := of_course_silent rest
        obtain ⟨rfl, -⟩ := Prod.mk.inj outcome
        exact .inl ⟨.inl ⟨_, rfl⟩, rfl⟩

/-- **What is written down about a file:** nothing if the run is to stop, and otherwise that it was
begun, and what became of it.  It never makes the run fail. -/
theorem journaledFile_cases {path : String} {result : Except RunError FileOutcome}
    (course : (indexer.journaledFile around repository path).course before =
      ((result, after), deeds)) :
    (result = .ok .notStarted ∧ deeds = []) ∨
      (∃ message, result = .ok (.skipped path message) ∧
        deeds = [.began path, .gaveUp path message]) ∨
      (∃ undescribed, result = .ok (.indexed 0 undescribed) ∧ deeds = [.began path]) ∨
      ∃ points undescribed, result = .ok (.indexed points.length undescribed) ∧
        deeds = [.began path, .stored points] := by
  rcases of_course_bind course with ⟨e, failed, -⟩ | ⟨stop, middle, _, _, asked, rest, rfl⟩
  · cases (Prod.mk.inj (Prod.mk.inj failed).1).1
  obtain ⟨-, rfl⟩ := of_course_silent asked
  cases stop with
  | true =>
      obtain ⟨rfl, -, rfl⟩ := of_course_pure rest
      exact .inl ⟨rfl, rfl⟩
  | false =>
      obtain ⟨_, begun, rfl⟩ := of_course_note_bind rest
      obtain ⟨answer, done, early, late, steps, ending, rfl⟩ := of_course_caught_bind begun
      rcases journaledIndexFile_cases steps with
        ⟨⟨e, rfl⟩ | rfl, rfl⟩ | ⟨points, undescribed, rfl, rfl⟩
      · obtain ⟨_, told, rfl⟩ := of_course_note_bind ending
        obtain ⟨rfl, -, rfl⟩ := of_course_pure told
        exact .inr (.inl ⟨e.message, rfl, rfl⟩)
      · obtain ⟨rfl, -, rfl⟩ := of_course_pure ending
        exact .inr (.inr (.inl ⟨0, rfl, rfl⟩))
      · obtain ⟨rfl, -, rfl⟩ := of_course_pure ending
        exact .inr (.inr (.inr ⟨points, undescribed, rfl, rfl⟩))

end Indexer

/-! ## Adding up -/

namespace Report.Accounts

open Indexer Journaled

variable {indexer : Indexer σ γ} {around : Surroundings σ} {repository : Repository}
variable {before after : Clocked (World σ γ)}
variable {report : Report} {files : List String} {deeds : List Deed}

/-- An empty report says what an empty journal says about no files. -/
theorem nothing : ({} : Report).Accounts False [] [] [] where
  removed := rfl
  begun := .slnil
  counted := rfl
  chunksIndexed := rfl
  errors := rfl
  filesSkipped := rfl
  cancelled := by simp

/-- A file that is begun adds what is written down about its steps. -/
theorem begin (accounts : report.Accounts False [] files deeds) (path : String) {more : List Deed}
    {next : Report} (alone : more.filterMap Deed.begun? = [])
    (removed : more.filterMap Deed.removed? = [])
    (counted : next.filesProcessed + next.filesSkipped =
      report.filesProcessed + report.filesSkipped + 1)
    (chunksIndexed : next.chunksIndexed =
      report.chunksIndexed + ((more.filterMap Deed.stored?).map List.length).sum)
    (errors : next.errors = report.errors ++ more.filterMap Deed.complaint?)
    (filesSkipped : next.filesSkipped =
      report.filesSkipped + (more.filterMap Deed.complaint?).length)
    (cancelled : next.cancelled = report.cancelled) :
    next.Accounts False [] (files ++ [path]) (deeds ++ .began path :: more) := by
  have begun : (deeds ++ .began path :: more).filterMap Deed.begun? =
      deeds.filterMap Deed.begun? ++ [path] := by
    rw [List.filterMap_append, List.filterMap_cons, alone]
    rfl
  have stored : (deeds ++ .began path :: more).filterMap Deed.stored? =
      deeds.filterMap Deed.stored? ++ more.filterMap Deed.stored? := List.filterMap_append
  have complaints : (deeds ++ .began path :: more).filterMap Deed.complaint? =
      deeds.filterMap Deed.complaint? ++ more.filterMap Deed.complaint? := List.filterMap_append
  constructor
  · rw [List.filterMap_append, List.filterMap_cons, removed, accounts.removed]
    rfl
  · rw [begun]
    exact accounts.begun.append_right [path]
  · rw [begun, counted, accounts.counted, List.length_append, List.length_singleton]
  · rw [stored, chunksIndexed, accounts.chunksIndexed, List.map_append, List.sum_append]
  · rw [complaints, errors, accounts.errors]
  · rw [errors, filesSkipped, List.length_append, accounts.filesSkipped]
  · rw [begun, cancelled, accounts.cancelled]
    exact or_congr_right (not_congr (List.append_left_inj [path]).symm)

/-- **A file carries a report and its journal on.** -/
theorem file (accounts : report.Accounts False [] files deeds) {path : String}
    {result : Except RunError FileOutcome} {more : List Deed}
    (course : (indexer.journaledFile around repository path).course before =
      ((result, after), more)) :
    ∃ outcome, result = .ok outcome ∧
      (report.add outcome).Accounts False [] (files ++ [path]) (deeds ++ more) := by
  rcases journaledFile_cases course with
    ⟨rfl, rfl⟩ | ⟨message, rfl, rfl⟩ | ⟨undescribed, rfl, rfl⟩ | ⟨points, undescribed, rfl, rfl⟩
  · -- a file that is not begun leaves the journal shorter than the list of files
    have shorter : deeds.filterMap Deed.begun? ≠ files ++ [path] := by
      intro same
      have bound := accounts.begun.length_le
      rw [same, List.length_append, List.length_singleton] at bound
      omega
    refine ⟨_, rfl, ?_⟩
    rw [List.append_nil]
    exact { accounts with
      begun := accounts.begun.trans (List.sublist_append_left _ _)
      cancelled := ⟨fun _ => .inr shorter, fun _ => rfl⟩ }
  · exact ⟨_, rfl, accounts.begin path rfl rfl (Nat.add_assoc _ _ _).symm rfl rfl rfl rfl⟩
  · exact ⟨_, rfl, accounts.begin path rfl rfl (Nat.add_right_comm _ _ _) rfl
      (List.append_nil _).symm rfl rfl⟩
  · exact ⟨_, rfl, accounts.begin path rfl rfl (Nat.add_right_comm _ _ _)
      (by simp [add, Deed.stored?]) (List.append_nil _).symm rfl rfl⟩

/-- **Files carry a report and its journal on,** one after the other. -/
theorem all (accounts : report.Accounts False [] files deeds) {paths : List String}
    {result : Except RunError (List FileOutcome)} {more : List Deed}
    (course : (paths.mapM' (indexer.journaledFile around repository)).course before =
      ((result, after), more)) :
    ∃ outcomes, result = .ok outcomes ∧
      (outcomes.foldl add report).Accounts False [] (files ++ paths) (deeds ++ more) := by
  induction paths generalizing report files deeds before after result more with
  | nil =>
      obtain ⟨rfl, -, rfl⟩ := of_course_pure course
      exact ⟨[], rfl, by simpa using accounts⟩
  | cons path paths ih =>
      rcases of_course_bind course with ⟨e, failed, -⟩ | ⟨outcome, _, _, _, made, rest, rfl⟩
      · obtain ⟨_, impossible, -⟩ := accounts.file failed
        cases impossible
      obtain ⟨_, same, carried⟩ := accounts.file made
      obtain rfl := Except.ok.inj same
      rcases of_course_bind rest with ⟨e, failed, -⟩ | ⟨outcomes, _, _, _, further, ending, rfl⟩
      · obtain ⟨_, impossible, -⟩ := ih carried failed
        cases impossible
      obtain ⟨_, same, total⟩ := ih carried further
      obtain rfl := Except.ok.inj same
      obtain ⟨rfl, -, rfl⟩ := of_course_pure ending
      refine ⟨outcome :: outcomes, rfl, ?_⟩
      simpa using total

/-- What was removed before stands in front of the journal, and counts for nothing else. -/
theorem behind (accounts : report.Accounts False [] files deeds) (purge : List Filter) :
    report.Accounts False purge files (purge.map Deed.removed ++ deeds) := by
  have silent : ∀ {α : Type} (view : Deed → Option α), (∀ filter, view (.removed filter) = none) →
      (purge.map Deed.removed ++ deeds).filterMap view = deeds.filterMap view := by
    intro α view none
    have unseen : (purge.map Deed.removed).filterMap view = [] := by
      rw [List.filterMap_map]
      exact List.filterMap_eq_nil_iff.2 fun filter _ => none filter
    rw [List.filterMap_append, unseen, List.nil_append]
  have all : (purge.map Deed.removed).filterMap Deed.removed? = purge := by
    rw [List.filterMap_map]
    exact List.filterMap_some
  constructor
  · rw [List.filterMap_append, all, accounts.removed, List.append_nil]
  · rw [silent Deed.begun? fun _ => rfl]
    exact accounts.begun
  · rw [silent Deed.begun? fun _ => rfl]
    exact accounts.counted
  · rw [silent Deed.stored? fun _ => rfl]
    exact accounts.chunksIndexed
  · rw [silent Deed.complaint? fun _ => rfl]
    exact accounts.errors
  · exact accounts.filesSkipped
  · rw [silent Deed.begun? fun _ => rfl]
    exact accounts.cancelled

end Report.Accounts

namespace Indexer

open Journaled

variable {indexer : Indexer σ γ} {around : Surroundings σ} {repository : Repository}
variable {before after : Clocked (World σ γ)} {deeds : List Deed} {report : Report}

/-! ## Whole runs -/

/-- A purge that succeeds has removed all that it was to remove, and written it down. -/
theorem of_journaledPurge {scope : PurgeScope}
    (course : (indexer.journaledPurge around repository scope).course before =
      ((.ok (), after), deeds)) : deeds = (scope.filters repository.name).map .removed := by
  unfold journaledPurge at course
  generalize scope.filters repository.name = filters at course ⊢
  induction filters generalizing before deeds with
  | nil => exact (of_course_pure course).2.2
  | cons filter filters ih =>
      obtain ⟨⟨⟩, middle, _, late, made, rest, rfl⟩ := of_course_bind_ok course
      obtain ⟨_, _, _, _, asked, noted, rfl⟩ := of_course_bind_ok made
      obtain ⟨-, rfl⟩ := of_course_silent asked
      obtain ⟨-, rfl⟩ := Prod.mk.inj noted
      rw [ih rest]
      rfl

/-- Whether a collection is ready without files is whether it is there. -/
theorem isReady_nil {ready : Bool}
    (run : (indexer.isReady around []).outcome before = (.ok ready, after)) :
    ready = before.state.store.exists? indexer.settings.collection := by
  rcases storeOnce_cases around run with ⟨_, e, -, impossible, -⟩ | ⟨answer, made, success⟩
  · cases impossible
  · obtain ⟨rfl, -⟩ := Prod.mk.inj made
    exact Except.ok.inj success

/-- A run with files is ready for them, or fails. -/
theorem isReady_of_ne_nil {files : List String} (some : files ≠ []) {ready : Bool}
    (run : (indexer.isReady around files).outcome before = (.ok ready, after)) : ready = true := by
  obtain ⟨-, ⟨_, impossible, -⟩ | ⟨_, success, -, none⟩⟩ := isReady_cases run
  · cases impossible
  · obtain rfl := Except.ok.inj success
    exact Bool.eq_true_of_not_eq_false fun unready => some (none unready)

/-- What is written down about making room: all that was to be removed, if there was a collection or
there were files. -/
theorem of_journaledMakeRoom {files : List String} {scope : PurgeScope}
    (course : (indexer.journaledMakeRoom around repository files scope).course before =
      ((.ok (), after), deeds)) :
    deeds = (if files = [] ∧
        before.state.store.exists? indexer.settings.collection = false then []
      else scope.filters repository.name).map .removed := by
  obtain ⟨ready, made, _, _, readied, rest, rfl⟩ := of_course_bind_ok course
  obtain ⟨preparing, rfl⟩ := of_course_silent readied
  have idle : ready = false ↔
      files = [] ∧ before.state.store.exists? indexer.settings.collection = false := by
    by_cases none : files = []
    · subst none
      rw [isReady_nil preparing]
      exact (and_iff_right rfl).symm
    · rw [isReady_of_ne_nil none preparing]
      simp [none]
  cases ready with
  | true =>
      rw [if_neg fun both => Bool.noConfusion (idle.2 both)]
      exact of_journaledPurge rest
  | false =>
      rw [if_pos (idle.1 rfl)]
      exact (of_course_pure rest).2.2

/-- **What a run over some files writes down,** if it ends with a report: nothing if it was stopped
at the beginning, and otherwise what it has removed, if there was anything to do, and then what has
become of the files. -/
theorem journaledRun_accounts {files : List String} {scope : PurgeScope}
    (course : (indexer.journaledRun around repository files scope).course before =
      ((.ok report, after), deeds)) :
    report.Accounts (around.isCancelled before.state.step before.state.embedder = true)
      (if around.isCancelled before.state.step before.state.embedder = true ∨
          files = [] ∧ before.state.store.exists? indexer.settings.collection = false then []
        else scope.filters repository.name)
      (around.order files) deeds := by
  obtain ⟨stop, looked, _, _, asked, rest, rfl⟩ := of_course_bind_ok course
  obtain ⟨outcome, rfl⟩ := of_course_silent asked
  obtain ⟨same, rfl⟩ := Prod.mk.inj outcome
  obtain rfl : around.isCancelled before.state.step before.state.embedder = stop :=
    Except.ok.inj same
  cases stop : around.isCancelled before.state.step before.state.embedder with
  | true =>
      rw [stop, if_pos rfl] at rest
      obtain ⟨success, -, rfl⟩ := of_course_pure rest
      obtain rfl := Except.ok.inj success
      rw [if_pos (.inl rfl)]
      exact ⟨rfl, List.nil_sublist _, rfl, rfl, rfl, rfl, by simp⟩
  | false =>
      rw [stop, if_neg Bool.false_ne_true] at rest
      obtain ⟨⟨⟩, room, early, late, made, filing, rfl⟩ := of_course_bind_ok rest
      obtain ⟨outcomes, done, more, none, taken, ending, rfl⟩ := of_course_bind_ok filing
      obtain ⟨_, same, accounts⟩ := Report.Accounts.nothing.all taken
      obtain rfl := Except.ok.inj same
      obtain ⟨success, -, rfl⟩ := of_course_pure ending
      obtain rfl := Except.ok.inj success
      obtain rfl := of_journaledMakeRoom made
      simpa [Report.ofOutcomes] using accounts.behind _

/-- The number of deleted paths whose points were removed. -/
def purgedCount (repository : Repository) (deleted : List String) (deeds : List Deed) : Nat :=
  deleted.countP fun path =>
    (Filter.text "repo" repository.name).andText "filePath" path ∈ deeds.filterMap Deed.removed?

/-- A run that has removed what it was to remove has removed the points of all deleted paths. -/
theorem purgedCount_eq {changes : ChangeSet} {idle : Prop} [Decidable idle]
    (removed : deeds.filterMap Deed.removed? = if idle then []
      else (PurgeScope.files (purgedPaths changes)).filters repository.name) :
    purgedCount repository changes.deleted deeds =
      if idle then 0 else changes.deleted.length := by
  unfold purgedCount
  rw [removed]
  split
  · simp
  · refine List.countP_eq_length.2 fun path deleted => decide_eq_true ?_
    exact List.mem_map_of_mem (mem_purgedPaths.2 (.inl deleted))

/-- **What the report of an incremental run says,** whatever the store, the changes, the contents of
files, the failures and the moment of cancellation are, if there is a report.  Its counts of files
and chunks, its messages, and whether it calls the run cancelled, are what the journal says.  But
the number of deleted files is that of the deleted paths which the run was told of; it is the number
of those whose points were removed if and only if there are none, or the run was not stopped at the
beginning and had files to index or a collection. -/
theorem reindex_accounts (indexer : Indexer σ γ) (around : Surroundings σ)
    (repository : Repository) {before after : Clocked (World σ γ)} {report : Report}
    (run : (indexer.reindex around repository).outcome before = (.ok report, after)) :
      ∃ changes, around.changes (before.state.step + 3)
        (before.state.checkpoints.get? repository.name) = .ok changes ∧
      let files := around.eligibleAt (before.state.step + 4) changes.changed
      let deeds := (indexer.journaledReindex around repository).journal before
      let stopped := around.isCancelled (before.state.step + 5) before.state.embedder = true
      let idle := files = [] ∧ before.state.store.exists? indexer.settings.collection = false
      report.Accounts stopped
        (if stopped ∨ idle then []
          else (PurgeScope.files (purgedPaths changes)).filters repository.name)
        (around.order files) deeds ∧
      purgedCount repository changes.deleted deeds =
        (if stopped ∨ idle then 0 else changes.deleted.length) ∧
      report.filesDeleted = changes.deleted.length ∧
      (report.filesDeleted = purgedCount repository changes.deleted deeds ↔
        changes.deleted = [] ∨ ¬(stopped ∨ idle)) := by
  have course : (indexer.journaledReindex around repository).course before =
      ((.ok report, after), (indexer.journaledReindex around repository).journal before) :=
    Prod.ext ((congrArg (·.outcome before) (computation_journaledReindex repository)).trans run) rfl
  generalize (indexer.journaledReindex around repository).journal before = deeds at course ⊢
  obtain ⟨⟨head, changes⟩, told, _, _, finding, eligible, rfl⟩ := of_course_bind_ok course
  obtain ⟨found, rfl⟩ := of_course_silent finding
  obtain ⟨same, ⟨_, impossible, -⟩ | ⟨_, _, success, changes_eq, step, embedder⟩⟩ :=
    findChanges_cases found
  · cases impossible
  obtain ⟨rfl, rfl⟩ := Prod.mk.inj (Except.ok.inj success)
  obtain ⟨files, listed, _, _, listing, running, rfl⟩ := of_course_bind_ok eligible
  obtain ⟨outcome, rfl⟩ := of_course_silent listing
  obtain ⟨seen, rfl⟩ := Prod.mk.inj outcome
  obtain rfl := Except.ok.inj seen
  obtain ⟨counted, done, deeds, _, made, closing, rfl⟩ := of_course_bind_ok running
  obtain ⟨closed, rfl⟩ := of_course_silent closing
  obtain ⟨checkpoint, rfl⟩ := close_report closed
  -- these were the first five looks, and the run starts with the store that was there
  have accounts : counted.Accounts
      (around.isCancelled (told.state.step + 1) told.state.embedder = true)
      (if around.isCancelled (told.state.step + 1) told.state.embedder = true ∨
          around.eligibleAt told.state.step changes.changed = [] ∧
            told.state.store.exists? indexer.settings.collection = false then []
        else (PurgeScope.files (purgedPaths changes)).filters repository.name)
      (around.order (around.eligibleAt told.state.step changes.changed)) deeds :=
    journaledRun_accounts made
  rw [step, embedder, same] at accounts
  have purged := purgedCount_eq accounts.removed
  refine ⟨changes, changes_eq, ?_⟩
  rw [List.nil_append, List.nil_append, List.append_nil]
  refine ⟨⟨accounts.removed, accounts.begun, accounts.counted, accounts.chunksIndexed,
    accounts.errors, accounts.filesSkipped, accounts.cancelled⟩, purged, rfl, ?_⟩
  rw [purged]
  split
  · rename_i nothing
    rw [List.length_eq_zero_iff]
    exact ⟨.inl, fun none => none.resolve_right fun started => started nothing⟩
  · rename_i started
    exact ⟨fun _ => .inr started, fun _ => rfl⟩

/-- Surroundings in which a file is reported as deleted and the run is stopped at once. -/
def stoppedAtOnce : Surroundings Unit :=
  let calm : Surroundings Unit :=
    .still (some WorkTree.empty) (.ok "head") fun _ => .ok ⟨[], ["a.md"]⟩
  { calm with isCancelled := fun _ _ => true }

/-- A run that is stopped at once reports a deleted file and has removed no points. -/
theorem reindex_accounts_stoppedAtOnce :
    ∃ report after,
      (bare.reindex stoppedAtOnce ⟨"a", "/a"⟩).outcome freshWorld = (.ok report, after) ∧
      report.filesDeleted = 1 ∧
      purgedCount ⟨"a", "/a"⟩ ["a.md"]
        ((bare.journaledReindex stoppedAtOnce ⟨"a", "/a"⟩).journal freshWorld) = 0 := by
  obtain ⟨after, run⟩ : ∃ after, (bare.reindex stoppedAtOnce ⟨"a", "/a"⟩).outcome freshWorld =
      (.ok { filesDeleted := 1, cancelled := true }, after) := ⟨_, rfl⟩
  obtain ⟨changes, told, -, purged, deleted, -⟩ :=
    reindex_accounts bare stoppedAtOnce ⟨"a", "/a"⟩ run
  obtain rfl := Except.ok.inj told
  exact ⟨_, after, run, deleted, purged⟩

end Indexer

end CodeIndex
