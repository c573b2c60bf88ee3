import CodeIndex.Proofs.Repository.Timeline
import CodeIndex.Proofs.Run.Checkpoint
import CodeIndex.Proofs.Run.Steady

/-!
# Runs while commits land

A run looks at the repository many times, and commits may land between any two looks.  So there is
no tree that the run has seen.  But each path was last seen at some look, and it is stored as the
commit at that look has it: a file that was stored at the look at which it was read, a path that was
passed over at the look that has told the run to do so.

It matters which looks these are, since the commit at the third one becomes the checkpoint.  An
incremental run learns of its paths after that look.  A full run does so before: it walks the
directory at the second look, and what it does not find there it never sees again.

All this is about runs that end well: nothing was cancelled, no file was skipped, and the checkpoint
could be stored.  How often embedding or storing had to be tried does not matter.

## Main definitions

* `Surroundings.Follows`: surroundings in which commits land.
* `IsSighting`: when a run has last seen each path.

## Main statements

* `Indexer.perform_layout`: what a run leaves while commits land.
-/

namespace CodeIndex

variable {σ γ : Type}

/-- **Whether the repository moves along a timeline.**  At each look the directory is that of the
commit at the head, and changes since a commit are the exact difference. -/
structure Surroundings.Follows (around : Surroundings σ) (line : Timeline) (position : Nat → Nat) :
    Prop where
  onward : Monotone position
  tree_eq : ∀ step, around.tree step = some (line.tree (position step))
  head_eq : ∀ step, around.head step = .ok (line.name (position step))
  changes_eq : ∀ step commit, ∃ changes,
    around.changes step (some (line.name commit)) = .ok changes ∧
      changes.IsDifference (line.tree commit) (line.tree (position step))

namespace Surroundings.Follows

variable {around : Surroundings σ} {line : Timeline} {position : Nat → Nat}
variable (follows : around.Follows line position)

include follows

theorem contentAt_eq (step : Nat) (path : String) :
    around.contentAt step path = (line.tree (position step)).read path := by
  rw [contentAt, follows.tree_eq]
  rfl

theorem discoveredAt_eq [Walk] (step : Nat) :
    around.discoveredAt step =
      (line.tree (position step)).discover (IgnoreRules.load (line.tree (position step))) := by
  rw [discoveredAt, follows.tree_eq]
  rfl

theorem mem_eligibleAt {step : Nat} {changed : List String} {path : String} :
    path ∈ around.eligibleAt step changed ↔ path ∈ changed ∧
      isEligible (IgnoreRules.load (line.tree (position step))) path = true ∧
        (line.tree (position step)).isFile path = true := by
  rw [eligibleAt, follows.tree_eq, List.mem_filter, Bool.and_eq_true]
  rfl

end Surroundings.Follows

/-- Surroundings that move along a timeline and in which nothing fails.  `commit` tells commits by
their names; without one, changes are those since the first. -/
def Surroundings.along (line : Timeline) (position : Nat → Nat) (commit : String → Nat) :
    Surroundings σ where
  tree := fun step => some (line.tree (position step))
  head := fun step => .ok (line.name (position step))
  changes := fun step since =>
    .ok (.exactly (line.tree (since.elim 0 commit)) (line.tree (position step)))
  isCancelled := fun _ _ => false
  storeFailure := fun _ => none
  checkpointFailure := fun _ => none
  order := id
  order_perm := List.Perm.refl

theorem Surroundings.follows_along {line : Timeline} {position : Nat → Nat}
    {commit : String → Nat} (onward : Monotone position)
    (named : ∀ i, line.tree (commit (line.name i)) = line.tree i) :
    (Surroundings.along line position commit : Surroundings σ).Follows line position where
  onward := onward
  tree_eq _ := rfl
  head_eq _ := rfl
  changes_eq step i := ⟨_, rfl, by
    rw [Option.elim_some, named i]
    exact ChangeSet.isDifference_exactly _ _⟩

/-- Whether nothing fails and nobody wishes to cancel. -/
structure Surroundings.IsSafe (around : Surroundings σ) : Prop where
  isCancelled : ∀ step embedder, around.isCancelled step embedder = false
  storeFailure : ∀ step, around.storeFailure step = none
  checkpointFailure : ∀ step, around.checkpointFailure step = none

theorem Surroundings.isSafe_along (line : Timeline) (position : Nat → Nat)
    (commit : String → Nat) : (Surroundings.along line position commit : Surroundings σ).IsSafe :=
  ⟨fun _ _ => rfl, fun _ => rfl, fun _ => rfl⟩

/-- At rest nothing moves. -/
theorem Surroundings.Follows.isCalm {around : Surroundings σ} {line : Timeline} {last : Nat}
    (rests : around.Follows line fun _ => last) (safe : around.IsSafe) :
    around.IsCalm (line.tree last) :=
  ⟨rests.tree_eq, fun step => ⟨_, rests.head_eq step⟩, safe.isCancelled, safe.storeFailure,
    safe.checkpointFailure⟩

/-- The versions of files along a timeline. -/
def Timeline.versions [Walk] (line : Timeline) (repository : String) : Set Version :=
  {version | version.repository = repository ∧
    ∃ i, (line.tree i).indexed? version.path = some version.text}

/-- Whether a run has ended well: it was not cancelled, has skipped no file, and has stored a
checkpoint. -/
structure Report.IsComplete (report : Report) : Prop where
  cancelled : report.cancelled = false
  filesSkipped : report.filesSkipped = 0
  checkpoint : report.checkpoint ≠ none

namespace Indexer

variable {indexer : Indexer σ γ} {around : Surroundings σ} {repository : Repository}
variable {start after : Clocked (World σ γ)} {report : Report}

/-! ## Runs that end well -/

/-- Whoever neither failed nor was left out was stored. -/
theorem isStored_of_counts {handled : List (Handled indexer.read)}
    (cancelled : (Report.ofOutcomes (handled.map (·.outcome))).cancelled = false)
    (skipped : (Report.ofOutcomes (handled.map (·.outcome))).filesSkipped = 0) :
    ∀ entry ∈ handled, ∃ rendition, entry.fate = .stored rendition := by
  rw [Report.ofOutcomes_handled] at cancelled skipped
  intro entry member
  obtain ⟨path, fate⟩ := entry
  cases fate with
  | stored rendition => exact ⟨rendition, rfl⟩
  | failed error => exact absurd rfl (List.countP_eq_zero.1 skipped _ member)
  | notStarted => exact absurd rfl (List.any_eq_false.1 cancelled _ member)

/-- **A full run that ends well** has stored all files that it has found, and read them after it
read the head. -/
theorem index_completed [Walk]
    (accepts : start.state.store.AcceptsSparse indexer.settings.collection)
    (run : (indexer.index around repository).outcome start = (.ok report, after))
    (complete : report.IsComplete) :
    ∃ (first : World σ γ) (handled : List (Handled indexer.read)),
      first.store = start.state.store ∧ start.state.step + 2 < first.step ∧
      first.step ≤ after.state.step ∧
      indexer.Completed around repository (around.discoveredAt (start.state.step + 1)) .repository
        first after.state handled ∧
      ∀ entry ∈ handled, ∃ rendition, entry.fate = .stored rendition := by
  rw [index_eq] at run
  obtain ⟨⟨⟩, middle, made, rest⟩ := RunM.of_outcome_bind_ok run
  obtain ⟨rfl, -⟩ := requireDirectory_cases made
  rw [outcome_discovered_bind] at rest
  have step : (RunM.looked start).state.step = start.state.step + 1 := rfl
  rw [step] at rest
  by_cases nothing : around.discoveredAt (start.state.step + 1) = []
  · simp only [nothing, List.isEmpty_nil, if_true, RunM.outcome_pure] at rest
    obtain ⟨success, -⟩ := Prod.mk.inj rest
    obtain rfl := Except.ok.inj success
    exact absurd rfl complete.checkpoint
  simp only [List.isEmpty_iff, nothing, if_false, RunM.outcome_see_bind] at rest
  have accepts : (RunM.looked (RunM.looked (RunM.looked start))).state.store.AcceptsSparse
      indexer.settings.collection := accepts
  obtain ⟨counted, done, made, rest⟩ := RunM.of_outcome_bind_ok rest
  obtain ⟨same, later, checkpoint, complaints, success, -⟩ := finish_cases rest
  obtain rfl := Except.ok.inj success
  rcases run_cases accepts made with
    ⟨success, -⟩ | ⟨_, _, impossible, -⟩ | ⟨handled, completed, success⟩
  · obtain rfl := Except.ok.inj success
    exact absurd complete.cancelled (by simp)
  · cases impossible
  · obtain rfl := Except.ok.inj success
    exact ⟨(RunM.looked (RunM.looked (RunM.looked start))).state, handled, rfl,
      Nat.lt_succ_self _, ((isOnward_run _ _).of_outcome made).step_le.trans later,
      completed.widen rfl (Nat.le_refl _) same later,
      isStored_of_counts complete.cancelled complete.filesSkipped⟩

/-- The end of an incremental run counts no files anew. -/
theorem close_counts {head : String} {changes : ChangeSet} {before : Clocked (World σ γ)}
    {counted : Report}
    (run : (close around repository head changes counted).outcome before = (.ok report, after)) :
    report.cancelled = counted.cancelled ∧ report.filesSkipped = counted.filesSkipped := by
  obtain ⟨checkpoint, rfl⟩ := close_report run
  exact ⟨rfl, rfl⟩

/-- **An incremental run that ends well** has stored all files that it was told of and that were
eligible. -/
theorem reindex_completed (accepts : start.state.store.AcceptsSparse indexer.settings.collection)
    (run : (indexer.reindex around repository).outcome start = (.ok report, after))
    (complete : report.IsComplete) :
    ∃ changes, around.changes (start.state.step + 3)
        (start.state.checkpoints.get? repository.name) = .ok changes ∧
      ∃ (first : World σ γ) (handled : List (Handled indexer.read)),
        first.store = start.state.store ∧ start.state.step + 4 < first.step ∧
        first.step ≤ after.state.step ∧
        indexer.Completed around repository
          (around.eligibleAt (start.state.step + 4) changes.changed)
          (.files (purgedPaths changes)) first after.state handled ∧
        ∀ entry ∈ handled, ∃ rendition, entry.fate = .stored rendition := by
  rw [reindex_eq] at run
  obtain ⟨⟨head, changes⟩, found, made, rest⟩ := RunM.of_outcome_bind_ok run
  obtain ⟨same, ⟨_, impossible, -⟩ | ⟨_, _, success, told, step, -⟩⟩ := findChanges_cases made
  · cases impossible
  cases success
  rw [outcome_eligibleChanges_bind, step] at rest
  have store : (RunM.looked found).state.store = start.state.store := same
  have first : (RunM.looked found).state.step = start.state.step + 5 := by
    show found.state.step + 1 = start.state.step + 5
    omega
  obtain ⟨counted, done, made, rest⟩ := RunM.of_outcome_bind_ok rest
  obtain ⟨same', later, -⟩ := close_cases rest
  obtain ⟨cancelled, skipped⟩ := close_counts rest
  rcases run_cases (store ▸ accepts) made with
    ⟨success, -⟩ | ⟨_, _, impossible, -⟩ | ⟨handled, completed, success⟩
  · obtain rfl := Except.ok.inj success
    rw [complete.cancelled] at cancelled
    cases cancelled
  · cases impossible
  · obtain rfl := Except.ok.inj success
    exact ⟨changes, told, (RunM.looked found).state, handled, store, by omega,
      ((isOnward_run _ _).of_outcome made).step_le.trans later,
      completed.widen rfl (Nat.le_refl _) same' later,
      isStored_of_counts (cancelled ▸ complete.cancelled) (skipped ▸ complete.filesSkipped)⟩

/-- A run that ends well leaves a store that takes uploads. -/
theorem perform_accepts [Walk] {mode : RunMode}
    (run : (indexer.perform around repository mode).outcome start = (.ok report, after))
    (complete : report.IsComplete)
    (accepts : start.state.store.AcceptsSparse indexer.settings.collection) :
    after.state.store.AcceptsSparse indexer.settings.collection := by
  cases mode with
  | full => exact (index_preserves accepts run).acceptsSparse _ accepts
  | incremental =>
      obtain ⟨_, -, first, _, store, -, -, completed, -⟩ := reindex_completed accepts run complete
      exact completed.changes.acceptsSparse _ (store ▸ accepts)

/-- **The checkpoint of a run that ends well** is the commit at its third look. -/
theorem checkpoint_of_follows [Walk] {line : Timeline} {position : Nat → Nat}
    (follows : around.Follows line position) {mode : RunMode}
    (run : (indexer.perform around repository mode).outcome start = (.ok report, after))
    (complete : report.IsComplete) :
    after.state.checkpoints.get? repository.name =
      some (line.name (position (start.state.step + 2))) := by
  have checks := perform_checksIn run
  have brought := commit?_of_ok run
  have some := complete.checkpoint
  rw [checks.reported report rfl] at some
  split at brought
  · exact absurd brought some
  · rw [follows.head_eq] at brought
    rw [checks.stored, brought]
    exact (Dictionary.get?_insert ..).trans (if_pos rfl)

/-- Every file is started where nobody wishes to cancel. -/
theorem Completed.any_isNotStarted {files : List String} {scope : PurgeScope}
    {first last : World σ γ} {handled : List (Handled indexer.read)}
    (completed : indexer.Completed around repository files scope first last handled)
    (safe : around.IsSafe) : handled.any (·.fate.isNotStarted) = false := by
  rw [List.any_eq_false]
  intro entry member
  have cameAbout := completed.cameAbout entry member
  obtain ⟨path, fate⟩ := entry
  cases fate with
  | stored rendition => exact Bool.false_ne_true
  | failed error => exact Bool.false_ne_true
  | notStarted =>
      obtain ⟨_, _, -, -, stopped⟩ := cameAbout
      rw [safe.isCancelled] at stopped
      cases stopped

/-- No file fails where nothing is in the way and files can be read. -/
theorem Completed.countP_isFailed {files : List String} {scope : PurgeScope}
    {first last : World σ γ} {handled : List (Handled indexer.read)}
    (completed : indexer.Completed around repository files scope first last handled)
    (unhindered : indexer.Unhindered around first.store)
    (readable : ∀ path ∈ files, ∀ step e, around.contentAt step path ≠ .error e) :
    handled.countP (·.fate.isFailed) = 0 := by
  rw [List.countP_eq_zero]
  intro entry member
  have cameAbout := completed.cameAbout entry member
  have listed := completed.mem_files_iff.2 ⟨entry, member, rfl⟩
  obtain ⟨path, fate⟩ := entry
  cases fate with
  | stored rendition => exact Bool.false_ne_true
  | failed error =>
      obtain ⟨step, -, -, e, unreadable⟩ := cameAbout unhindered
      exact absurd unreadable (readable path listed step e)
  | notStarted => exact Bool.false_ne_true

/-- **A full run ends well** while commits land if nothing fails, there is something to find, and
what was found stays readable. -/
theorem exists_index_isComplete [Walk] {answers : Answers} (steady : indexer.IsSteady answers)
    (repository : Repository)
    (there : ∀ step, around.tree step ≠ none)
    (head : ∀ step, ∃ commit, around.head step = .ok commit)
    (safe : around.IsSafe)
    (accepts : start.state.store.AcceptsSparse indexer.settings.collection)
    (ready : start.state.store.failingUpserts = 0)
    (found : around.discoveredAt (start.state.step + 1) ≠ [])
    (readable : ∀ path ∈ around.discoveredAt (start.state.step + 1), ∀ step e,
      around.contentAt step path ≠ .error e) :
    ∃ report after, (indexer.perform around repository .full).outcome start = (.ok report, after) ∧
      report.IsComplete ∧ after.state.store.failingUpserts = 0 := by
  have unhindered : indexer.Unhindered around start.state.store :=
    steady.unhindered safe.storeFailure ready
  obtain ⟨report, after, run⟩ :=
    exists_report_of_unhindered accepts (there _) unhindered
  have whole : (indexer.perform around repository .full).outcome start = (.ok report, after) := run
  refine ⟨report, after, run, ?_,
    Nat.le_zero.1 (ready ▸ (index_preserves accepts run).failingUpserts_le)⟩
  rcases index_cases accepts run with ⟨-, ⟨_, impossible, -⟩ | ⟨-, nothing⟩ | ⟨-, cancelled⟩⟩ |
    ⟨_, _, impossible, -⟩ | ⟨handled, checkpoint, complaints, completed, success, -⟩
  · cases impossible
  · exact absurd nothing found
  · rw [safe.isCancelled] at cancelled
    cases cancelled
  · cases impossible
  have counted : report.cancelled = (handled.any (·.fate.isNotStarted)) ∧
      report.filesSkipped = handled.countP (·.fate.isFailed) := by
    obtain rfl := Except.ok.inj success
    rw [Report.ofOutcomes_handled]
    exact ⟨rfl, rfl⟩
  have cancelled : report.cancelled = false := counted.1.trans (completed.any_isNotStarted safe)
  refine ⟨cancelled, counted.2.trans (completed.countP_isFailed unhindered readable), ?_⟩
  obtain ⟨commit, read⟩ := head (start.state.step + 2)
  rw [(perform_checksIn whole).reported report rfl, commit?_of_ok whole, if_neg, read]
  · exact Option.some_ne_none _
  · rintro (stopped | failed | ⟨-, nothing⟩)
    · rw [cancelled] at stopped
      cases stopped
    · exact failed (safe.checkpointFailure _)
    · exact found nothing

/-! ## What such runs leave -/

variable {answers : Answers} {line : Timeline} {position : Nat → Nat} {versions : Set Version}

/-- **A completed run that has stored all its files** leaves each as it was at some look of the run;
every other path has what the purge left of it. -/
theorem Completed.layout_of_follows (alike : indexer.AnswersAlike answers)
    (follows : around.Follows line position) {files : List String} (nodup : files.Nodup)
    {scope : PurgeScope} {first last : World σ γ} {handled : List (Handled indexer.read)}
    (completed : indexer.Completed around repository files scope first last handled)
    (stored : ∀ entry ∈ handled, ∃ rendition, entry.fate = .stored rendition)
    (distinct : DistinctIds indexer.read versions)
    (known : ∀ path ∈ files, ∀ step text, (line.tree (position step)).read path = .ok text →
      ⟨repository.name, path, text⟩ ∈ versions)
    (covers : ∀ path ∈ files, scope.Includes path)
    {held : Dictionary PointData} {layout : Layout (String × String)}
    (rendered : IsRendered indexer.read versions layout)
    (reflects : Reflects (OwnsId indexer.read versions) held layout) :
    ∃ layout', IsRendered indexer.read versions layout' ∧
      Reflects (OwnsId indexer.read versions)
        (written (purged (scope.filters repository.name) held)
          (handled.flatMap (·.points repository.name))) layout' ∧
      ∀ path, (path ∈ files → ∃ step text, first.step ≤ step ∧ step < last.step ∧
          (line.tree (position step)).read path = .ok text ∧
          layout' (repository.name, path) =
            indexer.pointsOf answers repository.name path text) ∧
        (path ∉ files → scope.Includes path → layout' (repository.name, path) = []) ∧
        (path ∉ files → ¬scope.Includes path →
          layout' (repository.name, path) = layout (repository.name, path)) := by
  have paths : (handled.map (·.path)).Perm files :=
    completed.paths_eq ▸ around.order_perm files
  have once := List.inj_on_of_nodup_map (paths.nodup_iff.2 nodup)
  obtain ⟨layout', rendered', reflects', given⟩ := completed.exists_layout_of_alike distinct
    (fun path member step text content =>
      known path member step text (follows.contentAt_eq step path ▸ content))
    covers rendered reflects
    (fun one member two member' same rendition rendition' fate fate' => by
      obtain rfl := once member member' same
      rw [fate] at fate'
      obtain rfl := Fate.stored.inj fate'
      rfl)
  refine ⟨layout', rendered', reflects', fun path => ?_⟩
  rcases given path with ⟨entry, member, rendition, rfl, fate, points⟩ | ⟨unstored, gone, kept⟩
  · have taken := completed.mem_files_iff.2 ⟨entry, member, rfl⟩
    refine ⟨fun _ => ?_, fun other => absurd taken other, fun other => absurd taken other⟩
    obtain ⟨canMake, step, lower, upper, content⟩ := completed.look_of_stored member fate
    rw [follows.contentAt_eq] at content
    exact ⟨step, rendition.text, lower, upper, content, points.trans (alike.points_eq canMake _)⟩
  · refine ⟨fun taken => ?_, fun _ => gone, fun _ => kept⟩
    obtain ⟨entry, member, rfl⟩ := completed.mem_files_iff.1 taken
    obtain ⟨rendition, fate⟩ := stored entry member
    have none := unstored entry member rfl
    rw [fate] at none
    cases none

/-- **When a run has last seen each path.**  The run begins at look `start` with the directory, and
reads the head at look `start + 2`.  A full run has seen before that what it did not find; all other
paths are seen behind it. -/
structure IsSighting [Walk] (around : Surroundings σ) (mode : RunMode) (start stop : Nat)
    (seen : String → Nat) : Prop where
  lt_stop : ∀ path, seen path < stop
  missed : mode = .full → ∀ path ∉ around.discoveredAt (start + 1), seen path = start + 1
  behind_head : ∀ path, (mode = .full → path ∈ around.discoveredAt (start + 1)) →
    start + 2 < seen path

/-- Whether a repository holds the points of the texts that its paths have been taken for. -/
def Holds (indexer : Indexer σ γ) (answers : Answers) (versions : Set Version) (name : String)
    (taken? : String → Option String) (held : Dictionary PointData) : Prop :=
  ∃ layout, IsRendered indexer.read versions layout ∧
    Reflects (OwnsId indexer.read versions) held layout ∧
    ∀ path, layout (name, path) = indexer.shown answers name path (taken? path)

section Layouts

variable [Walk] (plain : line.IsPlain) (alike : indexer.AnswersAlike answers)
variable (follows : around.Follows line position)
variable (distinct : DistinctIds indexer.read (line.versions repository.name))
variable (accepts : start.state.store.AcceptsSparse indexer.settings.collection)

include plain alike follows distinct accepts

/-- **What a full run leaves while commits land:** a file that it has found as it was when it was
read, and nothing of the others, as it was when the directory was walked. -/
theorem index_layout_of_follows
    (run : (indexer.index around repository).outcome start = (.ok report, after))
    (complete : report.IsComplete) :
    ∃ seen, IsSighting around .full start.state.step after.state.step seen ∧
      indexer.Holds answers (line.versions repository.name) repository.name
        (fun path => (line.tree (position (seen path))).indexed? path)
        (ownedBy repository.name (after.state.store.pointsOf indexer.settings.collection)) := by
  obtain ⟨first, handled, store, behind, onward, completed, stored⟩ :=
    index_completed accepts run complete
  have mem_found : ∀ {path}, path ∈ around.discoveredAt (start.state.step + 1) ↔
      isEligible (IgnoreRules.load (line.tree (position (start.state.step + 1)))) path = true ∧
        ∃ content, (line.tree (position (start.state.step + 1))).fileAt? path = some content := by
    intro path
    rw [follows.discoveredAt_eq]
    exact plain.mem_discover
  have taken : ∀ path ∈ around.discoveredAt (start.state.step + 1), ∀ step text,
      (line.tree (position step)).read path = .ok text →
        (line.tree (position step)).indexed? path = some text := by
    intro path found step text content
    obtain ⟨eligible, there, file⟩ := mem_found.1 found
    exact plain.indexed?_of_read ((plain.plain _).canonical_of_fileAt file) eligible content
  have nodup : (around.discoveredAt (start.state.step + 1)).Nodup := by
    rw [follows.discoveredAt_eq]
    exact plain.nodup_discover _
  have nothing : IsRendered indexer.read (line.versions repository.name) fun _ => [] :=
    fun _ _ => .inl rfl
  obtain ⟨layout, rendered, reflects, given⟩ := completed.layout_of_follows alike follows nodup
    stored distinct
    (fun path found step text content => ⟨rfl, _, taken path found step text content⟩)
    (fun path _ => includes_repository path) nothing (.empty _)
  have sighting : ∀ path, ∃ step, step < after.state.step ∧
      (path ∉ around.discoveredAt (start.state.step + 1) → step = start.state.step + 1) ∧
      (path ∈ around.discoveredAt (start.state.step + 1) → start.state.step + 2 < step) ∧
      layout (repository.name, path) = indexer.shown answers repository.name path
        ((line.tree (position step)).indexed? path) := by
    intro path
    by_cases found : path ∈ around.discoveredAt (start.state.step + 1)
    · obtain ⟨step, text, lower, upper, content, points⟩ := (given path).1 found
      refine ⟨step, upper, fun other => absurd found other, fun _ => by omega, ?_⟩
      rw [points, taken path found step text content, shown_some]
    · refine ⟨start.state.step + 1, by omega, fun _ => rfl, fun other => absurd other found, ?_⟩
      rw [follows.discoveredAt_eq] at found
      rw [(given path).2.1 (follows.discoveredAt_eq _ ▸ found) (includes_repository path),
        WorkTree.indexed?, if_neg found, shown_none]
  choose seen earlier missed behind_head points using sighting
  refine ⟨seen, ⟨earlier, fun _ => missed, fun path found => behind_head path (found rfl)⟩, layout,
    rendered, ?_, points⟩
  have emptied := purged_ownedBy repository.name
    (start.state.store.pointsOf indexer.settings.collection)
  rw [completed.ownedBy_eq, store]
  exact emptied ▸ reflects

/-- **What an incremental run leaves while commits land:** everything is as it was at some look
behind the one at the head. -/
theorem reindex_layout_of_follows
    (run : (indexer.reindex around repository).outcome start = (.ok report, after))
    (complete : report.IsComplete) {base : Nat}
    (checkpoint : start.state.checkpoints.get? repository.name = some (line.name base))
    (held : indexer.Holds answers (line.versions repository.name) repository.name
      (line.tree base).indexed?
      (ownedBy repository.name (start.state.store.pointsOf indexer.settings.collection))) :
    ∃ seen, IsSighting around .incremental start.state.step after.state.step seen ∧
      indexer.Holds answers (line.versions repository.name) repository.name
        (fun path => (line.tree (position (seen path))).indexed? path)
        (ownedBy repository.name (after.state.store.pointsOf indexer.settings.collection)) := by
  obtain ⟨changes, told, first, handled, store, behind, onward, completed, stored⟩ :=
    reindex_completed accepts run complete
  obtain ⟨changes', told', difference⟩ := follows.changes_eq (start.state.step + 3) base
  rw [checkpoint, told'] at told
  obtain rfl := Except.ok.inj told
  obtain ⟨layout, rendered, reflects, before⟩ := held
  have canonical : ∀ path ∈ changes'.changed, Path.IsCanonical path := by
    intro path changed
    obtain ⟨⟨content, file⟩, -⟩ := (difference.changed_iff path).1 changed
    exact (plain.plain _).canonical_of_fileAt file
  have taken : ∀ path ∈ around.eligibleAt (start.state.step + 4) changes'.changed, ∀ step text,
      (line.tree (position step)).read path = .ok text →
        (line.tree (position step)).indexed? path = some text := by
    intro path listed step text content
    obtain ⟨changed, eligible, -⟩ := follows.mem_eligibleAt.1 listed
    exact plain.indexed?_of_read (canonical path changed) eligible content
  obtain ⟨layout', rendered', reflects', given⟩ := completed.layout_of_follows alike follows
    (difference.nodup.filter _) stored distinct
    (fun path found step text content => ⟨rfl, _, taken path found step text content⟩)
    (fun path found => includes_of_eligibleAt found) rendered reflects
  have sighting : ∀ path, ∃ step, start.state.step + 2 < step ∧ step < after.state.step ∧
      layout' (repository.name, path) =
        indexer.shown answers repository.name path
          ((line.tree (position step)).indexed? path) := by
    intro path
    obtain ⟨written, removed, kept⟩ := given path
    by_cases listed : path ∈ around.eligibleAt (start.state.step + 4) changes'.changed
    · obtain ⟨step, text, lower, upper, content, points⟩ := written listed
      refine ⟨step, by omega, upper, ?_⟩
      rw [points, taken path listed step text content, shown_some]
    by_cases included : (PurgeScope.files (purgedPaths changes')).Includes path
    · -- the path is told, but it is gone by now, or not eligible
      suffices ∃ step, start.state.step + 2 < step ∧ step < after.state.step ∧
          (line.tree (position step)).indexed? path = none by
        obtain ⟨step, lower, upper, none⟩ := this
        exact ⟨step, lower, upper, by rw [removed listed included, none, shown_none]⟩
      rcases mem_purgedPaths.1 included with deleted | changed
      · obtain ⟨⟨content, file⟩, gone⟩ := (difference.deleted_iff path).1 deleted
        exact ⟨start.state.step + 3, by omega, by omega, (plain.plain _).indexed?_of_canonical
          ((plain.plain _).canonical_of_fileAt file) gone⟩
      · refine ⟨start.state.step + 4, by omega, by omega, ?_⟩
        by_cases eligible : isEligible (IgnoreRules.load
            (line.tree (position (start.state.step + 4)))) path = true
        · exact plain.indexed?_of_not_isFile (canonical path changed) fun there =>
            listed (follows.mem_eligibleAt.2 ⟨changed, eligible, there⟩)
        · exact plain.indexed?_of_not_eligible eligible
    · -- nothing has changed up to the look at the changes
      refine ⟨start.state.step + 3, by omega, by omega, ?_⟩
      have same := (difference.unlisted_iff path).1 fun told =>
        included (mem_purgedPaths.2 told)
      rw [kept listed included, before path, plain.indexed?_congr same.fileAt?_eq]
  choose seen behind_head earlier points using sighting
  refine ⟨seen, ⟨earlier, nofun, fun path _ => behind_head path⟩, layout', rendered', ?_, points⟩
  rw [completed.ownedBy_eq, store]
  exact reflects'

/-- **What a run leaves while commits land** is each path as the run has last seen it. -/
theorem perform_layout {mode : RunMode}
    (run : (indexer.perform around repository mode).outcome start = (.ok report, after))
    (complete : report.IsComplete)
    (earlier : mode = .incremental → ∃ base,
      start.state.checkpoints.get? repository.name = some (line.name base) ∧
        indexer.Holds answers (line.versions repository.name) repository.name
          (line.tree base).indexed?
          (ownedBy repository.name (start.state.store.pointsOf indexer.settings.collection))) :
    ∃ seen, IsSighting around mode start.state.step after.state.step seen ∧
      indexer.Holds answers (line.versions repository.name) repository.name
        (fun path => (line.tree (position (seen path))).indexed? path)
        (ownedBy repository.name (after.state.store.pointsOf indexer.settings.collection)) := by
  cases mode with
  | full => exact index_layout_of_follows plain alike follows distinct accepts run complete
  | incremental =>
      obtain ⟨base, checkpoint, held⟩ := earlier rfl
      exact reindex_layout_of_follows plain alike follows distinct accepts run complete checkpoint
        held

end Layouts

end Indexer

end CodeIndex
