import CodeIndex.Proofs.Run.FilePipeline

/-!
# What a run does to a store

Full and incremental runs share everything but the choice of their files and of what they remove.
What they share is `Indexer.run`: it removes points, takes each file through its steps, and reports.
There are three ways in which it can end, and `Indexer.run_cases` says what the store holds after
each.  A run that fails has removed some of what it meant to remove, in order, and has stored
nothing; a run that was cancelled before it started has changed nothing; every other run has removed
all it meant to remove, and has then written the points of the files that it stored.

## Main statements

* `Indexer.prepare_cases`, `Indexer.purge_cases`
* `Indexer.run_cases`: the three ways in which a run ends.
-/

namespace CodeIndex

variable {σ γ α : Type} {indexer : Indexer σ γ} {around : Surroundings σ}
variable {before after : Clocked (World σ γ)}

namespace Indexer

/-! ## Getting ready -/

/-- Keeping indexes for some fields changes no points, and works if the collection is there. -/
theorem forM_ensureKeywordIndex_cases {name : String} {fields : List String}
    {result : Except RunError Unit}
    (run : (fields.forM fun field => storeOnce around (·.ensureKeywordIndex name field)).outcome
      before = (result, after)) :
    before.state.store.SamePoints after.state.store ∧
      (result = .ok () ∨ ((∀ step, around.storeFailure step = none) →
        before.state.store.exists? name = false)) := by
  induction fields generalizing before with
  | nil =>
      obtain ⟨rfl, rfl⟩ := Prod.mk.inj run
      exact ⟨.refl _, .inl rfl⟩
  | cons field fields ih =>
      rcases RunM.of_outcome_bind run with ⟨e, failed, rfl⟩ | ⟨⟨⟩, middle, made, rest⟩
      · rcases storeOnce_cases around failed with
          ⟨step, e, failure, -, same⟩ | ⟨answer, made, error⟩
        · refine ⟨same ▸ .refl _, .inr fun none => ?_⟩
          rw [none step] at failure
          cases failure
        · obtain ⟨works, same⟩ := MemoryStore.ensureKeywordIndex_cases made
          refine ⟨same, .inr fun _ => Bool.eq_false_iff.2 fun there => ?_⟩
          rw [works there] at error
          cases error
      · obtain ⟨same', rest⟩ := ih rest
        rcases storeOnce_cases around made with ⟨_, _, -, impossible, -⟩ | ⟨answer, made, -⟩
        · cases impossible
        · have same := (MemoryStore.ensureKeywordIndex_cases made).2
          refine ⟨same.trans same', rest.imp_right fun missing none => ?_⟩
          refine Bool.eq_false_iff.2 fun there => ?_
          rw [same.stays _ there] at missing
          cases missing none

/-- **Getting ready changes no points,** and leaves a collection to write into. -/
theorem prepare_cases {result : Except RunError Unit}
    (run : (indexer.prepare around).outcome before = (result, after)) :
    before.state.store.SamePoints after.state.store ∧
      ((∃ e, result = .error e ∧ ¬indexer.Unhindered around before.state.store) ∨
        result = .ok () ∧
          after.state.store.exists? indexer.settings.collection = true) := by
  rcases RunM.of_outcome_bind run with ⟨e, probing, rfl⟩ | ⟨vector, probed, probing, rest⟩
  · obtain ⟨alone, now, embedder, answer⟩ := retried_embedRequest_cases probing
    refine ⟨by rw [alone]; exact .refl _, .inl ⟨e, rfl, fun unhindered => ?_⟩⟩
    obtain ⟨vector, answered, inTime⟩ := unhindered.embed "probe" now embedder
    rcases answer with ⟨-, -, late | ⟨cause, failed⟩⟩ | ⟨_, impossible, -⟩
    · exact absurd inTime (Nat.not_le_of_lt late)
    · rw [answered] at failed
      cases failed
    · cases impossible
  obtain ⟨alone, -⟩ := retried_embedRequest_cases probing
  have same : probed.state.store = before.state.store := by rw [alone]
  rcases RunM.of_outcome_bind rest with ⟨e, ensuring, rfl⟩ | ⟨⟨⟩, ensured, ensuring, rest⟩
  · rcases storeOnce_cases around ensuring with ⟨step, e, failure, -, same'⟩ | ⟨answer, made, error⟩
    · refine ⟨by rw [same', same]; exact .refl _, .inl ⟨_, rfl, fun unhindered => ?_⟩⟩
      rw [unhindered.storeFailure step] at failure
      cases failure
    · obtain ⟨rfl, -⟩ := MemoryStore.ensure_cases made
      cases error
  rcases storeOnce_cases around ensuring with ⟨_, _, -, impossible, -⟩ | ⟨answer, made, -⟩
  · cases impossible
  obtain ⟨-, there, kept⟩ := MemoryStore.ensure_cases made
  obtain ⟨kept', indexed⟩ := forM_ensureKeywordIndex_cases rest
  rw [same] at kept
  refine ⟨kept.trans kept', ?_⟩
  cases result with
  | ok _ => exact .inr ⟨rfl, kept'.stays _ there⟩
  | error e =>
      refine .inl ⟨e, rfl, fun unhindered => ?_⟩
      have missing := (indexed.resolve_left fun impossible => by cases impossible)
        unhindered.storeFailure
      rw [there] at missing
      cases missing

/-! ## Removing points -/

/-- Deletions are made in order, up to one that fails. -/
theorem forM_delete_cases {name operation : String} {policy : RetryPolicy} {filters : List Filter}
    {result : Except RunError Unit}
    (run : (filters.forM fun filter => retried policy operation
      (storeRequest around fun store => store.delete name filter)).outcome before =
        (result, after)) :
    ∃ done, done <+: filters ∧
      before.state.store.Changes name (purged done) after.state.store ∧
      ((∃ e, result = .error e ∧ ((∀ filter ∈ filters, filter ≠ []) →
          ∃ step e, around.storeFailure step = some e)) ∨
        result = .ok () ∧ done = filters) := by
  induction filters generalizing before with
  | nil =>
      obtain ⟨rfl, rfl⟩ := Prod.mk.inj run
      exact ⟨[], List.nil_prefix, ((MemoryStore.SamePoints.refl _).changes name).congr (by simp),
        .inr ⟨rfl, rfl⟩⟩
  | cons filter filters ih =>
      have failedKeeps : ∀ store e after, before.state.store.SamePoints store →
          store.delete name filter = (.error e, after) →
            before.state.store.SamePoints after := by
        intro store e after kept made
        rcases MemoryStore.delete_cases made with ⟨-, -, same, -⟩ | ⟨impossible, -⟩
        · exact kept.trans same
        · cases impossible
      rcases RunM.of_outcome_bind run with ⟨e, deleting, rfl⟩ | ⟨⟨⟩, middle, deleting, rest⟩
      · rcases retried_storeRequest_cases around before.state.store.SamePoints failedKeeps (.refl _)
            deleting with ⟨_, -, kept, blame⟩ | ⟨_, _, impossible, -⟩
        · -- the first deletion has failed for good, and so nothing was removed
          refine ⟨[], List.nil_prefix, (kept.changes name).congr (by simp),
            .inl ⟨e, rfl, fun conditions => ?_⟩⟩
          rcases blame with failure | ⟨_, _, _, -, made⟩
          · exact failure
          · rcases MemoryStore.delete_cases made with ⟨-, -, -, empty⟩ | ⟨impossible, -⟩
            · exact absurd empty (conditions filter List.mem_cons_self)
            · cases impossible
        · cases impossible
      · rcases retried_storeRequest_cases around before.state.store.SamePoints failedKeeps (.refl _)
            deleting with ⟨_, impossible, -⟩ | ⟨_, store, -, kept, made⟩
        · cases impossible
        rcases MemoryStore.delete_cases made with ⟨_, impossible, -⟩ | ⟨-, changes⟩
        · cases impossible
        obtain ⟨done, ordered, changes', rest⟩ := ih rest
        refine ⟨filter :: done, List.cons_prefix_cons.2 ⟨rfl, ordered⟩, ?_, ?_⟩
        · refine ((kept.trans_changes changes).trans changes').congr ?_
          exact (purged_append [filter] done _).symm
        · refine rest.imp (fun ⟨e, error, blame⟩ => ⟨e, error, fun conditions => ?_⟩)
            fun ⟨success, all⟩ => ⟨success, by rw [all]⟩
          exact blame fun filter member => conditions filter (List.mem_cons_of_mem _ member)

/-- The filters of a run have conditions, so no deletion is refused. -/
theorem ne_nil_of_mem_filters {name : String} {scope : PurgeScope} {filter : Filter}
    (member : filter ∈ scope.filters name) : filter ≠ [] := by
  cases scope with
  | repository =>
      obtain rfl := List.mem_singleton.1 member
      exact List.cons_ne_nil _ _
  | files paths =>
      obtain ⟨path, -, rfl⟩ := List.mem_map.1 member
      exact List.cons_ne_nil _ _

/-- **A purge removes what its filters accept, in order,** up to a deletion that fails. -/
theorem purge_cases {repository : Repository} {scope : PurgeScope} {result : Except RunError Unit}
    (run : (indexer.purge around repository scope).outcome before = (result, after)) :
    ∃ done, done <+: scope.filters repository.name ∧
      before.state.store.Changes indexer.settings.collection (purged done) after.state.store ∧
      ((∃ e, result = .error e ∧ ¬indexer.Unhindered around before.state.store) ∨
        result = .ok () ∧ done = scope.filters repository.name) := by
  obtain ⟨done, ordered, changes, outcome⟩ := forM_delete_cases run
  refine ⟨done, ordered, changes, outcome.imp_left fun ⟨e, error, blame⟩ => ⟨e, error, ?_⟩⟩
  intro unhindered
  obtain ⟨step, e, failure⟩ := blame fun filter member => ne_nil_of_mem_filters member
  rw [unhindered.storeFailure step] at failure
  cases failure

/-! ## Runs -/

theorem isReady_cases {files : List String} {result : Except RunError Bool}
    (run : (indexer.isReady around files).outcome before = (result, after)) :
    before.state.store.SamePoints after.state.store ∧
      ((∃ e, result = .error e ∧ ¬indexer.Unhindered around before.state.store) ∨
        ∃ ready, result = .ok ready ∧
          after.state.store.exists? indexer.settings.collection = ready ∧
          (ready = false → files = [])) := by
  unfold isReady at run
  by_cases none : files = []
  · simp only [none, List.isEmpty_nil, if_true] at run
    rcases storeOnce_cases around run with ⟨step, e, failure, rfl, same⟩ | ⟨answer, made, rfl⟩
    · refine ⟨same ▸ .refl _, .inl ⟨_, rfl, fun unhindered => ?_⟩⟩
      rw [unhindered.storeFailure step] at failure
      cases failure
    · obtain ⟨rfl, same⟩ := Prod.mk.inj made
      refine ⟨same ▸ .refl _, .inr ⟨_, rfl, ?_, fun _ => none⟩⟩
      rw [← same]
  · simp only [List.isEmpty_iff, none, if_false] at run
    rcases RunM.of_outcome_bind run with ⟨e, failed, rfl⟩ | ⟨⟨⟩, middle, made, rest⟩
    · obtain ⟨same, ⟨_, -, hindered⟩ | ⟨impossible, -⟩⟩ := prepare_cases failed
      · exact ⟨same, .inl ⟨e, rfl, hindered⟩⟩
      · cases impossible
    · obtain ⟨rfl, rfl⟩ := Prod.mk.inj rest
      obtain ⟨same, ⟨_, impossible, -⟩ | ⟨-, there⟩⟩ := prepare_cases made
      · cases impossible
      · exact ⟨same, .inr ⟨true, rfl, there, fun impossible => by cases impossible⟩⟩

/-- Gets the collection ready and removes what is in scope. -/
def makeRoom (indexer : Indexer σ γ) (around : Surroundings σ) (repository : Repository)
    (files : List String) (scope : PurgeScope) : RunM σ γ Unit := do
  if ← indexer.isReady around files then indexer.purge around repository scope

/-- A run makes room, and then takes the files. -/
theorem run_eq (repository : Repository) (files : List String) (scope : PurgeScope) :
    indexer.run around repository files scope = (do
      if ← isCancelled around then return { cancelled := true }
      indexer.makeRoom around repository files scope
      let outcomes ← (around.order files).mapM (indexer.processFile around repository)
      return .ofOutcomes outcomes) := by
  unfold run makeRoom
  simp only [bind_assoc]
  congr 1
  funext cancelled
  split
  · rfl
  · congr 1
    funext ready
    cases ready <;> simp

theorem isOnward_makeRoom (repository : Repository) (files : List String) (scope : PurgeScope) :
    (indexer.makeRoom around repository files scope).IsOnward := by
  refine RunM.IsOnward.bind ?_ fun ready => ?_
  · unfold isReady
    split
    · exact isOnward_storeOnce around _
    · exact (isOnward_prepare indexer around).bind fun _ => RunM.isOnward_pure true
  · split
    · exact isOnward_purge indexer around repository scope
    · exact RunM.isOnward_pure _

/-- Without a collection there is nothing to remove. -/
theorem makeRoom_cases {repository : Repository} {files : List String} {scope : PurgeScope}
    {result : Except RunError Unit}
    (run : (indexer.makeRoom around repository files scope).outcome before = (result, after)) :
    (∃ e done, result = .error e ∧ ¬indexer.Unhindered around before.state.store ∧
        done <+: scope.filters repository.name ∧
        before.state.store.Changes indexer.settings.collection (purged done) after.state.store) ∨
      result = .ok () ∧
        before.state.store.Changes indexer.settings.collection
          (purged (scope.filters repository.name)) after.state.store ∧
        (files = [] ∨ after.state.store.exists? indexer.settings.collection = true) := by
  rcases RunM.of_outcome_bind run with ⟨e, failed, rfl⟩ | ⟨ready, middle, made, rest⟩
  · obtain ⟨same, ⟨_, -, hindered⟩ | ⟨_, impossible, -⟩⟩ := isReady_cases failed
    · exact .inl ⟨e, [], rfl, hindered, List.nil_prefix, (same.changes _).congr (by simp)⟩
    · cases impossible
  obtain ⟨same, ⟨_, impossible, -⟩ | ⟨_, success, there, missing⟩⟩ := isReady_cases made
  · cases impossible
  cases success
  cases ready with
  | false =>
      obtain ⟨rfl, rfl⟩ := Prod.mk.inj rest
      refine .inr ⟨rfl, (same.changes _).congr ?_, .inl (missing rfl)⟩
      rw [← same.pointsOf_eq, MemoryStore.pointsOf_eq_empty there, purged_empty, id]
  | true =>
      obtain ⟨done, ordered, changes, ⟨e, rfl, hindered⟩ | ⟨rfl, rfl⟩⟩ := purge_cases rest
      · exact .inl ⟨e, done, rfl,
          fun unhindered => hindered (unhindered.of_preserves same.toPreserves),
          ordered, same.trans_changes changes⟩
      · exact .inr ⟨rfl, same.trans_changes changes, .inr (changes.stays _ there)⟩

/-- **What a run has done** that neither failed nor was cancelled before it started.  Only
unreadable files fail if nothing hinders the run. -/
structure Completed (indexer : Indexer σ γ) (around : Surroundings σ) (repository : Repository)
    (files : List String) (scope : PurgeScope) (before after : World σ γ)
    (handled : List (Handled indexer.read)) : Prop where
  paths_eq : handled.map (·.path) = around.order files
  cameAbout : ∀ entry ∈ handled, indexer.CameAbout around
    (indexer.Unhindered around before.store) before.step after.step entry
  /-- What is removed is removed first; then come the points of the files. -/
  changes : before.store.Changes indexer.settings.collection
    (fun held => written (purged (scope.filters repository.name) held)
      (handled.flatMap (·.points repository.name))) after.store

/-- A run says what became of each of its files, and of nothing else. -/
theorem Completed.mem_files_iff {repository : Repository} {files : List String} {scope : PurgeScope}
    {before after : World σ γ} {handled : List (Handled indexer.read)}
    (completed : indexer.Completed around repository files scope before after handled)
    {path : String} : path ∈ files ↔ ∃ entry ∈ handled, entry.path = path := by
  rw [← (around.order_perm files).mem_iff, ← completed.paths_eq, List.mem_map]

/-- What was stored of a file was made of what it held at some look of the run. -/
theorem Completed.look_of_stored {repository : Repository} {files : List String}
    {scope : PurgeScope} {before after : World σ γ} {handled : List (Handled indexer.read)}
    (completed : indexer.Completed around repository files scope before after handled)
    {entry : Handled indexer.read} (member : entry ∈ handled)
    {rendition : Rendition indexer.read entry.path} (stored : entry.fate = .stored rendition) :
    indexer.CanMake rendition ∧ ∃ step, before.step ≤ step ∧ step < after.step ∧
      around.contentAt step entry.path = .ok rendition.text := by
  have cameAbout := completed.cameAbout entry member
  rwa [CameAbout, stored] at cameAbout

/-- Of its repository, a run keeps what it did not remove, and writes the points of its files over
it. -/
theorem Completed.ownedBy_eq {repository : Repository} {files : List String} {scope : PurgeScope}
    {before after : World σ γ} {handled : List (Handled indexer.read)}
    (completed : indexer.Completed around repository files scope before after handled) :
    ownedBy repository.name (after.store.pointsOf indexer.settings.collection) =
      written (purged (scope.filters repository.name)
          (ownedBy repository.name (before.store.pointsOf indexer.settings.collection)))
        (handled.flatMap (·.points repository.name)) := by
  rw [completed.changes.here]
  refine ownedBy_written_purged (fun point member => ?_) _ _
  obtain ⟨entry, -, member⟩ := List.mem_flatMap.1 member
  exact (Handled.of_mem_points member).2.1

/-- Looks before and after a run that leave the store alone make no difference. -/
theorem Completed.widen {repository : Repository} {files : List String} {scope : PurgeScope}
    {earlier before after later : World σ γ} {handled : List (Handled indexer.read)}
    (completed : indexer.Completed around repository files scope before after handled)
    (same : before.store = earlier.store) (le : earlier.step ≤ before.step)
    (same' : later.store = after.store) (le' : after.step ≤ later.step) :
    indexer.Completed around repository files scope earlier later handled := by
  refine ⟨completed.paths_eq, fun entry member => ?_, ?_⟩
  · exact (completed.cameAbout entry member).mono (same ▸ id) le le'
  · rw [same', ← same]
    exact completed.changes

/-- **A run ends in one of three ways:** cancelled before it started, with all points as they were;
failed, with the first few of its deletions made and nothing stored; or completed. -/
theorem run_cases {repository : Repository} {files : List String} {scope : PurgeScope}
    (accepts : before.state.store.AcceptsSparse indexer.settings.collection)
    {result : Except RunError Report}
    (run : (indexer.run around repository files scope).outcome before = (result, after)) :
    (result = .ok { cancelled := true } ∧
        around.isCancelled before.state.step before.state.embedder = true ∧
        before.state.store.SamePoints after.state.store) ∨
      (∃ e done, result = .error e ∧ ¬indexer.Unhindered around before.state.store ∧
        done <+: scope.filters repository.name ∧
        before.state.store.Changes indexer.settings.collection (purged done) after.state.store) ∨
      ∃ handled, indexer.Completed around repository files scope before.state after.state handled ∧
        result = .ok (.ofOutcomes (handled.map (·.outcome))) := by
  rw [run_eq, outcome_isCancelled_bind] at run
  by_cases cancelled : around.isCancelled before.state.step before.state.embedder = true
  · simp only [cancelled, if_true, RunM.outcome_pure] at run
    obtain ⟨rfl, rfl⟩ := Prod.mk.inj run
    exact .inl ⟨rfl, cancelled, .refl _⟩
  refine .inr ?_
  simp only [cancelled] at run
  rcases RunM.of_outcome_bind run with ⟨e, failed, rfl⟩ | ⟨⟨⟩, ready, made, rest⟩
  · rcases makeRoom_cases failed with ⟨_, done, -, hindered, ordered, changes⟩ | ⟨impossible, -⟩
    · exact .inl ⟨e, done, rfl, hindered, ordered, changes⟩
    · cases impossible
  rcases makeRoom_cases made with ⟨_, _, impossible, -⟩ | ⟨-, changes, there⟩
  · cases impossible
  have looked : before.state.step ≤ (RunM.looked before).state.step := Nat.le_succ _
  have onward := (isOnward_makeRoom repository files scope).of_outcome made
  have accepts := changes.acceptsSparse _ accepts
  obtain ⟨outcomes, last, files', rest⟩ :=
    (RunM.of_outcome_bind rest).resolve_left fun ⟨_, failed, _⟩ => by
      obtain ⟨_, -, impossible, -⟩ := mapM_processFile_cases accepts failed
      cases impossible
  obtain ⟨handled, paths, success, cameAbout, changes'⟩ := mapM_processFile_cases accepts files'
  cases success
  obtain ⟨rfl, rfl⟩ := Prod.mk.inj rest
  refine .inr ⟨handled, ⟨paths, fun entry member => ?_, changes.trans changes'⟩, rfl⟩
  refine (cameAbout entry member).mono (fun unhindered => ?_) (looked.trans onward.step_le)
    (Nat.le_refl _)
  -- there is a file, so the collection is there
  have some : files ≠ [] := by
    rintro rfl
    have empty := (around.order_perm []).eq_nil
    rw [← paths, List.map_eq_nil_iff] at empty
    rw [empty] at member
    cases member
  exact ⟨there.resolve_left some, unhindered.of_preserves changes.toPreserves⟩

end Indexer

end CodeIndex
