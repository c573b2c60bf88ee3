import CodeIndex.Proofs.Repository.PlainTree
import CodeIndex.Proofs.Run.Pass

/-!
# Full runs

A full run removes all points of its repository and stores those of the files that discovery finds.
Whatever goes wrong on the way, what the store then holds of the repository is what the report says:
the points of the files that were processed, completely, and nothing else.

## Main statements

* `Report.ofOutcomes_handled`: what a report counts.
* `Indexer.index_cases`: how a full run ends.
* `Indexer.index_preserves`: what a full run leaves to later ones.
* `Indexer.exists_report_of_unhindered`: when a full run cannot fail.
* `Indexer.index_allOrNothing`: a run that was not cancelled before it started leaves exactly the
  points of the files that it reports as processed.
-/

namespace CodeIndex

variable {σ γ : Type}

/-! ## Reports -/

namespace Report

variable {read : SyntaxReader}

theorem foldl_add_handled (handled : List (Handled read)) (report : Report) :
    (handled.map (·.outcome)).foldl add report =
      { report with
        filesProcessed := report.filesProcessed + handled.countP (·.fate.isStored)
        chunksIndexed := report.chunksIndexed + (handled.flatMap (·.chunks)).length
        filesSkipped := report.filesSkipped + handled.countP (·.fate.isFailed)
        contextsSkipped :=
          report.contextsSkipped + (handled.flatMap (·.fate.undescribed)).length
        errors := report.errors ++ handled.filterMap (·.fate.complaint?)
        cancelled := report.cancelled || handled.any (·.fate.isNotStarted) } := by
  induction handled generalizing report with
  | nil => simp
  | cons entry handled ih =>
      obtain ⟨path, fate⟩ := entry
      rw [List.map_cons, List.foldl_cons, ih]
      cases fate with
      | stored rendition =>
          simp [add, Handled.outcome, Handled.chunks, Fate.isStored, Fate.isFailed,
            Fate.isNotStarted, Fate.complaint?, Fate.undescribed, Rendition.undescribed,
            List.countP_eq_length_filter, Nat.add_assoc, Nat.add_comm 1]
      | failed error =>
          simp [add, Handled.outcome, Handled.chunks, Fate.isStored, Fate.isFailed,
            Fate.isNotStarted, Fate.complaint?, Fate.undescribed, Nat.add_assoc, Nat.add_comm 1]
      | notStarted =>
          simp [add, Handled.outcome, Handled.chunks, Fate.isStored, Fate.isFailed,
            Fate.isNotStarted, Fate.complaint?, Fate.undescribed]

/-- **What a report counts:** files that were stored with their chunks, and files that failed, with
one message for each. -/
theorem ofOutcomes_handled (handled : List (Handled read)) :
    ofOutcomes (handled.map (·.outcome)) =
      { filesProcessed := handled.countP (·.fate.isStored)
        chunksIndexed := (handled.flatMap (·.chunks)).length
        filesSkipped := handled.countP (·.fate.isFailed)
        contextsSkipped := (handled.flatMap (·.fate.undescribed)).length
        errors := handled.filterMap (·.fate.complaint?)
        cancelled := handled.any (·.fate.isNotStarted) } := by
  rw [ofOutcomes, foldl_add_handled]
  simp

end Report

/-! ## How a full run ends -/

/-- The files that discovery finds at a look at the surroundings. -/
def Surroundings.discoveredAt [Walk] (around : Surroundings σ) (step : Nat) : List String :=
  let tree := (around.tree step).getD WorkTree.empty
  tree.discover (IgnoreRules.load tree)

namespace Indexer

variable {indexer : Indexer σ γ} {around : Surroundings σ} {repository : Repository}
variable {before after : Clocked (World σ γ)}

theorem requireDirectory_cases {result : Except RunError Unit}
    (run : (requireDirectory around repository).outcome before = (result, after)) :
    after = RunM.looked before ∧
      ((∃ e, result = .error e ∧ around.tree before.state.step = none) ∨ result = .ok ()) := by
  rw [requireDirectory, RunM.outcome_see_bind] at run
  cases there : around.tree before.state.step with
  | none =>
      simp only [there, Option.isNone_none, if_true, RunM.outcome_throw] at run
      obtain ⟨rfl, rfl⟩ := Prod.mk.inj run
      exact ⟨rfl, .inl ⟨_, rfl, rfl⟩⟩
  | some tree =>
      simp only [there, Option.isNone_some] at run
      obtain ⟨rfl, rfl⟩ := Prod.mk.inj run
      exact ⟨rfl, .inr rfl⟩

theorem requireCheckpoints_cases {result : Except RunError Unit}
    (run : (requireCheckpoints around).outcome before = (result, after)) :
    after = RunM.looked before ∧
      ((∃ detail, result = .error (.checkpoint detail) ∧
          around.checkpointFailure before.state.step = some detail) ∨ result = .ok ()) := by
  rw [requireCheckpoints, RunM.outcome_see_bind] at run
  cases failure : around.checkpointFailure before.state.step with
  | none =>
      simp only [failure] at run
      obtain ⟨rfl, rfl⟩ := Prod.mk.inj run
      exact ⟨rfl, .inr rfl⟩
  | some detail =>
      simp only [failure] at run
      obtain ⟨rfl, rfl⟩ := Prod.mk.inj run
      exact ⟨rfl, .inl ⟨detail, rfl, rfl⟩⟩

/-- Storing a checkpoint leaves the store alone. -/
theorem setCheckpoint_cases {commit : String} {result : Except RunError Unit}
    (run : (setCheckpoint around repository commit).outcome before = (result, after)) :
    after.state.store = before.state.store ∧ after.state.step = before.state.step + 1 ∧
      ((∃ detail, result = .error (.checkpoint detail) ∧
          around.checkpointFailure before.state.step = some detail) ∨ result = .ok ()) := by
  rcases RunM.of_outcome_bind run with ⟨e, failed, rfl⟩ | ⟨⟨⟩, middle, made, rest⟩
  · obtain ⟨rfl, failure | impossible⟩ := requireCheckpoints_cases failed
    · exact ⟨rfl, rfl, .inl failure⟩
    · cases impossible
  · obtain ⟨rfl, -⟩ := requireCheckpoints_cases made
    obtain ⟨rfl, rfl⟩ := Prod.mk.inj rest
    exact ⟨rfl, rfl, .inr rfl⟩

/-- Discovery is a look at the surroundings. -/
theorem outcome_discovered_bind [Walk] {α : Type} (next : List String → RunM σ γ α)
    (before : Clocked (World σ γ)) :
    (discovered around >>= next).outcome before =
      (next (around.discoveredAt before.state.step)).outcome (RunM.looked before) :=
  RunM.outcome_bind_of_ok rfl

/-- What a full run does after its files: it stores a checkpoint if there is one to store. -/
def finish (around : Surroundings σ) (repository : Repository) (head : Except RunError String)
    (report : Report) : RunM σ γ Report := do
  if report.cancelled then return report
  match head with
  | .error _ => return report
  | .ok commit =>
    match ← (setCheckpoint around repository commit).caught with
    | .ok () => return { report with checkpoint := some commit }
    | .error (.checkpoint detail) =>
      return { report with errors := report.errors ++ ["checkpoint: " ++ detail] }
    | .error e => return { report with errors := report.errors ++ ["checkpoint: " ++ e.message] }

theorem index_eq [Walk] (repository : Repository) :
    indexer.index around repository = (do
      requireDirectory around repository
      let files ← discovered around
      if files.isEmpty then return {}
      let head ← RunM.see around.head
      let report ← indexer.run around repository files .repository
      finish around repository head report) := rfl

/-- The end of a run leaves the store alone, never fails, and adds at most a complaint about
checkpoints. -/
theorem finish_cases {head : Except RunError String} {report : Report}
    {result : Except RunError Report}
    (run : (finish around repository head report).outcome before = (result, after)) :
    after.state.store = before.state.store ∧ before.state.step ≤ after.state.step ∧
      ∃ checkpoint complaints,
        result = .ok { report with checkpoint, errors := report.errors ++ complaints } ∧
        (complaints = [] ∨ ∃ detail, complaints = ["checkpoint: " ++ detail] ∧
          ∃ step, around.checkpointFailure step = some detail) := by
  have plain : report =
      { report with checkpoint := report.checkpoint, errors := report.errors ++ [] } := by
    rw [List.append_nil]
  unfold finish at run
  by_cases stop : report.cancelled
  · rw [if_pos stop] at run
    obtain ⟨rfl, rfl⟩ := Prod.mk.inj run
    exact ⟨rfl, Nat.le_refl _, report.checkpoint, [], congrArg _ plain, .inl rfl⟩
  rw [if_neg stop] at run
  cases head with
  | error e =>
      obtain ⟨rfl, rfl⟩ := Prod.mk.inj run
      exact ⟨rfl, Nat.le_refl _, report.checkpoint, [], congrArg _ plain, .inl rfl⟩
  | ok commit =>
      rcases saving : (setCheckpoint around repository commit).outcome before with ⟨answer, saved⟩
      simp only [RunM.outcome_caught_bind, saving] at run
      obtain ⟨same, step, ⟨detail, rfl, failure⟩ | rfl⟩ := setCheckpoint_cases saving
      · obtain ⟨rfl, rfl⟩ := Prod.mk.inj run
        exact ⟨same, by omega, report.checkpoint, _, rfl, .inr ⟨detail, rfl, _, failure⟩⟩
      · obtain ⟨rfl, rfl⟩ := Prod.mk.inj run
        refine ⟨same, by omega, some commit, [], ?_, .inl rfl⟩
        rw [List.append_nil]

/-- **How a full run ends.**  It finds nothing to do, and then all points are as they were; or it
fails while it removes points; or it completes, and adds at most a checkpoint or a complaint about
checkpoints to its report. -/
theorem index_cases [Walk] (accepts : before.state.store.AcceptsSparse indexer.settings.collection)
    {result : Except RunError Report}
    (run : (indexer.index around repository).outcome before = (result, after)) :
    (before.state.store.SamePoints after.state.store ∧
        ((∃ e, result = .error e ∧ around.tree before.state.step = none) ∨
          (result = .ok {} ∧ around.discoveredAt (before.state.step + 1) = []) ∨
          result = .ok { cancelled := true } ∧
            around.isCancelled (before.state.step + 3) before.state.embedder = true)) ∨
      (∃ e done, result = .error e ∧ ¬indexer.Unhindered around before.state.store ∧
        done <+: PurgeScope.repository.filters repository.name ∧
        before.state.store.Changes indexer.settings.collection (purged done) after.state.store) ∨
      ∃ handled checkpoint complaints,
        indexer.Completed around repository (around.discoveredAt (before.state.step + 1))
          .repository before.state after.state handled ∧
        result = .ok
          { Report.ofOutcomes (handled.map (·.outcome)) with
            checkpoint
            errors := handled.filterMap (·.fate.complaint?) ++ complaints } ∧
        (complaints = [] ∨ ∃ detail, complaints = ["checkpoint: " ++ detail] ∧
          ∃ step, around.checkpointFailure step = some detail) := by
  rw [index_eq] at run
  rcases RunM.of_outcome_bind run with ⟨e, failed, rfl⟩ | ⟨⟨⟩, middle, made, rest⟩
  · obtain ⟨rfl, ⟨_, -, missing⟩ | impossible⟩ := requireDirectory_cases failed
    · exact .inl ⟨.refl _, .inl ⟨e, rfl, missing⟩⟩
    · cases impossible
  obtain ⟨rfl, -⟩ := requireDirectory_cases made
  rw [outcome_discovered_bind] at rest
  have step : (RunM.looked before).state.step = before.state.step + 1 := rfl
  rw [step] at rest
  by_cases nothing : around.discoveredAt (before.state.step + 1) = []
  · simp only [nothing, List.isEmpty_nil, if_true, RunM.outcome_pure] at rest
    obtain ⟨rfl, rfl⟩ := Prod.mk.inj rest
    exact .inl ⟨.refl _, .inr (.inl ⟨rfl, nothing⟩)⟩
  simp only [List.isEmpty_iff, nothing, if_false, RunM.outcome_see_bind] at rest
  -- the third look was at the head, and the run starts with the fourth
  have accepts : (RunM.looked (RunM.looked (RunM.looked before))).state.store.AcceptsSparse
      indexer.settings.collection := accepts
  rcases RunM.of_outcome_bind rest with ⟨e, failed, rfl⟩ | ⟨report, done, made, rest⟩
  · rcases run_cases accepts failed with
      ⟨impossible, -⟩ | ⟨_, filters, -, hindered, ordered, changes⟩ | ⟨_, -, impossible⟩
    · cases impossible
    · exact .inr (.inl ⟨e, filters, rfl, hindered, ordered, changes⟩)
    · cases impossible
  rcases run_cases accepts made with
    ⟨success, cancelled, same⟩ | ⟨_, _, impossible, -⟩ | ⟨handled, completed, success⟩
  · cases success
    obtain ⟨rfl, rfl⟩ := Prod.mk.inj rest
    exact .inl ⟨same, .inr (.inr ⟨rfl, cancelled⟩)⟩
  · cases impossible
  cases success
  -- what is left to do is to store the checkpoint, which looks on and touches no points
  obtain ⟨same, later, checkpoint, complaints, rfl, saved⟩ := finish_cases rest
  have started : before.state.step ≤
      (RunM.looked (RunM.looked (RunM.looked before))).state.step := by
    show before.state.step ≤ before.state.step + 3
    omega
  refine .inr (.inr ⟨handled, checkpoint, complaints, completed.widen rfl started same later, ?_,
    saved⟩)
  rw [Report.ofOutcomes_handled]

/-- A full run takes nothing away that later runs need. -/
theorem index_preserves [Walk]
    (accepts : before.state.store.AcceptsSparse indexer.settings.collection)
    {result : Except RunError Report}
    (run : (indexer.index around repository).outcome before = (result, after)) :
    before.state.store.Preserves after.state.store := by
  rcases index_cases accepts run with ⟨same, -⟩ | ⟨_, _, -, -, -, changes⟩ |
    ⟨_, _, _, completed, -⟩
  · exact same.toPreserves
  · exact changes.toPreserves
  · exact completed.changes.toPreserves

/-- A full run that nothing hinders ends with a report. -/
theorem exists_report_of_unhindered [Walk]
    (accepts : before.state.store.AcceptsSparse indexer.settings.collection)
    (there : around.tree before.state.step ≠ none)
    (unhindered : indexer.Unhindered around before.state.store) :
    ∃ report after, (indexer.index around repository).outcome before = (.ok report, after) := by
  rcases run : (indexer.index around repository).outcome before with ⟨result, after⟩
  rcases index_cases accepts run with ⟨-, ⟨_, -, missing⟩ | ⟨rfl, -⟩ | ⟨rfl, -⟩⟩ |
    ⟨_, _, -, hindered, -⟩ | ⟨_, _, _, -, rfl, -⟩
  · exact absurd missing there
  · exact ⟨_, after, rfl⟩
  · exact ⟨_, after, rfl⟩
  · exact absurd unhindered hindered
  · exact ⟨_, after, rfl⟩

/-! ## What a full run leaves -/

/-- **What a full run leaves and reports,** file by file. -/
structure IsAllOrNothing (indexer : Indexer σ γ) (around : Surroundings σ) (repository : Repository)
    (handled : List (Handled indexer.read)) (store : MemoryStore) (report : Report) : Prop where
  /-- The points of the repository are those of the files that were stored; of several points with
  one identifier the last one counts. -/
  points : ownedBy repository.name (store.pointsOf indexer.settings.collection) =
    stored (handled.flatMap (·.points repository.name))
  /-- So there is no point of any other file, nor of an earlier run. -/
  owned : ∀ id data, (store.pointsOf indexer.settings.collection).get? id = some data →
    data.repository? = some repository.name →
      ∃ entry ∈ handled, entry.fate.isStored = true ∧ data.path? = some entry.path
  filesProcessed : report.filesProcessed = handled.countP (·.fate.isStored)
  chunksIndexed : report.chunksIndexed = (handled.flatMap (·.chunks)).length
  filesSkipped : report.filesSkipped = handled.countP (·.fate.isFailed)
  /-- There is one message for each file that failed; a checkpoint that cannot be stored adds its
  own. -/
  errors : ∃ complaints, report.errors = handled.filterMap (·.fate.complaint?) ++ complaints ∧
    complaints.length ≤ 1 ∧ ((∀ step, around.checkpointFailure step = none) → complaints = [])

/-- **A full run is all or nothing for each file.**  Take any store, any surroundings and any
providers.  If the run ends, finds files, and was not cancelled before it started, then the points
of its repository are those of the files that it counts as processed, each made of what the file
held at some look of the run, and the report counts what became of every file. -/
theorem index_allOrNothing [Walk] (indexer : Indexer σ γ) (around : Surroundings σ)
    (repository : Repository) {start after : Clocked (World σ γ)} {report : Report}
    (accepts : start.state.store.AcceptsSparse indexer.settings.collection)
    (files : around.discoveredAt (start.state.step + 1) ≠ [])
    (started : around.isCancelled (start.state.step + 3) start.state.embedder = false)
    (run : (indexer.index around repository).outcome start = (.ok report, after)) :
    ∃ handled : List (Handled indexer.read),
      handled.map (·.path) = around.order (around.discoveredAt (start.state.step + 1)) ∧
      (∀ entry ∈ handled, indexer.CameAbout around (indexer.Unhindered around start.state.store)
        start.state.step after.state.step entry) ∧
      indexer.IsAllOrNothing around repository handled after.state.store report := by
  rcases index_cases accepts run with ⟨-, ⟨_, impossible, -⟩ | ⟨-, nothing⟩ | ⟨-, cancelled⟩⟩ |
    ⟨_, _, impossible, -⟩ | ⟨handled, checkpoint, complaints, completed, success, saved⟩
  · cases impossible
  · exact absurd nothing files
  · rw [started] at cancelled
    cases cancelled
  · cases impossible
  cases success
  have counted := Report.ofOutcomes_handled handled
  have points : ownedBy repository.name (after.state.store.pointsOf indexer.settings.collection) =
      stored (handled.flatMap (·.points repository.name)) := by
    rw [completed.ownedBy_eq]
    exact congrArg (written · _) (purged_ownedBy repository.name _)
  refine ⟨handled, completed.paths_eq, completed.cameAbout, points, fun id data holds mine => ?_,
    by rw [counted], by rw [counted], by rw [counted], complaints, rfl, ?_, fun none => ?_⟩
  · have holds := get?_ownedBy.2 ⟨holds, mine⟩
    rw [points] at holds
    obtain ⟨point, member, -, rfl⟩ := exists_of_get?_stored holds
    obtain ⟨entry, listed, member⟩ := List.mem_flatMap.1 member
    obtain ⟨stored, -, path⟩ := Handled.of_mem_points member
    exact ⟨entry, listed, stored, path⟩
  · rcases saved with rfl | ⟨_, rfl, -⟩ <;> simp
  · rcases saved with rfl | ⟨_, -, step, failure⟩
    · rfl
    · rw [none step] at failure
      cases failure

/-- An indexer that reads no syntax and is given empty answers. -/
def bare : Indexer Unit Unit :=
  ofAnswers (fun _ _ => .node "" none ⟨0, 0⟩ ⟨0, 0⟩ "" []) ⟨fun _ => [], fun _ => .ok ""⟩

/-- Surroundings with one file, which is reported as changed. -/
def oneFile (text : String) : Surroundings Unit :=
  .still (some (.single "a.md" (.text text))) (.ok "head") fun _ => .ok ⟨["a.md"], []⟩

/-- A world in which nothing has happened. -/
def freshWorld : Clocked (World Unit Unit) :=
  ⟨0, { store := .empty, embedder := (), generator := (), checkpoints := .empty, step := 0,
        asked := [] }⟩

theorem mem_discoveredAt_oneFile {text path : String} {step : Nat} :
    path ∈ (oneFile text).discoveredAt step ↔ path = "a.md" := by
  have eligible : isEligible IgnoreRules.none "a.md" = true := by decide
  refine (WorkTree.mem_discover_single (by decide) (by decide) (by decide)).trans ?_
  exact ⟨fun ⟨same, _⟩ => same, fun same => ⟨same, eligible⟩⟩

theorem discoveredAt_oneFile (text : String) (step : Nat) :
    (oneFile text).discoveredAt step = ["a.md"] := by
  have nodup : ((oneFile text).discoveredAt step).Nodup :=
    WorkTree.nodup_discover _ fun path content file => by
      obtain ⟨rfl, -⟩ := WorkTree.fileAt?_single.1 file
      decide
  have same := (List.perm_ext_iff_of_nodup nodup (List.nodup_singleton "a.md")).2 fun path =>
    mem_discoveredAt_oneFile.trans List.mem_singleton.symm
  exact List.perm_singleton.1 same

theorem discoveredAt_oneFile_ne_nil (text : String) (step : Nat) :
    (oneFile text).discoveredAt step ≠ [] := by
  rw [discoveredAt_oneFile]
  exact List.cons_ne_nil _ _

theorem contentAt_oneFile (text : String) (step : Nat) :
    (oneFile text).contentAt step "a.md" = .ok text :=
  ((WorkTree.isPlain_single (by decide) (by decide)).read_of_fileAt
    (WorkTree.fileAt?_single.2 ⟨rfl, rfl⟩)).1

theorem acceptsSparse_freshWorld (name : String) : freshWorld.state.store.AcceptsSparse name := by
  intro collection there
  cases there

theorem unhindered_oneFile (text : String) :
    bare.Unhindered (oneFile text) freshWorld.state.store :=
  unhindered_ofAnswers _ _ (fun _ => rfl) rfl

/-- In a run over one file it is stored as it is. -/
theorem CameAbout.exists_stored_oneFile {text : String} {first last : Nat}
    {entry : Handled bare.read} (path : entry.path = "a.md")
    (cameAbout : bare.CameAbout (oneFile text)
      (bare.Unhindered (oneFile text) freshWorld.state.store) first last entry) :
    ∃ rendition : Rendition bare.read "a.md", rendition.text = text ∧
      bare.CanMake rendition ∧ entry = ⟨"a.md", .stored rendition⟩ := by
  obtain ⟨_, fate⟩ := entry
  obtain rfl : _ = "a.md" := path
  cases fate with
  | stored rendition =>
      obtain ⟨canMake, step, -, -, content⟩ := cameAbout
      rw [contentAt_oneFile] at content
      exact ⟨rendition, (Except.ok.inj content).symm, canMake, rfl⟩
  | failed error =>
      obtain ⟨step, -, -, detail, content⟩ := cameAbout (unhindered_oneFile text)
      rw [contentAt_oneFile] at content
      cases content
  | notStarted =>
      obtain ⟨step, embedder, -, -, impossible⟩ := cameAbout
      cases impossible

/-- The chunk of a file of one word. -/
def oneChunk : Chunk :=
  { content := "one", path := "a.md", language := .markdown, layer := "other", startLine := 1,
    endLine := 1, symbol := none, parent := none, kind := .file, annotations := [], index := 0,
    total := 1 }

/-- Its point. -/
def onePoint : Point := FilePoints.point "a" "a.md" none ⟨oneChunk, ""⟩ []

theorem chunks_oneChunk {rendition : Rendition bare.read "a.md"} (same : rendition.text = "one") :
    rendition.chunks = [oneChunk] := by
  rw [Rendition.chunks, same]
  decide +kernel

theorem points_onePoint {rendition : Rendition bare.read "a.md"} (same : rendition.text = "one")
    (canMake : bare.CanMake rendition) : rendition.points "a" = [onePoint] := by
  have chunks := chunks_oneChunk same
  obtain ⟨⟨chunk, description⟩, alone⟩ : ∃ described, rendition.described = [described] :=
    List.length_eq_one_iff.1 (by rw [rendition.length_described, chunks, List.length_singleton])
  obtain rfl : chunk = oneChunk := by
    have listed := rendition.chunks_eq
    rw [alone, ← Rendition.chunks, chunks] at listed
    exact List.singleton_inj.1 listed
  have plain : description = "" := by
    have made := canMake.described ⟨oneChunk, description⟩ (alone ▸ List.mem_singleton_self _)
    rw [chunks] at made
    exact made
  have vectors : rendition.vectors = [[]] := by
    obtain ⟨_, _, embedded⟩ := canMake.embedded (chunks ▸ List.cons_ne_nil _ _)
    rw [alone] at embedded
    exact (Except.ok.inj embedded).symm
  rw [Rendition.points, alone, vectors, plain]
  rfl

/-- The first run over one file stores its only chunk, and counts it. -/
theorem index_allOrNothing_oneFile :
    freshWorld.state.store.AcceptsSparse bare.settings.collection ∧
      (oneFile "one").discoveredAt 1 ≠ [] ∧ (oneFile "one").isCancelled 3 () = false ∧
      ∃ report after, (bare.index (oneFile "one") ⟨"a", "/a"⟩).outcome freshWorld =
          (.ok report, after) ∧
        (∃ handled, bare.IsAllOrNothing (oneFile "one") ⟨"a", "/a"⟩ handled after.state.store
          report) ∧
        report.filesProcessed = 1 ∧ report.chunksIndexed = 1 ∧ report.filesSkipped = 0 ∧
        report.errors = [] ∧
        ∃ point, (after.state.store.pointsOf bare.settings.collection).get?
            (pointId "a" "a.md" 1) = some point ∧
          point.repository? = some "a" ∧ point.path? = some "a.md" ∧
          point.text? "content" = some "one" := by
  have accepts := acceptsSparse_freshWorld bare.settings.collection
  have found := discoveredAt_oneFile_ne_nil "one" 1
  have there : (oneFile "one").tree freshWorld.state.step ≠ none := Option.some_ne_none _
  obtain ⟨report, after, run⟩ :=
    exists_report_of_unhindered accepts there (unhindered_oneFile "one")
  obtain ⟨handled, paths, cameAbout, allOrNothing⟩ :=
    index_allOrNothing bare (oneFile "one") ⟨"a", "/a"⟩ accepts found rfl run
  obtain ⟨entry, rfl, path⟩ : ∃ entry, handled = [entry] ∧ entry.path = "a.md" := by
    rw [show (oneFile "one").order = id from rfl, id, discoveredAt_oneFile] at paths
    exact List.map_eq_singleton_iff.1 paths
  obtain ⟨rendition, same, canMake, rfl⟩ :=
    (cameAbout entry (List.mem_singleton_self entry)).exists_stored_oneFile path
  have points := allOrNothing.points
  rw [List.flatMap_singleton, show Handled.points "a" ⟨"a.md", .stored rendition⟩ =
    rendition.points "a" from rfl, points_onePoint same canMake] at points
  have held : (ownedBy "a" (after.state.store.pointsOf bare.settings.collection)).get?
      (pointId "a" "a.md" 1) = some onePoint.toPointData := by
    rw [points, ← show onePoint.id = pointId "a" "a.md" 1 from FilePoints.point_id ..]
    exact get?_stored_singleton onePoint
  have chunks : report.chunksIndexed = [oneChunk].length := by
    rw [allOrNothing.chunksIndexed, List.flatMap_singleton, ← chunks_oneChunk same]
    rfl
  obtain ⟨complaints, errors, -, none⟩ := allOrNothing.errors
  rw [none fun _ => rfl] at errors
  exact ⟨accepts, found, rfl, report, after, run, ⟨_, allOrNothing⟩, allOrNothing.filesProcessed,
    chunks, allOrNothing.filesSkipped, errors, _, (get?_ownedBy.1 held).1, by decide +kernel,
    by decide +kernel, by decide +kernel⟩

end Indexer

end CodeIndex
