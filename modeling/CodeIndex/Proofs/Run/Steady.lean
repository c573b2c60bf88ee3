import CodeIndex.Proofs.Repository.Refresh
import CodeIndex.Proofs.Run.Version

/-!
# Steady runs

Nothing in this module goes wrong: the surroundings are calm, the store takes uploads, and the
providers answer in time, and the same text always alike.  Then what is stored of a file is a
function of its text, `Indexer.pointsOf`, and what a run leaves in the collection is a function of
the tree that it has seen and of the layout that it found.

## Main definitions

* `Surroundings.IsCalm`, `Indexer.IsSteady`, `Indexer.AnswersAlike`
* `Indexer.pointsOf`, `shown`: the points that a text is made into.

## Main statements

* `Indexer.IsSteady.index_layout`: what a full run leaves.
* `Indexer.IsSteady.reindex_layout_over`, `reindex_layout`: what an incremental run leaves.
-/

namespace CodeIndex

variable {σ γ : Type}

/-! ## Steady providers in calm surroundings -/

/-- Whether surroundings show one tree all the time, and nothing goes wrong in them. -/
structure Surroundings.IsCalm (around : Surroundings σ) (tree : WorkTree) : Prop where
  tree_eq : ∀ step, around.tree step = some tree
  head : ∀ step, ∃ commit, around.head step = .ok commit
  isCancelled : ∀ step embedder, around.isCancelled step embedder = false
  storeFailure : ∀ step, around.storeFailure step = none
  checkpointFailure : ∀ step, around.checkpointFailure step = none

namespace Surroundings.IsCalm

variable {around : Surroundings σ} {tree : WorkTree} (calm : around.IsCalm tree)

include calm

theorem contentAt_eq (step : Nat) (path : String) :
    around.contentAt step path = tree.read path := by
  rw [contentAt, calm.tree_eq]
  rfl

theorem discoveredAt_eq [Walk] (step : Nat) :
    around.discoveredAt step = tree.discover (IgnoreRules.load tree) := by
  rw [discoveredAt, calm.tree_eq]
  rfl

theorem mem_eligibleAt {step : Nat} {changes : ChangeSet} {path : String} :
    path ∈ around.eligibleAt step changes.changed ↔ tree.Takes changes path := by
  rw [eligibleAt, calm.tree_eq, List.mem_filter, Bool.and_eq_true]
  rfl

end Surroundings.IsCalm

theorem Surroundings.isCalm_still (tree : WorkTree) (commit : String)
    (changes : Option String → Except RunError ChangeSet) :
    (Surroundings.still (some tree) (.ok commit) changes : Surroundings σ).IsCalm tree :=
  ⟨fun _ => rfl, fun _ => ⟨commit, rfl⟩, fun _ _ => rfl, fun _ => rfl, fun _ => rfl⟩

namespace Indexer

variable (indexer : Indexer σ γ) (answers : Answers)

/-- **Whether the providers of an indexer always give some answers,** and in time. -/
structure IsSteady : Prop where
  embed : ∀ text now embedder,
    (indexer.embedder.embed text now embedder).result = .ok (answers.vector text) ∧
      (indexer.embedder.embed text now embedder).duration ≤ indexer.settings.embedTimeout
  embedBatch : ∀ texts now embedder,
    (indexer.embedder.embedBatch texts now embedder).result = .ok (texts.map answers.vector) ∧
      (indexer.embedder.embedBatch texts now embedder).duration ≤ indexer.settings.embedTimeout
  generate : ∀ describer, indexer.describer = some describer → ∀ prompt now generator,
    (describer.generator.generate prompt (.deterministic describer.maxTokens) now
        generator).result = answers.text prompt ∧
      (describer.generator.generate prompt (.deterministic describer.maxTokens) now
        generator).duration ≤ describer.timeout

/-- **Whether the providers of an indexer answer alike:** whenever the embedder takes a batch, it
gives the same vectors.  It may fail as often as it likes; the describer may not, since a chunk
without a description is stored all the same. -/
structure AnswersAlike : Prop where
  embedBatch : ∀ texts now embedder vectors,
    (indexer.embedder.embedBatch texts now embedder).result = .ok vectors →
      vectors = texts.map answers.vector
  generate : ∀ describer, indexer.describer = some describer → ∀ prompt now generator,
    (describer.generator.generate prompt (.deterministic describer.maxTokens) now
        generator).result = answers.text prompt ∧
      (describer.generator.generate prompt (.deterministic describer.maxTokens) now
        generator).duration ≤ describer.timeout

variable {indexer answers} in
theorem IsSteady.answersAlike (steady : indexer.IsSteady answers) :
    indexer.AnswersAlike answers where
  embedBatch texts now embedder vectors embedded := by
    rw [(steady.embedBatch texts now embedder).1] at embedded
    exact (Except.ok.inj embedded).symm
  generate := steady.generate

theorem isSteady_ofAnswers (read : SyntaxReader) (answers : Answers) :
    (ofAnswers read answers).IsSteady answers where
  embed _ _ _ := ⟨rfl, Nat.zero_le _⟩
  embedBatch _ _ _ := ⟨rfl, Nat.zero_le _⟩
  generate describer asked prompt now generator := by
    obtain rfl := Option.some.inj asked
    exact ⟨rfl, Nat.zero_le _⟩

/-- The description of a chunk of a file that steady providers give. -/
def steadyDescription (file : String) (chunk : Chunk) : String :=
  let text := if chunk.isHeader then [] else chunk.content.toList
  if Text.isBlankText text then ""
  else
    match answers.text (Describer.prompt file.toList text chunk.path chunk.language) with
    | .ok description => Text.trimmed description
    | .error _ => ""

/-- The chunks of a file with the descriptions that steady providers give. -/
def describedOf (path text : String) : List DescribedChunk :=
  let chunks := chunkFile indexer.read text path
  chunks.map fun chunk =>
    ⟨chunk, if (indexer.asked? chunks).isSome then steadyDescription answers text chunk else ""⟩

/-- **The points of a file,** as steady providers make them. -/
def pointsOf (repository path text : String) : List Point :=
  let described := indexer.describedOf answers path text
  FilePoints.points repository path described
    (described.map fun entry => answers.vector (FilePoints.embeddingText entry))

/-- The points of a path that was taken for a text, or for nothing. -/
def shown (repository path : String) (text? : Option String) : List Point :=
  text?.elim [] (indexer.pointsOf answers repository path)

@[simp] theorem shown_none (repository path : String) :
    indexer.shown answers repository path none = [] := rfl

@[simp] theorem shown_some (repository path text : String) :
    indexer.shown answers repository path (some text) =
      indexer.pointsOf answers repository path text := rfl

/-- A text without chunks has no points. -/
theorem pointsOf_eq_nil_iff {repository path text : String} :
    indexer.pointsOf answers repository path text = [] ↔ chunkFile indexer.read text path = [] := by
  rw [← List.length_eq_zero_iff, pointsOf, FilePoints.points, List.length_zipWith, List.length_map,
    Nat.min_self, describedOf, List.length_map, List.length_eq_zero_iff]

variable {indexer answers} {around : Surroundings σ}

namespace AnswersAlike

variable (alike : indexer.AnswersAlike answers)

include alike

/-- The describer says the same at all times. -/
theorem descriptionOf_eq {describer : Describer γ} (asked : indexer.describer = some describer)
    (file : String) (chunk : Chunk) (clocked : Clocked γ) :
    descriptionOf describer file chunk clocked = steadyDescription answers file chunk := by
  unfold descriptionOf steadyDescription Describer.describe
  dsimp only
  by_cases blank : Text.isBlankText (if chunk.isHeader then [] else chunk.content.toList) = true
  · rw [if_pos blank, if_pos blank]
  · rw [if_neg blank, if_neg blank]
    obtain ⟨answered, inTime⟩ := alike.generate describer asked
      (Describer.prompt file.toList (if chunk.isHeader then [] else chunk.content.toList) chunk.path
        chunk.language) clocked.now clocked.state
    rw [Request.runWithin, if_pos inTime, answered]
    cases answers.text (Describer.prompt file.toList
      (if chunk.isHeader then [] else chunk.content.toList) chunk.path chunk.language) <;> rfl

/-- **Renditions of one text have the same points.** -/
theorem points_eq {path : String} {rendition : Rendition indexer.read path}
    (canMake : indexer.CanMake rendition) (repository : String) :
    rendition.points repository = indexer.pointsOf answers repository path rendition.text := by
  have described : rendition.described = indexer.describedOf answers path rendition.text := by
    rw [describedOf, ← rendition.chunks_eq, List.map_map]
    refine (List.map_id rendition.described).symm.trans (List.map_congr_left fun entry member => ?_)
    have description := canMake.described entry member
    rw [CanDescribe, Rendition.chunks, ← rendition.chunks_eq] at description
    obtain ⟨chunk, text⟩ := entry
    cases asked : indexer.asked? (rendition.described.map (·.chunk)) with
    | none =>
        rw [asked] at description
        obtain rfl : text = "" := description
        rfl
    | some describer =>
        rw [asked] at description
        obtain ⟨clocked, said⟩ := description
        have there : indexer.describer = some describer := by
          unfold asked? at asked
          split at asked
          · cases asked
          · exact asked
        rw [alike.descriptionOf_eq there] at said
        obtain rfl : text = steadyDescription answers rendition.text chunk := said
        rfl
  have vectors : FilePoints.points repository path rendition.described rendition.vectors =
      FilePoints.points repository path rendition.described
        (rendition.described.map fun entry => answers.vector (FilePoints.embeddingText entry)) := by
    by_cases none : rendition.chunks = []
    · have empty : rendition.described = [] := by
        rw [← List.length_eq_zero_iff, rendition.length_described, none]
        rfl
      rw [empty]
      rfl
    · obtain ⟨now, embedder, embedded⟩ := canMake.embedded none
      rw [alike.embedBatch _ now embedder _ embedded, List.map_map]
      rfl
  rw [Rendition.points, vectors, described]
  rfl

end AnswersAlike

namespace IsSteady

variable (steady : indexer.IsSteady answers)

include steady

theorem unhindered (safe : ∀ step, around.storeFailure step = none) {store : MemoryStore}
    (ready : store.failingUpserts = 0) : indexer.Unhindered around store where
  storeFailure := safe
  failingUpserts := ready
  embed text now embedder := ⟨_, steady.embed text now embedder⟩
  embedBatch texts now embedder := by
    obtain ⟨answered, inTime⟩ := steady.embedBatch texts now embedder
    exact ⟨_, answered, List.length_map .., inTime⟩

/-! ## What runs leave -/

variable {tree : WorkTree} {versions : Set Version} {repository : Repository}

/-- **What a completed run leaves in calm surroundings:** the points of the texts of its files, and
what its purge left of the others. -/
theorem completed_layout (calm : around.IsCalm tree) {files : List String} {scope : PurgeScope}
    {before after : World σ γ} {handled : List (Handled indexer.read)}
    (completed : indexer.Completed around repository files scope before after handled)
    (ready : before.store.failingUpserts = 0) (distinct : DistinctIds indexer.read versions)
    (known : ∀ path ∈ files, ∀ text, tree.read path = .ok text →
      ⟨repository.name, path, text⟩ ∈ versions)
    (covers : ∀ path ∈ files, scope.Includes path)
    {held : Dictionary PointData} {layout : Layout (String × String)}
    (rendered : IsRendered indexer.read versions layout)
    (reflects : Reflects (OwnsId indexer.read versions) held layout) :
    ∃ layout', IsRendered indexer.read versions layout' ∧
      Reflects (OwnsId indexer.read versions)
        (written (purged (scope.filters repository.name) held)
          (handled.flatMap (·.points repository.name))) layout' ∧
      ∀ path, (path ∈ files → layout' (repository.name, path) =
          indexer.shown answers repository.name path (tree.text? path)) ∧
        (path ∉ files → scope.Includes path → layout' (repository.name, path) = []) ∧
        (path ∉ files → ¬scope.Includes path →
          layout' (repository.name, path) = layout (repository.name, path)) := by
  obtain ⟨layout', rendered', reflects', given⟩ := completed.exists_layout distinct
    (fun path member step text content =>
      known path member text (calm.contentAt_eq step path ▸ content))
    covers rendered reflects
    (fun step step' path => by rw [calm.contentAt_eq, calm.contentAt_eq])
  refine ⟨layout', rendered', reflects', fun path => ?_⟩
  rcases given path with ⟨entry, member, rendition, rfl, fate, points⟩ | ⟨unstored, gone, kept⟩
  · have taken : entry.path ∈ files := completed.mem_files_iff.2 ⟨entry, member, rfl⟩
    refine ⟨fun _ => ?_, fun other => absurd taken other, fun other => absurd taken other⟩
    obtain ⟨canMake, step, -, -, content⟩ := completed.look_of_stored member fate
    rw [calm.contentAt_eq] at content
    rw [points, steady.answersAlike.points_eq canMake, WorkTree.text?, content]
    rfl
  · refine ⟨fun taken => ?_, fun _ => gone, fun _ => kept⟩
    obtain ⟨entry, member, rfl⟩ := completed.mem_files_iff.1 taken
    rw [gone (covers entry.path taken)]
    have cameAbout := completed.cameAbout entry member
    have fate := unstored entry member rfl
    -- nothing was cancelled, so the file failed, and it failed because it cannot be read
    obtain ⟨path, fate'⟩ := entry
    cases fate' with
    | stored rendition => cases fate
    | notStarted =>
        obtain ⟨step, embedder, -, -, cancelled⟩ := cameAbout
        rw [calm.isCancelled] at cancelled
        cases cancelled
    | failed error =>
        obtain ⟨step, -, -, detail, unreadable⟩ :=
          cameAbout (steady.unhindered calm.storeFailure ready)
        rw [calm.contentAt_eq] at unreadable
        rw [WorkTree.text?, unreadable]
        rfl

variable {start : Clocked (World σ γ)}

/-- **What a full run leaves in calm surroundings** are the points of what discovery finds. -/
theorem index_layout [Walk] (calm : around.IsCalm tree)
    (accepts : start.state.store.AcceptsSparse indexer.settings.collection)
    (ready : start.state.store.failingUpserts = 0) (distinct : DistinctIds indexer.read versions)
    (known : ∀ path text, tree.indexed? path = some text →
      ⟨repository.name, path, text⟩ ∈ versions)
    (occasion : tree.discover (IgnoreRules.load tree) ≠ [] ∨
      ownedBy repository.name (start.state.store.pointsOf indexer.settings.collection) =
        Dictionary.empty) :
    ∃ report after layout, (indexer.index around repository).outcome start = (.ok report, after) ∧
      IsRendered indexer.read versions layout ∧
      Reflects (OwnsId indexer.read versions)
        (ownedBy repository.name (after.state.store.pointsOf indexer.settings.collection)) layout ∧
      ∀ path, layout (repository.name, path) =
        indexer.shown answers repository.name path (tree.indexed? path) := by
  rcases run : (indexer.index around repository).outcome start with ⟨result, after⟩
  have rendered : IsRendered indexer.read versions fun _ => [] := fun _ _ => .inl rfl
  rcases index_cases accepts run with ⟨same, ⟨_, -, missing⟩ | ⟨rfl, nothing⟩ | ⟨-, cancelled⟩⟩ |
    ⟨_, _, -, hindered, -⟩ | ⟨handled, checkpoint, complaints, completed, rfl, -⟩
  · rw [calm.tree_eq] at missing
    cases missing
  · -- there is nothing to find, and there was nothing before
    rw [calm.discoveredAt_eq] at nothing
    have empty := occasion.resolve_left fun found => found nothing
    refine ⟨_, after, _, rfl, rendered, ?_, fun path => ?_⟩
    · rw [same.pointsOf_eq, empty]
      exact .empty _
    · rw [WorkTree.indexed?, nothing, if_neg List.not_mem_nil]
      rfl
  · rw [calm.isCancelled] at cancelled
    cases cancelled
  · exact absurd (steady.unhindered calm.storeFailure ready) hindered
  rw [calm.discoveredAt_eq] at completed
  obtain ⟨layout, rendered, reflects, given⟩ := steady.completed_layout calm completed ready
    distinct
    (fun path found text content => known path text (by
      rw [WorkTree.indexed?, if_pos found, WorkTree.text?, content]
      rfl))
    (fun path _ => includes_repository path) rendered (.empty _)
  refine ⟨_, after, layout, rfl, rendered, ?_, fun path => ?_⟩
  · have emptied := purged_ownedBy repository.name
      (start.state.store.pointsOf indexer.settings.collection)
    rw [completed.ownedBy_eq]
    exact emptied ▸ reflects
  · by_cases found : path ∈ tree.discover (IgnoreRules.load tree)
    · rw [(given path).1 found, WorkTree.indexed?, if_pos found]
    · rw [(given path).2.1 found (includes_repository path), WorkTree.indexed?, if_neg found]
      rfl

/-- **What an incremental run leaves in calm surroundings:** the points of the changed files that it
takes, nothing of the other paths that it is told, and what there was of all others. -/
theorem reindex_layout_over (calm : around.IsCalm tree) {changes : ChangeSet}
    (told : around.changes (start.state.step + 3)
      (start.state.checkpoints.get? repository.name) = .ok changes)
    (accepts : start.state.store.AcceptsSparse indexer.settings.collection)
    (ready : start.state.store.failingUpserts = 0) (distinct : DistinctIds indexer.read versions)
    (known : ∀ path text, tree.Takes changes path → tree.text? path = some text →
      ⟨repository.name, path, text⟩ ∈ versions)
    {layout : Layout (String × String)} (rendered : IsRendered indexer.read versions layout)
    (reflects : Reflects (OwnsId indexer.read versions)
      (ownedBy repository.name (start.state.store.pointsOf indexer.settings.collection)) layout) :
    ∃ report after layout', (indexer.reindex around repository).outcome start =
        (.ok report, after) ∧
      IsRendered indexer.read versions layout' ∧
      Reflects (OwnsId indexer.read versions)
        (ownedBy repository.name (after.state.store.pointsOf indexer.settings.collection)) layout' ∧
      ∀ path, layout' (repository.name, path) =
        if tree.Takes changes path then
          indexer.shown answers repository.name path (tree.text? path)
        else if path ∈ changes.deleted ∨ path ∈ changes.changed then []
        else layout (repository.name, path) := by
  rcases run : (indexer.reindex around repository).outcome start with ⟨result, after⟩
  rcases reindex_cases accepts run with
    ⟨-, ⟨_, -, missing | ⟨_, _, failure⟩ | ⟨step, _, failure⟩ | ⟨_, failure⟩⟩ | cancelled⟩ |
      ⟨changes', told', ⟨_, _, -, hindered, -⟩ | ⟨handled, completed, ending⟩⟩
  · rw [calm.tree_eq] at missing
    cases missing
  · rw [calm.checkpointFailure] at failure
    cases failure
  · obtain ⟨commit, head⟩ := calm.head step
    rw [head] at failure
    cases failure
  · rw [told] at failure
    cases failure
  · rw [calm.isCancelled] at cancelled
    cases cancelled
  · exact absurd (steady.unhindered calm.storeFailure ready) hindered
  -- only a completed run is left, and calm surroundings store its checkpoint
  obtain rfl : changes = changes' := Except.ok.inj (told.symm.trans told')
  obtain ⟨report, rfl⟩ := ending.resolve_right fun ⟨_, step, _, _, failure⟩ => by
    rw [calm.checkpointFailure] at failure
    cases failure
  obtain ⟨layout', rendered', reflects', given⟩ := steady.completed_layout calm completed ready
    distinct
    (fun path taken text content => known path text (calm.mem_eligibleAt.1 taken) (by
      rw [WorkTree.text?, content]
      rfl))
    (fun path taken => includes_of_eligibleAt taken) rendered reflects
  refine ⟨report, after, layout', rfl, rendered', ?_, fun path => ?_⟩
  · rw [completed.ownedBy_eq]
    exact reflects'
  · obtain ⟨stored, removed, kept⟩ := given path
    rw [calm.mem_eligibleAt] at stored removed kept
    by_cases taken : tree.Takes changes path
    · rw [if_pos taken]
      exact stored taken
    · rw [if_neg taken]
      by_cases listed : path ∈ changes.deleted ∨ path ∈ changes.changed
      · rw [if_pos listed]
        exact removed taken (mem_purgedPaths.2 listed)
      · rw [if_neg listed]
        exact kept taken fun included => listed (mem_purgedPaths.1 included)

/-- After a full run of another tree, these are the points of what the incremental run has taken
each path for. -/
theorem reindex_layout [Walk] {base : WorkTree} (calm : around.IsCalm tree) {changes : ChangeSet}
    (told : around.changes (start.state.step + 3)
      (start.state.checkpoints.get? repository.name) = .ok changes)
    (accepts : start.state.store.AcceptsSparse indexer.settings.collection)
    (ready : start.state.store.failingUpserts = 0) (distinct : DistinctIds indexer.read versions)
    (known : ∀ path text, WorkTree.refreshed? base tree changes path = some text →
      ⟨repository.name, path, text⟩ ∈ versions)
    {layout : Layout (String × String)} (rendered : IsRendered indexer.read versions layout)
    (reflects : Reflects (OwnsId indexer.read versions)
      (ownedBy repository.name (start.state.store.pointsOf indexer.settings.collection)) layout)
    (earlier : ∀ path, layout (repository.name, path) =
      indexer.shown answers repository.name path (base.indexed? path)) :
    ∃ report after layout', (indexer.reindex around repository).outcome start =
        (.ok report, after) ∧
      IsRendered indexer.read versions layout' ∧
      Reflects (OwnsId indexer.read versions)
        (ownedBy repository.name (after.state.store.pointsOf indexer.settings.collection)) layout' ∧
      ∀ path, layout' (repository.name, path) = indexer.shown answers repository.name path
        (WorkTree.refreshed? base tree changes path) := by
  obtain ⟨report, after, layout', ran, rendered', reflects', given⟩ :=
    steady.reindex_layout_over calm told accepts ready distinct
      (fun path text taken content => known path text (by
        rw [WorkTree.refreshed?, if_pos taken, content])) rendered reflects
  refine ⟨report, after, layout', ran, rendered', reflects', fun path => ?_⟩
  rw [given path, earlier path, WorkTree.refreshed?]
  split
  · rfl
  · split <;> rfl

end IsSteady

end Indexer

end CodeIndex
