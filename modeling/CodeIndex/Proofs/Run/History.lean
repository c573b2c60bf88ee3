import CodeIndex.Proofs.Run.Version

/-!
# Histories of runs

A store is filled by runs of both kinds, over any repositories, one after the other; files change
between runs, and every run may fail anywhere or be cancelled.  A `RunHistory` is a store that was
reached in this way from an empty one.

What every history keeps is `IsFaithful`: in each collection, each file has the points of one
rendition of one of its versions, or none at all.  Every run preserves it.  A failed run has removed
the points of whole files; a completed run has removed the points of all files that it writes, and
then writes each of them completely.

From this follows what a store can promise about a file, and what it cannot.  The points of a
rendition are all there if and only if its chunks begin on different lines, and then no reference to
a header is left hanging.  Only components have chunks that begin on one line.

## Main definitions

* `IsFaithful`: the invariant.
* `RunHistory`: the stores that runs can leave.

## Main statements

* `IsFaithful.purge`, `IsFaithful.complete`: what the parts of a run preserve.
* `RunHistory.isFaithful`: what every history keeps.
* `RunHistory.file_cases`: what a store holds of a file.
-/

namespace CodeIndex

open MemoryStore

variable {σ γ : Type} {read : SyntaxReader} {versions : Set Version}

/-! ## The invariant -/

/-- **What every history keeps:** each collection holds, of each file, the points of one rendition
or none. -/
structure IsFaithful (read : SyntaxReader) (versions : Set Version) (store : MemoryStore) :
    Prop where
  acceptsSparse : ∀ name, store.AcceptsSparse name
  rendered : ∀ name, ∃ layout, IsRendered read versions layout ∧
    Reflects (OwnsId read versions) (store.pointsOf name) layout

namespace IsFaithful

variable {before after : MemoryStore} {name : String}

theorem of_samePoints (faithful : IsFaithful read versions before)
    (same : before.SamePoints after) : IsFaithful read versions after :=
  ⟨fun name => same.acceptsSparse name (faithful.acceptsSparse name),
    fun name => same.pointsOf_eq name ▸ faithful.rendered name⟩

/-- A change of one collection leaves the others as they are. -/
theorem of_changes (faithful : IsFaithful read versions before)
    {change : Dictionary PointData → Dictionary PointData}
    (changes : before.Changes name change after)
    (rendered : ∃ layout, IsRendered read versions layout ∧
      Reflects (OwnsId read versions) (change (before.pointsOf name)) layout) :
    IsFaithful read versions after := by
  refine ⟨fun other => changes.acceptsSparse other (faithful.acceptsSparse other), fun other => ?_⟩
  by_cases same : other = name
  · rw [same, changes.here]
    exact rendered
  · rw [changes.elsewhere other same]
    exact faithful.rendered other

end IsFaithful

/-! ## What runs preserve -/

/-- **Removing points leaves files whole,** also if the removal stops halfway. -/
theorem IsFaithful.purge {before after : MemoryStore} (faithful : IsFaithful read versions before)
    {name collection : String} {scope : PurgeScope} {done : List Filter}
    (part : done <+: scope.filters name)
    (changes : before.Changes collection (purged done) after) : IsFaithful read versions after := by
  obtain ⟨layout, rendered, reflects⟩ := faithful.rendered collection
  obtain ⟨layout', rendered', reflects', -⟩ := rendered.purge reflects part.subset
  exact faithful.of_changes changes ⟨layout', rendered', reflects'⟩

/-- **A completed run leaves files whole:** it has removed the points of all files that it writes,
and writes each file completely, if files stay as they are during the run. -/
theorem IsFaithful.complete {indexer : Indexer σ γ} {around : Surroundings σ}
    {repository : Repository} {files : List String} {scope : PurgeScope} {before after : World σ γ}
    {handled : List (Handled indexer.read)}
    (faithful : IsFaithful indexer.read versions before.store)
    (distinct : DistinctIds indexer.read versions)
    (settled : ∀ step step' path, around.contentAt step path = around.contentAt step' path)
    (known : ∀ path ∈ files, ∀ step text, around.contentAt step path = .ok text →
      ⟨repository.name, path, text⟩ ∈ versions)
    (covers : ∀ path ∈ files, scope.Includes path)
    (completed : indexer.Completed around repository files scope before after handled) :
    IsFaithful indexer.read versions after.store := by
  obtain ⟨layout, rendered, reflects⟩ := faithful.rendered indexer.settings.collection
  obtain ⟨layout', rendered', reflects', -⟩ :=
    completed.exists_layout distinct known covers rendered reflects settled
  exact faithful.of_changes completed.changes ⟨layout', rendered', reflects'⟩

/-! ## Histories -/

/-- Whether files stay as they are while a run looks at them. -/
def Surroundings.IsSettled (around : Surroundings σ) : Prop :=
  ∀ step step', around.tree step = around.tree step'

theorem Surroundings.IsSettled.contentAt_eq {around : Surroundings σ} (settled : around.IsSettled)
    (step step' : Nat) (path : String) :
    around.contentAt step path = around.contentAt step' path := by
  unfold contentAt
  rw [settled step step']

/-- **The stores that runs can leave,** one after the other, starting from an empty store.  Each run
has its own indexer, providers, surroundings and repository, and meets known versions of files.
Whatever else happens to a store between runs does not touch its collections. -/
inductive RunHistory [Walk] (read : SyntaxReader) (versions : Set Version) :
    MemoryStore → Prop where
  | empty : RunHistory read versions MemoryStore.empty
  | between (store : MemoryStore) (ops : List StoreOp) (failingUpserts failingQueries : Nat) :
      RunHistory read versions store →
        RunHistory read versions { store with ops, failingUpserts, failingQueries }
  | index {σ γ : Type} (indexer : Indexer σ γ) (around : Surroundings σ) (repository : Repository)
      (start : Clocked (World σ γ)) (reader : indexer.read = read) (settled : around.IsSettled)
      (known : ∀ path ∈ around.discoveredAt (start.state.step + 1),
        ∀ step text, around.contentAt step path = .ok text →
          ⟨repository.name, path, text⟩ ∈ versions) :
      RunHistory read versions start.state.store →
        RunHistory read versions ((indexer.index around repository).outcome start).2.state.store
  | reindex {σ γ : Type} (indexer : Indexer σ γ) (around : Surroundings σ)
      (repository : Repository) (start : Clocked (World σ γ)) (reader : indexer.read = read)
      (settled : around.IsSettled)
      (known : ∀ changes, around.changes (start.state.step + 3)
          (start.state.checkpoints.get? repository.name) = .ok changes →
        ∀ path ∈ around.eligibleAt (start.state.step + 4) changes.changed,
          ∀ step text, around.contentAt step path = .ok text →
            ⟨repository.name, path, text⟩ ∈ versions) :
      RunHistory read versions start.state.store →
        RunHistory read versions ((indexer.reindex around repository).outcome start).2.state.store

theorem isFaithful_empty : IsFaithful read versions MemoryStore.empty := by
  refine ⟨fun name collection there => ?_, fun name => ?_⟩
  · cases there
  · exact ⟨_, fun _ _ => .inl rfl, .empty _⟩

/-- **Every history keeps files whole.** -/
theorem RunHistory.isFaithful [Walk] (distinct : DistinctIds read versions) {store : MemoryStore}
    (history : RunHistory read versions store) : IsFaithful read versions store := by
  induction history with
  | empty => exact isFaithful_empty
  | between store ops failingUpserts failingQueries _ faithful =>
      -- the invariant says nothing about what a store records or lets fail
      exact ⟨faithful.acceptsSparse, faithful.rendered⟩
  | index indexer around repository start reader settled known _ faithful =>
      subst reader
      rcases run : (indexer.index around repository).outcome start with ⟨result, after⟩
      rcases Indexer.index_cases (faithful.acceptsSparse _) run with ⟨same, -⟩ |
        ⟨_, done, -, -, part, changes⟩ | ⟨handled, _, _, completed, -⟩
      · exact faithful.of_samePoints same
      · exact faithful.purge part changes
      · exact faithful.complete distinct settled.contentAt_eq known
          (fun path _ => includes_repository path) completed
  | reindex indexer around repository start reader settled known _ faithful =>
      subst reader
      rcases run : (indexer.reindex around repository).outcome start with ⟨result, after⟩
      rcases Indexer.reindex_cases (faithful.acceptsSparse _) run with ⟨same, -⟩ |
        ⟨changes, told, ⟨_, done, -, -, part, purge⟩ | ⟨handled, completed, -⟩⟩
      · exact faithful.of_samePoints same
      · exact faithful.purge part purge
      · exact faithful.complete distinct settled.contentAt_eq (known changes told)
          (fun _ member => includes_of_eligibleAt member) completed

/-! ## What a store holds of a file -/

/-- **What a store holds of a file** after any history: nothing, or what can be stored of one
rendition of one of its versions.  The file is stored as a whole, with all points of some text and
no header missing, if and only if the chunks of that rendition begin on different lines.  Files that
are no components are always stored as a whole. -/
theorem RunHistory.file_cases [Walk] (distinct : DistinctIds read versions) {store : MemoryStore}
    (history : RunHistory read versions store) (collection repository path : String) :
    fileOf repository path (store.pointsOf collection) = Dictionary.empty ∨
      ∃ rendition : Rendition read path, ⟨repository, path, rendition.text⟩ ∈ versions ∧
        fileOf repository path (store.pointsOf collection) =
          stored (rendition.points repository) ∧
        ((∃ whole : Rendition read path, IsWhole
            (fileOf repository path (store.pointsOf collection)) (whole.points repository)) ↔
          rendition.startLines.Nodup) ∧
        (Language.ofPath? path ≠ some .vue → IsWhole
          (fileOf repository path (store.pointsOf collection)) (rendition.points repository)) := by
  obtain ⟨layout, rendered, reflects⟩ := (history.isFaithful distinct).rendered collection
  have file := rendered.fileOf_eq reflects repository path
  rcases rendered repository path with none | ⟨rendition, known, points⟩
  · rw [none] at file
    exact .inl file
  · rw [points] at file
    -- within one file, identifiers are as distinct as first lines are
    have lines : Set.InjOn (pointId repository path) {line | line ∈ rendition.startLines} := by
      have key : ∀ line ∈ rendition.startLines,
          (repository, path, line) ∈ keysOf read versions := by
        intro line member
        obtain ⟨chunk, listed, rfl⟩ := List.mem_map.1 member
        exact ⟨_, known, rfl, rfl, chunk, listed, rfl⟩
      intro line member line' member' same
      have := distinct (key line member) (key line' member') same
      exact (Prod.mk.inj (Prod.mk.inj this).2).2
    refine .inr ⟨rendition, known, file, ?_, fun notBlocks => ?_⟩
    · rw [file]
      exact rendition.exists_isWhole_iff repository lines
    · rw [file]
      exact rendition.isWhole_stored repository lines
        (chunkFile_nodup_startLine read rendition.text path notBlocks)

/-- The points of a file after the first run over it. -/
theorem RunHistory.file_cases_oneFile :
    let store := ((Indexer.bare.index (Indexer.oneFile "one") ⟨"a", "/a"⟩).outcome
      Indexer.freshWorld).2.state.store
    let file := fileOf "a" "a.md" (store.pointsOf "code_chunks")
    DistinctIds Indexer.bare.read {⟨"a", "a.md", "one"⟩} ∧
      RunHistory Indexer.bare.read {⟨"a", "a.md", "one"⟩} store ∧
      (file = Dictionary.empty ∨
        ∃ rendition : Rendition Indexer.bare.read "a.md", rendition.text = "one" ∧
          IsWhole file (rendition.points "a")) := by
  have distinct : DistinctIds Indexer.bare.read {⟨"a", "a.md", "one"⟩} := by
    refine distinctIds_bare fun version known => ?_
    obtain rfl := known
    exact ⟨rfl, rfl, .inl rfl⟩
  have history : RunHistory Indexer.bare.read {⟨"a", "a.md", "one"⟩}
      ((Indexer.bare.index (Indexer.oneFile "one") ⟨"a", "/a"⟩).outcome
        Indexer.freshWorld).2.state.store := by
    refine .index Indexer.bare (Indexer.oneFile "one") ⟨"a", "/a"⟩ Indexer.freshWorld rfl
      (fun _ _ => rfl) (fun path found step text content => ?_) .empty
    obtain rfl := Indexer.mem_discoveredAt_oneFile.1 found
    rw [Indexer.contentAt_oneFile] at content
    obtain rfl := Except.ok.inj content
    rfl
  refine ⟨distinct, history, ?_⟩
  rcases history.file_cases distinct "code_chunks" "a" "a.md" with
    nothing | ⟨rendition, known, -, -, whole⟩
  · exact .inl nothing
  · exact .inr ⟨rendition, congrArg Version.text known, whole (by decide)⟩

end CodeIndex
