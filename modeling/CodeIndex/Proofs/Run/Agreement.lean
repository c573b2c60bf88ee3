import CodeIndex.Proofs.Run.Steady

/-!
# Incremental runs against full ones

An incremental run is meant to leave what a full run would have left.  Here both are compared, after
a full run of an earlier tree, for providers that go by the text alone and in surroundings where
nothing goes wrong.

They agree but for the way in which discovery spells paths.  Discovery puts slashes in place of
backslashes, also where backslashes are part of a name: a file with such a name is listed under a
path that leads nowhere, or to another file.  Lists of changes spell paths as they are.  So an
incremental run stores a file that a full run leaves out; and where a respelled path leads to
another file, an incremental run does not notice that this one has changed.

## Main statements

* `Indexer.reindex_agrees_iff`: when an incremental run leaves the same as a full one.
-/

namespace CodeIndex

variable {σ γ : Type}

/-- The versions of files that a full run of one tree and runs of the next one store. -/
def versionsBetween [Walk] (repository : String) (base head : WorkTree) (changes : ChangeSet) :
    Set Version :=
  {version | version.repository = repository ∧
    (base.indexed? version.path = some version.text ∨
      head.indexed? version.path = some version.text ∨
      WorkTree.refreshed? base head changes version.path = some version.text)}

theorem stored_eq_empty_iff {points : List Point} :
    stored points = Dictionary.empty ↔ points = [] := by
  constructor
  · intro empty
    refine List.eq_nil_iff_forall_not_mem.2 fun point member => ?_
    obtain ⟨data, holds⟩ := exists_get?_stored member
    rw [empty] at holds
    cases holds
  · rintro rfl
    rfl

namespace Indexer

variable (indexer : Indexer σ γ)

/-- **Whether incremental and full runs make the same of two spellings of paths.**  Changed files
whose names contain backslashes must have no chunks; and paths that are not canonical must be stored
alike before and after, if discovery comes up with them. -/
structure SpellsAlike [Walk] (answers : Answers) (repository : String) (base head : WorkTree)
    (changes : ChangeSet) : Prop where
  backslashes : ∀ path ∈ changes.changed, '\\' ∈ path.toList →
    isEligible (IgnoreRules.load head) path = true → ∀ text, head.read path = .ok text →
      chunkFile indexer.read text path = []
  respelled : ∀ path, ¬Path.IsCanonical path →
    stored (indexer.shown answers repository path (base.indexed? path)) =
      stored (indexer.shown answers repository path (head.indexed? path))

variable {indexer} {answers : Answers}

/-- Incremental and full runs store the same of every path if and only if they make the same of its
spelling. -/
theorem shown_refreshed?_iff [Walk] {base head : WorkTree} {changes : ChangeSet}
    (plainBase : base.IsPlain) (plainHead : head.IsPlain)
    (sameRules : IgnoreRules.load base = IgnoreRules.load head)
    (describes : changes.Describes base head) (repository : String) :
    (∀ path,
      stored (indexer.shown answers repository path (WorkTree.refreshed? base head changes path)) =
        stored (indexer.shown answers repository path (head.indexed? path))) ↔
      indexer.SpellsAlike answers repository base head changes := by
  constructor
  · refine fun agree => ⟨fun path changed back eligible text content => ?_, fun path other => ?_⟩
    · obtain ⟨_, file⟩ := describes.listed path changed
      have taken : head.Takes changes path :=
        ⟨changed, eligible, (plainHead.read_of_fileAt file).2⟩
      have same := agree path
      have read : head.text? path = some text := by
        rw [WorkTree.text?, content]
        rfl
      rw [WorkTree.refreshed?_of_backslash plainBase back, if_pos taken, read,
        plainHead.indexed?_of_backslash back, shown_some, shown_none] at same
      exact (indexer.pointsOf_eq_nil_iff answers).1 (stored_eq_empty_iff.1 same)
    · rw [← agree path, WorkTree.refreshed?_of_not_canonical plainBase plainHead describes other]
  · rintro ⟨backslashes, respelled⟩ path
    -- paths that respelling leaves alone and that name something agree by themselves
    by_cases canonical : Path.IsCanonical path
    swap
    · rw [WorkTree.refreshed?_of_not_canonical plainBase plainHead describes canonical]
      exact respelled path canonical
    by_cases back : '\\' ∈ path.toList
    swap
    · rw [WorkTree.refreshed?_eq_indexed? plainBase plainHead describes sameRules canonical back]
    rw [WorkTree.refreshed?_of_backslash plainBase back, plainHead.indexed?_of_backslash back]
    by_cases taken : head.Takes changes path
    · rw [if_pos taken]
      cases content : head.read path with
      | error e =>
          rw [WorkTree.text?, content]
          rfl
      | ok text =>
          have none := backslashes path taken.1 back taken.2.1 text content
          rw [WorkTree.text?, content]
          exact congrArg stored ((indexer.pointsOf_eq_nil_iff answers).2 none)
    · rw [if_neg taken]

/-- Without backslashes there is nothing to respell. -/
theorem spellsAlike_of_no_backslashes [Walk] {base head : WorkTree} {changes : ChangeSet}
    (plainBase : base.IsPlain) (plainHead : head.IsPlain) (describes : changes.Describes base head)
    (without : ∀ tree ∈ [base, head], ∀ path content, tree.fileAt? path = some content →
      '\\' ∉ path.toList) (repository : String) :
    indexer.SpellsAlike answers repository base head changes := by
  have withoutBase := without base (by simp)
  have withoutHead := without head (by simp)
  refine ⟨fun path changed back => ?_, fun path other => ?_⟩
  · obtain ⟨content, file⟩ := describes.listed path changed
    exact absurd back (withoutHead path content file)
  · rw [plainBase.indexed?_of_not_canonical withoutBase other,
      plainHead.indexed?_of_not_canonical withoutHead other]

/-- **When an incremental run leaves the same as a full one.**  Let a store hold what a full run of
a plain tree has left, and let another plain tree with something to index take its place.  If
changes are told as they are, then an incremental run and a full run both succeed, and they leave
the same points of the repository if and only if they make the same of spellings; so they do,
whenever no file in either tree has a backslash in its name. -/
theorem reindex_agrees_iff [Walk] (indexer : Indexer σ γ) (steady : indexer.IsSteady answers)
    (repository : Repository) {base head : WorkTree} (plainBase : base.IsPlain)
    (plainHead : head.IsPlain) (sameRules : IgnoreRules.load base = IgnoreRules.load head)
    (found : head.discover (IgnoreRules.load head) ≠ []) {changes : ChangeSet}
    (describes : changes.Describes base head)
    (distinct : DistinctIds indexer.read (versionsBetween repository.name base head changes))
    {earlier around : Surroundings σ} (calmEarlier : earlier.IsCalm base)
    (calm : around.IsCalm head)
    {fresh start other : Clocked (World σ γ)}
    (accepts : ∀ world ∈ [fresh, start, other],
      world.state.store.AcceptsSparse indexer.settings.collection ∧
        world.state.store.failingUpserts = 0)
    (nothing : ownedBy repository.name (fresh.state.store.pointsOf indexer.settings.collection) =
      Dictionary.empty)
    (held : ownedBy repository.name (start.state.store.pointsOf indexer.settings.collection) =
      ownedBy repository.name
        (((indexer.index earlier repository).outcome fresh).2.state.store.pointsOf
          indexer.settings.collection))
    (told : around.changes (start.state.step + 3)
      (start.state.checkpoints.get? repository.name) = .ok changes) :
    ∃ incremental full afterIncremental afterFull,
      (indexer.reindex around repository).outcome start = (.ok incremental, afterIncremental) ∧
      (indexer.index around repository).outcome other = (.ok full, afterFull) ∧
      (ownedBy repository.name
            (afterIncremental.state.store.pointsOf indexer.settings.collection) =
          ownedBy repository.name (afterFull.state.store.pointsOf indexer.settings.collection) ↔
        indexer.SpellsAlike answers repository.name base head changes) ∧
      ((∀ tree ∈ [base, head], ∀ path content, tree.fileAt? path = some content →
          '\\' ∉ path.toList) →
        indexer.SpellsAlike answers repository.name base head changes) := by
  have acceptsFresh := accepts fresh (by simp)
  have acceptsStart := accepts start (by simp)
  have acceptsOther := accepts other (by simp)
  obtain ⟨_, afterEarlier, layout, ran, rendered, reflects, earlier⟩ :=
    steady.index_layout calmEarlier acceptsFresh.1 acceptsFresh.2 distinct
      (fun path text was => ⟨rfl, .inl was⟩) (.inr nothing)
  rw [ran] at held
  obtain ⟨incremental, afterIncremental, layout', ran', rendered', reflects', given'⟩ :=
    steady.reindex_layout calm told acceptsStart.1 acceptsStart.2 distinct
      (fun path text was => ⟨rfl, .inr (.inr was)⟩) rendered (held ▸ reflects) earlier
  obtain ⟨full, afterFull, layout'', ran'', rendered'', reflects'', given''⟩ :=
    steady.index_layout calm acceptsOther.1 acceptsOther.2 distinct
      (fun path text was => ⟨rfl, .inr (.inl was)⟩) (.inl found)
  -- both runs leave layouts of known versions, and such layouts can be compared path by path
  refine ⟨incremental, full, afterIncremental, afterFull, ran', ran'', ?_, fun without => ?_⟩
  · rw [rendered'.ownedBy_eq_iff reflects' rendered'' reflects'',
      ← shown_refreshed?_iff plainBase plainHead sameRules describes]
    exact forall_congr' fun path => by rw [given', given'']
  · exact spellsAlike_of_no_backslashes plainBase plainHead describes without repository.name

/-- Short versions of one file between two runs. -/
theorem short_of_mem_versionsBetween {version : Version}
    (known : version ∈ versionsBetween "a" (.single "a.md" (.text "one"))
      (.single "a.md" (.text "two")) ⟨["a.md"], []⟩) :
    version.repository = "a" ∧ version.path = "a.md" ∧
      (version.text = "one" ∨ version.text = "two") := by
  obtain ⟨repository, was⟩ := known
  refine ⟨repository, ?_⟩
  rcases was with was | was | was
  · exact (WorkTree.of_indexed?_single (by decide) (by decide) (by decide) was).imp_right .inl
  · exact (WorkTree.of_indexed?_single (by decide) (by decide) (by decide) was).imp_right .inr
  rcases WorkTree.of_refreshed? was with ⟨changed, text⟩ | was
  · have path := List.mem_singleton.1 changed
    have plain : (WorkTree.single "a.md" (.text "two")).IsPlain :=
      WorkTree.isPlain_single (by decide) (by decide)
    have content := (plain.read_of_fileAt (WorkTree.fileAt?_single.2 ⟨rfl, rfl⟩)).1
    rw [path, WorkTree.text?, content] at text
    exact ⟨path, .inr (Option.some.inj text).symm⟩
  · exact (WorkTree.of_indexed?_single (by decide) (by decide) (by decide) was).imp_right .inl

/-- A file of one line is written anew. -/
theorem reindex_agrees_iff_oneFile :
    let start : Clocked (World Unit Unit) :=
      ((bare.index (oneFile "one") ⟨"a", "/a"⟩).outcome freshWorld).2
    ∃ incremental full afterIncremental afterFull,
      (bare.reindex (oneFile "two") ⟨"a", "/a"⟩).outcome start =
          (.ok incremental, afterIncremental) ∧
        (bare.index (oneFile "two") ⟨"a", "/a"⟩).outcome freshWorld = (.ok full, afterFull) ∧
        ownedBy "a" (afterIncremental.state.store.pointsOf "code_chunks") =
          ownedBy "a" (afterFull.state.store.pointsOf "code_chunks") := by
  intro start
  have plain : ∀ content, (WorkTree.single "a.md" content).IsPlain := fun _ =>
    WorkTree.isPlain_single (by decide) (by decide)
  have rules : ∀ content, IgnoreRules.load (WorkTree.single "a.md" content) = IgnoreRules.none :=
    fun _ => WorkTree.load_single (by decide)
  have calm : ∀ text, (oneFile text).IsCalm (.single "a.md" (.text text)) := fun _ =>
    Surroundings.isCalm_still _ "head" _
  have distinct := distinctIds_bare fun version => short_of_mem_versionsBetween
  have fresh := acceptsSparse_freshWorld bare.settings.collection
  have started : (bare.index (oneFile "one") ⟨"a", "/a"⟩).outcome freshWorld =
      (((bare.index (oneFile "one") ⟨"a", "/a"⟩).outcome freshWorld).1, start) := rfl
  have preserves := index_preserves fresh started
  have accepts : ∀ world ∈ [freshWorld, start, freshWorld],
      world.state.store.AcceptsSparse bare.settings.collection ∧
        world.state.store.failingUpserts = 0 := by
    intro world member
    have cases : world = freshWorld ∨ world = start := by simpa [or_comm] using member
    rcases cases with rfl | rfl
    · exact ⟨fresh, rfl⟩
    · exact ⟨preserves.acceptsSparse _ fresh, Nat.le_zero.1 preserves.failingUpserts_le⟩
  obtain ⟨incremental, full, afterIncremental, afterFull, ran, ran', agree, spells⟩ :=
    reindex_agrees_iff bare (isSteady_ofAnswers _ _) ⟨"a", "/a"⟩ (plain (.text "one"))
      (plain (.text "two")) ((rules _).trans (rules _).symm) (discoveredAt_oneFile_ne_nil "two" 1)
      (WorkTree.describes_single "a.md" _ _) distinct (calm "one") (calm "two") accepts rfl rfl rfl
  refine ⟨incremental, full, afterIncremental, afterFull, ran, ran', agree.2 (spells ?_)⟩
  intro tree member path content file
  obtain ⟨content', rfl⟩ : ∃ content', tree = .single "a.md" content' := by
    have cases : tree = .single "a.md" (.text "one") ∨ tree = .single "a.md" (.text "two") := by
      simpa using member
    exact cases.elim (⟨_, ·⟩) (⟨_, ·⟩)
  obtain ⟨rfl, -⟩ := WorkTree.fileAt?_single.1 file
  decide

end Indexer

end CodeIndex
