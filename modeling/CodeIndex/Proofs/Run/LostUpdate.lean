import CodeIndex.Proofs.Run.Agreement
import CodeIndex.Proofs.Run.Sighting

/-!
# Updates that get lost

The next incremental run asks for the changes since the checkpoint.  It makes good whatever has
changed since then, and leaves everything else as the run before has left it.  So an update is lost
if the run before has stored a file as it was at some other time, and the file is the same at the
checkpoint and at the end.

There are two ways in which this happens.  A file can be changed and changed back, and the run saw
it in between: no list of differences tells of it.  And a full run walks the directory before it
reads the head: what a commit adds in between is not found, and not told as changed since that
commit.  Incremental runs read the head first, and do not have this gap.

## Main definitions

* `Indexer.IsUpToDate`: whether the points of a repository are those that a full run leaves.

## Main statements

* `Indexer.reindex_upToDate_iff`: when the next incremental run makes everything good.
-/

namespace CodeIndex

variable {σ γ : Type}

namespace Indexer

/-- The indexer with another embedder. -/
def withEmbedder (indexer : Indexer σ γ) (embedder : Embedder σ) : Indexer σ γ :=
  { indexer with embedder }

/-- **Whether the points of a repository are those of a tree:** those that a full run over the tree
leaves if nothing goes wrong and there was nothing of the repository before. -/
def IsUpToDate [Walk] (indexer : Indexer σ γ) (repository : Repository) (tree : WorkTree)
    (store : MemoryStore) : Prop :=
  ∃ (around : Surroundings σ) (fresh : Clocked (World σ γ)), around.IsCalm tree ∧
    fresh.state.store.AcceptsSparse indexer.settings.collection ∧
    fresh.state.store.failingUpserts = 0 ∧
    ownedBy repository.name (fresh.state.store.pointsOf indexer.settings.collection) =
      Dictionary.empty ∧
    ownedBy repository.name (store.pointsOf indexer.settings.collection) =
      ownedBy repository.name
        (((indexer.index around repository).outcome fresh).2.state.store.pointsOf
          indexer.settings.collection)

variable {indexer : Indexer σ γ} {answers : Answers} {repository : Repository}
variable {line : Timeline}

section UpToDate

variable [Walk] (steady : indexer.IsSteady answers)
variable (distinct : DistinctIds indexer.read (line.versions repository.name))

include steady distinct

/-- What is up to date holds what the tree has. -/
theorem IsUpToDate.holds {commit : Nat} {store : MemoryStore}
    (upToDate : indexer.IsUpToDate repository (line.tree commit) store) :
    indexer.Holds answers (line.versions repository.name) repository.name
      (line.tree commit).indexed?
      (ownedBy repository.name (store.pointsOf indexer.settings.collection)) := by
  obtain ⟨around, fresh, calm, accepts, ready, nothing, held⟩ := upToDate
  obtain ⟨_, after, layout, ran, rendered, reflects, given⟩ :=
    steady.index_layout calm accepts ready distinct (fun path text was => ⟨rfl, commit, was⟩)
      (.inr nothing)
  rw [ran] at held
  exact ⟨layout, rendered, held ▸ reflects, given⟩

/-- **A repository is up to date** if and only if each of its paths has the points that the tree
gives it. -/
theorem isUpToDate_iff (world : World σ γ) {commit : Nat} {layout : Layout (String × String)}
    (rendered : IsRendered indexer.read (line.versions repository.name) layout)
    (reflects : Reflects (OwnsId indexer.read (line.versions repository.name))
      (ownedBy repository.name (world.store.pointsOf indexer.settings.collection)) layout) :
    indexer.IsUpToDate repository (line.tree commit) world.store ↔
      ∀ path, stored (layout (repository.name, path)) =
        stored (indexer.shown answers repository.name path
          ((line.tree commit).indexed? path)) := by
  constructor
  · intro upToDate path
    obtain ⟨layout', rendered', reflects', given⟩ := upToDate.holds steady distinct
    rw [← given path]
    exact (rendered.ownedBy_eq_iff reflects rendered' reflects').1 rfl path
  · intro same
    -- any full run will do, so let it start where there is nothing yet
    let fresh : Clocked (World σ γ) := ⟨0, { world with store := .empty }⟩
    have calm := Surroundings.isCalm_still (σ := σ) (line.tree commit) "" fun _ => .ok ⟨[], []⟩
    have accepts : fresh.state.store.AcceptsSparse indexer.settings.collection := nofun
    obtain ⟨_, after, layout', ran, rendered', reflects', given⟩ :=
      steady.index_layout calm accepts rfl distinct (fun path text was => ⟨rfl, commit, was⟩)
        (.inr rfl)
    refine ⟨_, fresh, calm, accepts, rfl, rfl, ?_⟩
    rw [ran]
    refine (rendered.ownedBy_eq_iff reflects rendered' reflects').2 fun path => ?_
    rw [same path, given path]

end UpToDate

/-- **What an incremental run catches up with** when everything has come to rest: all that has
changed since the checkpoint.  All else has to be right already. -/
theorem reindex_catchesUp_iff [Walk] (steady : indexer.IsSteady answers) (plain : line.IsPlain)
    (distinct : DistinctIds indexer.read (line.versions repository.name))
    {start : Clocked (World σ γ)} {taken? : String → Option String}
    (held : indexer.Holds answers (line.versions repository.name) repository.name taken?
      (ownedBy repository.name (start.state.store.pointsOf indexer.settings.collection)))
    (accepts : start.state.store.AcceptsSparse indexer.settings.collection)
    (ready : start.state.store.failingUpserts = 0) {first last : Nat}
    (checkpoint : start.state.checkpoints.get? repository.name = some (line.name first))
    {around : Surroundings σ} (rests : around.Follows line fun _ => last) (safe : around.IsSafe) :
    ∃ report after, (indexer.reindex around repository).outcome start = (.ok report, after) ∧
      (indexer.IsUpToDate repository (line.tree last) after.state.store ↔
        ∀ path, WorkTree.SameFile (line.tree first) (line.tree last) path →
          stored (indexer.shown answers repository.name path (taken? path)) =
            stored (indexer.shown answers repository.name path
              ((line.tree last).indexed? path))) := by
  obtain ⟨layout, rendered, reflects, given⟩ := held
  obtain ⟨changes, told, difference⟩ := rests.changes_eq (start.state.step + 3) first
  rw [← checkpoint] at told
  -- what is listed is right afterwards, whatever it was taken for before
  have refreshes : ∀ path, (path ∈ changes.deleted ∨ path ∈ changes.changed) →
      WorkTree.refreshed? (line.tree first) (line.tree last) changes path =
        (line.tree last).indexed? path := by
    intro path listed
    obtain ⟨commit, content, file⟩ : ∃ commit content,
        (line.tree commit).fileAt? path = some content := by
      rcases listed with deleted | changed
      · exact ⟨_, ((difference.deleted_iff path).1 deleted).1⟩
      · exact ⟨_, ((difference.changed_iff path).1 changed).1⟩
    exact WorkTree.refreshed?_eq_indexed? (plain.plain _) (plain.plain _) difference.describes
      (plain.sameRules _ _) ((plain.plain _).canonical_of_fileAt file)
      (plain.kept commit path content file)
  obtain ⟨report, after, layout', ran, rendered', reflects', given'⟩ :=
    steady.reindex_layout_over (rests.isCalm safe) told accepts ready distinct
      (fun path text taken content => ⟨rfl, last, by
        rw [← refreshes path (.inr taken.1), WorkTree.refreshed?, if_pos taken, content]⟩)
      rendered reflects
  refine ⟨report, after, ran, ?_⟩
  rw [isUpToDate_iff steady distinct after.state rendered' reflects']
  refine forall_congr' fun path => ?_
  by_cases listed : path ∈ changes.deleted ∨ path ∈ changes.changed
  · have other := fun same => (difference.unlisted_iff path).2 same listed
    have points : layout' (repository.name, path) =
        indexer.shown answers repository.name path ((line.tree last).indexed? path) := by
      rw [given', ← refreshes path listed, WorkTree.refreshed?, if_pos listed, if_pos listed]
      split <;> rfl
    exact ⟨fun _ same => absurd same other, fun _ => congrArg stored points⟩
  · have same := (difference.unlisted_iff path).1 listed
    rw [given', if_neg fun taken => listed (.inr taken.1), if_neg listed, given]
    exact ⟨fun agree _ => agree, fun agree => agree same⟩

/-- **When the next incremental run makes everything good.**  Let a run end well while commits land,
by an embedder that may have to be asked several times; and, if it is an incremental run, let the
repository have been up to date with its checkpoint before.  When everything has come to rest, an
incremental run succeeds.  It brings the repository up to date if and only if each file that is the
same at the new checkpoint and at the end was stored as it is there.  If nothing was changed back,
this is so after every incremental run, and after a full run if and only if no file with chunks was
missed by the walk that was there when the head was read. -/
theorem reindex_upToDate_iff [Walk] (indexer : Indexer σ γ) (steady : indexer.IsSteady answers)
    {embedder : Embedder σ} (alike : (indexer.withEmbedder embedder).AnswersAlike answers)
    (repository : Repository) (plain : line.IsPlain)
    (distinct : DistinctIds indexer.read (line.versions repository.name))
    {around : Surroundings σ} {position : Nat → Nat} (follows : around.Follows line position)
    {mode : RunMode} {start after : Clocked (World σ γ)} {report : Report}
    (accepts : start.state.store.AcceptsSparse indexer.settings.collection)
    (earlier : mode = .incremental → ∃ base,
      start.state.checkpoints.get? repository.name = some (line.name base) ∧
        indexer.IsUpToDate repository (line.tree base) start.state.store)
    (run : ((indexer.withEmbedder embedder).perform around repository mode).outcome start =
      (.ok report, after))
    (complete : report.IsComplete) (ready : after.state.store.failingUpserts = 0) {last : Nat}
    (ended : position after.state.step ≤ last) {later : Surroundings σ}
    (rests : later.Follows line fun _ => last) (safe : later.IsSafe) :
    let checkpoint := position (start.state.step + 2)
    ∃ seen, IsSighting around mode start.state.step after.state.step seen ∧
      ∃ next afterNext, (indexer.reindex later repository).outcome after = (.ok next, afterNext) ∧
        (indexer.IsUpToDate repository (line.tree last) afterNext.state.store ↔
          ∀ path, WorkTree.SameFile (line.tree checkpoint) (line.tree last) path →
            stored (indexer.shown answers repository.name path
                ((line.tree (position (seen path))).indexed? path)) =
              stored (indexer.shown answers repository.name path
                ((line.tree last).indexed? path))) ∧
        (line.NeverReturns checkpoint last →
          (indexer.IsUpToDate repository (line.tree last) afterNext.state.store ↔
            (mode = .full → ∀ path ∉ around.discoveredAt (start.state.step + 1),
              WorkTree.SameFile (line.tree checkpoint) (line.tree last) path →
                indexer.shown answers repository.name path
                  ((line.tree last).indexed? path) = []))) := by
  intro checkpoint
  obtain ⟨seen, sighting, held⟩ : ∃ seen,
      IsSighting around mode start.state.step after.state.step seen ∧
        indexer.Holds answers (line.versions repository.name) repository.name
          (fun path => (line.tree (position (seen path))).indexed? path)
          (ownedBy repository.name (after.state.store.pointsOf indexer.settings.collection)) :=
    perform_layout plain alike follows distinct accepts run complete fun incremental => by
      obtain ⟨base, checkpoint, upToDate⟩ := earlier incremental
      exact ⟨base, checkpoint, upToDate.holds steady distinct⟩
  have accepts := perform_accepts run complete accepts
  have stamped := checkpoint_of_follows follows run complete
  obtain ⟨next, afterNext, ran, upToDate⟩ :=
    reindex_catchesUp_iff steady plain distinct held accepts ready stamped rests safe
  refine ⟨seen, sighting, next, afterNext, ran, upToDate, fun neverReturns => ?_⟩
  -- a walk that has missed a path has taken it for nothing
  have missed : mode = .full → ∀ path ∉ around.discoveredAt (start.state.step + 1),
      (line.tree (position (seen path))).indexed? path = none := by
    intro full path absent
    rw [sighting.missed full path absent]
    rw [follows.discoveredAt_eq] at absent
    exact if_neg absent
  rw [upToDate]
  constructor
  · intro agree full path absent same
    have agrees := agree path same
    rw [missed full path absent, shown_none] at agrees
    exact stored_eq_empty_iff.1 agrees.symm
  · intro nothing path same
    by_cases behind : mode = .full → path ∈ around.discoveredAt (start.state.step + 1)
    · have head := follows.onward (Nat.le_of_lt (sighting.behind_head path behind))
      have stop := (follows.onward (Nat.le_of_lt (sighting.lt_stop path))).trans ended
      rw [plain.indexed?_congr (neverReturns path same _ head stop)]
    · obtain ⟨full, absent⟩ := Classical.not_imp.1 behind
      rw [missed full path absent, nothing full path absent same, shown_none]

/-! ## A file that is added in between -/

/-- A repository of one file, to which a commit adds another one. -/
def addedLine : Timeline where
  name i := if i = 0 then "first" else "second"
  tree i := if i = 0 then .single "a.md" (.text "one")
    else (WorkTree.single "a.md" (.text "one")).adding "b.md" (.text "two")

/-- The commit lands behind the walk through the directory. -/
def addedMeanwhile : Surroundings Unit :=
  .along addedLine (fun step => if step < 2 then 0 else 1)
    fun name => if name = "first" then 0 else 1

/-- Nothing more happens behind that commit. -/
def addedBefore : Surroundings Unit :=
  .along addedLine (fun _ => 1) fun name => if name = "first" then 0 else 1

theorem tree_addedLine (i : Nat) :
    addedLine.tree i = .single "a.md" (.text "one") ∨
      addedLine.tree i = (WorkTree.single "a.md" (.text "one")).adding "b.md" (.text "two") := by
  unfold addedLine
  dsimp only
  split
  · exact .inl rfl
  · exact .inr rfl

theorem isFlat_addedLine (i : Nat) : (addedLine.tree i).IsFlat := by
  have flat : (WorkTree.single "a.md" (.text "one")).IsFlat :=
    WorkTree.isFlat_single (by decide) (by decide)
  rcases tree_addedLine i with tree | tree
  · rw [tree]
    exact flat
  · rw [tree]
    exact flat.adding (by decide) (by decide) _

theorem of_fileAt_addedLine {i : Nat} {path : String} {content : FileContent}
    (file : (addedLine.tree i).fileAt? path = some content) :
    path = "a.md" ∧ content = .text "one" ∨ path = "b.md" ∧ content = .text "two" := by
  rcases tree_addedLine i with tree | tree
  · rw [tree] at file
    obtain ⟨rfl, rfl⟩ := WorkTree.fileAt?_single.1 file
    exact .inl ⟨rfl, rfl⟩
  · rw [tree, WorkTree.fileAt?_adding] at file
    split at file
    · rename_i same
      exact .inr ⟨same.symm, (Option.some.inj file).symm⟩
    · obtain ⟨rfl, rfl⟩ := WorkTree.fileAt?_single.1 file
      exact .inl ⟨rfl, rfl⟩

theorem isPlain_addedLine : addedLine.IsPlain where
  plain i := (isFlat_addedLine i).isPlain
  sameRules i j := (isFlat_addedLine i).load_eq.trans (isFlat_addedLine j).load_eq.symm
  kept i path content file := by
    rcases of_fileAt_addedLine file with ⟨rfl, -⟩ | ⟨rfl, -⟩ <;> decide

theorem follows_addedLine {position : Nat → Nat} (onward : Monotone position) :
    (Surroundings.along addedLine position fun name => if name = "first" then 0 else 1 :
      Surroundings Unit).Follows addedLine position := by
  refine Surroundings.follows_along onward fun i => ?_
  by_cases first : i = 0 <;> simp [addedLine, first]

/-- The two files have one identifier each. -/
theorem distinctIds_addedLine : DistinctIds bare.read (addedLine.versions "a") := by
  have keys : ∀ key ∈ keysOf bare.read (addedLine.versions "a"),
      key = ("a", "a.md", 1) ∨ key = ("a", "b.md", 1) := by
    rintro ⟨_, _, _⟩ ⟨⟨repository, path, text⟩, ⟨rfl, i, was⟩, rfl, rfl, chunk, member, rfl⟩
    have found : path ∈ (addedLine.tree i).discover (IgnoreRules.load (addedLine.tree i)) := by
      by_contra absent
      rw [WorkTree.indexed?, if_neg absent] at was
      cases was
    obtain ⟨-, content, file⟩ := isPlain_addedLine.mem_discover.1 found
    rw [WorkTree.indexed?, if_pos found, WorkTree.text?,
      ((isPlain_addedLine.plain i).read_of_fileAt file).1] at was
    have line : chunk.startLine ∈ (chunkFile bare.read text path).map (·.startLine) :=
      List.mem_map_of_mem member
    rcases of_fileAt_addedLine file with ⟨rfl, rfl⟩ | ⟨rfl, rfl⟩
    · obtain rfl := Option.some.inj was
      have lines : (chunkFile bare.read "one" "a.md").map (·.startLine) = [1] := by decide
      rw [lines, List.mem_singleton] at line
      exact .inl (by rw [line])
    · obtain rfl := Option.some.inj was
      have lines : (chunkFile bare.read "two" "b.md").map (·.startLine) = [1] := by decide
      rw [lines, List.mem_singleton] at line
      exact .inr (by rw [line])
  have apart : pointId "a" "a.md" 1 ≠ pointId "a" "b.md" 1 := by decide +kernel
  intro key known key' known' same
  rcases keys key known with rfl | rfl <;> rcases keys key' known' with rfl | rfl
  · rfl
  · exact absurd same apart
  · exact absurd same.symm apart
  · rfl

theorem mem_discoveredAt_addedMeanwhile {path : String} :
    path ∈ addedMeanwhile.discoveredAt 1 ↔ path = "a.md" := by
  have eligible : isEligible IgnoreRules.none "a.md" = true := by decide
  refine (WorkTree.mem_discover_single (by decide) (by decide) (by decide)).trans ?_
  exact ⟨fun ⟨same, _⟩ => same, fun same => ⟨same, eligible⟩⟩

theorem follows_addedMeanwhile :
    addedMeanwhile.Follows addedLine fun step => if step < 2 then 0 else 1 := by
  refine follows_addedLine fun step step' le => ?_
  split <;> split <;> omega

/-- The full run finds one file, which stays as it is, and ends well. -/
theorem exists_complete_addedMeanwhile :
    ∃ report after, (bare.perform addedMeanwhile ⟨"a", "/a"⟩ .full).outcome freshWorld =
        (.ok report, after) ∧
      report.IsComplete ∧ after.state.store.failingUpserts = 0 := by
  have steady : bare.IsSteady _ := isSteady_ofAnswers _ _
  refine exists_index_isComplete steady _ (fun _ => Option.some_ne_none _) (fun _ => ⟨_, rfl⟩)
    (Surroundings.isSafe_along _ _ _) (acceptsSparse_freshWorld _) rfl
    (List.ne_nil_of_mem (mem_discoveredAt_addedMeanwhile.2 rfl))
    fun path listed step e unreadable => ?_
  obtain rfl := mem_discoveredAt_addedMeanwhile.1 listed
  have there : ∀ i, (addedLine.tree i).fileAt? "a.md" = some (.text "one") := by
    intro i
    rcases tree_addedLine i with tree | tree
    · rw [tree]
      exact WorkTree.fileAt?_single.2 ⟨rfl, rfl⟩
    · rw [tree, WorkTree.fileAt?_adding, if_neg (by decide)]
      exact WorkTree.fileAt?_single.2 ⟨rfl, rfl⟩
  rw [follows_addedMeanwhile.contentAt_eq,
    ((isPlain_addedLine.plain _).read_of_fileAt (there _)).1] at unreadable
  cases unreadable

/-- The file that was added has a chunk. -/
theorem indexed?_addedLine : (addedLine.tree 1).indexed? "b.md" = some "two" := by
  have file : (addedLine.tree 1).fileAt? "b.md" = some (.text "two") := by
    show ((WorkTree.single "a.md" (.text "one")).adding "b.md" (.text "two")).fileAt? "b.md" = _
    rw [WorkTree.fileAt?_adding, if_pos rfl]
  have eligible : isEligible (IgnoreRules.load (addedLine.tree 1)) "b.md" = true := by
    rw [(isFlat_addedLine 1).load_eq]
    decide
  rw [(isPlain_addedLine.plain 1).indexed?_of_fileAt file (by decide), if_pos eligible]
  rfl

/-- **A full run loses the file that was added behind its walk:** it ends well, with a checkpoint at
the commit that has added the file, and the next incremental run does not bring it. -/
theorem reindex_upToDate_iff_added :
    ∃ report after next afterNext,
      (bare.perform addedMeanwhile ⟨"a", "/a"⟩ .full).outcome freshWorld = (.ok report, after) ∧
        report.IsComplete ∧
        (bare.reindex addedBefore ⟨"a", "/a"⟩).outcome after = (.ok next, afterNext) ∧
        ¬bare.IsUpToDate ⟨"a", "/a"⟩ (addedLine.tree 1) afterNext.state.store := by
  obtain ⟨report, after, run, complete, ready⟩ := exists_complete_addedMeanwhile
  have steady : bare.IsSteady _ := isSteady_ofAnswers _ _
  have alike : (bare.withEmbedder bare.embedder).AnswersAlike _ := steady.answersAlike
  have rests : addedBefore.Follows addedLine fun _ => 1 := follows_addedLine monotone_const
  have first : RunMode.full = .incremental → ∃ base,
      freshWorld.state.checkpoints.get? "a" = some (addedLine.name base) ∧
        bare.IsUpToDate ⟨"a", "/a"⟩ (addedLine.tree base) freshWorld.state.store := nofun
  have ended : (if after.state.step < 2 then 0 else 1) ≤ 1 := by
    split <;> omega
  obtain ⟨seen, -, next, afterNext, ran, -, upToDate⟩ := reindex_upToDate_iff bare steady alike
    ⟨"a", "/a"⟩ isPlain_addedLine distinctIds_addedLine follows_addedMeanwhile
    (acceptsSparse_freshWorld _) first run complete ready ended rests
    (Surroundings.isSafe_along _ _ _)
  refine ⟨report, after, next, afterNext, run, complete, ran, fun good => ?_⟩
  have never : addedLine.NeverReturns 1 1 := by
    intro path _ i lower upper
    rw [Nat.le_antisymm upper lower]
  have missed : "b.md" ∉ addedMeanwhile.discoveredAt 1 := fun listed =>
    absurd (mem_discoveredAt_addedMeanwhile.1 listed) (by decide)
  have none := (upToDate never).1 good rfl "b.md" missed (.refl _ _)
  rw [indexed?_addedLine] at none
  have chunks : chunkFile bare.read "two" "b.md" ≠ [] := by decide
  exact chunks ((bare.pointsOf_eq_nil_iff _).1 none)

end Indexer

end CodeIndex
