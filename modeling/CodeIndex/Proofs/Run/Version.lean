import CodeIndex.Proofs.Run.IncrementalRun
import CodeIndex.Proofs.Store.Layout

/-!
# Files of a collection

A collection holds the points of many files, and what runs do to it is best said file by file.  Here
the layouts of `Proofs.Store.Layout` get their owners: a file, by its repository and its path, owns
the identifiers of the chunks of its known versions.  Different chunks of known versions are assumed
to have different identifiers; this is `DistinctIds`, the one assumption about hashing.

Runs remove points of whole files and write points of whole files.  `IsRendered` says so of a
layout: each file has the points of one rendition of one of its versions, or none.  A purge keeps it
even if it stops halfway, and a completed run keeps it since it has purged what it writes.

## Main definitions

* `Version`, `DistinctIds`
* `IsRendered`: each file has the points of one rendition, or none.
* `fileOf`: the points of a file.
* `RewrittenBy`: what a completed run does to the files of its repository.

## Main statements

* `IsRendered.purge`: what a purge leaves.
* `Indexer.Completed.exists_layout_of_alike`, `exists_layout`: what a completed run leaves.
-/

namespace CodeIndex

variable {σ γ : Type}

/-! ## Versions of files -/

/-- A file of a repository as a run may meet it. -/
structure Version where
  repository : String
  path : String
  text : String

/-- The repositories, paths and lines that chunks of some versions have. -/
def keysOf (read : SyntaxReader) (versions : Set Version) : Set (String × String × Nat) :=
  {key | ∃ version ∈ versions, version.repository = key.1 ∧ version.path = key.2.1 ∧
    ∃ chunk ∈ chunkFile read version.text version.path, chunk.startLine = key.2.2}

/-- Whether different chunks of some versions have different identifiers. -/
def DistinctIds (read : SyntaxReader) (versions : Set Version) : Prop :=
  Set.InjOn (fun key : String × String × Nat => pointId key.1 key.2.1 key.2.2)
    (keysOf read versions)

/-- The only identifier of the only file is different from all others. -/
theorem distinctIds_of_alone {read : SyntaxReader} {versions : Set Version}
    (repository path : String) (line : Nat)
    (alone : ∀ version ∈ versions, version.repository = repository ∧ version.path = path ∧
      ∀ chunk ∈ chunkFile read version.text version.path, chunk.startLine = line) :
    DistinctIds read versions := by
  have only : ∀ key ∈ keysOf read versions, key = (repository, path, line) := by
    rintro ⟨_, _, _⟩ ⟨version, known, rfl, rfl, chunk, member, rfl⟩
    obtain ⟨rfl, rfl, lines⟩ := alone version known
    rw [lines chunk member]
  intro key known key' known' _
  rw [only key known, only key' known']

/-- Two short versions of one file have one identifier. -/
theorem distinctIds_bare {versions : Set Version}
    (short : ∀ version ∈ versions, version.repository = "a" ∧ version.path = "a.md" ∧
      (version.text = "one" ∨ version.text = "two")) :
    DistinctIds Indexer.bare.read versions := by
  have lines : ∀ text, text = "one" ∨ text = "two" →
      (chunkFile Indexer.bare.read text "a.md").map (·.startLine) = [1] := by
    rintro text (rfl | rfl) <;> decide
  refine distinctIds_of_alone "a" "a.md" 1 fun version known => ?_
  obtain ⟨repository, path, text⟩ := short version known
  refine ⟨repository, path, fun chunk member => ?_⟩
  rw [path] at member
  have line : chunk.startLine ∈ [1] := lines version.text text ▸ List.mem_map_of_mem member
  exact List.mem_singleton.1 line

/-- Whether an identifier belongs to a file, by its repository and its path. -/
def OwnsId (read : SyntaxReader) (versions : Set Version) (file : String × String) (id : String) :
    Prop :=
  ∃ line, (file.1, file.2, line) ∈ keysOf read versions ∧ pointId file.1 file.2 line = id

variable {read : SyntaxReader} {versions : Set Version}

theorem apart_ownsId (distinct : DistinctIds read versions) : Apart (OwnsId read versions) := by
  rintro ⟨repository, path⟩ ⟨repository', path'⟩ id ⟨line, key, rfl⟩ ⟨line', key', same⟩
  have keys := distinct key' key same
  simp only [Prod.mk.injEq] at keys
  rw [keys.1, keys.2.1]

theorem ownsId_of_mem_points {repository path : String} {rendition : Rendition read path}
    (known : ⟨repository, path, rendition.text⟩ ∈ versions) {point : Point}
    (member : point ∈ rendition.points repository) :
    OwnsId read versions (repository, path) point.id := by
  obtain ⟨described, dense, listed, rfl⟩ := rendition.exists_of_mem_points repository member
  exact ⟨_, ⟨_, known, rfl, rfl, _, listed, rfl⟩, rfl⟩

/-- Renditions of one text use the same identifiers. -/
theorem exists_same_id {repository path : String} {first second : Rendition read path}
    (same : first.text = second.text) {point : Point}
    (member : point ∈ first.points repository) :
    ∃ again ∈ second.points repository, again.id = point.id := by
  have ids : (first.points repository).map (·.id) = (second.points repository).map (·.id) := by
    rw [first.map_id_points, second.map_id_points, Rendition.startLines, Rendition.startLines,
      Rendition.chunks, Rendition.chunks, same]
  have listed : point.id ∈ (second.points repository).map (·.id) :=
    ids ▸ List.mem_map_of_mem member
  obtain ⟨again, member, id⟩ := List.mem_map.1 listed
  exact ⟨again, member, id⟩

/-! ## Layouts by files -/

/-- Whether each file has the points of one rendition of one of its versions, or none. -/
def IsRendered (read : SyntaxReader) (versions : Set Version) (layout : Layout (String × String)) :
    Prop :=
  ∀ repository path, layout (repository, path) = [] ∨
    ∃ rendition : Rendition read path, ⟨repository, path, rendition.text⟩ ∈ versions ∧
      layout (repository, path) = rendition.points repository

/-- The points of a file name it. -/
theorem IsRendered.names {layout : Layout (String × String)}
    (rendered : IsRendered read versions layout) {file : String × String} {point : Point}
    (member : point ∈ layout file) :
    point.repository? = some file.1 ∧ point.path? = some file.2 := by
  obtain ⟨repository, path⟩ := file
  rcases rendered repository path with none | ⟨rendition, -, points⟩
  · rw [none] at member
    cases member
  · rw [points] at member
    exact rendition.repository?_of_mem_points repository member

/-! ## The points of a file -/

/-- The points of one file. -/
def fileOf (repository path : String) (held : Dictionary PointData) : Dictionary PointData :=
  held.filter fun _ data => data.repository? == some repository && data.path? == some path

theorem get?_fileOf {repository path : String} {held : Dictionary PointData} {id : String}
    {data : PointData} :
    (fileOf repository path held).get? id = some data ↔
      held.get? id = some data ∧ data.repository? = some repository ∧ data.path? = some path := by
  rw [fileOf, Dictionary.get?_filter, Option.filter_eq_some_iff, Bool.and_eq_true, beq_iff_eq,
    beq_iff_eq]

/-- The points of a file are those that it has in the layout. -/
theorem IsRendered.fileOf_eq {layout : Layout (String × String)} {held : Dictionary PointData}
    (rendered : IsRendered read versions layout)
    (reflects : Reflects (OwnsId read versions) held layout) (repository path : String) :
    fileOf repository path held = stored (layout (repository, path)) := by
  refine Dictionary.ext_get? fun id => Option.ext fun data => ?_
  rw [get?_fileOf, reflects.holds_iff]
  constructor
  · rintro ⟨⟨file, holds⟩, repository?, path?⟩
    obtain ⟨point, member, -, rfl⟩ := exists_of_get?_stored holds
    obtain ⟨repository?', path?'⟩ := rendered.names member
    have same : file = (repository, path) :=
      Prod.ext (Option.some.inj (repository?'.symm.trans repository?))
        (Option.some.inj (path?'.symm.trans path?))
    exact same ▸ holds
  · intro holds
    obtain ⟨point, member, -, rfl⟩ := exists_of_get?_stored holds
    exact ⟨⟨_, holds⟩, rendered.names member⟩

/-- **Collections of one repository are equal** if and only if they hold the same of each file. -/
theorem IsRendered.ownedBy_eq_iff {layout layout' : Layout (String × String)}
    {held held' : Dictionary PointData} {name : String}
    (rendered : IsRendered read versions layout)
    (reflects : Reflects (OwnsId read versions) (ownedBy name held) layout)
    (rendered' : IsRendered read versions layout')
    (reflects' : Reflects (OwnsId read versions) (ownedBy name held') layout') :
    ownedBy name held = ownedBy name held' ↔
      ∀ path, stored (layout (name, path)) = stored (layout' (name, path)) := by
  constructor
  · intro same path
    rw [← rendered.fileOf_eq reflects, ← rendered'.fileOf_eq reflects', same]
  · intro same
    refine Dictionary.ext_get? fun id => Option.ext fun data => ?_
    have through : ∀ {layout : Layout (String × String)} {held : Dictionary PointData},
        IsRendered read versions layout →
        Reflects (OwnsId read versions) (ownedBy name held) layout →
        ((ownedBy name held).get? id = some data ↔
          ∃ path, (stored (layout (name, path))).get? id = some data) := by
      intro layout held rendered reflects
      rw [reflects.holds_iff]
      refine ⟨fun ⟨⟨repository, path⟩, holds⟩ => ?_, fun ⟨path, holds⟩ => ⟨_, holds⟩⟩
      have mine := (get?_ownedBy.1 ((reflects.holds_iff id data).2 ⟨_, holds⟩)).2
      obtain ⟨point, member, -, rfl⟩ := exists_of_get?_stored holds
      obtain rfl := Option.some.inj ((rendered.names member).1.symm.trans mine)
      exact ⟨path, holds⟩
    rw [through rendered reflects, through rendered' reflects']
    exact exists_congr fun path => by rw [same path]

/-! ## What a purge leaves -/

/-- The paths whose points a scope selects, in its repository. -/
def PurgeScope.Includes : PurgeScope → String → Prop
  | .repository, _ => True
  | .files paths, path => path ∈ paths

theorem includes_repository (path : String) : PurgeScope.repository.Includes path := trivial

/-- The paths that an incremental run removes include those that it takes. -/
theorem includes_of_eligibleAt {around : Surroundings σ} {step : Nat} {changes : ChangeSet}
    {path : String} (member : path ∈ around.eligibleAt step changes.changed) :
    (PurgeScope.files (Indexer.purgedPaths changes)).Includes path := by
  show path ∈ Indexer.purgedPaths changes
  exact Indexer.mem_purgedPaths.2 (.inr (List.mem_filter.1 member).1)

/-- Whether a filter accepts the points of a file. -/
def Filter.AcceptsFile (filter : Filter) (file : String × String) : Prop :=
  ∀ data : PointData, data.repository? = some file.1 → data.path? = some file.2 →
    filter.accepts data.payload = true

/-- Filters of a run look at the repository and the path of a point, and at nothing else. -/
theorem accepts_eq_of_names {name : String} {scope : PurgeScope} {filter : Filter}
    (member : filter ∈ scope.filters name) {a b : PointData}
    (repository : a.repository? = b.repository?) (path : a.path? = b.path?) :
    filter.accepts a.payload = filter.accepts b.payload := by
  rw [Bool.eq_iff_iff]
  cases scope with
  | repository =>
      obtain rfl := List.mem_singleton.1 member
      rw [Filter.accepts_text, Filter.accepts_text]
      show a.repository? = some name ↔ b.repository? = some name
      rw [repository]
  | files paths =>
      obtain ⟨purgedPath, -, rfl⟩ := List.mem_map.1 member
      rw [Filter.accepts_text_andText, Filter.accepts_text_andText]
      show a.repository? = some name ∧ a.path? = some purgedPath ↔
        b.repository? = some name ∧ b.path? = some purgedPath
      rw [repository, path]

/-- A scope has a filter for each file that it includes. -/
theorem exists_acceptsFile {scope : PurgeScope} {path : String} (included : scope.Includes path)
    (name : String) : ∃ filter ∈ scope.filters name, filter.AcceptsFile (name, path) := by
  cases scope with
  | repository =>
      exact ⟨_, List.mem_singleton_self _, fun data repository _ =>
        Filter.accepts_text.2 repository⟩
  | files paths =>
      exact ⟨_, List.mem_map_of_mem included, fun data repository path =>
        Filter.accepts_text_andText.2 ⟨repository, path⟩⟩

/-- What a scope removes it includes. -/
theorem includes_of_accepts {name path : String} {scope : PurgeScope} {filter : Filter}
    (member : filter ∈ scope.filters name) {data : PointData} (path_eq : data.path? = some path)
    (accepts : filter.accepts data.payload = true) : scope.Includes path := by
  cases scope with
  | repository => trivial
  | files paths =>
      obtain ⟨purgedPath, listed, rfl⟩ := List.mem_map.1 member
      have names := Filter.accepts_text_andText.1 accepts
      obtain rfl := Option.some.inj (path_eq.symm.trans names.2)
      exact listed

/-- **A purge leaves whole files,** those that no filter accepts, also if it stops halfway. -/
theorem IsRendered.purge {layout : Layout (String × String)} {held : Dictionary PointData}
    (rendered : IsRendered read versions layout)
    (reflects : Reflects (OwnsId read versions) held layout) {name : String} {scope : PurgeScope}
    {done : List Filter} (part : ∀ filter ∈ done, filter ∈ scope.filters name) :
    ∃ layout', IsRendered read versions layout' ∧
      Reflects (OwnsId read versions) (purged done held) layout' ∧
      ∀ file, ((∃ filter ∈ done, filter.AcceptsFile file) → layout' file = []) ∧
        ((∀ filter ∈ done, ∀ point ∈ layout file, filter.accepts point.payload = false) →
          layout' file = layout file) := by
  let keep (data : PointData) : Bool := !done.any (·.accepts data.payload)
  let kept (file : String × String) : Bool := (layout file).all fun point => keep point.toPointData
  have keep_iff : ∀ point : Point, keep point.toPointData = true ↔
      ∀ filter ∈ done, filter.accepts point.payload = false := by
    intro point
    simp only [keep, Bool.not_eq_true', List.any_eq_false, Bool.not_eq_true]
  -- a filter only asks for names, and all points of a file have the same ones
  have alike : ∀ file, ∀ a ∈ layout file, ∀ b ∈ layout file,
      keep a.toPointData = true → keep b.toPointData = true := by
    intro file a first b second keepA
    obtain ⟨repositoryA, pathA⟩ := rendered.names first
    obtain ⟨repositoryB, pathB⟩ := rendered.names second
    rw [keep_iff] at keepA ⊢
    intro filter member
    rw [← keepA filter member]
    exact accepts_eq_of_names (part filter member) (repositoryB.trans repositoryA.symm)
      (pathB.trans pathA.symm)
  have whole : ∀ file, ∀ point ∈ layout file, keep point.toPointData = kept file := by
    intro file point member
    rw [Bool.eq_iff_iff]
    refine ⟨fun keeps => List.all_eq_true.2 fun other listed => ?_, fun all => ?_⟩
    · exact alike file point member other listed keeps
    · exact List.all_eq_true.1 all point member
  refine ⟨_, fun repository path => ?_, reflects.keep whole, fun file => ⟨?_, fun rejected => ?_⟩⟩
  · by_cases keeps : kept (repository, path)
    · rw [if_pos keeps]
      exact rendered repository path
    · exact .inl (if_neg keeps)
  · rintro ⟨filter, listed, accepts⟩
    cases points : layout file with
    | nil => simp
    | cons point others =>
        have member : point ∈ layout file := points ▸ List.mem_cons_self
        obtain ⟨repository, path⟩ := rendered.names member
        refine if_neg fun keeps => ?_
        have left := (keep_iff point).1 (List.all_eq_true.1 keeps point member) filter listed
        rw [accepts _ repository path] at left
        cases left
  · refine if_pos (List.all_eq_true.2 fun point member => ?_)
    exact (keep_iff point).2 fun filter listed => rejected filter listed point member

/-- **A purge leaves the files outside its scope.** -/
theorem IsRendered.purge_scope {layout : Layout (String × String)} {held : Dictionary PointData}
    (rendered : IsRendered read versions layout)
    (reflects : Reflects (OwnsId read versions) held layout) (name : String) (scope : PurgeScope) :
    ∃ left, IsRendered read versions left ∧
      Reflects (OwnsId read versions) (purged (scope.filters name) held) left ∧
      ∀ path, (scope.Includes path → left (name, path) = []) ∧
        (¬scope.Includes path → left (name, path) = layout (name, path)) := by
  obtain ⟨left, rendered', reflects', removed⟩ :=
    rendered.purge reflects fun filter (member : filter ∈ scope.filters name) => member
  refine ⟨left, rendered', reflects', fun path => ⟨fun included => ?_, fun excluded => ?_⟩⟩
  · exact (removed _).1 (exists_acceptsFile included name)
  · refine (removed _).2 fun filter listed point member => Bool.eq_false_iff.2 fun accepts => ?_
    exact excluded (includes_of_accepts listed (rendered.names member).2 accepts)

/-! ## What a completed run leaves -/

/-- **Whether files have been rewritten:** those that were stored have the points of their
renditions, and all others what a purge left of them. -/
def RewrittenBy (name : String) (scope : PurgeScope) (handled : List (Handled read))
    (layout layout' : Layout (String × String)) : Prop :=
  ∀ path, (∃ entry ∈ handled, ∃ rendition, entry.path = path ∧ entry.fate = .stored rendition ∧
      layout' (name, path) = rendition.points name) ∨
    (∀ entry ∈ handled, entry.path = path → entry.fate.isStored = false) ∧
      (scope.Includes path → layout' (name, path) = []) ∧
      (¬scope.Includes path → layout' (name, path) = layout (name, path))

namespace Indexer.Completed

variable {indexer : Indexer σ γ} {around : Surroundings σ} {repository : Repository}
variable {files : List String} {scope : PurgeScope} {before after : World σ γ}
variable {handled : List (Handled indexer.read)} {held : Dictionary PointData}
variable {layout : Layout (String × String)}
variable (completed : indexer.Completed around repository files scope before after handled)
variable (distinct : DistinctIds indexer.read versions)
variable (known : ∀ path ∈ files, ∀ step text, around.contentAt step path = .ok text →
  ⟨repository.name, path, text⟩ ∈ versions)
variable (covers : ∀ path ∈ files, scope.Includes path)
variable (rendered : IsRendered indexer.read versions layout)
variable (reflects : Reflects (OwnsId indexer.read versions) held layout)

include completed known in
/-- Files write points only if they were stored, and then those of a rendition of what they held. -/
theorem exists_rendition {entry : Handled indexer.read} (member : entry ∈ handled)
    (stored : entry.fate.isStored = true) :
    ∃ rendition : Rendition indexer.read entry.path, entry.fate = .stored rendition ∧
      entry.points repository.name = rendition.points repository.name ∧
      ⟨repository.name, entry.path, rendition.text⟩ ∈ versions := by
  obtain ⟨rendition, fate⟩ := Fate.exists_of_isStored stored
  obtain ⟨-, step, -, -, content⟩ := completed.look_of_stored member fate
  exact ⟨rendition, fate, Handled.points_of_stored fate _,
    known _ (completed.mem_files_iff.2 ⟨entry, member, rfl⟩) step _ content⟩

include completed distinct known rendered reflects in
/-- **What is written where no file has points:** the points of the files that were stored.  A file
that is taken twice has to hold the same text both times. -/
theorem exists_written (vacant : ∀ path ∈ files, layout (repository.name, path) = [])
    (alike : ∀ first ∈ handled, ∀ second ∈ handled, first.path = second.path →
      ∀ rendition rendition', first.fate = .stored rendition → second.fate = .stored rendition' →
        rendition.text = rendition'.text) :
    ∃ layout', IsRendered indexer.read versions layout' ∧
      Reflects (OwnsId indexer.read versions)
        (written held (handled.flatMap (·.points repository.name))) layout' ∧
      ∀ path, (∃ entry ∈ handled, ∃ rendition, entry.path = path ∧ entry.fate = .stored rendition ∧
          layout' (repository.name, path) = rendition.points repository.name) ∨
        (∀ entry ∈ handled, entry.path = path → entry.fate.isStored = false) ∧
          layout' (repository.name, path) = layout (repository.name, path) := by
  have renditions : ∀ entry ∈ handled.filter (·.fate.isStored), ∃ rendition : Rendition _ _,
      entry.fate = .stored rendition ∧
        entry.points repository.name = rendition.points repository.name ∧
        ⟨repository.name, entry.path, rendition.text⟩ ∈ versions := fun entry member =>
    completed.exists_rendition known (List.mem_filter.1 member).1 (List.mem_filter.1 member).2
  rw [← Handled.flatMap_points_filter]
  obtain ⟨layout', reflects', given⟩ := reflects.writeAll (apart_ownsId distinct)
    (fun entry : Handled indexer.read => (repository.name, entry.path)) (·.points repository.name)
    (fun entry member point listed => by
      obtain ⟨rendition, -, points, version⟩ := renditions entry member
      rw [points] at listed
      exact ownsId_of_mem_points version listed)
    (fun entry member => vacant entry.path <|
      completed.mem_files_iff.2 ⟨entry, (List.mem_filter.1 member).1, rfl⟩)
    -- a file that is taken twice holds the same text both times, so it is cut alike
    (fun first member second member' same point listed => by
      obtain ⟨path, fate⟩ := first
      obtain ⟨path', fate'⟩ := second
      obtain rfl : path = path' := (Prod.mk.inj same).2
      obtain ⟨rendition, stored, points, -⟩ := renditions _ member
      obtain ⟨rendition', stored', points', -⟩ := renditions _ member'
      have text := alike _ (List.mem_filter.1 member).1 _ (List.mem_filter.1 member').1 rfl
        rendition rendition' stored stored'
      rw [points] at listed
      rw [points']
      exact exists_same_id text listed)
  refine ⟨layout', fun name path => ?_, reflects', fun path => ?_⟩
  · rcases given (name, path) with ⟨same, -⟩ | ⟨entry, member, same, points⟩
    · rw [same]
      exact rendered name path
    · obtain ⟨rendition, -, points', version⟩ := renditions entry member
      obtain ⟨rfl, rfl⟩ := Prod.mk.inj same
      exact .inr ⟨rendition, version, points.trans points'⟩
  · rcases given (repository.name, path) with ⟨same, absent⟩ | ⟨entry, member, same, points⟩
    · refine .inr ⟨fun entry member path_eq => Bool.eq_false_iff.2 fun stored => ?_, same⟩
      exact absent entry (List.mem_filter.2 ⟨member, stored⟩) (by rw [path_eq])
    · obtain ⟨rendition, fate, points', -⟩ := renditions entry member
      obtain rfl := (Prod.mk.inj same).2
      exact .inl ⟨entry, (List.mem_filter.1 member).1, rendition, rfl, fate, points.trans points'⟩

include completed distinct known covers rendered reflects

/-- **A completed run leaves whole files.**  A file that was stored has the points of its rendition;
every other file has what the purge left of it.  A file that is taken twice has to hold the same
text both times, and the run has to remove the points of all files that it takes. -/
theorem exists_layout_of_alike
    (alike : ∀ first ∈ handled, ∀ second ∈ handled, first.path = second.path →
      ∀ rendition rendition', first.fate = .stored rendition → second.fate = .stored rendition' →
        rendition.text = rendition'.text) :
    ∃ layout', IsRendered indexer.read versions layout' ∧
      Reflects (OwnsId indexer.read versions)
        (written (purged (scope.filters repository.name) held)
          (handled.flatMap (·.points repository.name))) layout' ∧
      RewrittenBy repository.name scope handled layout layout' := by
  obtain ⟨left, renderedLeft, reflectsLeft, removed⟩ :=
    rendered.purge_scope reflects repository.name scope
  obtain ⟨layout', rendered', reflects', given⟩ :=
    completed.exists_written distinct known renderedLeft reflectsLeft
      (fun path listed => (removed path).1 (covers path listed)) alike
  refine ⟨layout', rendered', reflects', fun path => (given path).imp_right ?_⟩
  rintro ⟨unstored, same⟩
  rw [same]
  exact ⟨unstored, removed path⟩

/-- Files that stay as they are hold the same text whenever they are taken. -/
theorem exists_layout
    (settled : ∀ step step' path, around.contentAt step path = around.contentAt step' path) :
    ∃ layout', IsRendered indexer.read versions layout' ∧
      Reflects (OwnsId indexer.read versions)
        (written (purged (scope.filters repository.name) held)
          (handled.flatMap (·.points repository.name))) layout' ∧
      RewrittenBy repository.name scope handled layout layout' := by
  refine completed.exists_layout_of_alike distinct known covers rendered reflects
    fun first member second member' same rendition rendition' stored stored' => ?_
  obtain ⟨-, step, -, -, content⟩ := completed.look_of_stored member stored
  obtain ⟨-, step', -, -, content'⟩ := completed.look_of_stored member' stored'
  have same := (settled step step' first.path).trans (congrArg (around.contentAt step') same)
  rw [content, content'] at same
  exact Except.ok.inj same

end Indexer.Completed

end CodeIndex
