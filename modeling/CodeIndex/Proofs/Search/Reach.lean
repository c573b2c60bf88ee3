import CodeIndex.Command.Action
import CodeIndex.Proofs.Run.FullRun
import CodeIndex.Proofs.Search.Outcome
import CodeIndex.Proofs.Settings.Names
import CodeIndex.Proofs.Text.Trim

/-!
# What a search by name reaches

A repository goes by its name in several places: settings have to tell it from others, a command
selects it, its points carry it, and a search asks for it.  All of them take the name as it is but
the search, which takes the white space at its ends away.  So a search reaches the points under the
trimmed name, and these are the points of the repository exactly where trimming leaves its name as
it is.

## Main definitions

* `SearchRequest.reach`: the points that a search is about.

## Main statements

* `Ranking.candidates_filter`: a filter takes the other points out of sight.
* `SearchRequest.reach_ofRepository`: a search by name reaches the points under the trimmed name.
* `Indexer.ownedBy_of_index`: what a full run leaves of its repository.
* `Host.search_reaches_iff`: which configured repositories can be searched by their names.
-/

namespace CodeIndex

open CodeIndex.Text

/-- Something is left of a text that is not blank. -/
theorem Text.trimmed_ne_empty {text : String} (notBlank : ¬isBlankString text = true) :
    trimmed text ≠ "" := by
  intro none
  have none : trim text.toList = [] := by
    rw [← String.toList_ofList (l := trim text.toList)]
    exact congrArg String.toList none
  obtain ⟨before, after, split, blank, blank'⟩ := exists_trim text.toList
  rw [none, List.append_nil] at split
  refine notBlank (List.all_eq_true.2 ?_)
  rw [split]
  exact List.forall_mem_append.2 ⟨blank, blank'⟩

/-! ## Candidates -/

/-- **A filter takes the other points out of sight:** a candidate list is the one without a filter
of the points that the filter accepts. -/
theorem Ranking.candidates_filter (held : Dictionary PointData) (prefetch : Prefetch) :
    candidates held prefetch =
      candidates (held.filter fun _ data => (prefetch.filter.getD []).accepts data.payload)
        { prefetch with filter := none } := by
  have same : scores held prefetch =
      scores (held.filter fun _ data => (prefetch.filter.getD []).accepts data.payload)
        { prefetch with filter := none } := by
    unfold scores Dictionary.filter Dictionary.toList
    rw [List.filterMap_filter]
    rfl
  rw [candidates, candidates, same]

namespace SearchRequest

variable {request : SearchRequest} {name : String}

/-- **The points that a search is about:** those that its filter accepts. -/
def reach (request : SearchRequest) (held : Dictionary PointData) : Dictionary PointData :=
  held.filter fun _ data => (request.filter?.getD []).accepts data.payload

/-- A request that names a repository and no other facet. -/
def ofRepository (query name : String) (expand : Bool) : SearchRequest :=
  { query, repository := some name, expand }

/-- The filter of such a request asks for the trimmed name. -/
theorem filter?_ofRepository (query : String) (expand : Bool)
    (notBlank : ¬isBlankString name = true) :
    (ofRepository query name expand).filter? = some (.text "repo" (trimmed name)) := by
  have named : facet? (some name) = some (trimmed name) := by
    simp [facet?, Option.filter, trimmed_ne_empty notBlank]
  simp only [filter?, facets, ofRepository, List.filterMap_cons, List.filterMap_nil, named]
  rfl

/-- **A search by name reaches the points under the trimmed name.** -/
theorem reach_ofRepository (query : String) (expand : Bool)
    (notBlank : ¬isBlankString name = true) (held : Dictionary PointData) :
    (ofRepository query name expand).reach held = ownedBy (trimmed name) held := by
  refine Dictionary.ext_get? fun id => Option.ext fun data => ?_
  rw [reach, filter?_ofRepository query expand notBlank, Option.getD_some, Dictionary.get?_filter,
    Option.filter_eq_some_iff, Filter.accepts_text, get?_ownedBy]
  rfl

end SearchRequest

/-- Two names have no points in common. -/
theorem get?_ownedBy_of_ne {name other : String} (different : other ≠ name)
    {held : Dictionary PointData} {id : String} {data : PointData}
    (mine : (ownedBy name held).get? id = some data) : (ownedBy other held).get? id = none := by
  obtain ⟨holds, named⟩ := get?_ownedBy.1 mine
  refine Option.eq_none_iff_forall_ne_some.2 fun data' theirs => different ?_
  obtain ⟨holds', named'⟩ := get?_ownedBy.1 theirs
  obtain rfl := Option.some.inj (holds.symm.trans holds')
  exact Option.some.inj (named'.symm.trans named)

/-- A point of any repository. -/
def pointOf (name : String) : PointData :=
  ⟨[], none, Dictionary.empty.insert "repo" (.string name)⟩

/-- Different names are told apart by a store with one point. -/
theorem ownedBy_injective {name other : String}
    (same : ∀ held, ownedBy name held = ownedBy other held) : name = other := by
  have mine : (ownedBy other (Dictionary.empty.insert "p" (pointOf other))).get? "p" =
      some (pointOf other) :=
    get?_ownedBy.2
      ⟨by simp, by simp [pointOf, PointData.repository?, PointData.text?, Json.string?]⟩
  rw [← same] at mine
  have named := (get?_ownedBy.1 mine).2
  simpa [pointOf, PointData.repository?, PointData.text?, Json.string?] using named.symm

/-! ## Full runs -/

namespace Indexer

variable {σ γ : Type} {around : Surroundings σ} {repository : Repository}

/-- What a full run that was not cancelled before it started leaves of its repository. -/
theorem ownedBy_of_index [Walk] (indexer : Indexer σ γ) {before after : Clocked (World σ γ)}
    {report : Report}
    (accepts : before.state.store.AcceptsSparse indexer.settings.collection)
    (files : around.discoveredAt (before.state.step + 1) ≠ [])
    (started : around.isCancelled (before.state.step + 3) before.state.embedder = false)
    (run : (indexer.index around repository).outcome before = (.ok report, after)) :
    ∃ handled : List (Handled indexer.read),
      handled.map (·.path) = around.order (around.discoveredAt (before.state.step + 1)) ∧
      report.filesProcessed = handled.countP (·.fate.isStored) ∧
      ownedBy repository.name (after.state.store.pointsOf indexer.settings.collection) =
        stored (handled.flatMap (·.points repository.name)) := by
  rcases index_cases accepts run with ⟨-, ⟨_, impossible, -⟩ | ⟨-, nothing⟩ | ⟨-, cancelled⟩⟩ |
    ⟨_, _, impossible, -⟩ | ⟨handled, checkpoint, complaints, completed, success, -⟩
  · cases impossible
  · exact absurd nothing files
  · rw [started] at cancelled
    cases cancelled
  · cases impossible
  cases success
  refine ⟨handled, completed.paths_eq, by rw [Report.ofOutcomes_handled], ?_⟩
  rw [completed.ownedBy_eq]
  exact congrArg (written · _) (purged_ownedBy repository.name _)

end Indexer

/-! ## Configured repositories -/

namespace Settings

variable {settings : Settings} {entry : RepositoryEntry}

/-- The names in settings that can be used are not blank. -/
theorem notBlank_of_mem (valid : settings.problem? = none)
    (listed : entry ∈ settings.repositories) : ¬isBlankString entry.name = true :=
  (repositoryProblem?_eq_none_iff.1 (repositoryProblem?_of_problem? valid)).1 entry listed

/-- A configured repository is selected by its name. -/
theorem select_eq (valid : settings.problem? = none) (listed : entry ∈ settings.repositories) :
    settings.select (some entry.name) = .ok [entry] := by
  obtain ⟨found, search⟩ : ∃ found,
      settings.repositories.find? (·.name == entry.name) = some found :=
    Option.isSome_iff_exists.1 (List.find?_isSome.2 ⟨entry, listed, beq_self_eq_true _⟩)
  have same : found.name = entry.name := by simpa using List.find?_some search
  obtain rfl := List.inj_on_of_nodup_map (nodup_names valid) (List.mem_of_find?_eq_some search)
    listed same
  simp only [select, search]

end Settings

namespace Host

variable {σ γ : Type} {settings : Settings} {entry : RepositoryEntry}

/-- **Which configured repositories can be searched by their names.**  Take settings that can be
used, one of their repositories, and a search that names it.  The name selects the repository, and
each candidate list of the search is that of the points under the trimmed name, without a filter.
These are the points under the name, in every store, if and only if trimming leaves it as it is.
What a full run has stored for the repository is reached completely and alone in this case, and
none of it is reached otherwise. -/
theorem search_reaches_iff [Walk] (host : Host σ γ) (valid : settings.problem? = none)
    (listed : entry ∈ settings.repositories) (query : String) (expand : Bool) :
    let request := SearchRequest.ofRepository query entry.name expand
    settings.select (some entry.name) = .ok [entry] ∧
    (∀ composites vectors,
      ∀ prefetch ∈ ((host.retriever settings).hybridQuery request composites vectors).prefetch,
      ∀ held, Ranking.candidates held prefetch =
        Ranking.candidates (ownedBy (trimmed entry.name) held) { prefetch with filter := none }) ∧
    (∀ held, request.reach held = ownedBy (trimmed entry.name) held) ∧
    ((∀ held, request.reach held = ownedBy entry.name held) ↔ trimmed entry.name = entry.name) ∧
    ∀ (before after : Clocked (World σ γ)) (report : Report),
      let around := host.surroundings entry settings.lookBack
      let points := after.state.store.pointsOf settings.store.collection
      before.state.store.AcceptsSparse settings.store.collection →
      around.discoveredAt (before.state.step + 1) ≠ [] →
      around.isCancelled (before.state.step + 3) before.state.embedder = false →
      host.runRepository settings .full entry before = (.ok report, after) →
      ∃ handled : List (Handled host.read),
        handled.map (·.path) = around.order (around.discoveredAt (before.state.step + 1)) ∧
        report.filesProcessed = handled.countP (·.fate.isStored) ∧
        ownedBy entry.name points = stored (handled.flatMap (·.points entry.name)) ∧
        if trimmed entry.name = entry.name then
          request.reach points = stored (handled.flatMap (·.points entry.name))
        else
          ∀ id data, (stored (handled.flatMap (·.points entry.name))).get? id = some data →
            (request.reach points).get? id = none := by
  intro request
  have notBlank := Settings.notBlank_of_mem valid listed
  have reached := SearchRequest.reach_ofRepository query expand notBlank
  refine ⟨Settings.select_eq valid listed, ?_, reached, ?_, ?_⟩
  · intro composites vectors prefetch member held
    rw [Ranking.candidates_filter, Retriever.filter_of_mem_hybridQuery _ member]
    exact congrArg (Ranking.candidates · _) (reached held)
  · constructor
    · intro all
      exact ownedBy_injective fun held => (reached held).symm.trans (all held)
    · intro same held
      rw [reached, same]
  · intro before after report around points accepts files started run
    obtain ⟨handled, paths, processed, owned⟩ :=
      Indexer.ownedBy_of_index (host.indexer settings) accepts files started run
    refine ⟨handled, paths, processed, owned, ?_⟩
    split
    · rename_i same
      rw [reached, same]
      exact owned
    · rename_i different
      intro id data holds
      rw [reached]
      exact get?_ownedBy_of_ne different (owned ▸ holds)

/-- A host with one file in each repository, and empty answers. -/
def ofOneFile : Host Unit Unit where
  read := Indexer.bare.read
  embedder := Indexer.bare.embedder
  generator := ⟨fun _ _ => .answer (.ok "")⟩
  surroundings _ _ := Indexer.oneFile "one"
  canHold _ := true
  site _ := .vacant

/-- Settings with one repository, whose name begins with a space. -/
def spacedName : Settings := { repositories := [⟨" a", "/a", none⟩] }

/-- A repository whose name begins with a space is accepted, selected and indexed, and a search by
its name does not reach it. -/
theorem search_reaches_spacedName :
    spacedName.problem? = none ∧ spacedName.select (some " a") = .ok [⟨" a", "/a", none⟩] ∧
      (∃ held, (SearchRequest.ofRepository "one" " a" false).reach held ≠ ownedBy " a" held) ∧
      ∃ report after,
        ofOneFile.runRepository spacedName .full ⟨" a", "/a", none⟩ Indexer.freshWorld =
          (.ok report, after) ∧
        ∃ handled : List (Handled ofOneFile.read),
          handled.map (·.path) = (Indexer.oneFile "one").discoveredAt 1 ∧
          ∀ id data, (stored (handled.flatMap (·.points " a"))).get? id = some data →
            ((SearchRequest.ofRepository "one" " a" false).reach
              (after.state.store.pointsOf "code_chunks")).get? id = none := by
  have valid : spacedName.problem? = none := by decide
  have different : trimmed " a" ≠ " a" := by decide
  have listed : (⟨" a", "/a", none⟩ : RepositoryEntry) ∈ spacedName.repositories :=
    List.mem_cons_self
  obtain ⟨selected, -, -, exactly, indexed⟩ :=
    search_reaches_iff ofOneFile valid listed "one" false
  have accepts := Indexer.acceptsSparse_freshWorld "code_chunks"
  have unhindered : (ofOneFile.indexer spacedName).Unhindered (Indexer.oneFile "one")
      Indexer.freshWorld.state.store :=
    ⟨fun _ => rfl, rfl, fun _ _ _ => ⟨_, rfl, Nat.zero_le _⟩,
      fun _ _ _ => ⟨_, rfl, List.length_map _, Nat.zero_le _⟩⟩
  obtain ⟨report, after, run⟩ : ∃ report after,
      ofOneFile.runRepository spacedName .full ⟨" a", "/a", none⟩ Indexer.freshWorld =
        (.ok report, after) :=
    Indexer.exists_report_of_unhindered accepts (Option.some_ne_none _) unhindered
  obtain ⟨handled, paths, -, -, missed⟩ := indexed _ after report accepts
    (Indexer.discoveredAt_oneFile_ne_nil "one" 1) rfl run
  rw [if_neg different] at missed
  exact ⟨valid, selected, not_forall.1 (mt exactly.1 different), report, after, run, handled, paths,
    missed⟩

end Host

end CodeIndex
