import CodeIndex.Command.Arguments
import CodeIndex.Settings.Basic

/-!
# Carrying out commands

A command prints one line of JSON for each repository that was indexed, or for each hit. A
repository whose run fails does not keep the others from being indexed; that something failed is
said at the end.

## Main definitions

* `Host`: what commands have at hand.
* `CommandError`
* `Host.runIndexing`, `Host.runSearch`, `Host.execute`
-/

namespace CodeIndex

/-- What commands have at hand. -/
structure Host (σ γ : Type) where
  read : SyntaxReader
  embedder : Embedder σ
  generator : Generator γ
  /-- What surrounds runs over a repository, with a look-back window in seconds. -/
  surroundings : RepositoryEntry → Nat → Surroundings σ
  /-- Whether the directories on the way to a file can be made. -/
  canHold : String → Bool
  /-- What stands where a database is to be opened. -/
  site : String → DatabaseSite

/-- Why a command cannot be carried out. -/
inductive CommandError where
  | noRepositories
  | unknownRepository (name : String)
  | directoryNotMade (path : String)
  | databaseNotOpened (path : String)
  | failedRuns (count : Nat)
deriving DecidableEq

/-- The wording of an error. -/
def CommandError.message : CommandError → String
  | noRepositories => "no repositories configured; add [[repos]] entries to the configuration"
  | unknownRepository name => Settings.unknownRepository name
  | directoryNotMade path => "failed to create " ++ path
  | databaseNotOpened path => "failed to open checkpoint database " ++ path
  | failedRuns count => toString count ++ " repository run(s) failed"

/-- Whether all files are taken or those that changed. -/
inductive RunMode where
  | full
  | incremental
deriving DecidableEq

/-- What a command has printed and come to. -/
structure CommandOutcome (α : Type) where
  lines : List Json
  result : Except CommandError Unit
  after : α

/-- The directory of a path; nothing stands for the current one. Slashes at the end say nothing. -/
def directoryOf (path : String) : String :=
  let backwards := path.toList.reverse.dropWhile (· == '/')
  String.ofList ((backwards.dropWhile (· != '/')).dropWhile (· == '/')).reverse

/-- The line that is printed about a run. -/
def Report.line (repository : String) (report : Report) : Json :=
  .object (Dictionary.ofList (("repo", .string repository) :: report.fields)).toList

namespace Host

variable {σ γ : Type} (host : Host σ γ) (settings : Settings)

/-- What carries out runs. -/
def indexer : Indexer σ γ where
  settings := settings.runSettings
  read := host.read
  embedder := host.embedder
  describer :=
    if settings.index.contextualize then
      some ⟨host.generator, settings.index.contextTimeoutSecs * 1000, settings.provider.maxTokens⟩
    else none

/-- Indexes a repository. -/
def runRepository [Walk] (mode : RunMode) (entry : RepositoryEntry)
    (clocked : Clocked (World σ γ)) :
    Except RunError Report × Clocked (World σ γ) :=
  let around := host.surroundings entry settings.lookBack
  let repository : Repository := ⟨entry.name, entry.path⟩
  let run := match mode with
    | .full => (host.indexer settings).index around repository
    | .incremental => (host.indexer settings).reindex around repository
  run.run.run clocked

/-- Indexes repositories one after the other: the printed lines, and the number of failures. -/
def runRepositories [Walk] (mode : RunMode) (clocked : Clocked (World σ γ)) :
    List RepositoryEntry → List Json × Nat × Clocked (World σ γ)
  | [] => ([], 0, clocked)
  | entry :: entries =>
    let (result, clocked) := host.runRepository settings mode entry clocked
    let (lines, failed, clocked) := runRepositories mode clocked entries
    match result with
    | .ok report => (report.line entry.name :: lines, failed, clocked)
    | .error _ => (lines, failed + 1, clocked)

/-- Why checkpoints cannot be kept, if they cannot. -/
def checkpointProblem? : Option CommandError :=
  let path := settings.checkpointPath
  if !(directoryOf path).isEmpty && !host.canHold path then
    some (.directoryNotMade (directoryOf path))
  else if openDatabase path.toList (host.site path) = .opened then none
  else some (.databaseNotOpened path)

/-- Carries out a command that indexes. -/
def runIndexing [Walk] (mode : RunMode) (repository : Option String)
    (clocked : Clocked (World σ γ)) :
    CommandOutcome (Clocked (World σ γ)) :=
  match settings.select repository with
  | .error _ => ⟨[], .error (.unknownRepository (repository.getD "")), clocked⟩
  | .ok [] => ⟨[], .error .noRepositories, clocked⟩
  | .ok entries =>
    match host.checkpointProblem? settings with
    | some problem => ⟨[], .error problem, clocked⟩
    | none =>
      let (lines, failed, clocked) := host.runRepositories settings mode clocked entries
      ⟨lines, if failed == 0 then .ok () else .error (.failedRuns failed), clocked⟩

/-- What carries out searches. -/
def retriever : Retriever σ γ where
  settings := settings.searchSettings
  embedder := host.embedder
  rephraser := some ⟨host.generator, settings.query.timeoutSecs * 1000⟩

/-- Carries out a search: its message or its hits. -/
def runSearch (request : SearchRequest) (clocked : Clocked (Services σ γ)) :
    SearchOutcome × Clocked (Services σ γ) :=
  (host.retriever settings).search
    { request with expand := request.expand || settings.query.expandQueries } clocked

/-- Carries out a command. -/
def execute [Walk] (command : Command) (clocked : Clocked (World σ γ)) :
    CommandOutcome (Clocked (World σ γ)) :=
  match command with
  | .index repository => host.runIndexing settings .full repository clocked
  | .reindex repository => host.runIndexing settings .incremental repository clocked
  | .search request =>
    let (outcome, searched) :=
      host.runSearch settings request ⟨clocked.now, clocked.state.toServices⟩
    ⟨outcome.lines, .ok (),
      ⟨searched.now, { clocked.state with toServices := searched.state }⟩⟩

end Host

end CodeIndex
