import CodeIndex.Prompt.Description
import CodeIndex.Repository.Discovery
import CodeIndex.Run.FilePoints
import CodeIndex.Run.Report
import CodeIndex.Run.Retry
import CodeIndex.Run.World

/-!
# Indexing

A run replaces stored points by those of the files as they are now. It first removes what it is
about to replace, all points of the repository or those of single files, and then takes each file
through the same steps: read, split, describe, redact, embed, store. A file whose steps fail is left
out and reported; a run that is cancelled starts no further file.

A full run takes the files that discovery finds. An incremental run takes those that changed since
the checkpoint, and is eligible for no others; both store the commit they saw as the new checkpoint,
unless they were cancelled.

Files may be worked on side by side, as many as `RunSettings.concurrency` says, and nothing here
reads that number. The files of a run have nothing in common but the store, the providers and the
tree, and these are seen through the surroundings: the order in which files are taken is any, and
whether a store operation fails, what a file holds and whether the run is cancelled is asked anew at
every step. So whatever one file meets because of the others, it meets in some surroundings.

## Main definitions

* `Indexer`, `RunSettings`, `Repository`
* `Indexer.run`: what full and incremental runs share.
* `Indexer.index`, `Indexer.reindex`
-/

namespace CodeIndex

/-- A repository: the name under which it is stored, and its directory as users know it. -/
structure Repository where
  name : String
  path : String
deriving DecidableEq

/-- How runs are carried out. Times are in milliseconds. -/
structure RunSettings where
  collection : String := "code_chunks"
  /-- The number of files that may be worked on at the same time. No run depends on it. -/
  concurrency : Nat := 3
  maxAttempts : Nat := 3
  baseDelay : Nat := 1000
  embedTimeout : Nat := 60000
  storeTimeout : Nat := 60000
deriving DecidableEq

namespace RunSettings

/-- How embedding is tried. -/
def embedPolicy (settings : RunSettings) : RetryPolicy :=
  ⟨settings.maxAttempts, settings.baseDelay, settings.embedTimeout⟩

/-- How storing and deleting are tried. -/
def storePolicy (settings : RunSettings) : RetryPolicy :=
  ⟨settings.maxAttempts, settings.baseDelay, settings.storeTimeout⟩

end RunSettings

/-- The fields that filters ask for. -/
def keywordFields : List String := ["repo", "filePath", "language", "layer"]

/-- Which points a run removes before it stores new ones. -/
inductive PurgeScope where
  | repository
  | files (paths : List String)

/-- The filters that select what a run removes. -/
def PurgeScope.filters (name : String) : PurgeScope → List Filter
  | repository => [Filter.text "repo" name]
  | files paths => paths.map fun path => (Filter.text "repo" name).andText "filePath" path

/-- What carries out runs. -/
structure Indexer (σ γ : Type) where
  settings : RunSettings
  read : SyntaxReader
  embedder : Embedder σ
  describer : Option (Describer γ)

namespace Indexer

variable {σ γ α : Type} (indexer : Indexer σ γ) (around : Surroundings σ)

/-! ### Requests -/

/-- A request that is made as often as a policy says. -/
def retried (policy : RetryPolicy) (operation : String)
    (request : Request (World σ γ) (Except RunError α)) : RunM σ γ α :=
  ExceptT.mk (policy.retry operation request)

/-- A store operation. -/
def storeRequest (operation : MemoryStore → MemoryStore.Answer α) :
    Request (World σ γ) (Except RunError α) := fun _ world =>
  let seen := { world with step := world.step + 1 }
  match around.storeFailure world.step with
  | some e => .immediate (.error (.store e)) seen
  | none =>
    let (result, store) := operation world.store
    .immediate (result.mapError .store) { seen with store }

/-- A store operation that is made once. -/
def storeOnce (operation : MemoryStore → MemoryStore.Answer α) : RunM σ γ α :=
  ExceptT.mk ((storeRequest around operation).run)

/-- An embedding request. -/
def embedRequest (request : Request σ (Except ProviderError α)) :
    Request (World σ γ) (Except RunError α) := fun now world =>
  ((request now world.embedder).lift fun embedder => { world with embedder }).map fun result =>
    result.mapError .provider

/-! ### One file -/

/-- The description of a chunk. Nothing is asked about headers. -/
def describeChunk (describer : Describer γ) (file : String) (chunk : Chunk) :
    RunM σ γ DescribedChunk := do
  let clocked ← get
  let text := if chunk.isHeader then [] else chunk.content.toList
  let (description, after) := describer.describe file.toList text chunk.path chunk.language
    ⟨clocked.now, clocked.state.generator⟩
  set (⟨after.now, { clocked.state with generator := after.state }⟩ : Clocked (World σ γ))
  return ⟨chunk, description⟩

/-- Whether the chunks of a file are a single small one, which speaks for itself. -/
def isSmall : List Chunk → Bool
  | [chunk] => chunk.size ≤ Span.maxChunkChars
  | _ => false

/-- The chunks of a file with their descriptions. -/
def describeChunks (file : String) (chunks : List Chunk) : RunM σ γ (List DescribedChunk) :=
  match indexer.describer with
  | some describer =>
    if isSmall chunks then return chunks.map (⟨·, ""⟩)
    else chunks.mapM (describeChunk describer file)
  | none => return chunks.map (⟨·, ""⟩)

/-- The text of a file of the repository. -/
def readFile (path : String) : RunM σ γ String := do
  match ((← RunM.see around.tree).getD WorkTree.empty).read path with
  | .ok text => return text
  | .error e => throw (.io e.message)

/-- Embeds chunks and stores their points. -/
def storeChunks (repository : Repository) (path : String) (described : List DescribedChunk) :
    RunM σ γ Unit := do
  let vectors ← retried indexer.settings.embedPolicy "embed"
    (embedRequest (indexer.embedder.embedBatch (described.map FilePoints.embeddingText)))
  if vectors.length != described.length then
    throw (.provider (.batchMismatch described.length vectors.length))
  retried indexer.settings.storePolicy "upsert" <| storeRequest around fun store =>
    store.upsert indexer.settings.collection
      (FilePoints.points repository.name path described vectors)

/-- Indexes a file. The answer is the number of its chunks, and of those without description. -/
def indexFile (repository : Repository) (path : String) : RunM σ γ (Nat × Nat) := do
  let content ← readFile around path
  let chunks := chunkFile indexer.read content path
  if chunks.isEmpty then return (0, 0)
  let described ← indexer.describeChunks content chunks
  indexer.storeChunks around repository path described
  return (described.length, described.countP (·.description.isEmpty))

/-- Whether the run is to stop now. -/
def isCancelled : RunM σ γ Bool := do
  let embedder := (← get).state.embedder
  RunM.see fun step => around.isCancelled step embedder

/-- Takes a file through its steps, unless the run was cancelled. -/
def processFile (repository : Repository) (path : String) : RunM σ γ FileOutcome := do
  if ← isCancelled around then return .notStarted
  match ← (indexer.indexFile around repository path).caught with
  | .ok (chunks, undescribed) => return .indexed chunks undescribed
  | .error e => return .skipped path e.message

/-! ### Runs -/

/-- Makes sure that the collection and its indexes are there. A first embedding shows whether the
embedder works at all, and how wide its vectors are. -/
def prepare : RunM σ γ Unit := do
  let probe := embedRequest (indexer.embedder.embed "probe")
  let _ ← retried indexer.settings.embedPolicy "embed" probe
  storeOnce around (·.ensure indexer.settings.collection true)
  keywordFields.forM fun field =>
    storeOnce around (·.ensureKeywordIndex indexer.settings.collection field)

/-- Removes points. -/
def purge (repository : Repository) (scope : PurgeScope) : RunM σ γ Unit :=
  (scope.filters repository.name).forM fun filter =>
    retried indexer.settings.storePolicy "delete" <| storeRequest around fun store =>
      store.delete indexer.settings.collection filter

/-- Makes the collection ready for some files. Without files there is nothing to make ready, and
there may be no collection. -/
def isReady (files : List String) : RunM σ γ Bool := do
  if files.isEmpty then
    storeOnce around fun store => (.ok (store.exists? indexer.settings.collection), store)
  else
    indexer.prepare around
    return true

/-- Removes what is in scope and indexes some files. A run that is cancelled before it starts
changes nothing. -/
def run (repository : Repository) (files : List String) (scope : PurgeScope) :
    RunM σ γ Report := do
  if ← isCancelled around then return { cancelled := true }
  if ← indexer.isReady around files then indexer.purge around repository scope
  let outcomes ← (around.order files).mapM (indexer.processFile around repository)
  return .ofOutcomes outcomes

/-- Stops a run whose repository is not there. -/
def requireDirectory (repository : Repository) : RunM σ γ Unit := do
  if (← RunM.see around.tree).isNone then throw (.repositoryNotFound repository.path)

/-- Stops a run whose checkpoints cannot be used. -/
def requireCheckpoints : RunM σ γ Unit := do
  if let some detail ← RunM.see around.checkpointFailure then throw (.checkpoint detail)

/-- The checkpoint of a repository. -/
def checkpoint? (repository : Repository) : RunM σ γ (Option String) := do
  requireCheckpoints around
  return (← get).state.checkpoints.get? repository.name

/-- Stores a checkpoint. -/
def setCheckpoint (repository : Repository) (commit : String) : RunM σ γ Unit := do
  requireCheckpoints around
  RunM.modifyCheckpoints (·.insert repository.name commit)

/-- The files of the repository that discovery finds. -/
def discovered [Walk] : RunM σ γ (List String) := do
  let tree := (← RunM.see around.tree).getD WorkTree.empty
  return tree.discover (IgnoreRules.load tree)

/-- A full run: the repository's points become those of its files as they are now. A repository
without eligible files is left alone. A head that cannot be read, or a checkpoint that cannot be
stored, costs the checkpoint and nothing else. -/
def index [Walk] (repository : Repository) : RunM σ γ Report := do
  requireDirectory around repository
  let files ← discovered around
  if files.isEmpty then return {}
  let head ← RunM.see around.head
  let report ← indexer.run around repository files .repository
  if report.cancelled then return report
  match head with
  | .error _ => return report
  | .ok commit =>
    match ← (setCheckpoint around repository commit).caught with
    | .ok () => return { report with checkpoint := some commit }
    | .error (.checkpoint detail) =>
      return { report with errors := report.errors ++ ["checkpoint: " ++ detail] }
    | .error e => return { report with errors := report.errors ++ ["checkpoint: " ++ e.message] }

/-- The changed paths that are files and eligible. -/
def eligibleChanges (changed : List String) : RunM σ γ (List String) := do
  let tree := (← RunM.see around.tree).getD WorkTree.empty
  let rules := IgnoreRules.load tree
  return changed.filter fun path => isEligible rules path && tree.isFile path

/-- The paths whose points an incremental run removes: deleted ones first, then changed ones, each
once. -/
def purgedPaths (changes : ChangeSet) : List String :=
  changes.changed.foldl
    (fun paths path => if paths.contains path then paths else paths ++ [path]) changes.deleted

/-- An incremental run: the points of what changed since the checkpoint become those of the files as
they are now. -/
def reindex (repository : Repository) : RunM σ γ Report := do
  requireDirectory around repository
  let since ← checkpoint? around repository
  let head ← (← RunM.see around.head : Except RunError String)
  RunM.noteQuestion since
  let changes ← (← RunM.see (around.changes · since) : Except RunError ChangeSet)
  let files ← eligibleChanges around changes.changed
  let report ← indexer.run around repository files (.files (purgedPaths changes))
  let report := { report with filesDeleted := changes.deleted.length }
  if report.cancelled then return report
  setCheckpoint around repository head
  return { report with checkpoint := some head }

end Indexer

end CodeIndex
