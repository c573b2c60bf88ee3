import CodeIndex.Collection.Dictionary
import CodeIndex.Json.Value
import CodeIndex.Run.Indexer
import CodeIndex.Search.Retriever

/-!
# Settings

What users configure: the provider, the store, how runs and searches are carried out, and the
repositories. Credentials come from the environment only; they are neither read from a file nor
shown.

## Main definitions

* `Settings`
* `Settings.toJson`: the settings as users see them.
* `Settings.problem?`: why the settings cannot be used.
* `Settings.select`: the repositories that a command is about.
-/

namespace CodeIndex

/-- The kinds of providers. -/
inductive ProviderKind where
  | ollama
  | openai
deriving DecidableEq

/-- The name of a kind of provider. -/
def ProviderKind.name : ProviderKind → String
  | .ollama => "ollama"
  | .openai => "openai"

/-- The kind of provider of a name. -/
def ProviderKind.ofName? (name : String) : Option ProviderKind :=
  [ProviderKind.ollama, .openai].find? (·.name == name)

/-- The provider and its models. -/
structure ProviderSettings where
  provider : ProviderKind := .ollama
  baseUrl : String := "http://localhost:11434"
  model : String := "qwen2.5-coder:7b"
  embeddingModel : String := "nomic-embed-text"
  maxTokens : Nat := 200

/-- The vector store. -/
structure StoreSettings where
  url : String := "http://localhost:6334"
  collection : String := "code_chunks"

/-- How runs are carried out. -/
structure IndexSettings where
  concurrency : Nat := 3
  maxAttempts : Nat := 3
  retryBaseMs : Nat := 1000
  /-- Whether chunks are described. -/
  contextualize : Bool := true
  contextTimeoutSecs : Nat := 30
  embedTimeoutSecs : Nat := 60
  upsertTimeoutSecs : Nat := 60
  /-- How far an incremental run without a checkpoint looks back. -/
  lookbackHours : Nat := 24

/-- How searches are carried out. -/
structure QuerySettings where
  prefetchLimit : Nat := 20
  resultLimit : Nat := 16
  expandQueries : Bool := false
  timeoutSecs : Nat := 30

/-- A configured repository. -/
structure RepositoryEntry where
  name : String
  path : String
  branch : Option String
deriving DecidableEq

/-- Credentials. -/
structure Secrets where
  provider : Option String := none
  store : Option String := none

/-- All that users configure. -/
structure Settings where
  provider : ProviderSettings := {}
  store : StoreSettings := {}
  index : IndexSettings := {}
  query : QuerySettings := {}
  /-- Where checkpoints are kept. -/
  checkpointPath : String := "./data/tib.db"
  repositories : List RepositoryEntry := []
  secrets : Secrets := {}

/-- What is shown of a credential: whether it is there. -/
def Secrets.mask : Option String → String
  | some _ => "Some(\"<redacted>\")"
  | none => "None"

/-- What is shown of the credentials. -/
def Secrets.describe (secrets : Secrets) : String :=
  "ResolvedSecrets \x7b llm_api_key: " ++ mask secrets.provider ++ ", qdrant_api_key: " ++
    mask secrets.store ++ " \x7d"

/-- The values of an entry under the names that users know. -/
def RepositoryEntry.toJson (entry : RepositoryEntry) : Json :=
  .object [("name", .string entry.name), ("path", .string entry.path),
    ("branch", .optional entry.branch)]

namespace Settings

/-- The settings under the names that users know, credentials left out. -/
def toJson (settings : Settings) : Json :=
  let provider := settings.provider
  let index := settings.index
  let query := settings.query
  .object
    [("llm", .object
      [("provider", .string provider.provider.name), ("base_url", .string provider.baseUrl),
        ("model", .string provider.model), ("embedding_model", .string provider.embeddingModel),
        ("max_tokens", .nat provider.maxTokens)]),
      ("qdrant", .object
        [("url", .string settings.store.url), ("collection", .string settings.store.collection)]),
      ("index", .object
        [("concurrency", .nat index.concurrency), ("max_attempts", .nat index.maxAttempts),
          ("retry_base_ms", .nat index.retryBaseMs), ("contextualize", .bool index.contextualize),
          ("context_timeout_secs", .nat index.contextTimeoutSecs),
          ("embed_timeout_secs", .nat index.embedTimeoutSecs),
          ("upsert_timeout_secs", .nat index.upsertTimeoutSecs),
          ("lookback_hours", .nat index.lookbackHours)]),
      ("search", .object
        [("prefetch_limit", .nat query.prefetchLimit), ("result_limit", .nat query.resultLimit),
          ("expand_queries", .bool query.expandQueries), ("timeout_secs", .nat query.timeoutSecs)]),
      ("checkpoint", .object [("sqlite_path", .string settings.checkpointPath)]),
      ("repos", .array (settings.repositories.map RepositoryEntry.toJson))]

/-! ### Validity -/

/-- Why settings cannot be used. -/
inductive Problem where
  | noConcurrency
  | noAttempts
  | noResults
  | noCollection
  | unnamedRepository
  | duplicateRepository (name : String)
deriving DecidableEq

/-- The wording of a problem. -/
def Problem.message : Problem → String
  | noConcurrency => "index.concurrency must be at least 1"
  | noAttempts => "index.max_attempts must be at least 1"
  | noResults => "search limits must be at least 1"
  | noCollection => "qdrant.collection must not be empty"
  | unnamedRepository => "repository name must not be empty"
  | duplicateRepository name => "duplicate repository name: " ++ name

/-- The first problem of the repositories, where `seen` holds the names so far. -/
def repositoryProblem? (seen : List String) : List RepositoryEntry → Option Problem
  | [] => none
  | entry :: entries =>
    if Text.isBlankString entry.name then some .unnamedRepository
    else if seen.contains entry.name then some (.duplicateRepository entry.name)
    else repositoryProblem? (entry.name :: seen) entries

/-- The first problem of some settings. -/
def problem? (settings : Settings) : Option Problem :=
  if settings.index.concurrency == 0 then some .noConcurrency
  else if settings.index.maxAttempts == 0 then some .noAttempts
  else if settings.query.prefetchLimit == 0 || settings.query.resultLimit == 0 then some .noResults
  else if Text.isBlankString settings.store.collection then some .noCollection
  else repositoryProblem? [] settings.repositories

/-! ### What commands need -/

/-- The complaint about a repository that is not configured. -/
def unknownRepository (name : String) : String :=
  "no repository named " ++ name ++ " in configuration"

/-- The repositories that a command is about: the one of a name, or all of them. -/
def select (settings : Settings) : Option String → Except String (List RepositoryEntry)
  | none => .ok settings.repositories
  | some name =>
    match settings.repositories.find? (·.name == name) with
    | some entry => .ok [entry]
    | none => .error (unknownRepository name)

/-- How runs are carried out. -/
def runSettings (settings : Settings) : RunSettings where
  collection := settings.store.collection
  concurrency := settings.index.concurrency
  maxAttempts := settings.index.maxAttempts
  baseDelay := settings.index.retryBaseMs
  embedTimeout := settings.index.embedTimeoutSecs * 1000
  storeTimeout := settings.index.upsertTimeoutSecs * 1000

/-- How searches are carried out. -/
def searchSettings (settings : Settings) : SearchSettings where
  collection := settings.store.collection
  prefetchLimit := settings.query.prefetchLimit
  resultLimit := settings.query.resultLimit
  timeout := settings.query.timeoutSecs * 1000

/-- The look-back window in seconds, as far as sixty-four bits can hold it. -/
def lookBack (settings : Settings) : Nat :=
  min (settings.index.lookbackHours * 3600) (UInt64.size - 1)

end Settings

end CodeIndex
