import CodeIndex.Number.Count
import CodeIndex.Settings.Document

/-!
# Settings from the environment

Variables override what the file says. A variable whose value does not fit is passed over; so is a
credential that is empty.

## Main definitions

* `Environment`
* `Settings.override`, `Settings.load`
* `Settings.pathFor`: where the file is.
-/

namespace CodeIndex

/-- The variables of a process. -/
abbrev Environment := Dictionary String

namespace Environment

/-- The names of the variables that are looked at. -/
def names : List String :=
  ["TIB_CONFIG", "TIB_LLM_PROVIDER", "TIB_LLM_BASE_URL", "TIB_LLM_MODEL", "TIB_LLM_EMBEDDING_MODEL",
    "TIB_LLM_API_KEY", "TIB_QDRANT_URL", "TIB_QDRANT_COLLECTION", "TIB_QDRANT_API_KEY",
    "TIB_INDEX_CONCURRENCY", "TIB_INDEX_MAX_ATTEMPTS", "TIB_INDEX_CONTEXTUALIZE",
    "TIB_INDEX_LOOKBACK_HOURS", "TIB_SEARCH_RESULT_LIMIT", "TIB_SEARCH_EXPAND",
    "TIB_CHECKPOINT_SQLITE_PATH"]

/-- A number below a bound. -/
def count? (environment : Environment) (name : String) (bound : Nat) : Option Nat :=
  (environment.get? name).bind fun value => Number.countBelow? bound value.toList

/-- A truth value. -/
def boolean? (environment : Environment) (name : String) : Option Bool :=
  (environment.get? name).bind fun value =>
    if value == "true" then some true else if value == "false" then some false else none

/-- A text that is not empty. -/
def secret? (environment : Environment) (name : String) : Option String :=
  (environment.get? name).filter (· != "")

end Environment

namespace Settings

/-- The settings with the variables that are set. -/
def override (settings : Settings) (environment : Environment) : Settings where
  provider :=
    { settings.provider with
      provider := ((environment.get? "TIB_LLM_PROVIDER").bind ProviderKind.ofName?).getD
        settings.provider.provider
      baseUrl := (environment.get? "TIB_LLM_BASE_URL").getD settings.provider.baseUrl
      model := (environment.get? "TIB_LLM_MODEL").getD settings.provider.model
      embeddingModel :=
        (environment.get? "TIB_LLM_EMBEDDING_MODEL").getD settings.provider.embeddingModel }
  store :=
    { url := (environment.get? "TIB_QDRANT_URL").getD settings.store.url
      collection := (environment.get? "TIB_QDRANT_COLLECTION").getD settings.store.collection }
  index :=
    { settings.index with
      concurrency :=
        (environment.count? "TIB_INDEX_CONCURRENCY" UInt64.size).getD settings.index.concurrency
      maxAttempts :=
        (environment.count? "TIB_INDEX_MAX_ATTEMPTS" UInt32.size).getD settings.index.maxAttempts
      contextualize :=
        (environment.boolean? "TIB_INDEX_CONTEXTUALIZE").getD settings.index.contextualize
      lookbackHours :=
        (environment.count? "TIB_INDEX_LOOKBACK_HOURS" UInt64.size).getD
          settings.index.lookbackHours }
  query :=
    { settings.query with
      resultLimit :=
        (environment.count? "TIB_SEARCH_RESULT_LIMIT" UInt64.size).getD settings.query.resultLimit
      expandQueries :=
        (environment.boolean? "TIB_SEARCH_EXPAND").getD settings.query.expandQueries }
  checkpointPath :=
    (environment.get? "TIB_CHECKPOINT_SQLITE_PATH").getD settings.checkpointPath
  repositories := settings.repositories
  secrets :=
    { provider := (environment.secret? "TIB_LLM_API_KEY").or settings.secrets.provider
      store := (environment.secret? "TIB_QDRANT_API_KEY").or settings.secrets.store }

/-- The complaint about a file that cannot be understood. -/
def unreadable : String := "failed to parse config file"

/-- The settings of a file, if there is one, with the variables that are set. -/
def load (file : Option String) (environment : Environment) : Except String Settings :=
  match file with
  | none => .ok (override {} environment)
  | some text =>
    match parse? text.toList with
    | some settings => .ok (settings.override environment)
    | none => .error unreadable

/-- Where the file is: as the command line says, else as the environment says, else at the usual
place. -/
def pathFor (wanted : Option String) (environment : Environment) : String :=
  (wanted.or (environment.get? "TIB_CONFIG")).getD "config/default.toml"

end Settings

end CodeIndex
