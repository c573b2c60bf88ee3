import CodeIndex.Settings.Basic
import CodeIndex.Toml.Reader

/-!
# Settings in a document

The configuration file. Sections and fields that are left out have their defaults, and fields that
nobody knows are passed over; a field with a value of another type makes the file unusable. A
section may also be written as the list of its values.

## Main definitions

* `Settings.ofDocument?`
-/

namespace CodeIndex

namespace Toml

/-- What a section holds: a value under a name, which in a list stands at a fixed place. -/
def section? : Toml → Option (Nat → String → Option Toml)
  | .table fields => some fun _ name => fields.lookup name
  | .list items => some fun place _ => items[place]?
  | _ => none

/-- A text. -/
def text? : Toml → Option String
  | .string s => some s
  | _ => none

/-- A truth value. -/
def boolean? : Toml → Option Bool
  | .boolean b => some b
  | _ => none

/-- A number below a bound. -/
def count? (bound : Nat) : Toml → Option Nat
  | .whole n => if 0 ≤ n && n < bound then some n.toNat else none
  | _ => none

/-- A number of sixty-four bits. -/
def long? : Toml → Option Nat := count? UInt64.size

/-- A number of thirty-two bits. -/
def short? : Toml → Option Nat := count? UInt32.size

/-- A list of values that fit. -/
def list? {α : Type} (decode : Toml → Option α) : Toml → Option (List α)
  | .list items => items.mapM decode
  | _ => none

/-- A kind of provider: its name, or a table whose only field has that name and holds nothing. -/
def providerKind? : Toml → Option ProviderKind
  | .string name => ProviderKind.ofName? name
  | .table [(name, .table [])] => ProviderKind.ofName? name
  | .table [(name, .list [])] => ProviderKind.ofName? name
  | _ => none

end Toml

namespace Settings

/-- A value with its default; a value that is there has to fit. -/
def valueOr {α : Type} (standard : α) (decode : Toml → Option α) : Option Toml → Option α
  | none => some standard
  | some value => decode value

/-- The provider section. -/
def providerOf? (document : Toml) : Option ProviderSettings := do
  let field ← document.section?
  let standard : ProviderSettings := {}
  return {
    provider := ← valueOr standard.provider Toml.providerKind? (field 0 "provider")
    baseUrl := ← valueOr standard.baseUrl Toml.text? (field 1 "base_url")
    model := ← valueOr standard.model Toml.text? (field 2 "model")
    embeddingModel := ← valueOr standard.embeddingModel Toml.text? (field 3 "embedding_model")
    maxTokens := ← valueOr standard.maxTokens Toml.short? (field 4 "max_tokens") }

/-- The store section. -/
def storeOf? (document : Toml) : Option StoreSettings := do
  let field ← document.section?
  let standard : StoreSettings := {}
  return {
    url := ← valueOr standard.url Toml.text? (field 0 "url")
    collection := ← valueOr standard.collection Toml.text? (field 1 "collection") }

/-- The section on runs. -/
def indexOf? (document : Toml) : Option IndexSettings := do
  let field ← document.section?
  let standard : IndexSettings := {}
  return {
    concurrency := ← valueOr standard.concurrency Toml.long? (field 0 "concurrency")
    maxAttempts := ← valueOr standard.maxAttempts Toml.short? (field 1 "max_attempts")
    retryBaseMs := ← valueOr standard.retryBaseMs Toml.long? (field 2 "retry_base_ms")
    contextualize := ← valueOr standard.contextualize Toml.boolean? (field 3 "contextualize")
    contextTimeoutSecs :=
      ← valueOr standard.contextTimeoutSecs Toml.long? (field 4 "context_timeout_secs")
    embedTimeoutSecs :=
      ← valueOr standard.embedTimeoutSecs Toml.long? (field 5 "embed_timeout_secs")
    upsertTimeoutSecs :=
      ← valueOr standard.upsertTimeoutSecs Toml.long? (field 6 "upsert_timeout_secs")
    lookbackHours := ← valueOr standard.lookbackHours Toml.long? (field 7 "lookback_hours") }

/-- The section on searches. -/
def queryOf? (document : Toml) : Option QuerySettings := do
  let field ← document.section?
  let standard : QuerySettings := {}
  return {
    prefetchLimit := ← valueOr standard.prefetchLimit Toml.long? (field 0 "prefetch_limit")
    resultLimit := ← valueOr standard.resultLimit Toml.long? (field 1 "result_limit")
    expandQueries := ← valueOr standard.expandQueries Toml.boolean? (field 2 "expand_queries")
    timeoutSecs := ← valueOr standard.timeoutSecs Toml.long? (field 3 "timeout_secs") }

/-- The section on checkpoints. -/
def checkpointPathOf? (document : Toml) : Option String := do
  let field ← document.section?
  valueOr ({} : Settings).checkpointPath Toml.text? (field 0 "sqlite_path")

/-- A repository. -/
def repositoryOf? (document : Toml) : Option RepositoryEntry := do
  let field ← document.section?
  return {
    name := ← (← field 0 "name").text?
    path := ← (← field 1 "path").text?
    branch := ← valueOr none (fun value => value.text?.map some) (field 2 "branch") }

/-- The settings of a document, if all that it says fits. -/
def ofDocument? (document : Toml) : Option Settings := do
  let field ← document.section?
  return {
    provider := ← valueOr {} providerOf? (field 0 "llm")
    store := ← valueOr {} storeOf? (field 1 "qdrant")
    index := ← valueOr {} indexOf? (field 2 "index")
    query := ← valueOr {} queryOf? (field 3 "search")
    checkpointPath :=
      ← valueOr ({} : Settings).checkpointPath checkpointPathOf? (field 4 "checkpoint")
    repositories := ← valueOr [] (Toml.list? repositoryOf?) (field 5 "repos") }

/-- The settings of a file's text, if it can be read and all that it says fits. -/
def parse? (text : List Char) : Option Settings :=
  (Toml.parse? text).bind ofDocument?

end Settings

end CodeIndex
