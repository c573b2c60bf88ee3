import CodeIndex.Json.Decode
import CodeIndex.Provider.Error
import CodeIndex.Store.Error

/-!
# Errors of indexing runs

What can stop a run, or make it skip a file. The cause is kept as it was found; wording it is the
business of `RunError.message` alone.
-/

namespace CodeIndex

/-- What went wrong in a run. -/
inductive RunError where
  | io (detail : String)
  | repositoryNotFound (path : String)
  | store (cause : StoreError)
  | checkpoint (detail : String)
  | provider (cause : ProviderError)
  /-- The version history cannot be read. -/
  | history (detail : String)
  | payload (cause : DecodeError)
  | timeout (operation : String) (seconds : Nat)
  /-- Every attempt failed; the last one in its own words. -/
  | retriesExhausted (operation : String) (attempts : Nat) (last : String)
  | other (detail : String)

namespace RunError

/-- The wording of an error. -/
def message : RunError → String
  | io detail => "IO error: " ++ detail
  | repositoryNotFound path => "repository path not found: " ++ path
  | store cause => "vector store error: " ++ cause.message
  | checkpoint detail => "checkpoint store error: " ++ detail
  | provider cause => "LLM error: " ++ cause.message
  | history detail => "git error: " ++ detail
  | payload cause => "JSON error: " ++ cause.message
  | timeout operation seconds => operation ++ " timed out after " ++ toString seconds ++ "s"
  | retriesExhausted operation attempts last =>
    operation ++ " failed after " ++ toString attempts ++ " attempts: " ++ last
  | other detail => detail

end RunError

end CodeIndex
