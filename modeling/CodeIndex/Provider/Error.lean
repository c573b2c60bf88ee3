/-!
# Errors of providers

What can go wrong between this program and the services that embed and generate text.
-/

namespace CodeIndex

/-- What went wrong with a provider. -/
inductive ProviderError where
  /-- The request did not reach the provider or was refused. -/
  | http (detail : String)
  /-- The answer is not what was agreed upon. -/
  | json (detail : String)
  /-- The provider keeps asking to slow down. -/
  | rateLimited
  | emptyResponse (provider : String)
  | embeddingUnsupported (provider : String)
  /-- Not one vector for each text. -/
  | batchMismatch (sent received : Nat)
  | other (detail : String)
deriving DecidableEq

namespace ProviderError

/-- The wording of an error. -/
def message : ProviderError → String
  | http detail => "HTTP request failed: " ++ detail
  | json detail => "JSON parse failed: " ++ detail
  | rateLimited => "rate limited"
  | emptyResponse provider => "empty response from " ++ provider
  | embeddingUnsupported provider => "embedding not supported by " ++ provider
  | batchMismatch sent received =>
    "embedding batch size mismatch: sent " ++ toString sent ++ ", received " ++ toString received
  | other detail => detail

end ProviderError

end CodeIndex
