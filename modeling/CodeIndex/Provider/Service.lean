import CodeIndex.Provider.Local
import CodeIndex.Settings.Basic

/-!
# The provider that is configured

Settings choose between the kinds of providers. What is chosen generates and embeds like any other
provider.

## Main definitions

* `Service`, `Settings.service?`
* `Service.generator`, `Service.embedder`
-/

namespace CodeIndex

universe u

/-- A provider of one of the kinds. -/
inductive Service where
  | hosted (service : HostedService)
  | own (service : LocalService)

namespace Service

variable {σ : Type u}

/-- The name of the kind of a provider. -/
def name : Service → String
  | hosted _ => HostedService.name
  | own _ => LocalService.name

/-- The provider as a generator. -/
def generator (carry : Carrier σ) : Service → Generator σ
  | hosted service => service.generator carry
  | own service => service.generator carry

/-- The provider as an embedder. -/
def embedder (carry : Carrier σ) : Service → Embedder σ
  | hosted service => service.embedder carry
  | own service => service.embedder carry

end Service

/-- The provider that is configured, if its address can be one. Only a local provider's address is
looked at before the first request. -/
def Settings.service? (settings : Settings) : Option Service :=
  let provider := settings.provider
  match provider.provider with
  | .ollama =>
    (LocalService.ofAddress? provider.baseUrl provider.model provider.embeddingModel).map .own
  | .openai =>
    some (.hosted (.ofAddress provider.baseUrl (settings.secrets.provider.getD "") provider.model
      (some provider.embeddingModel)))

end CodeIndex
