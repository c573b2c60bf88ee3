import CodeIndex.Provider.Address
import CodeIndex.Provider.Hosted

/-!
# Local providers

A provider that runs on a machine of one's own and needs no key. It listens on a port of its own
unless its address names another one. What goes wrong with a request is told in one way, whatever it
was.

## Main definitions

* `LocalService`, `LocalService.ofAddress?`
* `LocalService.generator`, `LocalService.embedder`
-/

namespace CodeIndex

universe u

/-- A local provider and the models that are used there. -/
structure LocalService where
  address : Address
  model : String
  embeddingModel : String

namespace LocalService

/-- The name of this kind of provider. -/
def name : String := "ollama"

/-- The port when none is named. -/
def standardPort : Nat := 11434

/-- An address without slashes at its end, divided at the last colon if a port follows there. -/
def splitPort (text : List Char) : List Char × Nat :=
  let backwards := text.reverse.dropWhile (· == '/')
  let last := (backwards.takeWhile (· != ':')).reverse
  match backwards.dropWhile (· != ':'), Number.countBelow? UInt16.size last with
  | _ :: front, some port => (front.reverse, port)
  | _, _ => (backwards.reverse, standardPort)

/-- The provider at an address, if that is one. -/
def ofAddress? (text model embeddingModel : String) : Option LocalService :=
  let (host, port) := splitPort text.toList
  (Address.parse? (String.ofList host)).map fun address =>
    ⟨{ address with port := some port }, model, embeddingModel⟩

variable {σ : Type u}

/-- The largest number of tokens that can be asked for. -/
def maxTokens : Nat := 2147483647

/-- The body that asks for a text. -/
def generationBody (service : LocalService) (prompt : String) (params : GenerationParams) : Json :=
  .object
    [("model", .string service.model), ("prompt", .string prompt), ("stream", .bool false),
      ("options", .object
        [("temperature", .number (.real params.temperature.toFloat)),
          ("num_predict", .nat (min params.maxTokens maxTokens))])]

/-- What is said about a request that failed. -/
def failed (doing detail : String) : ProviderError :=
  .other ("Ollama " ++ doing ++ " request failed: " ++ detail)

/-- Sends a message for the text of the answer, or tells what was being done when that failed. -/
def post (service : LocalService) (carry : Carrier σ) (doing endpoint : String) (body : Json) :
    Request σ (Except ProviderError String) :=
  let address := String.ofList service.address.render ++ endpoint
  (carry ⟨address, none, body⟩).map fun result =>
    match result with
    | .error detail => .error (failed doing detail)
    | .ok reply => if reply.isSuccess then .ok reply.body else .error (failed doing reply.body)

/-- The value that an answer holds in a field, as a decoder reads it. -/
def answerField {α : Type} (doing field : String) (decode : Json → Except DecodeError α)
    (body : String) : Except ProviderError α :=
  let value := (Json.parse? body.toList).getD .null
  ((HostedService.required field value).bind decode).mapError fun e => failed doing e.message

/-- A request for a text. -/
def generate (service : LocalService) (carry : Carrier σ) (prompt : String)
    (params : GenerationParams) : Request σ (Except ProviderError String) :=
  (service.post carry "generate" "api/generate" (service.generationBody prompt params)).map
    fun result => result.bind (answerField "generate" "response" Json.decodeString)

/-- A request for the vectors of texts. Without texts nothing is sent. -/
def embedBatch (service : LocalService) (carry : Carrier σ) (texts : List String) :
    Request σ (Except ProviderError (List (List Float32))) :=
  if texts.isEmpty then .answer (.ok [])
  else
    (service.post carry "embedding" "api/embed"
        (HostedService.embeddingBody service.embeddingModel texts)).map fun result => do
      let vectors ← result.bind (answerField "embedding" "embeddings"
        (Json.decodeList (Json.decodeList HostedService.decodeComponent)))
      if vectors.length = texts.length then return vectors
      throw (.batchMismatch texts.length vectors.length)

/-- A request for the vector of a text. -/
def embed (service : LocalService) (carry : Carrier σ) (text : String) :
    Request σ (Except ProviderError (List Float32)) :=
  (service.embedBatch carry [text]).map fun result => result.bind fun vectors =>
    (vectors.getLast?.map .ok).getD (.error (.emptyResponse name))

/-- The provider as a generator. -/
def generator (service : LocalService) (carry : Carrier σ) : Generator σ :=
  ⟨service.generate carry⟩

/-- The provider as an embedder. -/
def embedder (service : LocalService) (carry : Carrier σ) : Embedder σ :=
  ⟨service.embed carry, service.embedBatch carry⟩

end LocalService

end CodeIndex
