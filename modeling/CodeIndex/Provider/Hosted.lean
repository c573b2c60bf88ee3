import CodeIndex.Json.Decode
import CodeIndex.Json.Reader
import CodeIndex.Provider.Basic
import CodeIndex.Provider.Exchange
import CodeIndex.Provider.Throttle

/-!
# Hosted providers

A provider behind an address that takes chats and texts to embed, for whoever has a key. Vectors may
come back in any order: each says which text it belongs to, and those that do not say count as
belonging to the first text. So the vectors are put in order before they are used, and an answer
with too many or too few of them is no answer.

## Main definitions

* `HostedService`, `HostedService.describe`
* `HostedService.inOrder`
* `HostedService.generator`, `HostedService.embedder`
-/

namespace CodeIndex

universe u

/-- A hosted provider and the models that are used there. -/
structure HostedService where
  key : String
  /-- Where it listens, without slashes at the end. -/
  base : String
  model : String
  embeddingModel : Option String

namespace HostedService

/-- The provider at an address. Slashes at its end do not count. -/
def ofAddress (address key model : String) (embeddingModel : Option String) : HostedService :=
  ⟨key, String.ofList (address.toList.reverse.dropWhile (· == '/')).reverse, model, embeddingModel⟩

/-- The name of this kind of provider. -/
def name : String := "openai"

/-- What is shown of a provider. The key is not. -/
def describe (service : HostedService) : String :=
  let embeddingModel := match service.embeddingModel with
    | some model => "Some(" ++ Text.inspect model ++ ")"
    | none => "None"
  "OpenAiProvider \x7b client: \"<reqwest::Client>\", api_key: \"<redacted>\", base_url: " ++
    Text.inspect service.base ++ ", model: " ++ Text.inspect service.model ++
    ", embedding_model: " ++ embeddingModel ++ " \x7d"

/-! ### Messages -/

/-- The message that asks for something. -/
def message (service : HostedService) (endpoint : String) (body : Json) : Message where
  address := service.base ++ "/" ++ endpoint
  authorization := some ("Bearer " ++ service.key)
  body := body

/-- The body of a chat with one prompt. -/
def chatBody (service : HostedService) (prompt : String) (params : GenerationParams) : Json :=
  .object
    [("model", .string service.model),
      ("messages", .array [.object [("role", .string "user"), ("content", .string prompt)]]),
      ("max_tokens", .nat params.maxTokens),
      ("temperature", .number (.real params.temperature.toFloat))]

/-- The body that asks for the vectors of texts. -/
def embeddingBody (model : String) (texts : List String) : Json :=
  .object [("input", .strings texts), ("model", .string model)]

variable {σ : Type u}

/-- Sends a message, again if the provider asks to slow down, for the text of the answer. -/
def post (service : HostedService) (carry : Carrier σ) (endpoint : String) (body : Json) :
    Request σ (Except ProviderError String) :=
  let sent : Request σ (Except ProviderError Reply) :=
    (carry (service.message endpoint body)).map fun result => result.mapError .http
  (ThrottlePolicy.standard.persist
    (fun reply => Throttle.classify reply.status reply.retryAfter) sent).map fun result =>
      result.bind fun reply =>
        if reply.isSuccess then .ok reply.body
        else .error (.other ("OpenAI " ++ endpoint ++ " request failed (status " ++
          statusText reply.status ++ ")"))

/-! ### Answers -/

/-- A field that has to be there. -/
def required (name : String) (value : Json) : Except DecodeError Json :=
  match value.field? name with
  | some found => .ok found
  | none => .error (.missingField name)

/-- The value that an answer is. -/
def read (body : String) : Except ProviderError Json :=
  match Json.parse? body.toList with
  | some value => .ok value
  | none => .error (.json "not a value")

/-- The text of one of the choices, if it has one. -/
def choiceText (choice : Json) : Except DecodeError (Option String) := do
  let message ← required "message" choice
  match message with
  | .object _ => Json.decodeOptional Json.decodeString ((message.field? "content").getD .null)
  | found => throw (.wrongType found "struct ChatChoiceMessage")

/-- The text of the first choice. All choices have to be readable. -/
def chatText (body : String) : Except ProviderError String := do
  let value ← read body
  let choices := do
    let list ← required "choices" value
    Json.decodeList choiceText list
  match choices with
  | .error e => throw (.json e.message)
  | .ok (some text :: _) => return text
  | .ok _ => throw (.emptyResponse name)

/-- A vector and the place of its text among those that were sent. -/
structure PlacedVector where
  place : Nat
  vector : List Float32

/-- A component of a vector. -/
def decodeComponent : Json → Except DecodeError Float32
  | .number (.whole n) => .ok (Float32.ofInt n)
  | .number (.real x) => .ok x.toFloat32
  | found => .error (.wrongType found "f32")

/-- A vector of an answer. -/
def decodeVector (value : Json) : Except DecodeError PlacedVector := do
  let place ← ((value.field? "index").map Json.decodeCount).getD (.ok 0)
  let components ← required "embedding" value
  return ⟨place, ← Json.decodeList decodeComponent components⟩

/-- The vectors of so many texts in the order of the texts; vectors of one place stay in the order
in which they arrived. -/
def inOrder (sent : Nat) (vectors : List PlacedVector) :
    Except ProviderError (List (List Float32)) :=
  if vectors.length = sent then
    .ok ((vectors.mergeSort fun a b => a.place ≤ b.place).map (·.vector))
  else .error (.batchMismatch sent vectors.length)

/-- The vectors of so many texts that an answer holds. -/
def vectorsOf (sent : Nat) (body : String) : Except ProviderError (List (List Float32)) := do
  let value ← read body
  let vectors := do
    let list ← required "data" value
    Json.decodeList decodeVector list
  match vectors with
  | .error e => throw (.json e.message)
  | .ok vectors => inOrder sent vectors

/-! ### Requests -/

/-- A request for a text. -/
def generate (service : HostedService) (carry : Carrier σ) (prompt : String)
    (params : GenerationParams) : Request σ (Except ProviderError String) :=
  (service.post carry "chat/completions" (service.chatBody prompt params)).map fun result =>
    result.bind chatText

/-- A request for the vectors of texts. Without texts nothing is sent. -/
def embedBatch (service : HostedService) (carry : Carrier σ) (texts : List String) :
    Request σ (Except ProviderError (List (List Float32))) :=
  match service.embeddingModel, texts with
  | none, _ => .answer (.error (.embeddingUnsupported name))
  | some _, [] => .answer (.ok [])
  | some model, texts =>
    (service.post carry "embeddings" (embeddingBody model texts)).map fun result =>
      result.bind (vectorsOf texts.length)

/-- A request for the vector of a text. -/
def embed (service : HostedService) (carry : Carrier σ) (text : String) :
    Request σ (Except ProviderError (List Float32)) :=
  (service.embedBatch carry [text]).map fun result => result.bind fun vectors =>
    (vectors.getLast?.map .ok).getD (.error (.emptyResponse name))

/-- The provider as a generator. -/
def generator (service : HostedService) (carry : Carrier σ) : Generator σ :=
  ⟨service.generate carry⟩

/-- The provider as an embedder. -/
def embedder (service : HostedService) (carry : Carrier σ) : Embedder σ :=
  ⟨service.embed carry, service.embedBatch carry⟩

end HostedService

end CodeIndex
