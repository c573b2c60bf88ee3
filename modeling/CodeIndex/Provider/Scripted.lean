import CodeIndex.Provider.Basic
import CodeIndex.Text.Bytes
import CodeIndex.Text.Line

/-!
# Scripted providers

Providers for rehearsal. They answer from a script, count and write down what they were asked, and
can be told to be slow or to fail. The vectors count words: texts that share words have similar
vectors, and equal texts equal ones.

## Main definitions

* `GeneratorScript`, `GeneratorScript.provider`
* `EmbedderScript`, `EmbedderScript.provider`
-/

namespace CodeIndex

open CodeIndex.Text

/-- The script of a generator and what it has seen. -/
structure GeneratorScript where
  /-- The answers to the next prompts. -/
  responses : List String := []
  /-- The answer when no other is left. -/
  standard : String := "mock context"
  fails : Bool := false
  /-- How long every answer takes. -/
  delay : Nat := 0
  /-- The prompts that were read, in order. -/
  prompts : List String := []
  /-- The parameters of the requests that were begun, in order. -/
  started : List GenerationParams := []

namespace GeneratorScript

/-- What a script answers next, and what is left of it. -/
def reply (script : GeneratorScript) : Except ProviderError String × GeneratorScript :=
  if script.fails then (.error (.other "mock LLM error"), script)
  else
    match script.responses with
    | [] => (.ok script.standard, script)
    | response :: responses => (.ok response, { script with responses })

/-- A request to a scripted generator. A prompt is read when the waiting is over. -/
def generate (prompt : String) (params : GenerationParams) :
    Request GeneratorScript (Except ProviderError String) := fun _ script =>
  let waiting := { script with started := script.started ++ [params] }
  let (result, finished) := { waiting with prompts := waiting.prompts ++ [prompt] }.reply
  .after script.delay waiting result finished

/-- The generator that follows a script. -/
def provider : Generator GeneratorScript := ⟨generate⟩

end GeneratorScript

/-- The vector that counts, in `dimensions` buckets, the words of a text. -/
def wordVector (dimensions : Nat) (text : String) : List Float32 :=
  let size := max dimensions 1
  let bucket (word : List Char) : Nat :=
    ((utf8 (lowerText word)).foldl (fun hash byte => hash * 31 + byte.toUInt64) (7 : UInt64)).toNat
      % size
  let words := (splitOn (fun c => !isAlphanumeric c) text.toList).filter (!·.isEmpty)
  let buckets := words.map bucket
  (List.range size).map fun place => Float32.ofNat (buckets.count place)

/-- The script of an embedder and what it has seen. -/
structure EmbedderScript where
  dimensions : Nat := 32
  fails : Bool := false
  /-- How many of the next requests fail. -/
  failing : Nat := 0
  /-- How long every answer takes. -/
  delay : Nat := 0
  /-- The number of requests after which the next one cancels the run it belongs to. -/
  cancelAt : Option Nat := none
  /-- Whether answers to several texts lack the last vector. -/
  dropsLast : Bool := false
  /-- Whether single texts get no answer. -/
  isMute : Bool := false
  /-- The number of requests that were answered, failures included. -/
  requests : Nat := 0
  /-- The texts that were embedded, in order. -/
  embedded : List String := []
  /-- Whether a request cancelled the run it belongs to. -/
  hasCancelled : Bool := false

namespace EmbedderScript

/-- The script after a request has arrived. -/
def arrived (script : EmbedderScript) : EmbedderScript :=
  if script.cancelAt == some script.requests then { script with hasCancelled := true } else script

/-- What a script answers to some texts, and the script after it. -/
def reply (script : EmbedderScript) (texts : List String) :
    Except ProviderError (List (List Float32)) × EmbedderScript :=
  let script := { script with requests := script.requests + 1 }
  let failure : Except ProviderError (List (List Float32)) := .error (.other "mock embedding error")
  if script.fails then (failure, script)
  else
    match script.failing with
    | left + 1 => (failure, { script with failing := left })
    | 0 =>
      (.ok (texts.map (wordVector script.dimensions)),
        { script with embedded := script.embedded ++ texts })

/-- A request for the vectors of some texts. -/
def request (texts : List String) :
    Request EmbedderScript (Except ProviderError (List (List Float32))) := fun _ script =>
  let waiting := script.arrived
  let (result, finished) := waiting.reply texts
  .after script.delay waiting result finished

/-- A request for one vector. -/
def embed (text : String) : Request EmbedderScript (Except ProviderError (List Float32)) :=
  fun now script =>
    if script.isMute then .immediate (.error (.emptyResponse "mock")) script.arrived
    else
      (request [text] now script).map fun result =>
        result.bind fun vectors => (vectors.getLast?.map .ok).getD (.error (.emptyResponse "mock"))

/-- A request for several vectors. -/
def embedBatch (texts : List String) :
    Request EmbedderScript (Except ProviderError (List (List Float32))) :=
  fun now script =>
    (request texts now script).map fun result =>
      if script.dropsLast then result.map List.dropLast else result

/-- The embedder that follows a script. -/
def provider : Embedder EmbedderScript := ⟨embed, embedBatch⟩

end EmbedderScript

end CodeIndex
