import CodeIndex.Provider.Error
import CodeIndex.Time.Call

/-!
# Providers

Two services stand behind this library: one that writes text and one that turns texts into vectors.
Both are arguments of everything that needs them. A provider carries a state of its own, of whatever
type it likes, so that a statement about all providers is a statement about all behaviours: answers
that depend on earlier questions, failures, and waiting.

## Main definitions

* `Generator`, `GenerationParams`
* `Embedder`, `Embedder.oneByOne`
-/

namespace CodeIndex

universe u

/-- How a text is to be generated. -/
structure GenerationParams where
  maxTokens : Nat
  temperature : Float32

/-- The parameters that ask for the most likely text. -/
def GenerationParams.deterministic (maxTokens : Nat) : GenerationParams := ⟨maxTokens, 0⟩

/-- What answers a prompt with a text. -/
structure Generator (γ : Type u) where
  generate : String → GenerationParams → Request γ (Except ProviderError String)

/-- What turns texts into vectors, one text or several in one request. -/
structure Embedder (σ : Type u) where
  embed : String → Request σ (Except ProviderError (List Float32))
  embedBatch : List String → Request σ (Except ProviderError (List (List Float32)))

/-- Several texts embedded one after the other, in order, up to the first failure. -/
def Embedder.oneByOne {σ : Type u}
    (embed : String → Request σ (Except ProviderError (List Float32))) :
    List String → Request σ (Except ProviderError (List (List Float32)))
  | [] => .answer (.ok [])
  | text :: texts =>
    (embed text).andThen fun result =>
      match result with
      | .error e => .answer (.error e)
      | .ok vector => (oneByOne embed texts).map fun rest => rest.map (vector :: ·)

/-- An embedder that knows single texts only. -/
def Embedder.ofSingle {σ : Type u}
    (embed : String → Request σ (Except ProviderError (List Float32))) : Embedder σ :=
  ⟨embed, oneByOne embed⟩

end CodeIndex
