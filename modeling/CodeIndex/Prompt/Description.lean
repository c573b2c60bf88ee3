import CodeIndex.Chunk.Language
import CodeIndex.Provider.Basic
import CodeIndex.Secret.Redaction

/-!
# Descriptions of chunks

A generator may be asked to say in a few sentences where a chunk stands in its file. The
description is a help and never a condition: when the generator fails, or takes too long, the chunk
simply has none. The prompt holds the beginning of the file and the chunk, both without
credentials.

## Main definitions

* `Describer`
* `Describer.prompt`: what a generator is asked.
* `Describer.describe`: a description, possibly empty.
-/

namespace CodeIndex

open CodeIndex.Text

universe u

/-- A generator of descriptions, with the limits of a request. -/
structure Describer (γ : Type u) where
  generator : Generator γ
  /-- How long to wait for a description, in milliseconds. -/
  timeout : Nat
  maxTokens : Nat := 200

namespace Describer

variable {γ : Type u}

/-- The number of characters of a file that a prompt may hold. -/
def maxDocumentChars : Nat := 8000

/-- The prompt for a chunk of a file. -/
def prompt (file chunk : List Char) (path : String) (language : Language) : String :=
  "<document path=\"" ++ path ++ "\" language=\"" ++ language.id ++ "\">\n" ++
    String.ofList (Secret.redact (file.take maxDocumentChars)) ++
    "\n</document>\nHere is a chunk from the document above:\n<chunk>\n" ++
    String.ofList (Secret.redact chunk) ++
    "\n</chunk>\nIn 2-3 sentences, situate this chunk within the file: what it does, " ++
    "what it depends on and what uses it. Answer with the description only."

/-- The description of a chunk. A blank chunk is not asked about; a failure gives an empty
description. -/
def describe (describer : Describer γ) (file chunk : List Char) (path : String)
    (language : Language) (clocked : Clocked γ) : String × Clocked γ :=
  if isBlankText chunk then ("", clocked)
  else
    let request := describer.generator.generate (prompt file chunk path language)
      (.deterministic describer.maxTokens)
    match request.runWithin describer.timeout clocked with
    | (some (.ok text), clocked) => (trimmed text, clocked)
    | (_, clocked) => ("", clocked)

end Describer

end CodeIndex
