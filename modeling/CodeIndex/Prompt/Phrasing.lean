import CodeIndex.Json.Reader
import CodeIndex.Provider.Basic
import CodeIndex.Text.Line

/-!
# Phrasings of a query

A generator may be asked to say a query in other words. Search then uses the query itself and up to
two of the suggestions. What the generator writes around its list does not matter, and an answer
without a usable list leaves the query alone.

## Main definitions

* `Rephraser`
* `Rephraser.suggestions`: the suggestions in an answer.
* `Rephraser.phrasings`: the phrasings of a query.
-/

namespace CodeIndex

open CodeIndex.Text

universe u

/-- A generator of phrasings, with the limit of a request in milliseconds. -/
structure Rephraser (γ : Type u) where
  generator : Generator γ
  timeout : Nat

namespace Rephraser

variable {γ : Type u}

/-- The number of phrasings of a query, itself included. -/
def maxPhrasings : Nat := 3

/-- How phrasings are generated. -/
def params : GenerationParams := ⟨256, 0.3⟩

/-- The prompt for a trimmed query. -/
def prompt (query : String) : String :=
  "Rewrite the following code search query into 2-3 semantically different phrasings " ++
    "that a developer might use to find the same code. " ++
    "Respond with a JSON array of strings only.\n\nQuery: " ++ query

/-- The text from the first opening to the last closing square bracket. -/
def bracketed? (answer : List Char) : Option (List Char) :=
  let fromOpen := answer.dropWhile (· != '[')
  let upToClose := (fromOpen.reverse.dropWhile (· != ']')).reverse
  if upToClose.isEmpty then none else some upToClose

/-- The suggestions in an answer: the texts of the list in it, without blank ones. -/
def suggestions (answer : List Char) : List String :=
  match (bracketed? answer).bind Json.parse? with
  | some (.array items) => ((items.filterMap Json.string?).map trimmed).filter (· != "")
  | _ => []

/-- Adds a suggestion if there is room for it and it is new, case aside. -/
def addSuggestion (phrasings : List String) (suggestion : String) : List String :=
  if maxPhrasings ≤ phrasings.length then phrasings
  else if phrasings.any (equalIgnoringCase suggestion) then phrasings
  else phrasings ++ [suggestion]

/-- The phrasings of a query that an answer leads to. -/
def merge (query : String) (answer : String) : List String :=
  (suggestions answer.toList).foldl addSuggestion [query]

/-- The phrasings of a query: the trimmed query first, then suggestions. -/
def phrasings (rephraser : Rephraser γ) (query : String) (clocked : Clocked γ) :
    List String × Clocked γ :=
  let query := trimmed query
  let request := rephraser.generator.generate (prompt query) params
  match request.runWithin rephraser.timeout clocked with
  | (some (.ok answer), clocked) => (merge query answer, clocked)
  | (_, clocked) => ([query], clocked)

end Rephraser

end CodeIndex
