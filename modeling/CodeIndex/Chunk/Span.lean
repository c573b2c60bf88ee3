import CodeIndex.Chunk.Kind

/-!
# Spans

A span is a range of rows with what is known about it, before any text is attached. Splitters say
where pieces begin; `normalize` turns whatever they say into a partition of the file. Only the first
rows of spans survive: each span is closed right before the next one begins, the first is stretched
to the top and the last to the bottom, so no row is lost and none belongs to two spans.

## Main definitions

* `Span`: rows counted from zero, both ends included.
* `normalize`: the partition that a list of spans stands for.
* `mergeGreedy`: neighbours joined while they stay small.
-/

namespace CodeIndex

/-- A range of rows, counted from zero and including both ends, and what it holds. -/
structure Span where
  start : Nat
  stop : Nat
  kind : ChunkKind
  symbol : Option String
  parent : Option String
  annotations : List String
deriving DecidableEq

namespace Span

/-- A span that ends no earlier than it starts, without a symbol. -/
def rows (start stop : Nat) (kind : ChunkKind) : Span :=
  ⟨start, max start stop, kind, none, none, []⟩

/-- The span with a symbol. -/
def named (span : Span) (symbol : Option String) : Span :=
  { span with symbol }

/-- Whether one span starts no later than another. -/
def startsBy (a b : Span) : Bool := a.start ≤ b.start

/-- Of neighbours that start on one row, only the first. -/
def distinctStarts : List Span → List Span
  | [] => []
  | span :: spans =>
    span :: (distinctStarts spans).dropWhile (·.start ≤ span.start)

/-- Closes each span right before the next one, and the last one at `lastRow`. -/
def closeGaps (lastRow : Nat) : List Span → List Span
  | [] => []
  | [span] => [{ span with stop := lastRow }]
  | span :: next :: spans =>
    { span with stop := next.start - 1 } :: closeGaps lastRow (next :: spans)

/-- Lets the first span begin on a row. -/
def startAt (row : Nat) : List Span → List Span
  | [] => []
  | span :: spans => { span with start := row } :: spans

/-- The partition of the rows up to `lastRow` that a list of spans stands for: one span for each
row on which some span starts, with what the earliest of those in the list knows. -/
def normalize (spans : List Span) (lastRow : Nat) : List Span :=
  startAt 0 <| closeGaps lastRow <| distinctStarts <|
    (spans.filter (·.start ≤ lastRow)).mergeSort startsBy

/-- The rows of the lines that pass a test. -/
def rowsWhere (test : List Char → Bool) (lines : List (List Char)) : List Nat :=
  (lines.zipIdx.filter fun (line, _) => test line).map (·.2)

/-- The spans that start on the given rows, each reaching to the row before the next one and the
last to `lastRow`; `make` builds the span of a first and a last row. -/
def sections (lastRow : Nat) (make : Nat → Nat → Span) : List Nat → List Span
  | [] => []
  | [row] => [make row lastRow]
  | row :: next :: rows => make row (next - 1) :: sections lastRow make (next :: rows)

/-- The most characters that a chunk made of several sections may have; files of at most this size
are one chunk. -/
def maxChunkChars : Nat := 3000

/-- The number of characters of a range of lines, counting one for each line end. -/
def charsOf (lines : List (List Char)) (start stop : Nat) : Nat :=
  ((lines.drop start).take (stop + 1 - start)).foldl (fun chars line => chars + (line.length + 1)) 0

/-- Joins spans to `span`, which has `chars` characters, while the result stays within the limit. -/
def mergeInto (lines : List (List Char)) (span : Span) (chars : Nat) : List Span → List Span
  | [] => [span]
  | next :: spans =>
    let more := charsOf lines next.start next.stop
    if chars + more ≤ maxChunkChars then
      mergeInto lines { span with stop := next.stop } (chars + more) spans
    else span :: mergeInto lines next more spans

/-- Neighbours joined, from the top, while the joined text stays within the limit. A joined span
keeps what its first part knows. -/
def mergeGreedy (lines : List (List Char)) : List Span → List Span
  | [] => []
  | span :: spans => mergeInto lines span (charsOf lines span.start span.stop) spans

end Span

end CodeIndex
