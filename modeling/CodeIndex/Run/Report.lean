import CodeIndex.Json.Value

/-!
# Reports

What a run has done. Files that could not be indexed are counted and named with the reason; they do
not make the run fail.
-/

namespace CodeIndex

/-- What became of a file. -/
inductive FileOutcome where
  /-- It was indexed: the number of chunks, and of those without a description. -/
  | indexed (chunks undescribed : Nat)
  | skipped (path reason : String)
  /-- The run was cancelled before its turn came. -/
  | notStarted
deriving DecidableEq

/-- What a run has done. -/
structure Report where
  filesProcessed : Nat := 0
  chunksIndexed : Nat := 0
  filesSkipped : Nat := 0
  /-- Files whose points were removed because they are gone. -/
  filesDeleted : Nat := 0
  /-- Chunks that were embedded without a description. -/
  contextsSkipped : Nat := 0
  errors : List String := []
  /-- The commit that was stored as the new checkpoint. -/
  checkpoint : Option String := none
  cancelled : Bool := false
deriving DecidableEq

namespace Report

/-- The report with the outcome of a further file. -/
def add (report : Report) : FileOutcome → Report
  | .indexed chunks undescribed =>
    { report with
      filesProcessed := report.filesProcessed + 1
      chunksIndexed := report.chunksIndexed + chunks
      contextsSkipped := report.contextsSkipped + undescribed }
  | .skipped path reason =>
    { report with
      filesSkipped := report.filesSkipped + 1
      errors := report.errors ++ [path ++ ": " ++ reason] }
  | .notStarted => { report with cancelled := true }

/-- The report of some outcomes. -/
def ofOutcomes (outcomes : List FileOutcome) : Report := outcomes.foldl add {}

/-- The fields of a report under the names that users know. -/
def fields (report : Report) : List (String × Json) :=
  [("files_processed", .nat report.filesProcessed), ("chunks_indexed", .nat report.chunksIndexed),
    ("files_skipped", .nat report.filesSkipped), ("files_deleted", .nat report.filesDeleted),
    ("contexts_skipped", .nat report.contextsSkipped), ("errors", .strings report.errors),
    ("checkpoint", .optional report.checkpoint), ("cancelled", .bool report.cancelled)]

end Report

end CodeIndex
