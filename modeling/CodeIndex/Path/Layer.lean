import CodeIndex.Text.Line

/-!
# Architectural layers

The directories on the way to a file tell its layer. The table is ordered, and the first entry whose
name is one of the directories decides: a test of a controller is a test, wherever the two names
stand in its path.
-/

namespace CodeIndex.Layer

open CodeIndex.Text

/-- The layer of files that no table entry covers. -/
def defaultLayer : String := "other"

/-- Directory names and the layers they stand for, most decisive first. -/
def table : List (String × String) :=
  [("test", "test"), ("tests", "test"), ("__tests__", "test"), ("spec", "test"),
    ("controller", "controller"), ("controllers", "controller"), ("routes", "controller"),
    ("handler", "controller"), ("handlers", "controller"),
    ("service", "service"), ("services", "service"),
    ("repository", "repository"), ("repositories", "repository"), ("dao", "repository"),
    ("entity", "model"), ("entities", "model"), ("model", "model"), ("models", "model"),
    ("domain", "model"), ("dto", "dto"), ("migration", "migration"), ("migrations", "migration"),
    ("middleware", "middleware"), ("components", "component"), ("component", "component"),
    ("pages", "page"), ("views", "page"), ("store", "store"), ("stores", "store"),
    ("util", "util"), ("utils", "util"), ("helpers", "util"), ("docs", "docs")]

/-- The path in lower case, with slashes only and one in front. -/
def normalized (path : List Char) : List Char :=
  '/' :: lowerText (path.map fun c => if c = '\\' then '/' else c)

/-- Whether a directory of the normalized path has a name. -/
def hasDirectory (path : List Char) (name : String) : Bool :=
  occursIn ('/' :: name.toList ++ ['/']) path

/-- The layer of a path. -/
def ofPath (path : String) : String :=
  let path := normalized path.toList
  ((table.find? fun entry => hasDirectory path entry.1).map (·.2)).getD defaultLayer

end CodeIndex.Layer
