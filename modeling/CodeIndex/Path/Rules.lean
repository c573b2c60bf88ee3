import CodeIndex.Chunk.Language
import CodeIndex.Path.Glob

/-!
# Which files are read

Three tests decide about a path inside a repository. Its extension has to name a supported language;
it must not be blocked, that is, look like a place where credentials are kept; and no rule of the
repository's own ignore file may match it. The block list is fixed and no repository can lift it.
-/

namespace CodeIndex

open CodeIndex.Text

/-- The name of the ignore file at the root of a repository. -/
def ignoreFileName : String := ".tibignore"

/-- The rules of an ignore file. -/
structure IgnoreRules where
  globs : List (List Glob)

namespace IgnoreRules

/-- No rules. -/
def none : IgnoreRules := ⟨[]⟩

/-- Whether a trimmed line of an ignore file is a rule: not blank and not a comment. -/
def isRule (line : List Char) : Bool :=
  match line with
  | [] => false
  | c :: _ => c != '#'

/-- The rules of a text, one on a line. -/
def parse (text : List Char) : IgnoreRules :=
  ⟨(((lines text).map trim).filter isRule).map Glob.ofRule⟩

/-- Whether some rule matches the whole path. -/
def ignores (rules : IgnoreRules) (path : List Char) : Bool :=
  rules.globs.any (Glob.matchesExactly · path)

end IgnoreRules

/-- Names of files that commonly hold credentials, in any case. -/
def blockedFileGlobs : List String :=
  ["*.config.*", "*.env*", "docker-compose*.y*ml", "Dockerfile*", "secret*.*", "credential*.*"]

/-- Names of directories below which nothing is read, in any case. -/
def blockedDirectories : List String :=
  ["resources", "config", ".github", ".gitlab", "terraform", "k8s", "kubernetes", "helm",
    "secrets", ".aws", ".ssh", "certs"]

/-- Whether a file name is on the block list. -/
def isBlockedFile (name : List Char) : Bool :=
  blockedFileGlobs.any fun glob => Glob.matchesAnyCase (Glob.pieces glob.toList) name

/-- Whether a directory name is on the block list. -/
def isBlockedDirectory (name : List Char) : Bool :=
  blockedDirectories.any fun blocked => blocked.toList == name.map Char.toLower

/-- Whether a path is on the block list, by its last segment or by a directory. A backslash
separates like a slash. -/
def isBlocked (path : List Char) : Bool :=
  let segments := (splitOn (fun c => c == '/' || c == '\\') path).filter (!·.isEmpty)
  match segments.reverse with
  | [] => false
  | name :: directories => isBlockedFile name || directories.any isBlockedDirectory

/-- Whether a path is read at all. -/
def isEligible (rules : IgnoreRules) (path : String) : Bool :=
  (Language.ofPath? path).isSome && !isBlocked path.toList && !rules.ignores path.toList

end CodeIndex
