import CodeIndex.Command.Action
import CodeIndex.Provider.Scripted
import CodeIndex.Settings.Environment
import CodeIndex.Syntax.Reader

/-!
# The program

Commands are carried out as a rehearsal: the files of the repositories are named on standard input,
one path on each line, the providers are the scripted ones, and the store lives as long as the
process. A search therefore indexes all repositories first. There is no version history at hand, so
that no checkpoint is stored. The lines of a command go to standard output and errors to standard
error.
-/

namespace CodeIndex

/-- What is printed when help is asked for. -/
def usage : String :=
  "Usage: code-index [--config <CONFIG>] <COMMAND>\n\n" ++
  "Commands:\n" ++
  "  index    Rebuild the index of every configured repository, or just one\n" ++
  "  reindex  Index files that changed since the checkpoint of each repository\n" ++
  "  search   Search the index and print hits as JSON lines\n"

/-- What is said about arguments that are no command. -/
def ArgumentError.words : ArgumentError → String
  | .nothingGiven | .missingSubcommand => "a command is missing"
  | .invalidValue => "a value is missing"
  | .unknownArgument => "unexpected argument"
  | .missingArgument => "a query is missing"
  | .unwantedValue => "unexpected value"
  | .repeated => "an option is given twice"
  | .unknownSubcommand => "unknown command"
  | .help => usage
  | .version => "code-index 0.1.0"

/-- The variables that are set. -/
def readEnvironment : IO Environment :=
  Environment.names.foldlM (fun environment name => do
    return ((← IO.getEnv name).map (environment.insert name)).getD environment) Dictionary.empty

/-- The text of a file, if it can be read. -/
def readFile? (path : String) : IO (Option FileContent) := do
  try
    return some (.ofBytes (← IO.FS.readBinFile path).toList)
  catch _ => return none

/-- The files that are named on the lines of a stream. -/
partial def readTree (input : IO.FS.Stream) (tree : WorkTree) : IO WorkTree := do
  let line ← input.getLine
  if line.isEmpty then return tree
  let path := String.ofList (Text.trim line.toList)
  match ← readFile? path with
  | some content => readTree input (tree.write path content)
  | none => readTree input tree

/-- What commands have at hand in a rehearsal over some files. -/
def rehearsal (tree : WorkTree) : Host EmbedderScript GeneratorScript where
  read := Syntax.read
  embedder := EmbedderScript.provider
  generator := GeneratorScript.provider
  surroundings := fun entry _ =>
    .still (tree.below? entry.path) (.error (.history "no history")) fun _ =>
      .error (.history "no history")
  canHold := fun _ => true
  site := fun _ => .vacant

/-- A world in which nothing has happened. -/
def newWorld : Clocked (World EmbedderScript GeneratorScript) :=
  ⟨0, ⟨⟨.empty, {}, {}⟩, .empty, 0, []⟩⟩

/-- Carries out a command with the settings that apply to it. -/
def perform (settings : Settings) (command : Command) : IO UInt32 := do
  let host := rehearsal (← readTree (← IO.getStdin) .empty)
  let before := match command with
    | .search _ => (host.runIndexing settings .full none newWorld).after
    | _ => newWorld
  let outcome := host.execute settings command before
  outcome.lines.forM fun line => IO.println line.text
  match outcome.result with
  | .ok _ => return 0
  | .error e => IO.eprintln e.message; return 1

/-- Carries out the command of a command line. -/
def runCommandLine (line : CommandLine) : IO UInt32 := do
  let environment ← readEnvironment
  let loaded := match ← readFile? (Settings.pathFor line.config environment) with
    | some (.text content) => Settings.load (some content) environment
    | some (.undecodable _) => .error "failed to read config file"
    | none => Settings.load none environment
  match loaded with
  | .error problem => IO.eprintln problem; return 1
  | .ok settings =>
    match settings.problem? with
    | some problem => IO.eprintln problem.message; return 1
    | none => perform settings line.command

end CodeIndex

/-- The program. -/
def main (arguments : List String) : IO UInt32 := do
  match CodeIndex.CommandLine.parse arguments with
  | .ok line => CodeIndex.runCommandLine line
  | .error .help => IO.println CodeIndex.usage; return 0
  | .error e => IO.eprintln e.words; return 2
