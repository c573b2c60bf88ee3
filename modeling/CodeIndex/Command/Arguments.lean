import CodeIndex.Search.Composite

/-!
# The command line

A command with its options. Options may stand anywhere behind the command they belong to, with their
values attached by an equals sign or following; two dashes alone end the options. Each option is
given once. The option for the configuration file is understood before and behind the command, and
the later place wins.

Arguments are read from left to right, and the first one that cannot be right decides what is said
about all of them.

## Main definitions

* `CommandLine`, `Command`
* `ArgumentError`
* `CommandLine.parse`
-/

namespace CodeIndex

/-- What is to be done. -/
inductive Command where
  | index (repository : Option String)
  | reindex (repository : Option String)
  | search (request : SearchRequest)

/-- A command line: the configuration file if one is named, and the command. -/
structure CommandLine where
  config : Option String
  command : Command

/-- Why arguments are not a command, or what is asked for instead of one. -/
inductive ArgumentError where
  | nothingGiven
  | invalidValue
  | unknownArgument
  | missingSubcommand
  | missingArgument
  | unwantedValue
  | repeated
  | unknownSubcommand
  | help
  | version
deriving DecidableEq

namespace CommandLine

/-- What is understood at one level of the command line. -/
structure Level where
  /-- Options with a value. -/
  options : List String
  /-- Options without one. -/
  switches : List String
  hasVersion : Bool
  /-- Whether one argument without dashes is taken. -/
  takesQuery : Bool
  subcommands : List String

/-- What is understood before the command. -/
def topLevel : Level := ⟨["config"], [], true, false, ["index", "reindex", "search", "help"]⟩

/-- What is understood behind the commands that index. -/
def indexLevel : Level := ⟨["config", "repo"], [], false, false, []⟩

/-- What is understood behind the command that searches. -/
def searchLevel : Level :=
  ⟨["config", "repo", "language", "layer"], ["expand"], false, true, []⟩

/-- What was read so far. -/
structure Reading where
  values : List (String × String) := []
  switches : List String := []
  query : Option String := none
  /-- An option that still needs its value. -/
  pending : Option String := none
  /-- Whether the options have ended. -/
  isTrailing : Bool := false

namespace Reading

/-- No option may be without its value. -/
def settled (reading : Reading) : Except ArgumentError Unit :=
  if reading.pending.isSome then .error .invalidValue else .ok ()

/-- Gives an option its value. A file has to have a name. -/
def setValue (reading : Reading) (name value : String) : Except ArgumentError Reading :=
  if name == "config" && value.isEmpty then .error .invalidValue
  else if reading.values.any (·.1 == name) then .error .repeated
  else .ok { reading with values := reading.values ++ [(name, value)], pending := none }

/-- Turns a switch on. -/
def setSwitch (reading : Reading) (name : String) : Except ArgumentError Reading :=
  if reading.switches.contains name then .error .repeated
  else .ok { reading with switches := reading.switches ++ [name] }

/-- Takes an option with a long name, and the value attached to it. -/
def takeLong (level : Level) (reading : Reading) (name : String) (attached : Option String) :
    Except ArgumentError Reading := do
  if level.options.contains name then
    reading.settled
    match attached with
    | some value => reading.setValue name value
    | none => return { reading with pending := some name }
  else if level.switches.contains name || name == "help" ||
      (level.hasVersion && name == "version") then
    if attached.isSome then throw .unwantedValue
    reading.settled
    if name == "help" then throw .help
    if name == "version" then throw .version
    reading.setSwitch name
  else throw .unknownArgument

/-- Takes letters behind one dash; the first one decides. -/
def takeShort (level : Level) (reading : Reading) (letters : List Char) :
    Except ArgumentError Reading := do
  match letters with
  | 'h' :: _ => reading.settled; throw .help
  | 'V' :: _ =>
    if level.hasVersion then reading.settled; throw .version
    throw .unknownArgument
  | _ => throw .unknownArgument

/-- Takes an argument that is no option and no value of one. -/
def takeQuery (level : Level) (reading : Reading) (argument : String) :
    Except ArgumentError Reading := do
  if level.takesQuery && reading.query.isNone then
    reading.settled
    return { reading with query := some argument }
  else if level.subcommands.isEmpty then throw .unknownArgument
  else if reading.isTrailing && level.subcommands.contains argument then throw .unknownArgument
  else throw .unknownSubcommand

/-- The name of a long option, and the value attached to it. -/
def splitLong (body : List Char) : String × Option String :=
  let name := String.ofList (body.takeWhile (· != '='))
  match body.dropWhile (· != '=') with
  | _ :: value => (name, some (String.ofList value))
  | [] => (name, none)

/-- Takes an argument. -/
def take (level : Level) (reading : Reading) (argument : String) : Except ArgumentError Reading :=
  if reading.isTrailing then reading.takeQuery level argument
  else
    match argument.toList with
    | ['-', '-'] => .ok { reading with isTrailing := true }
    | '-' :: '-' :: body =>
      let (name, attached) := splitLong body
      reading.takeLong level name attached
    | '-' :: c :: letters => reading.takeShort level (c :: letters)
    | _ =>
      match reading.pending with
      | some name => reading.setValue name argument
      | none => reading.takeQuery level argument

end Reading

/-- What is said about a request for help on commands. -/
def helpOn (level : Level) : List String → ArgumentError
  | [] => .help
  | [name] => if level.subcommands.contains name then .help else .unknownSubcommand
  | _ => .unknownSubcommand

/-- Reads arguments up to their end, or up to a command and what follows it. -/
def read (level : Level) (reading : Reading) :
    List String → Except ArgumentError (Reading × Option (String × List String))
  | [] => reading.settled.map fun _ => (reading, none)
  | argument :: arguments =>
    if !reading.isTrailing && reading.pending.isNone && level.subcommands.contains argument then
      if argument == "help" then .error (helpOn level arguments)
      else .ok (reading, some (argument, arguments))
    else (reading.take level argument).bind fun reading => read level reading arguments

/-- The value of an option. -/
def Reading.value? (reading : Reading) (name : String) : Option String :=
  reading.values.lookup name

/-- The search that was asked for. -/
def searchOf (reading : Reading) : Except ArgumentError Command :=
  match reading.query with
  | none => .error .missingArgument
  | some query =>
    .ok (.search
      { query
        repository := reading.value? "repo"
        language := reading.value? "language"
        layer := reading.value? "layer"
        expand := reading.switches.contains "expand" })

/-- The command of a name with what was read behind it. -/
def commandOf (name : String) (reading : Reading) : Except ArgumentError Command :=
  match name with
  | "index" => .ok (.index (reading.value? "repo"))
  | "reindex" => .ok (.reindex (reading.value? "repo"))
  | _ => searchOf reading

/-- The command line that arguments denote, the name of the program left out. -/
def parse (arguments : List String) : Except ArgumentError CommandLine := do
  match ← read topLevel {} arguments with
  | (top, none) => throw (if top.values.isEmpty then .nothingGiven else .missingSubcommand)
  | (top, some (name, rest)) =>
    let level := if name == "search" then searchLevel else indexLevel
    let (reading, _) ← read level {} rest
    let command ← commandOf name reading
    return ⟨(reading.value? "config").or (top.value? "config"), command⟩

end CommandLine

end CodeIndex
