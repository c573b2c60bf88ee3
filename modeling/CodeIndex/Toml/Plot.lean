import CodeIndex.Toml.Literal

/-!
# Tables under way

While a document is read its tables are still open, and what may be added to one depends on how it
came about: a table with a header of its own may not get a second one, one that was named on the way
to another may still get its header, and one that came from a dotted key is only for dotted keys.
A value, tables within braces included, is closed from the start.

## Main definitions

* `Plot`, `PlotFields`
* `PlotFields.at?`: a change somewhere below.
* `PlotFields.define?`, `openTable?`, `openItem?`
-/

namespace CodeIndex.Toml

/-- How a table came about. -/
inductive Origin where
  /-- Named on the way to another table. -/
  | passing
  | header
  | dotted
deriving DecidableEq

/-- A field under way. -/
inductive Plot where
  | value (v : Toml)
  | table (origin : Origin) (fields : List (String × Plot))
  /-- A list of tables; the last one is still open. -/
  | tables (items : List (List (String × Plot)))

/-- The fields of a table under way. -/
abbrev PlotFields := List (String × Plot)

mutual

/-- The value that a field became. -/
def Plot.finish : Plot → Toml
  | .value v => v
  | .table _ fields => .table (finishFields fields)
  | .tables items => .list (finishItems items)

/-- The fields of a finished table. -/
def finishFields : List (String × Plot) → List (String × Toml)
  | [] => []
  | (name, plot) :: rest => (name, plot.finish) :: finishFields rest

/-- The tables of a finished list. -/
def finishItems : List (List (String × Plot)) → List Toml
  | [] => []
  | fields :: rest => .table (finishFields fields) :: finishItems rest

end

namespace PlotFields

/-- The fields with one of them replaced, or added if it is new. -/
def set (fields : PlotFields) (name : String) (plot : Plot) : PlotFields :=
  if fields.any (·.1 == name) then
    fields.map fun field => if field.1 == name then (name, plot) else field
  else fields ++ [(name, plot)]

/-- Changes the table at a path, which is made if it is not there. Dotted keys may not enter tables
that have a header. -/
def at? (isDotted : Bool) (change : Origin → PlotFields → Option PlotFields) :
    List String → Origin → PlotFields → Option PlotFields
  | [], origin, fields => change origin fields
  | name :: path, _, fields =>
    match fields.lookup name with
    | none =>
      let origin := if isDotted then .dotted else .passing
      (at? isDotted change path origin []).map fun inner => set fields name (.table origin inner)
    | some (.table origin inner) =>
      if isDotted && origin == .header then none
      else (at? isDotted change path origin inner).map fun inner =>
        set fields name (.table origin inner)
    | some (.tables items) =>
      (items.getLast?.bind (at? isDotted change path .passing)).map fun last =>
        set fields name (.tables (items.dropLast ++ [last]))
    | some (.value _) => none

/-- Defines a field by a key whose last part is `name`. A field is defined once. -/
def define? (path : List String) (name : String) (v : Toml) (fields : PlotFields) :
    Option PlotFields :=
  at? true (fun origin inner =>
    if (!path.isEmpty && origin != .dotted) || inner.any (·.1 == name) then none
    else some (inner ++ [(name, .value v)])) path .header fields

/-- Gives a table its header. -/
def openTable? (path : List String) (name : String) (fields : PlotFields) : Option PlotFields :=
  at? false (fun _ inner =>
    match inner.lookup name with
    | none => some (inner ++ [(name, .table .header [])])
    | some (.table .passing below) => some (set inner name (.table .header below))
    | some _ => none) path .header fields

/-- Begins a further table of a list. -/
def openItem? (path : List String) (name : String) (fields : PlotFields) : Option PlotFields :=
  at? false (fun _ inner =>
    match inner.lookup name with
    | none => some (inner ++ [(name, .tables [[]])])
    | some (.tables items) => some (set inner name (.tables (items ++ [[]])))
    | some _ => none) path .header fields

end PlotFields

end CodeIndex.Toml
