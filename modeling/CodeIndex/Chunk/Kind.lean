/-!
# Kinds of chunks

What a chunk of a file is. The kind is stored with the chunk under its lower-case name.
-/

namespace CodeIndex

/-- The kinds of chunks. -/
inductive ChunkKind where
  | header
  | method
  | constructor
  | classLike
  | interface
  | enum
  | record
  | function
  | type
  | const
  | export
  | template
  | script
  | statement
  | file
  | other
deriving DecidableEq

namespace ChunkKind

/-- Every kind, in the order in which they are listed to users. -/
def all : List ChunkKind :=
  [.header, .method, .constructor, .classLike, .interface, .enum, .record, .function, .type, .const,
    .export, .template, .script, .statement, .file, .other]

/-- The name under which a kind is stored. -/
def name : ChunkKind → String
  | .header => "header"
  | .method => "method"
  | .constructor => "constructor"
  | .classLike => "class"
  | .interface => "interface"
  | .enum => "enum"
  | .record => "record"
  | .function => "function"
  | .type => "type"
  | .const => "const"
  | .export => "export"
  | .template => "template"
  | .script => "script"
  | .statement => "statement"
  | .file => "file"
  | .other => "other"

/-- The kind of a name. -/
def ofName? (name : String) : Option ChunkKind :=
  all.find? (·.name == name)

end ChunkKind

end CodeIndex
