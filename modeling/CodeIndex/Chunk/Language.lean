import CodeIndex.Chunk.Kind
import CodeIndex.Path.FileName

/-!
# Languages

The languages that are indexed, how a path tells its language, and for the languages that are split
along their syntax the table of node kinds that says what is a declaration, what a member, what a
remark. The splitter knows no language; all it knows it reads off these tables.
-/

namespace CodeIndex

/-- The languages that are indexed. -/
inductive Language where
  | java
  | typescript
  | javascript
  | python
  | rust
  | vue
  | sql
  | markdown
deriving DecidableEq

/-- What the node kinds of a syntax tree mean for splitting. -/
structure NodeTable where
  /-- Top-level nodes that belong to the header of a file. -/
  header : List String
  /-- Declarations that get a chunk of their own. -/
  boundary : List String
  /-- Declarations whose body is split into one chunk for each method. -/
  classLike : List String
  /-- Members that count as methods. -/
  methods : List String
  /-- Parts of a body whose children are members themselves. -/
  memberContainers : List String
  /-- Annotations, which belong to the declaration that follows. -/
  annotations : List String
  /-- Comments, which do so too. -/
  comment : List String
  /-- Wrappers and the field that holds the declaration they wrap. -/
  wrappers : List (String × String)

namespace Language

/-- Every language, in the order in which they are listed to users. -/
def all : List Language :=
  [.java, .typescript, .javascript, .python, .rust, .vue, .sql, .markdown]

/-- The name under which a language is stored and searched. -/
def id : Language → String
  | .java => "java"
  | .typescript => "typescript"
  | .javascript => "javascript"
  | .python => "python"
  | .rust => "rust"
  | .vue => "vue"
  | .sql => "sql"
  | .markdown => "markdown"

/-- The language of a name. -/
def ofId? (name : String) : Option Language :=
  all.find? (·.id == name)

/-- The file extensions of a language. -/
def extensions : Language → List String
  | .java => ["java"]
  | .typescript => ["ts", "tsx", "mts", "cts"]
  | .javascript => ["js", "jsx", "mjs", "cjs"]
  | .python => ["py", "pyi"]
  | .rust => ["rs"]
  | .vue => ["vue"]
  | .sql => ["sql"]
  | .markdown => ["md", "markdown"]

/-- The language of a path, told by its extension alone. -/
def ofPath? (path : String) : Option Language :=
  (Path.extension? path.toList).bind fun extension =>
    all.find? fun language => language.extensions.any fun e => e.toList == extension

/-- The node kinds of Java. -/
def javaTable : NodeTable where
  header := ["package_declaration", "import_declaration", "module_declaration"]
  boundary := ["class_declaration", "interface_declaration", "enum_declaration",
    "record_declaration", "annotation_type_declaration"]
  classLike := ["class_declaration", "interface_declaration", "enum_declaration",
    "record_declaration"]
  methods := ["method_declaration", "constructor_declaration", "compact_constructor_declaration"]
  memberContainers := ["enum_body_declarations"]
  annotations := ["marker_annotation", "annotation"]
  comment := ["line_comment", "block_comment"]
  wrappers := []

/-- The node kinds that TypeScript and JavaScript share. -/
def scriptTable : NodeTable where
  header := ["import_statement"]
  boundary := ["function_declaration", "generator_function_declaration", "class_declaration",
    "abstract_class_declaration", "interface_declaration", "enum_declaration",
    "type_alias_declaration", "internal_module", "export_statement"]
  classLike := ["class_declaration", "abstract_class_declaration", "class"]
  methods := ["method_definition", "abstract_method_signature", "method_signature"]
  memberContainers := []
  annotations := ["decorator"]
  comment := ["comment"]
  wrappers := [("export_statement", "declaration")]

/-- The node kinds of Python. -/
def pythonTable : NodeTable where
  header := ["import_statement", "import_from_statement", "future_import_statement"]
  boundary := ["function_definition", "class_definition", "decorated_definition"]
  classLike := ["class_definition"]
  methods := ["function_definition"]
  memberContainers := []
  annotations := ["decorator"]
  comment := ["comment"]
  wrappers := [("decorated_definition", "definition")]

/-- The node kinds of Rust. -/
def rustTable : NodeTable where
  header := ["use_declaration", "extern_crate_declaration", "inner_attribute_item", "mod_item"]
  boundary := ["function_item", "struct_item", "enum_item", "union_item", "trait_item",
    "impl_item", "type_item", "const_item", "static_item", "macro_definition"]
  classLike := ["impl_item", "trait_item"]
  methods := ["function_item", "function_signature_item"]
  memberContainers := []
  annotations := ["attribute_item"]
  comment := ["line_comment", "block_comment"]
  wrappers := []

/-- The table of a language, if it is split along its syntax. -/
def nodeTable? : Language → Option NodeTable
  | .java => some javaTable
  | .typescript | .javascript => some scriptTable
  | .python => some pythonTable
  | .rust => some rustTable
  | .vue | .sql | .markdown => none

end Language

/-- The kind of chunk that a declaration of a node kind becomes. -/
def ChunkKind.ofNode (kind : String) : ChunkKind :=
  if ["class_declaration", "abstract_class_declaration", "class_definition", "class", "impl_item",
      "struct_item", "union_item"].contains kind then .classLike
  else if ["interface_declaration", "annotation_type_declaration", "trait_item"].contains kind then
    .interface
  else if ["enum_declaration", "enum_item"].contains kind then .enum
  else if kind == "record_declaration" then .record
  else if ["function_declaration", "generator_function_declaration", "function_definition",
      "function_item", "macro_definition"].contains kind then .function
  else if ["method_declaration", "method_definition", "abstract_method_signature",
      "method_signature", "function_signature_item"].contains kind then .method
  else if ["constructor_declaration", "compact_constructor_declaration"].contains kind then
    .constructor
  else if ["type_alias_declaration", "type_item"].contains kind then .type
  else if ["lexical_declaration", "variable_declaration", "const_item", "static_item"].contains
      kind then .const
  else if kind == "export_statement" then .export
  else .other

end CodeIndex
