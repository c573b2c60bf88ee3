import CodeIndex.Chunk.Language
import CodeIndex.Syntax.Java
import CodeIndex.Syntax.Python
import CodeIndex.Syntax.Rust
import CodeIndex.Syntax.Script.Declaration

/-!
# Reading source code

One function reads all languages that are split along their declarations. Texts of other languages
have an empty tree.
-/

namespace CodeIndex.Syntax

/-- The outline of a source text. -/
def read (language : Language) (text : List Char) : SyntaxTree :=
  match language with
  | .java => Java.read text
  | .python => Python.read text
  | .typescript => Script.read .typed text
  | .javascript => Script.read .markup text
  | .rust => Rust.read text
  | _ => nodeOver "" [] []

end CodeIndex.Syntax
