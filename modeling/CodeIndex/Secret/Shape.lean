import CodeIndex.Text.Pattern

/-!
# Shapes of credentials

Three shapes are taken for credentials: a private key in its armour, a token with one of the
prefixes that issuers give their tokens, and an assignment of a quoted value to a name such as
`password`. Shapes are judged by text alone; whether a value works is nobody's business here.
-/

namespace CodeIndex.Secret

open CodeIndex.Text

/-- The mark that stands for a removed credential. -/
def mark : List Char := "[REDACTED]".toList

/-- The letters that may name the kind of a private key. -/
def isKeyKind (c : Char) : Bool := c.isUpper || c == ' '

/-- The line that opens a private key. -/
def keyOpening : Pattern :=
  .all [.literal "-----BEGIN ", .many isKeyKind, .literal "PRIVATE KEY-----"]

/-- The line that closes a private key. -/
def keyClosing : Pattern :=
  .all [.literal "-----END ", .many isKeyKind, .literal "PRIVATE KEY-----"]

/-- A private key: from its opening to the nearest closing, or to the end of the text where none
follows. -/
def privateKey : Pattern :=
  .all [keyOpening, .run (fun _ => true) ⟨0, none, false⟩, .either keyClosing .textEnd]

/-- The prefixes of tokens. -/
def tokenPrefixes : List String :=
  ["sk-", "sk_live_", "sk_test_", "AKIA", "ghp_", "gho_", "xoxb-", "xoxp-", "AIza", "ya29.",
    "glpat-", "hf_", "npm_", "dckr_pat_"]

/-- What ends a token: white space, quotes, commas, semicolons and brackets. -/
def endsToken (c : Char) : Bool :=
  isBlank c || "\"'`,;\x7b\x7d[]()".toList.contains c

/-- A token: one of the prefixes at the start of a word, then at least four more characters. -/
def token : Pattern :=
  .all [.wordEdge, .anyOf (tokenPrefixes.map .literal),
    .run (fun c => !endsToken c) ⟨4, none, true⟩]

/-- A hyphen or an underscore, as they stand inside compound names. -/
def isJoint (c : Char) : Bool := c == '_' || c == '-'

/-- A compound name of two words, with or without a joint. -/
def compound (first second : String) : Pattern :=
  .all [.word first, .atMostOne isJoint, .word second]

/-- The names whose quoted values are credentials. -/
def secretName : Pattern :=
  .anyOf [.word "password", .word "passwd", .word "secret", compound "api" "key",
    compound "access" "token", compound "auth" "token", .word "token", compound "client" "secret"]

/-- Single and double quotes. -/
def isQuote (c : Char) : Bool := c == '"' || c == '\''

/-- An assignment of a quoted value of at least four characters to a secret name. The groups are
the name, the sign with its blanks, the opening quote, the value and the closing quote. -/
def assignment : Pattern :=
  .all [.wordEdge, .group 1 secretName, .wordEdge,
    .group 2 (.all [.many isBlank, .one fun c => c == ':' || c == '=', .many isBlank]),
    .group 3 (.one isQuote),
    .group 4 (.run (fun c => !isQuote c && !isBlank c) ⟨4, none, true⟩),
    .group 5 (.one isQuote)]

end CodeIndex.Secret
