import CodeIndex.Secret.Shape

/-!
# Redaction

Every text that leaves for a provider, and every text that is stored, passes through `redact`. It
makes three passes, one for each shape of a credential, each over the result of the one before. A
private key and a token give way to a mark; of an assignment only the value does, so that the text
still tells that something was configured here.

## Main definitions

* `redact`: the text without credentials.
* `isClean`: whether there was nothing to remove.
-/

namespace CodeIndex.Secret

open CodeIndex.Text

/-- The text without private keys. -/
def redactKeys (text : List Char) : List Char :=
  privateKey.replaceAll (fun _ => mark) text

/-- The text without tokens. -/
def redactTokens (text : List Char) : List Char :=
  token.replaceAll (fun _ => mark) text

/-- The text of an assignment with its value replaced. -/
def maskedAssignment (groups : Groups) : List Char :=
  groups.text 1 ++ groups.text 2 ++ groups.text 3 ++ mark ++ groups.text 5

/-- The text with the values of secret assignments replaced. -/
def redactAssignments (text : List Char) : List Char :=
  assignment.replaceAll maskedAssignment text

/-- The text without credentials. -/
def redact (text : List Char) : List Char :=
  redactAssignments (redactTokens (redactKeys text))

/-- No pass finds anything to replace. -/
def isClean (text : List Char) : Bool :=
  !privateKey.occursIn text && !token.occursIn (redactKeys text) &&
    !assignment.occursIn (redactTokens (redactKeys text))

/-- The text without credentials. -/
def redacted (text : String) : String :=
  String.ofList (redact text.toList)

end CodeIndex.Secret
