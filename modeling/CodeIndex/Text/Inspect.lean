import CodeIndex.Text.CharClass

/-!
# Texts inside messages

A message that quotes a text shows it between quotation marks, on one line, with everything escaped
that would not be seen.
-/

namespace CodeIndex.Text

/-- A character inside a quotation: quotes, backslashes, line ends and whatever does not show are
escaped. -/
def inspectChar (c : Char) : List Char :=
  if c = '"' then ['\\', '"']
  else if c = '\\' then ['\\', '\\']
  else if c = '\n' then ['\\', 'n']
  else if c = '\r' then ['\\', 'r']
  else if c = '\t' then ['\\', 't']
  else if c.toNat = 0 then ['\\', '0']
  else if isUnseen c then
    "\\u\x7b".toList ++ Nat.toDigits 16 c.toNat ++ ['\x7d']
  else [c]

/-- A text as messages quote it. -/
def inspect (text : String) : String :=
  String.ofList ('"' :: (text.toList.flatMap inspectChar ++ ['"']))

end CodeIndex.Text
