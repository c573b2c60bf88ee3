import CodeIndex.Text.Pattern

/-!
# Globs

A glob is a sequence of characters in which a star stands for any run of characters and a question
mark for one. Neither stands for a line feed. Slashes are characters like all others.

Matching computes, for each end of the glob from the shortest to the whole, which ends of the text
it matches. The table has one row for each piece of the glob, so that many stars cost no more than
many letters.
-/

namespace CodeIndex

/-- A piece of a glob. -/
inductive Glob where
  | star
  | single
  | exactly (c : Char)
deriving DecidableEq

namespace Glob

/-- The pieces that a text denotes. -/
def pieces (text : List Char) : List Glob :=
  text.map fun c => if c = '*' then star else if c = '?' then single else exactly c

/-- The pieces of a rule: a slash at the end stands for everything below a directory. -/
def ofRule (rule : List Char) : List Glob :=
  match rule.reverse with
  | '/' :: body => pieces body.reverse ++ [exactly '/', star]
  | _ => pieces rule

/-- From the answers for the ends of the text behind one piece, the answers before a piece that
takes one character of a class. -/
def takeOne (accepts : Char → Bool) (text : List Char) (behind : List Bool) : List Bool :=
  List.zipWith (fun c ok => accepts c && ok) text behind.tail ++ [false]

/-- From the answers for the ends of the text behind a star, the answers before it: a star may
stand for nothing, or take a character and go on. -/
def takeRun : List Char → List Bool → List Bool
  | c :: text, ok :: behind =>
    let answers := takeRun text behind
    (ok || (c != '\n' && answers.headD false)) :: answers
  | _, behind => behind

/-- For every end of the text, the whole text first and the empty one last, whether the pieces match
it. `same` says which characters count as equal. -/
def matchEnds (same : Char → Char → Bool) (text : List Char) : List Glob → List Bool
  | [] => text.map (fun _ => false) ++ [true]
  | star :: rest => takeRun text (matchEnds same text rest)
  | single :: rest => takeOne (· != '\n') text (matchEnds same text rest)
  | exactly expected :: rest => takeOne (same expected) text (matchEnds same text rest)

/-- Whether the pieces match a whole text. -/
def isMatch (same : Char → Char → Bool) (glob : List Glob) (text : List Char) : Bool :=
  (matchEnds same text glob).headD false

/-- Whether the pieces match a whole text letter for letter. -/
def matchesExactly (glob : List Glob) (text : List Char) : Bool :=
  isMatch (fun a b => a == b) glob text

/-- Whether the pieces match a whole text when case is ignored. -/
def matchesAnyCase (glob : List Glob) (text : List Char) : Bool :=
  isMatch (fun a b => Text.Pattern.foldCase a == Text.Pattern.foldCase b) glob text

end Glob

end CodeIndex
