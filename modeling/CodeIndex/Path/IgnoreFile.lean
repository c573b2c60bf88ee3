import CodeIndex.Text.Bytes
import CodeIndex.Text.Pattern

/-!
# Ignore files

The rules by which version control is told what to leave out: one glob on a line, matched against
paths below the directory of the file. A later rule overrides an earlier one, a leading exclamation
mark takes a path back in, a trailing slash speaks of directories only, and a rule without a slash
inside holds at every depth. In these globs stars and question marks stay within a segment, two
stars span segments, brackets hold classes, braces alternatives, and a backslash takes the next
character literally.

Paths and globs are compared byte by byte: a question mark is one byte of UTF-8.

## Main definitions

* `IgnoreGlob.parse?`: the pieces of a glob, if it is well-formed.
* `IgnoreGlob.pattern`: what a glob matches.
* `IgnoreFile.rules`, `IgnoreFile.verdict?`
-/

namespace CodeIndex

open CodeIndex.Text

/-- A piece of a glob. -/
inductive GlobPiece where
  | exactly (c : Char)
  /-- One byte within a segment. -/
  | single
  /-- Any bytes within a segment. -/
  | run
  /-- Two stars in front: any directories, or none. -/
  | anyStart
  /-- Two stars behind: everything below. -/
  | anyEnd
  /-- Two stars between slashes: any directories between, or none. -/
  | anyMiddle
  | oneOf (negated : Bool) (ranges : List (Char × Char))
  | choice (branches : List (List GlobPiece))

namespace IgnoreGlob

/-- Pieces under way: the finished branches of an alternative, and the reversed current one. -/
structure Draft where
  finished : List (List GlobPiece)
  current : List GlobPiece

/-- Adds a piece to the innermost draft. -/
def push (piece : GlobPiece) : List Draft → List Draft
  | [] => []
  | draft :: outer => { draft with current := piece :: draft.current } :: outer

/-- The ranges of a class from the reversed ones; a dash at the end stands for itself. -/
def closeClass (isOpen : Bool) (ranges : List (Char × Char)) : List (Char × Char) :=
  (if isOpen then ('-', '-') :: ranges else ranges).reverse

/-- How reading a class ended. -/
inductive ClassEnd where
  | closed (ranges : List (Char × Char)) (rest : List Char)
  | unclosed
  | invalid

/-- Reads a class after its opening. `isOpen` says that a dash after a range waits for its end. -/
def readClass (isFirst isOpen : Bool) (ranges : List (Char × Char)) : List Char → ClassEnd
  | [] => .unclosed
  | c :: rest =>
    if c = ']' && !isFirst then .closed (closeClass isOpen ranges) rest
    else if c = '-' && !isFirst && !isOpen then readClass false true ranges rest
    else
      match isOpen, ranges with
      | true, (low, _) :: ranges =>
        if c < low then .invalid else readClass false false ((low, c) :: ranges) rest
      | _, ranges => readClass false false ((c, c) :: ranges) rest

/-- Reads a class with its optional negation. -/
def readNegatableClass : List Char → Bool × ClassEnd
  | '!' :: rest => (true, readClass true false [] rest)
  | '^' :: rest => (true, readClass true false [] rest)
  | rest => (false, readClass true false [] rest)

/-- Two stars that do not stand between slashes are two single ones. -/
def pushTwoRuns (drafts : List Draft) : List Draft := push .run (push .run drafts)

/-- Two stars after a slash replace that slash, unless they follow two stars already. -/
def pushSpan (span : GlobPiece) : List Draft → List Draft
  | [] => []
  | draft :: outer =>
    match draft.current with
    | .anyStart :: _ => draft :: outer
    | .anyEnd :: _ => draft :: outer
    | current => { draft with current := span :: current.tail } :: outer

/-- Places two stars; `before` is the character in front of them and `rest` what follows them. The
answer says whether they take a following slash with them. -/
def placeStars (before : Option Char) (rest : List Char) (drafts : List Draft) :
    List Draft × Bool :=
  let isStart := drafts.head?.all (·.current.isEmpty)
  let next := rest.head?
  if isStart then
    if next.all (· == '/') then (push .anyStart drafts, true) else (pushTwoRuns drafts, false)
  else if before != some '/' then (pushTwoRuns drafts, false)
  else if next == some '/' then (pushSpan .anyMiddle drafts, true)
  else if next.isNone || (1 < drafts.length && (next == some ',' || next == some '}')) then
    (pushSpan .anyEnd drafts, false)
  else (pushTwoRuns drafts, false)

/-- Ends the current branch of an alternative; outside of one, a comma is a comma. -/
def pushComma : List Draft → List Draft
  | draft :: outer :: rest =>
    ⟨draft.finished ++ [draft.current.reverse], []⟩ :: outer :: rest
  | drafts => push (.exactly ',') drafts

/-- Ends an alternative. -/
def closeChoice? : List Draft → Option (List Draft)
  | draft :: outer :: rest =>
    some (push (.choice (draft.finished ++ [draft.current.reverse])) (outer :: rest))
  | _ => none

/-- Reads pieces. `before` is the preceding character; `literal` says that opening brackets are
taken literally because one was never closed. The fuel exceeds the number of characters. -/
def readPieces (before : Option Char) (literal : Bool) (drafts : List Draft) :
    Nat → List Char → Option (List GlobPiece)
  | 0, _ => none
  | _ + 1, [] =>
    match drafts with
    | [draft] => some draft.current.reverse
    | _ => none
  | fuel + 1, '?' :: rest => readPieces (some '?') literal (push .single drafts) fuel rest
  | fuel + 1, '*' :: '*' :: rest =>
    match placeStars before rest drafts with
    | (drafts, true) => readPieces (some '/') literal drafts fuel rest.tail
    | (drafts, false) => readPieces (some '*') literal drafts fuel rest
  | fuel + 1, '*' :: rest => readPieces (some '*') literal (push .run drafts) fuel rest
  | fuel + 1, '{' :: rest => readPieces (some '{') literal (⟨[], []⟩ :: drafts) fuel rest
  | fuel + 1, '}' :: rest =>
    (closeChoice? drafts).bind fun drafts => readPieces (some '}') literal drafts fuel rest
  | fuel + 1, ',' :: rest => readPieces (some ',') literal (pushComma drafts) fuel rest
  | fuel + 1, '\\' :: rest =>
    match rest with
    | [] => none
    | c :: rest => readPieces (some c) literal (push (.exactly c) drafts) fuel rest
  | fuel + 1, '[' :: rest =>
    let asLiteral := readPieces (some '[') true (push (.exactly '[') drafts) fuel rest
    if literal then asLiteral
    else
      match readNegatableClass rest with
      | (negated, .closed ranges rest) =>
        readPieces (some ']') literal (push (.oneOf negated ranges) drafts) fuel rest
      | (_, .unclosed) => asLiteral
      | (_, .invalid) => none
  | fuel + 1, c :: rest => readPieces (some c) literal (push (.exactly c) drafts) fuel rest

/-- The pieces of a glob; a glob with open ends has none. -/
def parse? (glob : List Char) : Option (List GlobPiece) :=
  readPieces none false [⟨[], []⟩] (glob.length + 1) glob

/-- The bytes of a text, each as a character of its own. -/
def bytes (text : List Char) : List Char :=
  (utf8 text).map fun byte => Char.ofNat byte.toNat

/-- The ranges of bytes that a range of characters stands for in a class. -/
def byteRanges (range : Char × Char) : List (Char × Char) :=
  let low := bytes [range.1]
  let high := bytes [range.2]
  let alone (b : Char) := (b, b)
  if range.1 = range.2 then low.map alone
  else
    low.dropLast.map alone ++ [(low.getLastD range.1, high.headD range.2)] ++ high.tail.map alone

/-- Whether a byte is in some range. -/
def inByteRanges (ranges : List (Char × Char)) (byte : Char) : Bool :=
  ranges.any fun range => range.1 ≤ byte && byte ≤ range.2

/-- A byte within a segment. -/
def isInner (c : Char) : Bool := c != '/'

/-- A slash. -/
def slash : Pattern := .one (· == '/')

/-- Any bytes at all. -/
def anything : Pattern := .many fun _ => true

mutual

/-- What a piece matches. -/
def piecePattern : GlobPiece → Pattern
  | .exactly c => .all ((bytes [c]).map fun expected => .one (· == expected))
  | .single => .one isInner
  | .run => .many isInner
  | .anyStart => .either (.atMostOne (· == '/')) (.seq anything slash)
  | .anyEnd => .seq slash anything
  | .anyMiddle => .either slash (.all [slash, anything, slash])
  | .oneOf negated ranges =>
    .one fun c => inByteRanges (ranges.flatMap byteRanges) c != negated
  | .choice branches =>
    match branchPatterns branches with
    | [] => .empty
    | patterns => .anyOf patterns

/-- What the pieces of a sequence match. -/
def sequencePattern : List GlobPiece → Pattern
  | [] => .empty
  | piece :: pieces => .seq (piecePattern piece) (sequencePattern pieces)

/-- What the branches of an alternative match; empty branches are left out. -/
def branchPatterns : List (List GlobPiece) → List Pattern
  | [] => []
  | branch :: branches =>
    if branch.isEmpty then branchPatterns branches
    else sequencePattern branch :: branchPatterns branches

end

/-- What a glob matches as a whole. Two stars alone match everything. -/
def pattern (pieces : List GlobPiece) : Pattern :=
  match pieces with
  | [.anyStart] => .seq anything .textEnd
  | pieces => .seq (sequencePattern pieces) .textEnd

end IgnoreGlob

/-- Whether a path is left out or taken back in. -/
inductive IgnoreVerdict where
  | ignored
  | kept
deriving DecidableEq

/-- A rule of an ignore file. -/
structure IgnoreRule where
  pattern : Pattern
  verdict : IgnoreVerdict
  onlyDirectories : Bool

namespace IgnoreFile

/-- A line without trailing white space, unless the last blank is escaped. -/
def trimLine (line : List Char) : List Char :=
  match line.reverse with
  | ' ' :: '\\' :: _ => line
  | _ => trimEnd line

/-- The glob, as written in a rule, made to match at every depth if it names no directory. -/
def deepen (isAnchored : Bool) (glob : List Char) : List Char :=
  if isAnchored || glob.contains '/' || glob == ['*', '*'] then glob
  else '*' :: '*' :: '/' :: glob

/-- A glob that ends with two stars matches what is inside, and not the directory itself. -/
def insideOnly (glob : List Char) : List Char :=
  match glob.reverse with
  | '*' :: '*' :: '/' :: _ => glob ++ ['/', '*']
  | _ => glob

/-- The glob without a slash at its end, escaped or not, and whether there was one. -/
def dropSlash (glob : List Char) : List Char × Bool :=
  match glob.reverse with
  | '/' :: '\\' :: body => (body.reverse, true)
  | '/' :: body => (body.reverse, true)
  | _ => (glob, false)

/-- The rule of a glob with its anchor and verdict decided. -/
def finishRule? (verdict : IgnoreVerdict) (isAnchored : Bool) (glob : List Char) :
    Option IgnoreRule :=
  let (glob, onlyDirectories) := dropSlash glob
  (IgnoreGlob.parse? (insideOnly (deepen isAnchored glob))).map fun pieces =>
    ⟨IgnoreGlob.pattern pieces, verdict, onlyDirectories⟩

/-- The rule after an optional leading slash. -/
def anchoredRule? (verdict : IgnoreVerdict) : List Char → Option IgnoreRule
  | '/' :: glob => finishRule? verdict true glob
  | glob => finishRule? verdict false glob

/-- The rule on a trimmed line that is no comment. -/
def ruleOfLine? : List Char → Option IgnoreRule
  | [] => none
  | '\\' :: '!' :: glob => finishRule? .ignored false ('!' :: glob)
  | '\\' :: '#' :: glob => finishRule? .ignored false ('#' :: glob)
  | '!' :: glob => anchoredRule? .kept glob
  | glob => anchoredRule? .ignored glob

/-- The rule on a line. Comments, blank lines and ill-formed globs hold none. -/
def rule? (line : List Char) : Option IgnoreRule :=
  match line with
  | '#' :: _ => none
  | line => ruleOfLine? (trimLine line)

/-- A text without a byte order mark in front. -/
def dropMark : List Char → List Char
  | c :: text => if c.toNat = 0xFEFF then dropMark text else c :: text
  | [] => []

/-- The rules of an ignore file. -/
def rules (text : List Char) : List IgnoreRule :=
  (lines (dropMark text)).filterMap rule?

/-- What the rules say about a path below their directory: the last rule that matches decides. -/
def verdict? (rules : List IgnoreRule) (path : List Char) (isDirectory : Bool) :
    Option IgnoreVerdict :=
  (rules.reverse.find? fun rule =>
    (!rule.onlyDirectories || isDirectory) &&
      (rule.pattern.matchAt none (IgnoreGlob.bytes path)).isSome).map (·.verdict)

end IgnoreFile

end CodeIndex
