import CodeIndex.Text.Line

/-!
# Patterns

A small language of regular expressions, enough for every rule of this library that looks for a
shape inside a text: runs of one character class, sequence, ordered choice, captured groups, and
three assertions about the place itself. Matching prefers the first alternative, and the longest
run unless the run is marked lazy; of all matches in a text the leftmost counts.

The matcher is written in continuation style, by structural recursion on the pattern, with one inner
recursion along the text for runs. There is no compilation step, so what a pattern matches can be
read off its definition.

## Main definitions

* `Pattern`: the language.
* `Pattern.matchAt`: the preferred match at one place.
* `Pattern.find?`, `Pattern.occursIn`, `Pattern.replaceAll`: matching inside a text.
-/

namespace CodeIndex.Text

/-- How often a run repeats: at least `least` times, at most `most` times if that is given, and
preferably often or preferably seldom. -/
structure Repeat where
  least : Nat
  most : Option Nat
  greedy : Bool

/-- The patterns. -/
inductive Pattern where
  /-- Matches the empty text. -/
  | empty
  /-- One character of a class. -/
  | one (accepts : Char → Bool)
  /-- A run of characters of a class. -/
  | run (accepts : Char → Bool) (count : Repeat)
  /-- One pattern after the other. -/
  | seq (first second : Pattern)
  /-- The first pattern or else the second. -/
  | either (first second : Pattern)
  /-- A pattern whose text is remembered under a number. -/
  | group (index : Nat) (body : Pattern)
  /-- A place between a word character and something else. -/
  | wordEdge
  /-- The start of the text. -/
  | textStart
  /-- The end of the text. -/
  | textEnd

/-- A place in a text: the character before it, how many characters precede it, and what
follows. -/
structure Place where
  before : Option Char
  offset : Nat
  rest : List Char

/-- The remembered groups: number and text, the latest first. -/
abbrev Groups := List (Nat × List Char)

/-- The text of a group; a group that took no part is empty. -/
def Groups.text (groups : Groups) (index : Nat) : List Char :=
  (List.lookup index groups).getD []

namespace Pattern

/-- A place is the edge of a word if exactly one of its neighbours is a word character. -/
def isWordEdge (place : Place) : Bool :=
  place.before.any isWord != place.rest.head?.any isWord

/-- Whether a run may take one more character when `left` more are allowed. -/
def hasRoom : Option Nat → Bool
  | some left => left != 0
  | none => true

/-- Tries a run of a class at a place, then whatever follows it. `least` more characters are due,
`most` more are allowed. -/
def tryRun {β : Type} (accepts : Char → Bool) (greedy : Bool) (next : Place → Option β)
    (least : Nat) (most : Option Nat) (before : Option Char) (offset : Nat) :
    List Char → Option β
  | [] => if least = 0 then next ⟨before, offset, []⟩ else none
  | c :: rest =>
    let stop : Unit → Option β := fun _ =>
      if least = 0 then next ⟨before, offset, c :: rest⟩ else none
    let longer : Unit → Option β := fun _ =>
      if accepts c && hasRoom most then
        tryRun accepts greedy next (least - 1) (most.map (· - 1)) (some c) (offset + 1) rest
      else none
    if greedy then (longer ()).or (stop ()) else (stop ()).or (longer ())

/-- Tries a pattern at a place, then whatever follows it. -/
def tryAt {β : Type} (place : Place) (groups : Groups) :
    Pattern → (Place → Groups → Option β) → Option β
  | empty, next => next place groups
  | one accepts, next =>
    match place.rest with
    | c :: rest => if accepts c then next ⟨some c, place.offset + 1, rest⟩ groups else none
    | [] => none
  | run accepts count, next =>
    tryRun accepts count.greedy (fun after => next after groups) count.least count.most
      place.before place.offset place.rest
  | seq first second, next =>
    tryAt place groups first fun after groups => tryAt after groups second next
  | either first second, next =>
    (tryAt place groups first next).or (tryAt place groups second next)
  | group index body, next =>
    tryAt place groups body fun after groups =>
      next after ((index, place.rest.take (after.offset - place.offset)) :: groups)
  | wordEdge, next => if isWordEdge place then next place groups else none
  | textStart, next => if place.before.isNone then next place groups else none
  | textEnd, next => if place.rest.isEmpty then next place groups else none

/-- A match: its length and its groups. -/
structure Found where
  length : Nat
  groups : Groups

/-- The preferred match at the place before `rest`, where `before` is the preceding character. -/
def matchAt (pattern : Pattern) (before : Option Char) (rest : List Char) : Option Found :=
  tryAt ⟨before, 0, rest⟩ [] pattern fun after groups => some ⟨after.offset, groups⟩

/-- The groups of the leftmost match in the text that follows `before`. -/
def findFrom? (pattern : Pattern) (before : Option Char) : List Char → Option Found
  | [] => pattern.matchAt before []
  | c :: rest => (pattern.matchAt before (c :: rest)).or (findFrom? pattern (some c) rest)

/-- The leftmost match in a text. -/
def find? (pattern : Pattern) (text : List Char) : Option Found :=
  pattern.findFrom? none text

/-- Whether a pattern has a match in a text. -/
def occursIn (pattern : Pattern) (text : List Char) : Bool :=
  (pattern.find? text).isSome

/-- The text after `before` with every match replaced, from the left and without overlaps. `skip`
characters still belong to the match before. A match of the empty text replaces nothing. -/
def replaceFrom (pattern : Pattern) (replacement : Groups → List Char) (before : Option Char)
    (skip : Nat) : List Char → List Char
  | [] => []
  | c :: rest =>
    match skip with
    | skip + 1 => replaceFrom pattern replacement (some c) skip rest
    | 0 =>
      match pattern.matchAt before (c :: rest) with
      | some ⟨length + 1, groups⟩ =>
        replacement groups ++ replaceFrom pattern replacement (some c) length rest
      | _ => c :: replaceFrom pattern replacement (some c) 0 rest

/-- The text with every match replaced. -/
def replaceAll (pattern : Pattern) (replacement : Groups → List Char) (text : List Char) :
    List Char :=
  pattern.replaceFrom replacement none 0 text

/-! ## Building patterns -/

/-- Patterns one after the other. -/
def all : List Pattern → Pattern
  | [] => empty
  | [pattern] => pattern
  | pattern :: patterns => seq pattern (all patterns)

/-- The first of several patterns that fits; the list is not empty in use. -/
def anyOf : List Pattern → Pattern
  | [] => one fun _ => false
  | [pattern] => pattern
  | pattern :: patterns => either pattern (anyOf patterns)

/-- A text, letter for letter. -/
def literal (text : String) : Pattern :=
  all (text.toList.map fun expected => one (· == expected))

/-- The ASCII letter in lower case that a character equals when case is ignored. Beside the
capitals these are the Kelvin sign and the long `s`. -/
def foldCase (c : Char) : Char :=
  if c.toNat = 0x212A then 'k' else if c.toNat = 0x17F then 's' else c.toLower

/-- A text of ASCII letters in lower case, in any case. -/
def word (text : String) : Pattern :=
  all (text.toList.map fun expected => one fun c => foldCase c == expected)

/-- Any number of characters of a class, as many as possible. -/
def many (accepts : Char → Bool) : Pattern := run accepts ⟨0, none, true⟩

/-- At least one character of a class, as many as possible. -/
def several (accepts : Char → Bool) : Pattern := run accepts ⟨1, none, true⟩

/-- At most one character of a class. -/
def atMostOne (accepts : Char → Bool) : Pattern := run accepts ⟨0, some 1, true⟩

/-- A pattern or nothing. -/
def optional (pattern : Pattern) : Pattern := either pattern empty

end Pattern

end CodeIndex.Text
