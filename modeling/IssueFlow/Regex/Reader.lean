import IssueFlow.Regex.Automaton
import IssueFlow.Regex.Bracket
import IssueFlow.Regex.Matching

/-!
# Reading patterns

The syntax has groups, flags, classes with set operations, counted repetition and Unicode
properties; it has neither back references nor look-around. Flags hold from where they are set to
the end of the enclosing group.
-/

namespace IssueFlow.Regex

/-- A pattern and how deep its parts lie one in another. Groups, repetitions, classes in brackets,
sequences and choices of several parts each add one. -/
structure Nested where
  pattern : Pattern
  depth : Nat
  deriving Repr

/-- The greatest depth. -/
def nestingLimit : Nat := 250

/-- The depth of several parts one beside another; a single one adds nothing. -/
def depthBeside (depths : List Nat) : Nat :=
  let deepest := depths.foldl max 0
  if 2 ≤ depths.length then deepest + 1 else deepest

/-- A decimal number below 2^32 with white space around it. -/
def readCount (flags : Flags) (s : List Char) : Option (Nat × List Char) := do
  let (digits, rest) := flags.run Char.isDigit (Text.dropBlank s)
  guard !digits.isEmpty
  let n := Text.numberIn 10 digits
  guard (n < Nat.pow 2 32)
  return (n, Text.dropBlank rest)

/-- The bounds after an opening brace; the least one must be given. -/
def readBounds (flags : Flags) (s : List Char) : Option ((Nat × Option Nat) × List Char) := do
  let (least, rest) ← readCount flags (flags.skip s)
  match rest with
  | '\x7d' :: rest => return ((least, some least), rest)
  | ',' :: rest =>
    match flags.skip rest with
    | '\x7d' :: rest => return ((least, none), rest)
    | rest =>
      let (most, rest) ← readCount flags rest
      match rest with
      | '\x7d' :: rest =>
        guard (least ≤ most)
        return ((least, some most), rest)
      | _ => none
  | _ => none

/-- The mark that makes a repetition lazy, right after it. -/
def readLazy (s : List Char) : Bool × List Char :=
  match s with
  | '?' :: rest => (true, rest)
  | rest => (false, rest)

/-- A part of a sequence; a change of flags is a part that cannot be repeated. -/
inductive Part where
  | pattern (p : Nested)
  | flagsSet

def Part.nested : Part → Nested
  | .pattern p => p
  | .flagsSet => ⟨.empty, 0⟩

/-- The sequence of parts that stand reversed. -/
def sequenceOf (parts : List Part) : Nested :=
  let parts := parts.reverse.map Part.nested
  ⟨.sequence (parts.map Nested.pattern), depthBeside (parts.map Nested.depth)⟩

/-- The choice between sequences; a single one is no choice. -/
def choiceOf : List Nested → Nested
  | [p] => p
  | ps => ⟨.choice (ps.map Nested.pattern), depthBeside (ps.map Nested.depth)⟩

/-- Repeats the latest part. -/
def repeatLatest (least : Nat) (most : Option Nat) (greedy : Bool) :
    List Part → Option (List Part)
  | .pattern p :: parts =>
    some (.pattern ⟨p.pattern.repeated least most greedy, p.depth + 1⟩ :: parts)
  | _ => none

/-- A literal, or the class of all that differs from it in case only. -/
def literalPattern (flags : Flags) (c : Char) : Pattern :=
  .ofClass (flags.foldCase (.single c)) flags.unicode

/-- Any character, or any but line ends; only Unicode text has such a class. -/
def dotPattern (flags : Flags) : Option Pattern := do
  guard flags.unicode
  let ends : CharClass := if flags.dotAll then .empty
    else if flags.crlf then ⟨[(10, 10), (13, 13)]⟩ else ⟨[(10, 10)]⟩
  return .ofClass ends.complement true

def caret (flags : Flags) : Look :=
  if flags.multiLine then .lineStart flags.crlf else .textStart

def dollar (flags : Flags) : Look :=
  if flags.multiLine then .lineEnd flags.crlf else .textEnd

/-- What an escape outside brackets stands for. -/
def escapePattern (flags : Flags) : Escape → Pattern
  | .literal c => literalPattern flags c
  | .set set => .ofClass set flags.unicode
  | .look look => .look look

/-- What has been read so far: the flags in force and the group names in use. -/
structure State where
  flags : Flags
  names : List (List Char)

def isNameStart (c : Char) : Bool :=
  c == '_' || c.isAlpha || (128 ≤ c.toNat && CharClass.alphabetic.mem c.toNat)

def isNameChar (c : Char) : Bool :=
  isNameStart c || c.isDigit || c == '.' || c == '[' || c == ']' ||
    (128 ≤ c.toNat && CharClass.numeric.mem c.toNat)

/-- The name of a group up to its closing angle bracket; no two groups share a name. -/
def readName (state : State) (s : List Char) : Option (State × List Char) := do
  let name := s.takeWhile (· != '>')
  guard (name.length < s.length)
  guard (name.head?.any isNameStart && name.all isNameChar)
  guard !(state.names.contains name)
  return ({ state with names := name :: state.names }, s.drop (name.length + 1))

/-- How a group opens: a change of flags, or a body read under some flags, which may be reported on
its own. -/
inductive Opening where
  | flagsSet (flags : Flags)
  | group (flags : Flags) (reported : Bool)

/-- The opening of a group, after its parenthesis. -/
def readOpening (state : State) (s : List Char) : Option (Opening × State × List Char) :=
  let flags := state.flags
  match flags.skip s with
  | '?' :: '=' :: _ | '?' :: '!' :: _ | '?' :: '<' :: '=' :: _ | '?' :: '<' :: '!' :: _ => none
  | '?' :: 'P' :: '<' :: rest | '?' :: '<' :: rest => do
    let (state, rest) ← readName state rest
    return (.group flags true, state, rest)
  | '?' :: rest => do
    guard (rest.head? != some ')')
    let (changed, mark, rest) ← readFlags [] true false flags rest
    return (if mark = ')' then .flagsSet changed else .group changed false, state, rest)
  | rest => some (.group flags true, state, rest)

mutual

/-- Alternatives up to a closing parenthesis or the end. Groups lie one in another up to a given
depth. -/
def readAlternatives : Nat → Nat → State → List Char → Option (List Nested × State × List Char)
  | 0, _, _, _ => none
  | fuel + 1, room, state, s => do
    let (first, state, rest) ← readSequence fuel room state [] s
    match rest with
    | '|' :: rest =>
      let (others, state, rest) ← readAlternatives fuel room state rest
      return (first :: others, state, rest)
    | _ => return ([first], state, rest)

/-- The parts of one alternative; those read so far stand reversed. -/
def readSequence :
    Nat → Nat → State → List Part → List Char → Option (Nested × State × List Char)
  | 0, _, _, _, _ => none
  | fuel + 1, room, state, parts, s =>
    let flags := state.flags
    let continueWith (p : Pattern) (depth : Nat) (rest : List Char) :=
      readSequence fuel room state (.pattern ⟨p, depth⟩ :: parts) rest
    let repeated (least : Nat) (most : Option Nat) (rest : List Char) := do
      let (marked, rest) := readLazy rest
      readSequence fuel room state
        (← repeatLatest least most (marked == flags.lazyFirst) parts) rest
    match flags.skip s with
    | [] => some (sequenceOf parts, state, [])
    | '|' :: rest => some (sequenceOf parts, state, '|' :: rest)
    | ')' :: rest => some (sequenceOf parts, state, ')' :: rest)
    | '(' :: rest => do
      let (opening, state, rest) ← readOpening state rest
      match opening with
      | .flagsSet flags => readSequence fuel room { state with flags } (.flagsSet :: parts) rest
      | .group inner reported =>
        guard (0 < room)
        let (choices, after, rest) ←
          readAlternatives fuel (room - 1) { state with flags := inner } rest
        let body := choiceOf choices
        match rest with
        | ')' :: rest =>
          let group := if reported then .group body.pattern else body.pattern
          readSequence fuel room { after with flags }
            (.pattern ⟨group, body.depth + 1⟩ :: parts) rest
        | _ => none
    | '[' :: rest => do
      let (bracket, rest) ← readBracket flags (2 * rest.length + 2) nestingLimit rest
      continueWith (.ofClass bracket.set flags.unicode) bracket.depth rest
    | '*' :: rest => repeated 0 none rest
    | '+' :: rest => repeated 1 none rest
    | '?' :: rest => repeated 0 (some 1) rest
    | '\x7b' :: rest => do
      let ((least, most), rest) ← readBounds flags rest
      repeated least most (flags.skip rest)
    | '.' :: rest => do continueWith (← dotPattern flags) 0 rest
    | '^' :: rest => continueWith (.look (caret flags)) 0 rest
    | '$' :: rest => continueWith (.look (dollar flags)) 0 rest
    | '\\' :: rest => do
      let (escape, rest) ← readEscape flags rest
      continueWith (escapePattern flags escape) 0 rest
    | c :: rest => continueWith (literalPattern flags c) 0 rest

end

/-- Why a text is no pattern that can be used. -/
inductive Refusal where
  | malformed
  | tooLarge
  deriving DecidableEq, Repr

/-- What is said of a refused pattern. Of a malformed one only the first words are given: the
diagnostic goes on with an excerpt that points to the place of the mistake. -/
def Refusal.diagnostic : Refusal → String
  | .malformed => "regex parse error:"
  | .tooLarge => s!"Compiled regex exceeds size limit of {sizeLimit} bytes."

/-- The pattern that a text writes. -/
def parse (s : String) : Except Refusal Pattern :=
  let chars := s.toList
  match readAlternatives (2 * chars.length + 4) nestingLimit ⟨{}, []⟩ chars with
  | some (choices, _, []) =>
    let whole := choiceOf choices
    if nestingLimit < whole.depth then .error .malformed
    else if whole.pattern.fits then .ok whole.pattern
    else .error .tooLarge
  | _ => .error .malformed

end IssueFlow.Regex
