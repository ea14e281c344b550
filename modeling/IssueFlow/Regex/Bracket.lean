import IssueFlow.Regex.Escape

/-!
# Classes in brackets

A class in brackets lists characters, ranges, escapes and further classes, and joins such lists by
set operations.
-/

namespace IssueFlow.Regex

/-- A class and how deep its parts lie one in another. -/
structure Bracket where
  set : CharClass
  depth : Nat
  deriving Repr

/-- An operation on classes; all operations bind alike, from left to right. -/
inductive SetOp where
  | inter
  | difference
  | symmetric
  deriving DecidableEq, Repr

def SetOp.apply : SetOp → CharClass → CharClass → CharClass
  | .inter => .inter
  | .difference => .difference
  | .symmetric => .symmetric

/-- A list of items in brackets, so far. -/
structure Items where
  set : CharClass := .empty
  count : Nat := 0
  depth : Nat := 0

def Items.add (items : Items) (item : Bracket) : Items :=
  ⟨items.set.union item.set, items.count + 1, max items.depth item.depth⟩

/-- The class of the items; more than one lie in a list of their own. -/
def Items.close (items : Items) : Bracket :=
  ⟨items.set, if 2 ≤ items.count then items.depth + 1 else items.depth⟩

/-- The left side of an operation that waits for its right side. -/
structure Waiting where
  op : SetOp
  left : Bracket

/-- Carries out the operation that waits for a class, if there is one. -/
def joinWaiting (flags : Flags) (waiting : Option Waiting) (right : Bracket) : Bracket :=
  match waiting with
  | none => right
  | some ⟨op, left⟩ =>
    ⟨op.apply (flags.foldCase left.set) (flags.foldCase right.set), max left.depth right.depth + 1⟩

/-- One character or escape. -/
def readItem (flags : Flags) : List Char → Option (Escape × List Char)
  | [] => none
  | '\\' :: rest => readEscape flags rest
  | c :: rest => some (.literal c, rest)

/-- The character that a look ahead past white space sees. It goes past one sign of a comment and
does not know where comments end; where nothing else follows it sees the first character. -/
def peek? (flags : Flags) (s : List Char) : Option Char :=
  if !flags.spaced then s.head?
  else
    let afterSign := match Text.dropBlank s with
      | '#' :: rest => Text.dropBlank rest
      | rest => rest
    afterSign.head?.or s.head?

/-- Whether a hyphen follows that makes a range: not the last character of the class, and no part of
an operation. -/
def isRange (flags : Flags) : List Char → Bool
  | '-' :: rest => peek? flags rest != some ']' && peek? flags rest != some '-'
  | _ => false

/-- A character that a class may list; outside Unicode only ASCII. -/
def listable? (flags : Flags) : Escape → Option Char
  | .literal c => if flags.unicode || c.toNat < 128 then some c else none
  | _ => none

/-- A range, or a single item. -/
def readRange (flags : Flags) (s : List Char) : Option (CharClass × List Char) := do
  let (first, rest) ← readItem flags s
  let rest := flags.skip rest
  if isRange flags rest then
    let (last, rest) ← readItem flags (flags.skip (rest.drop 1))
    let low ← listable? flags first
    let high ← listable? flags last
    guard (low ≤ high)
    return (⟨[(low.toNat, high.toNat)]⟩, rest)
  else
    match first with
    | .set set => return (set, rest)
    | first => return (.single (← listable? flags first), rest)

/-- A class such as `[:alpha:]`, after its opening bracket. -/
def readNamed (s : List Char) : Option ((CharClass × Bool) × List Char) := do
  match s with
  | ':' :: rest =>
    let (negated, rest) := match rest with
      | '^' :: rest => (true, rest)
      | rest => (false, rest)
    let name := rest.takeWhile (· != ':')
    match rest.drop name.length with
    | ':' :: ']' :: after =>
      return ((← CharClass.asciiNamed? (String.ofList name), negated), after)
    | _ => none
  | _ => none

/-- The hyphens at the start of a class stand for themselves, and so does a closing bracket that is
its first character. -/
def readStart (flags : Flags) (s : List Char) : Items × List Char :=
  let (hyphens, rest) := flags.run (· == '-') s
  match hyphens, rest with
  | [], ']' :: rest => (({} : Items).add ⟨.single ']', 0⟩, rest)
  | hyphens, rest => (hyphens.foldl (fun items _ => items.add ⟨.single '-', 0⟩) {}, rest)

mutual

/-- A class after its opening bracket. Classes lie one in another up to a given depth. -/
def readBracket (flags : Flags) : Nat → Nat → List Char → Option (Bracket × List Char)
  | 0, _, _ => none
  | fuel + 1, room, s => do
    guard (0 < room)
    let (negated, s) := match flags.skip s with
      | '^' :: rest => (true, flags.skip rest)
      | s => (false, s)
    let (items, s) := readStart flags s
    let (inner, s) ← readItems flags fuel (room - 1) none items s
    return (⟨← flags.complementIf? negated (flags.foldCase inner.set), inner.depth + 1⟩, s)

/-- The items of a class up to its closing bracket. -/
def readItems (flags : Flags) :
    Nat → Nat → Option Waiting → Items → List Char → Option (Bracket × List Char)
  | 0, _, _, _, _ => none
  | fuel + 1, room, waiting, items, s =>
    let operation (op : SetOp) (rest : List Char) :=
      readItems flags fuel room (some ⟨op, joinWaiting flags waiting items.close⟩) {} rest
    match flags.skip s with
    | [] => none
    | ']' :: rest => some (joinWaiting flags waiting items.close, rest)
    | '[' :: rest =>
      match readNamed rest with
      | some ((set, negated), rest) => do
        let set ← flags.complementIf? negated (flags.foldCase set)
        readItems flags fuel room waiting (items.add ⟨set, 0⟩) rest
      | none => do
        let (inner, rest) ← readBracket flags fuel room rest
        readItems flags fuel room waiting (items.add inner) rest
    | '&' :: '&' :: rest => operation .inter rest
    | '-' :: '-' :: rest => operation .difference rest
    | '~' :: '~' :: rest => operation .symmetric rest
    | s => do
      let (set, rest) ← readRange flags s
      readItems flags fuel room waiting (items.add ⟨set, 0⟩) rest

end

end IssueFlow.Regex
