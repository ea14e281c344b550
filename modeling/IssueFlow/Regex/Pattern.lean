import IssueFlow.CharClass.Property

/-!
# Patterns

A pattern describes texts. Patterns are built by functions that keep them in a normal form: no part
of a sequence is empty or a sequence itself, neighbouring literals are one literal, a class of one
character is a literal, and alternatives that begin alike have what they share in front of them.
-/

namespace IssueFlow.Regex

/-- A condition on a place in the text that consumes nothing. The edges of words depend on what the
characters of words are. -/
inductive Look where
  | textStart
  | textEnd
  /-- After a line feed; `crlf` takes carriage returns and their pairs as line ends too. -/
  | lineStart (crlf : Bool)
  | lineEnd (crlf : Bool)
  | wordEdge (word : CharClass)
  | notWordEdge (word : CharClass)
  | wordStart (word : CharClass)
  | wordEnd (word : CharClass)
  | wordStartHalf (word : CharClass)
  | wordEndHalf (word : CharClass)
  deriving DecidableEq, Repr

inductive Pattern where
  | empty
  /-- A text of at least one character. -/
  | literal (text : List Char)
  /-- A character of a class, written with or without regard to Unicode. -/
  | one (set : CharClass) (unicode : Bool)
  | look (condition : Look)
  /-- At least `least` copies, and at most `most` if that is given. -/
  | times (body : Pattern) (least : Nat) (most : Option Nat) (greedy : Bool)
  /-- A part that is reported on its own. -/
  | group (body : Pattern)
  | seq (parts : List Pattern)
  | alt (choices : List Pattern)
  deriving Repr, Inhabited

namespace Pattern

/-- The pattern that matches nothing. -/
def never : Pattern := .one .empty false

mutual

/-- Whether two patterns are written alike. Groups are told apart even then. -/
def same : Pattern → Pattern → Bool
  | .empty, .empty => true
  | .literal a, .literal b => a == b
  | .one a u, .one b v => a == b && u == v
  | .look a, .look b => a == b
  | .times a least most greedy, .times b least' most' greedy' =>
    least == least' && most == most' && greedy == greedy' && a.same b
  | .seq as, .seq bs => sameAll as bs
  | .alt as, .alt bs => sameAll as bs
  | _, _ => false

def sameAll : List Pattern → List Pattern → Bool
  | [], [] => true
  | a :: as, b :: bs => a.same b && sameAll as bs
  | _, _ => false

end

mutual

/-- The number of characters of the shortest match, if no part matches nothing at all. -/
def leastLength : Pattern → Option Nat
  | .empty | .look _ => some 0
  | .literal text => some text.length
  | .one set _ => if set.isEmpty then none else some 1
  | .times body least _ _ => body.leastLength.map (· * least)
  | .group body => body.leastLength
  | .seq parts => (leastLengths parts).map List.sum
  | .alt choices => (leastLengths choices).bind List.min?

def leastLengths : List Pattern → Option (List Nat)
  | [] => some []
  | p :: ps => do return (← p.leastLength) :: (← leastLengths ps)

end

mutual

/-- The number of characters of the longest match, if there is a bound and no part matches nothing
at all. -/
def mostLength : Pattern → Option Nat
  | .empty | .look _ => some 0
  | .literal text => some text.length
  | .one set _ => if set.isEmpty then none else some 1
  | .times body _ most _ => do return (← body.mostLength) * (← most)
  | .group body => body.mostLength
  | .seq parts => (mostLengths parts).map List.sum
  | .alt choices => (mostLengths choices).bind List.max?

def mostLengths : List Pattern → Option (List Nat)
  | [] => some []
  | p :: ps => do return (← p.mostLength) :: (← mostLengths ps)

end

/-- Whether a pattern matches at most the empty text. -/
def isWeightless (p : Pattern) : Bool := p.mostLength == some 0

def ofClass (set : CharClass) (unicode : Bool) : Pattern :=
  if set.isEmpty then never
  else
    match set.only? with
    | some c => .literal [c]
    | none => .one set unicode

/-- Copies of a pattern. What matches at most the empty text need not be repeated. -/
def repeated (body : Pattern) (least : Nat) (most : Option Nat) (greedy : Bool) : Pattern :=
  let (least, most) :=
    if body.isWeightless then (min least 1, some (min (most.getD 1) 1)) else (least, most)
  if most = some 0 ∧ least = 0 then .empty
  else if most = some 1 ∧ least = 1 then body
  else .times body least most greedy

/-- Puts a part in front of a sequence. -/
def push : Pattern → List Pattern → List Pattern
  | .literal a, .literal b :: rest => .literal (a ++ b) :: rest
  | p, rest => p :: rest

/-- The parts of a pattern as a sequence. -/
def parts : Pattern → List Pattern
  | .empty => []
  | .seq parts => parts
  | p => [p]

/-- One pattern after the other. -/
def sequence (patterns : List Pattern) : Pattern :=
  match (patterns.flatMap parts).foldr push [] with
  | [] => .empty
  | [p] => p
  | ps => .seq ps

/-- The choices of a pattern. -/
def choices : Pattern → List Pattern
  | .alt choices => choices
  | p => [p]

/-- The class of literals of one character each. -/
def charsOf? (patterns : List Pattern) : Option CharClass := do
  let chars ← patterns.mapM fun
    | .literal [c] => some c
    | _ => none
  return .ofRanges (chars.map fun c => (c.toNat, c.toNat))

/-- The union of classes. -/
def classOf? (patterns : List Pattern) : Option CharClass := do
  let sets ← patterns.mapM fun
    | .one set _ => some set
    | _ => none
  return sets.foldl CharClass.union .empty

/-- How many parts two sequences have in common at their start. -/
def commonLength : List Pattern → List Pattern → Nat
  | a :: as, b :: bs => if a.same b then commonLength as bs + 1 else 0
  | _, _ => 0

/-- The sequences that all of the patterns are. -/
def sequences? (patterns : List Pattern) : Option (List (List Pattern)) :=
  patterns.mapM fun
    | .seq parts => some parts
    | _ => none

mutual

def nodes : Pattern → Nat
  | .empty | .literal _ | .one _ _ | .look _ => 1
  | .times body _ _ _ => body.nodes + 1
  | .group body => body.nodes + 1
  | .seq parts => nodesAll parts + 1
  | .alt choices => nodesAll choices + 1

def nodesAll : List Pattern → Nat
  | [] => 0
  | p :: ps => p.nodes + nodesAll ps

end

/-- One of several patterns. What all of them begin with is put in front, and again with what then
remains, as often as the first number allows. -/
def choiceWithin : Nat → List Pattern → Pattern
  | 0, patterns => .alt patterns
  | room + 1, patterns =>
    match patterns.flatMap choices with
    | [] => never
    | [p] => p
    | p :: ps =>
      match charsOf? (p :: ps), classOf? (p :: ps), sequences? (p :: ps) with
      | some set, _, _ | none, some set, _ => ofClass set true
      | none, none, some (first :: others) =>
        let shared := (others.map (commonLength first)).foldl min first.length
        if shared = 0 then .alt (p :: ps)
        else
          let rests := (first :: others).map fun parts => sequence (parts.drop shared)
          sequence (first.take shared ++ [choiceWithin room rests])
      | _, _, _ => .alt (p :: ps)

/-- One of several patterns. Each time that something is put in front, fewer parts remain. -/
def choice (patterns : List Pattern) : Pattern :=
  choiceWithin (nodesAll patterns + 1) patterns

/-- Whether a condition stands among the first parts, up to the first one that has a length. Each
part is given by whether it holds the condition and whether it matches at most the empty text. -/
def anyLeading : List (Bool × Bool) → Bool
  | [] => false
  | (holds, isWeightless) :: rest => holds || (isWeightless && anyLeading rest)

mutual

/-- Whether every match begins with a condition, or ends with it when read backward. -/
def requires (condition : Look) (backward : Bool) : Pattern → Bool
  | .look c => c == condition
  | .times body least _ _ => 0 < least && body.requires condition backward
  | .group body => body.requires condition backward
  | .seq parts =>
    let facts := partsRequire condition backward parts
    anyLeading (if backward then facts.reverse else facts)
  | .alt choices => (partsRequire condition backward choices).all Prod.fst
  | .empty | .literal _ | .one _ _ => false

def partsRequire (condition : Look) (backward : Bool) : List Pattern → List (Bool × Bool)
  | [] => []
  | p :: ps => (p.requires condition backward, p.isWeightless) ::
    partsRequire condition backward ps

end

end Pattern

end IssueFlow.Regex
