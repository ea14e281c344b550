import IssueFlow.Regex.Pattern

/-!
# Matching

A pattern relates the place where a match starts to the places where it can end. A text matches
when some place starts a match.
-/

namespace IssueFlow.Regex

/-- The character before a place. -/
def before? (text : Array Char) (place : Nat) : Option Char :=
  if place = 0 then none else text[place - 1]?

def Look.holds (text : Array Char) (place : Nat) (look : Look) : Bool :=
  let previous := before? text place
  let next := text[place]?
  let isIn (word : CharClass) (c : Option Char) : Bool := c.any fun c => word.mem c.toNat
  match look with
  | .textStart => place == 0
  | .textEnd => place == text.size
  | .lineStart false => place == 0 || previous == some '\n'
  | .lineEnd false => place == text.size || next == some '\n'
  | .lineStart true =>
    place == 0 || previous == some '\n' || (previous == some '\r' && next != some '\n')
  | .lineEnd true =>
    place == text.size || next == some '\r' || (next == some '\n' && previous != some '\r')
  | .wordEdge word => isIn word previous != isIn word next
  | .notWordEdge word => isIn word previous == isIn word next
  | .wordStart word => !isIn word previous && isIn word next
  | .wordEnd word => isIn word previous && !isIn word next
  | .wordStartHalf word => !isIn word previous
  | .wordEndHalf word => !isIn word next

/-- The place after a literal that stands at a place. -/
def afterLiteral? (text : Array Char) : List Char → Nat → Option Nat
  | [], place => some place
  | c :: rest, place => if text[place]? = some c then afterLiteral? text rest (place + 1) else none

/-- The union of two ascending lists of places. -/
def mergePlaces : List Nat → List Nat → List Nat
  | [], ys => ys
  | xs, [] => xs
  | x :: xs, y :: ys =>
    if x < y then x :: mergePlaces xs (y :: ys)
    else if y < x then y :: mergePlaces (x :: xs) ys
    else x :: mergePlaces xs ys

/-- Applies a step a number of times, or until it changes nothing. -/
def repeatStep (step : List Nat → List Nat) : Nat → List Nat → List Nat
  | 0, places => places
  | n + 1, places =>
    let more := step places
    if more = places then places else repeatStep step n more

/-- All places that at most a number of steps reach. -/
def reachable (step : List Nat → List Nat) : Nat → List Nat → List Nat
  | 0, places => places
  | n + 1, places =>
    let more := mergePlaces places (step places)
    if more = places then places else reachable step n more

mutual

/-- The places where a match can end that starts at one of the given places. Among more copies than
the text has characters one matches the empty text, and it may be repeated or left out. -/
def Pattern.ends (text : Array Char) : Pattern → List Nat → List Nat
  | .empty, places => places
  | .literal chars, places => places.filterMap (afterLiteral? text chars)
  | .one set _, places => places.filterMap fun place =>
    match text[place]? with
    | some c => if set.mem c.toNat then some (place + 1) else none
    | none => none
  | .look condition, places => places.filter (condition.holds text)
  | .times body least most _, places =>
    let start := repeatStep (body.ends text) (min least (text.size + 1)) places
    let extra := match most with
      | some most => most - least
      | none => text.size + 1
    reachable (body.ends text) extra start
  | .group body, places => body.ends text places
  | .seq parts, places => endsInTurn text parts places
  | .alt choices, places => endsOfAny text choices places

def endsInTurn (text : Array Char) : List Pattern → List Nat → List Nat
  | [], places => places
  | p :: ps, places => endsInTurn text ps (p.ends text places)

def endsOfAny (text : Array Char) : List Pattern → List Nat → List Nat
  | [], _ => []
  | p :: ps, places => mergePlaces (p.ends text places) (endsOfAny text ps places)

end

/-- Whether the pattern matches somewhere in the text. -/
def Pattern.isMatch (pattern : Pattern) (text : String) : Bool :=
  let chars := text.toList.toArray
  !(pattern.ends chars (List.range (chars.size + 1))).isEmpty

end IssueFlow.Regex
