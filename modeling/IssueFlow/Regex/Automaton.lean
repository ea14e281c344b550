import IssueFlow.Regex.Pattern
import IssueFlow.Regex.Utf8
import Std.Data.HashMap

/-!
# Automata

A pattern is carried out by automata over bytes, one that reads forward and one that reads backward.
Repetitions are written out in them, so that a short pattern may need a large automaton. Here
automata are not built but measured: states are counted in the order in which they are made, and
none is made beyond the limit.
-/

namespace IssueFlow.Regex

/-- The bytes that an automaton may take. -/
def sizeLimit : Nat := 10 * 1024 * 1024

/-- The bytes of a state apart from its links. -/
def stateBytes : Nat := 32

/-- The bytes of a link that is taken when a range of bytes is read. -/
def rangeLinkBytes : Nat := 8

/-- The bytes of a link that is taken without reading. -/
def freeLinkBytes : Nat := 4

/-- What has been made of an automaton. -/
structure Extent where
  states : Nat
  bytes : Nat
  deriving DecidableEq, Repr

/-- A step in making an automaton; it has no result where the limit is passed. -/
abbrev Build := StateT Extent Option

namespace Build

/-- Makes a state with links of a given size. States are numbered as they are made. -/
def state (links : Nat) : Build Nat := fun made =>
  let bytes := made.bytes + stateBytes + links
  if bytes ≤ sizeLimit then some (made.states, ⟨made.states + 1, bytes⟩) else none

/-- Adds links to a state that was made before. -/
def link (links : Nat) : Build Unit := fun made =>
  let bytes := made.bytes + links
  if bytes ≤ sizeLimit then some ((), { made with bytes }) else none

/-- The last state of a part: a state that chooses takes one more link for what follows. -/
inductive End where
  | plain
  | choosing
  deriving DecidableEq, Repr

/-- Leads from the end of a part to what follows it. -/
def follow : End → Build Unit
  | .plain => pure ()
  | .choosing => link freeLinkBytes

def plainState (links : Nat) : Build End := do
  let _ ← state links
  return .plain

/-- One round of the FNV-1a hash. -/
def hashStep (hash : UInt64) (n : Nat) : UInt64 := (hash ^^^ n.toUInt64) * 1099511628211

/-- The slot of a table into which numbers fall. -/
def slotOf (slots : Nat) (numbers : List Nat) : Nat :=
  (numbers.foldl hashStep 14695981039346656037).toNat % slots

/-- Links by the ranges of bytes that are read, with the number of the state to which each leads. -/
abbrev RangeLinks := List (ByteRange × Nat)

/-- States known by their links. Of two that fall into one slot the later is kept. -/
abbrev KnownStates := Std.HashMap Nat (RangeLinks × Nat)

/-- The number of slots for states that are known by their links. -/
def knownSlots : Nat := 10000

/-- A state with these links: one that is known, or a new one. -/
def shared (links : RangeLinks) : StateT KnownStates Build Nat := fun known => do
  let slot := slotOf knownSlots (links.flatMap fun (range, next) => [range.1, range.2, next])
  match known[slot]? with
  | some (others, n) =>
    if others = links then return (n, known)
    let n ← state (rangeLinkBytes * links.length)
    return (n, known.insert slot (links, n))
  | none =>
    let n ← state (rangeLinkBytes * links.length)
    return (n, known.insert slot (links, n))

/-- Neighbouring sequences with the same first range, and what follows it in each. -/
def byFirst : List (List ByteRange) → List (ByteRange × List (List ByteRange))
  | [] => []
  | [] :: rest => byFirst rest
  | (range :: tail) :: rest =>
    match byFirst rest with
    | (other, tails) :: more =>
      if other = range then (other, tail :: tails) :: more
      else (range, [tail]) :: (other, tails) :: more
    | [] => [(range, [tail])]

/-- The state from which sequences of at most a given length lead to a last state. -/
def sequencesTo (last : Nat) : Nat → List (List ByteRange) → StateT KnownStates Build Nat
  | 0, _ => pure last
  | length + 1, sequences => do
    if sequences.all List.isEmpty then return last
    let links ← (byFirst sequences).mapM fun (range, tails) => do
      return (range, ← sequencesTo last length tails)
    shared links

/-- The links of a path that has been laid: from a state by a range to a state. -/
abbrev KnownPaths := Std.HashMap Nat ((Nat × ByteRange) × Nat)

/-- The number of slots for paths. -/
def pathSlots : Nat := 1000

/-- The state before another one by a range: one that is known, or a new one. -/
def before (next : Nat) (range : ByteRange) : StateT KnownPaths Build Nat := fun known => do
  let slot := slotOf pathSlots [next, range.1, range.2]
  match known[slot]? with
  | some (key, n) =>
    if key = (next, range) then return (n, known)
    let n ← state 0
    return (n, known.insert slot ((next, range), n))
  | none =>
    let n ← state 0
    return (n, known.insert slot ((next, range), n))

/-- A character of a class. Forward its sequences share their ends, backward their starts. -/
def character (backward : Bool) (set : CharClass) : Build End := do
  if set.isAscii then
    let _ ← state 0
    plainState (rangeLinkBytes * set.ranges.length)
  else if backward then
    let _ ← state 0
    let last ← state 0
    let paths : StateT KnownPaths Build Unit := (byteSequences set).forM fun sequence => do
      let _ ← sequence.foldlM before last
      link freeLinkBytes
    let _ ← paths.run ∅
    return .plain
  else
    let last ← state 0
    let _ ← (sequencesTo last 4 (byteSequences set)).run ∅
    return .plain

def literalBytes (text : List Char) : List Nat := text.flatMap fun c => bytesOf c.toNat

/-- One state for each byte. -/
def bytes : Nat → Build End
  | 0 => pure .plain
  | n + 1 => do
    let _ ← state 0
    bytes n

/-- The remainders of words at a place that they share, cut where a word ends there. A word that
ends where nothing has gone on yet cuts once only. -/
def cutAtEnds (hasEnded hasGoneOn : Bool) : List (List Nat) → List (List (Nat × List Nat))
  | [] => [[]]
  | [] :: rest =>
    if hasEnded && !hasGoneOn then cutAtEnds true false rest
    else [] :: cutAtEnds true hasGoneOn rest
  | (byte :: tail) :: rest =>
    match cutAtEnds hasEnded true rest with
    | chunk :: more => ((byte, tail) :: chunk) :: more
    | [] => [[(byte, tail)]]

/-- Adds a word to those with the same first byte. -/
def addWord (byte : Nat) (tail : List Nat) : List (Nat × List (List Nat)) →
    List (Nat × List (List Nat))
  | [] => [(byte, [tail])]
  | (other, tails) :: rest =>
    if other = byte then (other, tail :: tails) :: rest
    else (other, tails) :: addWord byte tail rest

/-- The states of the tree of words of at most a given length: one for each choice between bytes,
and one that chooses between these and the end. -/
def wordTree : Nat → List (List Nat) → Build Unit
  | 0, _ => pure ()
  | length + 1, words => do
    let chunks := cutAtEnds false false words
    let branches := (chunks.map fun chunk =>
      chunk.foldr (fun (byte, tail) branches => addWord byte tail branches) []).filter
        fun branches => !branches.isEmpty
    branches.forM fun branches => do
      branches.forM fun (_, tails) => do
        if tails.any fun tail => !tail.isEmpty then wordTree length tails
      let _ ← state (if branches.length = 1 then 0 else rangeLinkBytes * branches.length)
    let _ ← state (freeLinkBytes * (branches.length + (chunks.length - 1)))

/-- The bytes of all patterns, if all of them are literals. -/
def words? (backward : Bool) (patterns : List Pattern) : Option (List (List Nat)) :=
  patterns.mapM fun
    | .literal text =>
      let bytes := literalBytes text
      some (if backward then bytes.reverse else bytes)
    | _ => none

/-- A choice between words. -/
def oneOfWords (words : List (List Nat)) : Build End := do
  let _ ← state 0
  wordTree ((words.map List.length).foldl max 0) words
  return .plain

/-- Parts after one another, at least one of them. -/
def inTurn : List (Build End) → Build End
  | [] => plainState 0
  | first :: rest => do
    let after (last : End) (part : Build End) : Build End := do
      let next ← part
      follow last
      return next
    rest.foldlM after (← first)

/-- More copies of a part after its last state. -/
def moreCopies (part : Build End) : Nat → End → Build End
  | 0, last => pure last
  | n + 1, last => do
    let next ← part
    follow last
    moreCopies part n next

def copies (part : Build End) : Nat → Build End
  | 0 => plainState 0
  | n + 1 => do moreCopies part n (← part)

/-- Copies that may be left out, each within the one before it. -/
def optionalCopies (part : Build End) : Nat → End → Build End
  | 0, last => pure last
  | n + 1, last => do
    let _ ← state (2 * freeLinkBytes)
    let next ← part
    follow last
    optionalCopies part n next

/-- Any number of copies of a part, which may match the empty text. -/
def anyCopies (part : Build End) (mayBeEmpty : Bool) : Build End := do
  if mayBeEmpty then
    let last ← part
    let _ ← state (2 * freeLinkBytes)
    follow last
    let _ ← state (2 * freeLinkBytes)
    plainState 0
  else
    let _ ← state freeLinkBytes
    follow (← part)
    return .choosing

/-- At least a number of copies, with a link from the end of the last one to its start. -/
def endlessCopies (part : Build End) : Nat → Build End
  | 0 => do
    let last ← part
    let _ ← state freeLinkBytes
    follow last
    return .choosing
  | n + 1 => do
    let last ← copies part (n + 1)
    let next ← part
    let _ ← state freeLinkBytes
    follow last
    follow next
    return .choosing

/-- The copies of a part that a repetition asks for. -/
def repetition (part : Build End) (mayBeEmpty : Bool) (least : Nat) : Option Nat → Build End
  | none =>
    match least with
    | 0 => anyCopies part mayBeEmpty
    | n + 1 => endlessCopies part n
  | some most => do
    if most = least then copies part least
    else if least = 0 ∧ most = 1 then
      let _ ← state (2 * freeLinkBytes)
      follow (← part)
      plainState 0
    else
      let last ← copies part least
      let _ ← state 0
      follow (← optionalCopies part (most - least) last)
      return .plain

/-- A choice between parts, of which there are at least two. -/
def oneOf (parts : List (Build End)) : Build End := do
  let ends ← parts.take 2 |>.mapM id
  let _ ← state (freeLinkBytes * parts.length)
  let _ ← state 0
  ends.forM follow
  (parts.drop 2).forM fun part => do follow (← part)
  return .plain

mutual

/-- The states for a pattern. Groups are told apart forward only. -/
def pattern (backward : Bool) : Pattern → Build End
  | .empty => plainState 0
  | .literal text => bytes (literalBytes text).length
  | .one set _ => character backward set
  | .look _ => plainState 0
  | .times body least most _ =>
    repetition (pattern backward body) (body.leastLength.all (· == 0)) least most
  | .group body => do
    if backward then pattern backward body
    else
      let _ ← state 0
      let last ← pattern backward body
      let _ ← state 0
      follow last
      return .plain
  | .seq parts =>
    let parts := patterns backward parts
    inTurn (if backward then parts.reverse else parts)
  | .alt choices =>
    match words? backward choices with
    | some words => oneOfWords words
    | none => oneOf (patterns backward choices)

def patterns (backward : Bool) : List Pattern → List (Build End)
  | [] => []
  | p :: ps => pattern backward p :: patterns backward ps

end

/-- The automaton of a pattern. One that does not start at a fixed place begins with any number of
bytes. Forward the match is a group of its own. -/
def automaton (backward : Bool) (p : Pattern) : Build Unit := do
  if p.requires (if backward then .textEnd else .textStart) backward then
    let _ ← state 0
  else
    let _ ← state (2 * freeLinkBytes)
    let _ ← state 0
    let _ ← state rangeLinkBytes
  let last ← pattern backward (if backward then p else .group p)
  let _ ← state 0
  follow last

end Build

/-- The least number of words for which a choice between them is carried out without automata. -/
def manyWords : Nat := 3000

/-- Whether a pattern is a choice between many literals. -/
def Pattern.isWordList : Pattern → Bool
  | .alt choices => manyWords ≤ choices.length && (Build.words? false choices).isSome
  | _ => false

/-- Whether both automata of a pattern keep within the limit. -/
def Pattern.fits (p : Pattern) : Bool :=
  p.isWordList || [false, true].all fun backward => (Build.automaton backward p ⟨0, 0⟩).isSome

end IssueFlow.Regex
