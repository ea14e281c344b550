import IssueFlow.Text.Scan

/-!
# Classes of characters

A class is a list of ranges of code points in ascending order that do not touch. Terms describe
classes by tables of ranges and by operations on other classes.
-/

namespace IssueFlow

/-- A class of characters: its ranges of code points, both ends included. -/
structure CharClass where
  ranges : List (Nat × Nat)
  deriving DecidableEq, Repr, Inhabited

namespace CharClass

def mem (a : CharClass) (n : Nat) : Bool :=
  a.ranges.any fun (low, high) => low ≤ n && n ≤ high

def empty : CharClass := ⟨[]⟩

def single (c : Char) : CharClass := ⟨[(c.toNat, c.toNat)]⟩

/-- The last code point. -/
def lastPoint : Nat := 0x10ffff

def all : CharClass := ⟨[(0, lastPoint)]⟩

def isEmpty (a : CharClass) : Bool := a.ranges.isEmpty

/-- The character of a class that has one only. -/
def only? (a : CharClass) : Option Char :=
  match a.ranges with
  | [(low, high)] => if low = high then Text.char? low else none
  | _ => none

/-- Whether all members are ASCII characters. -/
def isAscii (a : CharClass) : Bool :=
  a.ranges.all fun (_, high) => high < 128

/-- Joins the ranges that overlap or touch; they come in ascending order after a first one. -/
def joinFrom (low high : Nat) : List (Nat × Nat) → List (Nat × Nat)
  | [] => [(low, high)]
  | (a, b) :: rest =>
    if a ≤ high + 1 then joinFrom low (max high b) rest else (low, high) :: joinFrom a b rest

def join : List (Nat × Nat) → List (Nat × Nat)
  | [] => []
  | (a, b) :: rest => joinFrom a b rest

def isBefore (r s : Nat × Nat) : Bool :=
  r.1 < s.1 || (r.1 == s.1 && r.2 ≤ s.2)

/-- The class of ranges in any order. -/
def ofRanges (ranges : List (Nat × Nat)) : CharClass := ⟨join (ranges.mergeSort isBefore)⟩

def union (a b : CharClass) : CharClass := ⟨join (List.merge a.ranges b.ranges isBefore)⟩

/-- What two ranges have in common. -/
def meet? (r s : Nat × Nat) : Option (Nat × Nat) :=
  let low := max r.1 s.1
  let high := min r.2 s.2
  if low ≤ high then some (low, high) else none

def inter (a b : CharClass) : CharClass :=
  ⟨a.ranges.flatMap fun r => b.ranges.filterMap (meet? r)⟩

/-- The point after one that is not the last. No character lies between D7FF and E000. -/
def next (n : Nat) : Nat := if n = 0xd7ff then 0xe000 else n + 1

/-- The point before one that is not the first. -/
def previous (n : Nat) : Nat := if n = 0xe000 then 0xd7ff else n - 1

/-- What remains of a range when ascending ranges are taken out of it. -/
def cut (low high : Nat) : List (Nat × Nat) → List (Nat × Nat)
  | [] => [(low, high)]
  | (a, b) :: rest =>
    if b < low then cut low high rest
    else if high < a then [(low, high)]
    else (if low < a then [(low, previous a)] else []) ++
      (if b < high then cut (next b) high rest else [])

def difference (a b : CharClass) : CharClass :=
  ⟨a.ranges.flatMap fun (low, high) => cut low high b.ranges⟩

def symmetric (a b : CharClass) : CharClass := (a.union b).difference (a.inter b)

/-- The range of two points in any order. -/
def between (a b : Nat) : Nat × Nat := (min a b, max a b)

/-- The gaps after a range that ends at `high`, between the ranges that follow and after them. -/
def gapsAfter (high : Nat) : List (Nat × Nat) → List (Nat × Nat)
  | [] => if high < lastPoint then [(next high, lastPoint)] else []
  | (a, b) :: rest => between (next high) (previous a) :: gapsAfter b rest

def complement (a : CharClass) : CharClass :=
  match a.ranges with
  | [] => all
  | (low, high) :: rest =>
    ⟨(if 0 < low then [(0, previous low)] else []) ++ gapsAfter high rest⟩

def complementIf (negated : Bool) (a : CharClass) : CharClass :=
  if negated then a.complement else a

/-- The entries of a table, which stand between blanks and line ends. -/
def tableWords (table : String) : List (List Char) :=
  (table.toList.splitOnP fun c => c == ' ' || c == '\n').filter fun word => !word.isEmpty

/-- The ranges that a table lists in hexadecimal, with a hyphen between two bounds. -/
def readRanges (table : String) : List (Nat × Nat) :=
  (tableWords table).filterMap fun word =>
    match word.splitOn '-' with
    | [a] => some (Text.numberIn 16 a, Text.numberIn 16 a)
    | [a, b] => some (Text.numberIn 16 a, Text.numberIn 16 b)
    | _ => none

/-- The description of a class. -/
inductive Term where
  /-- Ascending ranges. -/
  | table (ranges : String)
  /-- Code points in any order, with blanks or colons between them. -/
  | points (listed : String)
  | union (a b : Term)
  | inter (a b : Term)
  | minus (a b : Term)
  | complement (a : Term)
  deriving Repr, Inhabited

namespace Term

instance : Union Term := ⟨union⟩

instance : Inter Term := ⟨inter⟩

/-- The class that a term describes. -/
def eval : Term → CharClass
  | table ranges => ⟨readRanges ranges⟩
  | points listed => ofRanges <| (tableWords listed).flatMap fun word =>
    (word.splitOn ':').map fun digits => (Text.numberIn 16 digits, Text.numberIn 16 digits)
  | union a b => a.eval.union b.eval
  | inter a b => a.eval.inter b.eval
  | minus a b => a.eval.difference b.eval
  | complement a => a.eval.complement

end Term

/-- The term that is listed under a name; an entry has its names and its ranges. -/
def listed? (name : String) (entries : List (String × String)) : Option Term :=
  (entries.find? fun entry => (tableWords entry.1).contains name.toList).map
    fun entry => .table entry.2

end CharClass

end IssueFlow
