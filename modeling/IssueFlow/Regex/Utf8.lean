import IssueFlow.CharClass.Basic

/-!
# Bytes of characters

The encoding of characters in bytes, and the sequences of byte ranges that stand for a range of
characters.
-/

namespace IssueFlow.Regex

/-- The bytes that encode a code point. -/
def bytesOf (n : Nat) : List Nat :=
  if n < 0x80 then [n]
  else if n < 0x800 then [0xc0 + n / 0x40, 0x80 + n % 0x40]
  else if n < 0x10000 then [0xe0 + n / 0x1000, 0x80 + n / 0x40 % 0x40, 0x80 + n % 0x40]
  else [0xf0 + n / 0x40000, 0x80 + n / 0x1000 % 0x40, 0x80 + n / 0x40 % 0x40, 0x80 + n % 0x40]

abbrev ByteRange := Nat × Nat

/-- Where a range is to be cut: after the last point before the gap, after the last point of each
length of encoding, and where the bounds do not fill all that follows their common bytes. -/
def cutPoint? (low high : Nat) : Option Nat :=
  let afterLength := [0x7f, 0x7ff, 0xffff].find? fun last => low ≤ last && last < high
  let afterBytes := [0x40, 0x1000, 0x40000].findSome? fun size =>
    if low / size = high / size then none
    else if low % size ≠ 0 then some (low / size * size + (size - 1))
    else if high % size ≠ size - 1 then some (high / size * size - 1)
    else none
  afterLength.or (if high < 0x80 then none else afterBytes)

/-- Cuts a range until each piece is one sequence of byte ranges. -/
def pieces : Nat → Nat → Nat → List (List ByteRange)
  | 0, _, _ => []
  | fuel + 1, low, high =>
    if low < 0xe000 ∧ 0xd7ff < high then
      pieces fuel low 0xd7ff ++ pieces fuel 0xe000 high
    else if high < low then []
    else
      match cutPoint? low high with
      | some last => pieces fuel low last ++ pieces fuel (last + 1) high
      | none => [(bytesOf low).zip (bytesOf high)]

/-- The sequences of byte ranges of a class, in ascending order. No range is cut more than twenty
times on the way to a piece. -/
def byteSequences (set : CharClass) : List (List ByteRange) :=
  set.ranges.flatMap fun (low, high) => pieces 20 low high

end IssueFlow.Regex
