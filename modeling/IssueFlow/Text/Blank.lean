/-!
# Blank text

The white space of running text, and the texts that hold nothing else.
-/

namespace IssueFlow.Text

/-- The characters with the property White_Space. -/
def isBlankChar (c : Char) : Bool :=
  let n := c.toNat
  (9 ≤ n && n ≤ 13) || n == 0x20 || n == 0x85 || n == 0xa0 || n == 0x1680 ||
    (0x2000 ≤ n && n ≤ 0x200a) || n == 0x2028 || n == 0x2029 || n == 0x202f || n == 0x205f ||
    n == 0x3000

/-- A text is blank when it is empty or holds white space only. -/
def isBlank (s : String) : Bool :=
  s.toList.all isBlankChar

/-- Removes the white space in front. -/
def dropBlank (s : List Char) : List Char :=
  s.dropWhile isBlankChar

end IssueFlow.Text
