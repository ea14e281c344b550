/-!
# Positions

Rules, statuses and screen fields stand in the order of their positions, which are numbers of 32
bits and may be negative or shared.
-/

namespace IssueFlow

/-- The least position. -/
def Position.least : Int := -0x80000000

/-- The greatest position. -/
def Position.greatest : Int := 0x7fffffff

structure Position where
  value : Int
  fits : Position.least ≤ value ∧ value ≤ Position.greatest := by decide
  deriving DecidableEq, Repr

namespace Position

/-- The position of that number, if it has 32 bits. -/
def ofInt? (n : Int) : Option Position :=
  if h : least ≤ n ∧ n ≤ greatest then some ⟨n, h⟩ else none

@[simp] theorem ofInt?_value (p : Position) : ofInt? p.value = some p := by
  simpa [ofInt?] using p.fits

instance : Ord Position where
  compare := compareOn value

instance : ToString Position where
  toString p := toString p.value

end Position

end IssueFlow
