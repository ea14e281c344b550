import IssueFlow.Number.Binary64

/-!
# Shortest decimals

The decimal text of a binary number has the fewest digits that read back as that number, and of
those the nearest. Numbers from 10^-5 up to below 10^16 are written positionally, all others with
an exponent.
-/

namespace IssueFlow.Binary64

/-- A decimal `digits · 10^power`. -/
structure Decimal where
  digits : Nat
  power : Int
  deriving DecidableEq, Repr

/-- The reals that round to a number: the number and both ends as multiples of `1 / unit`, and
whether the ends belong to the interval. -/
structure Interval where
  low : Nat
  middle : Nat
  high : Nat
  unit : Nat
  closed : Bool

/-- Below a power of two the neighbours are half as far apart as above it. -/
def interval (x : Binary64) : Interval :=
  let below := if x.significand = Nat.pow 2 52 ∧ leastExponent < x.exponent then 1 else 2
  let quarter := x.exponent - 2
  let scale := if 0 ≤ quarter then Nat.pow 2 quarter.toNat else 1
  { low := (4 * x.significand - below) * scale
    middle := 4 * x.significand * scale
    high := (4 * x.significand + 2) * scale
    unit := if 0 ≤ quarter then 1 else Nat.pow 2 (-quarter).toNat
    closed := x.significand % 2 == 0 }

/-- Whether `num / den` lies in the interval. -/
def Interval.contains (i : Interval) (num den : Nat) : Bool :=
  if i.closed then i.low * den ≤ num * i.unit && num * i.unit ≤ i.high * den
  else i.low * den < num * i.unit && num * i.unit < i.high * den

/-- The power of the leading decimal digit of `num / den`, which is positive. -/
def leadingPower (num den : Nat) : Int :=
  if den ≤ num then ((Nat.toDigits 10 (num / den)).length : Int) - 1
  else
    let places := (Nat.toDigits 10 (den / num)).length - 1
    if den ≤ num * Nat.pow 10 places then -(places : Int) else -(places + 1 : Int)

/-- The nearer of the two neighbours on the grid of `10^power` that lie in the interval. -/
def Interval.onGrid? (i : Interval) (power : Int) : Option Nat :=
  let up := Nat.pow 10 power.toNat
  let down := Nat.pow 10 (-power).toNat
  let floor := i.middle * down / (i.unit * up)
  let inside (n : Nat) : Bool := n != 0 && i.contains (n * up) down
  let twice := 2 * i.middle * down
  let halfway := (2 * floor + 1) * i.unit * up
  let lowerIsNearer := twice < halfway || (twice == halfway && floor % 2 == 0)
  match inside floor, inside (floor + 1) with
  | true, true => some (if lowerIsNearer then floor else floor + 1)
  | true, false => some floor
  | false, true => some (floor + 1)
  | false, false => none

/-- Moves the zeros at the end of the digits into the power. -/
def Decimal.trimmed (d : Decimal) : Decimal :=
  let zeros := ((Nat.toDigits 10 d.digits).reverse.takeWhile (· = '0')).length
  ⟨d.digits / Nat.pow 10 zeros, d.power + zeros⟩

/-- The grids are tried from one digit to seventeen, which always suffice. -/
def shortest (x : Binary64) : Decimal :=
  let i := x.interval
  let lead := leadingPower i.middle i.unit
  let hit := (List.range 17).findSome? fun n =>
    let power := lead - (n : Nat)
    (i.onGrid? power).map fun digits => Decimal.trimmed ⟨digits, power⟩
  hit.getD ⟨x.significand, 0⟩

/-- The text of a positive decimal. -/
def Decimal.text (d : Decimal) : String :=
  let digits := Nat.toDigits 10 d.digits
  let zeros (n : Int) : List Char := List.replicate n.toNat '0'
  let lead : Int := d.power + digits.length - 1
  let chars :=
    if -5 ≤ lead ∧ lead ≤ 15 then
      if 0 ≤ d.power then digits ++ zeros d.power ++ ['.', '0']
      else if 0 ≤ lead then
        digits.take (lead.toNat + 1) ++ '.' :: digits.drop (lead.toNat + 1)
      else '0' :: '.' :: zeros (-lead - 1) ++ digits
    else
      let fraction := match digits.drop 1 with
        | [] => []
        | rest => '.' :: rest
      let sign := if 0 ≤ lead then '+' else '-'
      digits.take 1 ++ fraction ++ 'e' :: sign :: Nat.toDigits 10 lead.natAbs
  String.ofList chars

/-- The text of a number: `0.1`, `-0.0`, `1e+16`, `2.5e-7`. -/
def text (x : Binary64) : String :=
  let magnitude := if x.isZero then "0.0" else x.shortest.text
  if x.negative then "-" ++ magnitude else magnitude

end IssueFlow.Binary64
