/-!
# Finite binary numbers of 64 bits

A number is a sign, a significand below 2^53 and a power of two. Every result is the exact one,
rounded once to the nearest number of this form; a tie goes to the even significand. Nothing here
is infinite: a result too large has no value.
-/

namespace IssueFlow

/-- The quotient rounded to the nearest whole number, a tie to the even one. -/
def roundDiv (num den : Nat) : Nat :=
  let quotient := num / den
  let twice := 2 * (num % den)
  if twice < den ∨ (twice = den ∧ quotient % 2 = 0) then quotient else quotient + 1

/-- The number ± significand · 2^exponent. The significand has 53 bits, or fewer at the least
exponent, so each number but zero has one form for each sign. -/
structure Binary64 where
  negative : Bool
  significand : Nat
  exponent : Int
  deriving DecidableEq, Repr

namespace Binary64

/-- The exponent of the numbers nearest to zero. -/
def leastExponent : Int := -1074

/-- The exponent of the largest numbers. -/
def greatestExponent : Int := 971

def zero (negative : Bool) : Binary64 :=
  ⟨negative, 0, leastExponent⟩

/-- Both zeros count. -/
def isZero (x : Binary64) : Bool :=
  x.significand == 0

/-- `num / 2^exponent / den` as a fraction of whole numbers. -/
def scaled (num den : Nat) (exponent : Int) : Nat × Nat :=
  if 0 ≤ exponent then (num, den * Nat.pow 2 exponent.toNat)
  else (num * Nat.pow 2 (-exponent).toNat, den)

/-- The number nearest to `num / den`; absent when that is too large. -/
def ofRatio? (negative : Bool) (num den : Nat) : Option Binary64 :=
  if num = 0 then
    some (zero negative)
  else
    let guess : Int := (Nat.log2 num : Int) - Nat.log2 den - 52
    let (n, d) := scaled num den guess
    let exponent := max leastExponent (if n < d * Nat.pow 2 52 then guess - 1 else guess)
    let (n, d) := scaled num den exponent
    let significand := roundDiv n d
    let rounded : Binary64 :=
      if significand = Nat.pow 2 53 then ⟨negative, Nat.pow 2 52, exponent + 1⟩
      else ⟨negative, significand, exponent⟩
    if rounded.exponent ≤ greatestExponent then some rounded else none

/-- The number nearest to a whole number. -/
def ofNat? (n : Nat) : Option Binary64 :=
  ofRatio? false n 1

/-- The magnitude as a fraction. -/
def toRatio (x : Binary64) : Nat × Nat :=
  if 0 ≤ x.exponent then (x.significand * Nat.pow 2 x.exponent.toNat, 1)
  else (x.significand, Nat.pow 2 (-x.exponent).toNat)

/-- The product of two numbers, rounded. -/
def mul? (x y : Binary64) : Option Binary64 :=
  let (a, b) := x.toRatio
  let (c, d) := y.toRatio
  ofRatio? (x.negative != y.negative) (a * c) (b * d)

/-- The quotient of two numbers, rounded; absent for a zero divisor. -/
def div? (x y : Binary64) : Option Binary64 :=
  let (a, b) := x.toRatio
  let (c, d) := y.toRatio
  if c = 0 then none else ofRatio? (x.negative != y.negative) (a * d) (b * c)

/-- The two zeros are equal in value; apart from them equal numbers have one form. -/
def sameValue (x y : Binary64) : Bool :=
  decide (x = y) || (x.isZero && y.isZero)

theorem sameValue_refl (x : Binary64) : x.sameValue x = true := by
  simp [sameValue]

/-- Multiplies or divides by a rounded power of ten. Powers below 10^-308 are applied in steps of
308; powers above 10^308 are out of range. -/
def scaleByTen? (x : Binary64) (power : Int) : Option Binary64 :=
  if 0 ≤ power then
    if power ≤ 308 then do (x.mul? (← ofNat? (Nat.pow 10 power.toNat)))
    else if x.isZero then some x else none
  else
    descend ((-power).toNat / 308 + 1) (-power).toNat x
where
  descend : Nat → Nat → Binary64 → Option Binary64
    | 0, _, x => some x
    | steps + 1, places, x =>
      if places ≤ 308 then do x.div? (← ofNat? (Nat.pow 10 places))
      else if x.isZero then some x
      else do descend steps (places - 308) (← x.div? (← ofNat? (Nat.pow 10 308)))

end Binary64

end IssueFlow
