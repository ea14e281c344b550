import IssueFlow.Text.Blank
import IssueFlow.Text.Scan

/-!
# Timestamps

A moment is a count of seconds since the start of 1970 and a fraction in nanoseconds. Its text is
a date and a time of day at offset zero; reading takes any offset and is lenient about spaces and
about the number of digits.
-/

namespace IssueFlow

open Text (expect numberIn)

/-- A fraction of a second or more marks a leap second. -/
structure Timestamp where
  seconds : Int
  nanos : Nat := 0
  deriving DecidableEq, Ord, Repr

namespace Timestamp

/-- The number of the day, counted from the first of January 1970. -/
def dayNumber (year : Int) (month day : Nat) : Int :=
  let y := if month ≤ 2 then year - 1 else year
  let era := y.fdiv 400
  let yearOfEra := y - era * 400
  let shifted : Int := (month + 9) % 12
  let dayOfYear := (153 * shifted + 2) / 5 + day - 1
  era * 146097 + yearOfEra * 365 + yearOfEra / 4 - yearOfEra / 100 + dayOfYear - 719468

/-- The year, month and day of a numbered day. -/
def calendarDay (number : Int) : Int × Nat × Nat :=
  let z := number + 719468
  let era := z.fdiv 146097
  let dayOfEra := z - era * 146097
  let yearOfEra := (dayOfEra - dayOfEra / 1460 + dayOfEra / 36524 - dayOfEra / 146096) / 365
  let dayOfYear := dayOfEra - (365 * yearOfEra + yearOfEra / 4 - yearOfEra / 100)
  let shifted := (5 * dayOfYear + 2) / 153
  let day := (dayOfYear - (153 * shifted + 2) / 5 + 1).toNat
  let month := if shifted < 10 then shifted.toNat + 3 else shifted.toNat - 9
  (yearOfEra + era * 400 + (if month ≤ 2 then 1 else 0), month, day)

def isLeapYear (year : Int) : Bool :=
  year % 4 == 0 && (year % 100 != 0 || year % 400 == 0)

def daysIn (year : Int) (month : Nat) : Nat :=
  if month = 2 then (if isLeapYear year then 29 else 28)
  else if month = 4 ∨ month = 6 ∨ month = 9 ∨ month = 11 then 30 else 31

/-- Decimal digits with zeros in front up to a width. -/
def padded (width n : Nat) : List Char :=
  let digits := Nat.toDigits 10 n
  List.replicate (width - digits.length) '0' ++ digits

def yearText (year : Int) : List Char :=
  if 0 ≤ year ∧ year ≤ 9999 then padded 4 year.toNat
  else (if year < 0 then '-' else '+') :: padded 4 year.natAbs

/-- The fraction in thousandths, millionths or billionths, whichever loses nothing. -/
def fractionText (nanos : Nat) : List Char :=
  if nanos = 0 then []
  else if nanos % 1000000 = 0 then '.' :: padded 3 (nanos / 1000000)
  else if nanos % 1000 = 0 then '.' :: padded 6 (nanos / 1000)
  else '.' :: padded 9 nanos

def text (t : Timestamp) : String :=
  let (year, month, day) := calendarDay (t.seconds.fdiv 86400)
  let second := (t.seconds - t.seconds.fdiv 86400 * 86400).toNat
  let leap := t.nanos / 1000000000
  String.ofList <| yearText year ++ '-' :: padded 2 month ++ '-' :: padded 2 day ++
    'T' :: padded 2 (second / 3600) ++ ':' :: padded 2 (second / 60 % 60) ++
    ':' :: padded 2 (second % 60 + leap) ++ fractionText (t.nanos % 1000000000) ++ ['Z']

/-- A number of one digit up to a width, after white space. -/
def readNumber (width : Nat) (s : List Char) : Option (Nat × List Char) :=
  let s := Text.dropBlank s
  let digits := (s.take width).takeWhile Char.isDigit
  if digits.isEmpty then none else some (numberIn 10 digits, s.drop digits.length)

/-- A year of up to four digits, or of any length after a sign. -/
def readYear (s : List Char) : Option (Int × List Char) :=
  match Text.dropBlank s with
  | '-' :: rest =>
    if (rest.head?.any Char.isDigit) then
      (readNumber rest.length rest).map fun (n, rest) => (-(n : Int), rest)
    else none
  | '+' :: rest =>
    if (rest.head?.any Char.isDigit) then
      (readNumber rest.length rest).map fun (n, rest) => ((n : Int), rest)
    else none
  | s => (readNumber 4 s).map fun (n, rest) => ((n : Int), rest)

/-- A mark between two numbers, with white space before it. -/
def readMark (mark : String) (s : List Char) : Option (List Char) :=
  expect mark (Text.dropBlank s)

/-- The nanoseconds after a point; digits past the ninth are dropped. -/
def readFraction (s : List Char) : Option (Nat × List Char) :=
  match s with
  | '.' :: rest =>
    let digits := rest.takeWhile Char.isDigit
    let kept := digits.take 9
    if digits.isEmpty then none
    else some (numberIn 10 kept * Nat.pow 10 (9 - kept.length), rest.drop digits.length)
  | s => some (0, s)

/-- The seconds by which local time is ahead. -/
def readOffset (s : List Char) : Option (Int × List Char) := do
  match s with
  | [] => none
  | c :: rest =>
    if c = 'Z' ∨ c = 'z' then return (0, rest)
    else if (s.take 3).map Char.toUpper = ['U', 'T', 'C'] then return (0, s.drop 3)
    else
      guard (c = '+' ∨ c = '-' ∨ c = '\u2212')
      match rest with
      | a :: b :: rest =>
        guard (a.isDigit && b.isDigit)
        let hours := numberIn 10 [a, b]
        match rest.dropWhile fun c => c == ':' || Text.isBlankChar c with
        | a :: b :: rest =>
          guard (a.isDigit && b.isDigit)
          let minutes := numberIn 10 [a, b]
          guard (minutes < 60 ∧ hours < 24)
          let ahead : Int := hours * 3600 + minutes * 60
          return (if c = '+' then ahead else -ahead, rest)
        | _ => none
      | _ => none

/-- The years that a date can have. -/
def firstYear : Int := -262143

def lastYear : Int := 262142

/-- The first and the last second of those years, at offset zero. -/
def firstSecond : Int := dayNumber firstYear 1 1 * 86400

def lastSecond : Int := dayNumber lastYear 12 31 * 86400 + 86399

/-- The moment that a date and a time of day with an offset stand for. Both the date as written and
the date at offset zero lie in the years that there are. -/
def parse? (s : String) : Option Timestamp := do
  let (year, rest) ← readYear s.toList
  let (month, rest) ← readNumber 2 (← readMark "-" rest)
  let (day, rest) ← readNumber 2 (← readMark "-" rest)
  guard (1 ≤ month ∧ month ≤ 12 ∧ 1 ≤ day ∧ day ≤ daysIn year month)
  guard (firstYear ≤ year ∧ year ≤ lastYear)
  match rest with
  | [] => none
  | c :: rest =>
    guard (c = 'T' ∨ c = 't' ∨ c = ' ')
    let (hour, rest) ← readNumber 2 rest
    let (minute, rest) ← readNumber 2 (← readMark ":" rest)
    let (second, rest) ← readNumber 2 (← readMark ":" rest)
    guard (hour < 24 ∧ minute < 60 ∧ second ≤ 60)
    let (nanos, rest) ← readFraction rest
    let (ahead, rest) ← readOffset (Text.dropBlank rest)
    guard (Text.dropBlank rest).isEmpty
    let leap := if second = 60 then 1 else 0
    let ofDay : Int := hour * 3600 + minute * 60 + (second - leap : Nat)
    let seconds := dayNumber year month day * 86400 + ofDay - ahead
    guard (firstSecond ≤ seconds ∧ seconds ≤ lastSecond)
    return ⟨seconds, nanos + leap * 1000000000⟩

end Timestamp

end IssueFlow
