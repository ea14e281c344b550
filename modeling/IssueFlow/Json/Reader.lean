import IssueFlow.Json.Basic
import IssueFlow.Text.Scan

/-!
# Reading JSON text

A text holds one value with white space around it. A whole number that fits 64 bits stays whole;
any other number is read as its leading digits that fit 64 bits times a power of ten, each rounded
to a binary number. A number beyond the largest binary one is refused.
A reading step yields its value and the characters after it.
-/

namespace IssueFlow.Json

open Text (expect hexNumber? numberIn)

def isSpace (c : Char) : Bool :=
  c == ' ' || c == '\n' || c == '\t' || c == '\r'

def skipSpace (s : List Char) : List Char :=
  s.dropWhile isSpace

/-- The significand of a number that is being read and the power of ten that goes with it. -/
structure Scientific where
  significand : Nat
  power : Int
  /-- A digit has been dropped because the significand was full. -/
  full : Bool

/-- Appends a digit. Once one does not fit into 64 bits, it and the later ones of its part are
dropped. -/
def Scientific.push (fraction : Bool) (x : Scientific) (c : Char) : Scientific :=
  let next := x.significand * 10 + numberIn 10 [c]
  if x.full || Nat.pow 2 64 ≤ next then
    { x with power := if fraction then x.power else x.power + 1, full := true }
  else { x with significand := next, power := if fraction then x.power - 1 else x.power }

/-- The exponent part, if there is one. -/
def exponentPart (s : List Char) : Option (Int × List Char) :=
  match s with
  | c :: rest =>
    if c = 'e' ∨ c = 'E' then
      let (negative, rest) := match rest with
        | '-' :: rest => (true, rest)
        | '+' :: rest => (false, rest)
        | rest => (false, rest)
      let digits := rest.takeWhile Char.isDigit
      if digits.isEmpty then none
      else
        let n : Int := numberIn 10 digits
        some (if negative then -n else n, rest.dropWhile Char.isDigit)
    else some (0, s)
  | [] => some (0, [])

/-- The binary number of a sign and a scaled significand. -/
def binaryNumber (negative : Bool) (x : Scientific) : Option Number := do
  let magnitude ← (← Binary64.ofNat? x.significand).scaleByTen? x.power
  return .binary { magnitude with negative := negative }

/-- A number; the sign has been read. -/
def readMagnitude (negative : Bool) (s : List Char) : Option (Number × List Char) := do
  let digits := s.takeWhile Char.isDigit
  let rest := s.dropWhile Char.isDigit
  guard !digits.isEmpty
  guard !(digits.length > 1 && digits.head? == some '0')
  let whole := digits.foldl (Scientific.push false) ⟨0, 0, false⟩
  match rest with
  | '.' :: rest =>
    let fraction := rest.takeWhile Char.isDigit
    guard !fraction.isEmpty
    let x := fraction.foldl (Scientific.push true) { whole with full := false }
    let (power, rest) ← exponentPart (rest.dropWhile Char.isDigit)
    return (← binaryNumber negative { x with power := x.power + power }, rest)
  | _ =>
    let (power, after) ← exponentPart rest
    let exact := !whole.full && after.length == rest.length
    if exact && !negative then return (.whole whole.significand, after)
    else if exact && whole.significand != 0 && whole.significand ≤ Nat.pow 2 63 then
      return (.whole (-(whole.significand : Int)), after)
    else return (← binaryNumber negative { whole with power := whole.power + power }, after)

def simpleEscape? : Char → Option Char
  | '"' => some '"'
  | '\\' => some '\\'
  | '/' => some '/'
  | 'b' => some (Char.ofNat 8)
  | 'f' => some (Char.ofNat 12)
  | 'n' => some '\n'
  | 'r' => some '\r'
  | 't' => some '\t'
  | _ => none

def isHighSurrogate (n : Nat) : Bool := 0xd800 ≤ n && n < 0xdc00
def isLowSurrogate (n : Nat) : Bool := 0xdc00 ≤ n && n < 0xe000

/-- The rest of a string after its opening quote; characters read so far stand reversed. A pair of
surrogates makes one character and a lone one is refused. -/
def readString (done : List Char) : List Char → Option (String × List Char)
  | [] => none
  | '"' :: rest => some (String.ofList done.reverse, rest)
  | '\\' :: 'u' :: a :: b :: c :: d :: '\\' :: 'u' :: e :: f :: g :: h :: rest => do
    let n ← hexNumber? [a, b, c, d]
    if isHighSurrogate n then
      let m ← hexNumber? [e, f, g, h]
      if isLowSurrogate m then
        readString (Char.ofNat (0x10000 + (n - 0xd800) * 0x400 + (m - 0xdc00)) :: done) rest
      else none
    else if isLowSurrogate n then none
    else
      readString (Char.ofNat n :: done) ('\\' :: 'u' :: e :: f :: g :: h :: rest)
  | '\\' :: 'u' :: a :: b :: c :: d :: rest => do
    let n ← hexNumber? [a, b, c, d]
    if isHighSurrogate n || isLowSurrogate n then none
    else readString (Char.ofNat n :: done) rest
  | '\\' :: c :: rest => do readString ((← simpleEscape? c) :: done) rest
  | c :: rest => if c.toNat < 32 then none else readString (c :: done) rest
termination_by s => s.length

mutual

/-- One value; the fuel bounds the characters that are looked at. -/
def readValue : Nat → List Char → Option (Json × List Char)
  | 0, _ => none
  | fuel + 1, s =>
    match skipSpace s with
    | '"' :: rest => do
      let (text, rest) ← readString [] rest
      return (.string text, rest)
    | '[' :: rest =>
      match skipSpace rest with
      | ']' :: rest => some (.array [], rest)
      | rest => do
        let (items, rest) ← readItems fuel rest
        return (.array items, rest)
    | '\x7b' :: rest =>
      match skipSpace rest with
      | '\x7d' :: rest => some (.object [], rest)
      | rest => do
        let (fields, rest) ← readFields fuel rest
        return (ofFields fields, rest)
    | '-' :: rest => do
      let (n, rest) ← readMagnitude true rest
      return (.number n, rest)
    | c :: rest =>
      if c.isDigit then do
        let (n, rest) ← readMagnitude false (c :: rest)
        return (.number n, rest)
      else
        match c with
        | 'n' => (expect "ull" rest).map ((.null, ·))
        | 't' => (expect "rue" rest).map ((.bool true, ·))
        | 'f' => (expect "alse" rest).map ((.bool false, ·))
        | _ => none
    | [] => none

/-- The items of an array up to its closing bracket. -/
def readItems : Nat → List Char → Option (List Json × List Char)
  | 0, _ => none
  | fuel + 1, s => do
    let (item, rest) ← readValue fuel s
    match skipSpace rest with
    | ',' :: rest => do
      let (items, rest) ← readItems fuel rest
      return (item :: items, rest)
    | ']' :: rest => return ([item], rest)
    | _ => none

/-- The fields of an object up to its closing brace. -/
def readFields : Nat → List Char → Option (List (String × Json) × List Char)
  | 0, _ => none
  | fuel + 1, s => do
    match skipSpace s with
    | '"' :: rest => do
      let (key, rest) ← readString [] rest
      match skipSpace rest with
      | ':' :: rest => do
        let (value, rest) ← readValue fuel rest
        match skipSpace rest with
        | ',' :: rest => do
          let (fields, rest) ← readFields fuel rest
          return ((key, value) :: fields, rest)
        | '\x7d' :: rest => return ([(key, value)], rest)
        | _ => none
      | _ => none
    | _ => none

end

/-- The value that a text holds. -/
def parse? (s : String) : Option Json := do
  let chars := s.toList
  let (value, rest) ← readValue (2 * chars.length + 1) chars
  if (skipSpace rest).isEmpty then some value else none

end IssueFlow.Json
