import IssueFlow.Text.Scan
import IssueFlow.Toml.Basic

/-!
# Reading TOML

A document is read line by line into statements. A reading step yields its value and the characters
after it, or nothing where the text breaks the grammar.
-/

namespace IssueFlow.Toml

open Text (expect hexValue? hexNumber? numberIn char?)

def isSpace (c : Char) : Bool :=
  c == ' ' || c == '\t'

def skipSpace (s : List Char) : List Char :=
  s.dropWhile isSpace

/-- Tabs and all characters that are no control characters. -/
def isTextChar (c : Char) : Bool :=
  c == '\t' || (32 ≤ c.toNat && c.toNat != 127)

/-- Drops a comment, if there is one. -/
def skipComment (s : List Char) : List Char :=
  match s with
  | '#' :: rest => rest.dropWhile isTextChar
  | s => s

def newline? : List Char → Option (List Char)
  | '\n' :: rest => some rest
  | '\r' :: '\n' :: rest => some rest
  | _ => none

/-- The end of a statement: spaces, a comment, and a line end or the end of the text. -/
def lineEnd? (s : List Char) : Option (List Char) :=
  match skipComment (skipSpace s) with
  | [] => some []
  | s => newline? s

/-- Drops spaces, comments and line ends. -/
def skipLines : Nat → List Char → List Char
  | 0, s => s
  | fuel + 1, s =>
    let s := skipComment (skipSpace s)
    match newline? s with
    | some rest => skipLines fuel rest
    | none => s

/-- A character written with that many hexadecimal digits. -/
def hexChar? (size : Nat) (s : List Char) : Option (Char × List Char) := do
  guard (size ≤ s.length)
  return (← char? (← hexNumber? (s.take size)), s.drop size)

/-- What follows a backslash. -/
def escape? : List Char → Option (Char × List Char)
  | 'b' :: rest => some (Char.ofNat 8, rest)
  | 't' :: rest => some ('\t', rest)
  | 'n' :: rest => some ('\n', rest)
  | 'f' :: rest => some (Char.ofNat 12, rest)
  | 'r' :: rest => some ('\r', rest)
  | '"' :: rest => some ('"', rest)
  | '\\' :: rest => some ('\\', rest)
  | 'u' :: rest => hexChar? 4 rest
  | 'U' :: rest => hexChar? 8 rest
  | _ => none

/-- The rest of a string between double quotes; what has been read stands reversed. -/
def basicString : Nat → List Char → List Char → Option (String × List Char)
  | 0, _, _ => none
  | fuel + 1, done, s =>
    match s with
    | [] => none
    | '"' :: rest => some (String.ofList done.reverse, rest)
    | '\\' :: rest => do
      let (c, rest) ← escape? rest
      basicString fuel (c :: done) rest
    | c :: rest => if isTextChar c then basicString fuel (c :: done) rest else none

/-- The rest of a string between single quotes. -/
def literalString (s : List Char) : Option (String × List Char) :=
  let body := s.takeWhile fun c => c != '\'' && isTextChar c
  match s.drop body.length with
  | '\'' :: rest => some (String.ofList body, rest)
  | _ => none

/-- Drops spaces and line ends. -/
def skipBlank : List Char → List Char
  | '\r' :: '\n' :: rest => skipBlank rest
  | c :: rest => if isSpace c || c == '\n' then skipBlank rest else c :: rest
  | [] => []

/-- Drops spaces and line ends; at least one line end must stand there. -/
def foldLine? (s : List Char) : Option (List Char) :=
  (newline? (skipSpace s)).map skipBlank

/-- A closing run of three quotes and up to two more that belong to the text. -/
def closing? (quote : Char) (done s : List Char) : Option (String × List Char) :=
  let run := (s.takeWhile (· == quote)).length
  if run < 3 then none
  else
    let extra := min (run - 3) 2
    some (String.ofList (done.reverse ++ List.replicate extra quote), s.drop (3 + extra))

/-- The rest of a string of several lines; only one between double quotes has escapes. -/
def longString (quote : Char) : Nat → List Char → List Char → Option (String × List Char)
  | 0, _, _ => none
  | fuel + 1, done, s =>
    match closing? quote done s with
    | some result => some result
    | none =>
      match s with
      | [] => none
      | '\r' :: '\n' :: rest => longString quote fuel ('\n' :: done) rest
      | '\n' :: rest => longString quote fuel ('\n' :: done) rest
      | c :: rest =>
        if c = '\\' ∧ quote = '"' then
          match foldLine? rest with
          | some rest => longString quote fuel done rest
          | none => do
            let (c, rest) ← escape? rest
            longString quote fuel (c :: done) rest
        else if isTextChar c then longString quote fuel (c :: done) rest
        else none

/-- A line end right after the opening quotes is no part of the string. -/
def dropFirstNewline (s : List Char) : List Char :=
  (newline? s).getD s

/-- A string of any of the four kinds. -/
def readString (s : List Char) : Option (String × List Char) :=
  let fuel := s.length + 1
  match s with
  | '"' :: '"' :: '"' :: rest => longString '"' fuel [] (dropFirstNewline rest)
  | '\'' :: '\'' :: '\'' :: rest => longString '\'' fuel [] (dropFirstNewline rest)
  | '"' :: rest => basicString fuel [] rest
  | '\'' :: rest => literalString rest
  | _ => none

def isBareChar (c : Char) : Bool :=
  c.isAlphanum || c == '_' || c == '-'

def simpleKey (s : List Char) : Option (String × List Char) :=
  match s with
  | '"' :: rest => basicString (rest.length + 1) [] rest
  | '\'' :: rest => literalString rest
  | s =>
    let name := s.takeWhile isBareChar
    if name.isEmpty then none else some (String.ofList name, s.drop name.length)

/-- The most keys that a path has, and the most values that lie one in another. -/
def nestingLimit : Nat := 79

/-- At most a number of keys with dots between them, and spaces around. -/
def keyPath : Nat → List Char → Option (List String × List Char)
  | 0, _ => none
  | size + 1, s => do
    let (key, rest) ← simpleKey (skipSpace s)
    match skipSpace rest with
    | '.' :: rest =>
      let (path, rest) ← keyPath size rest
      return (key :: path, rest)
    | rest => return ([key], rest)

/-- A key or a path of keys. -/
def dottedKey (s : List Char) : Option (List String × List Char) :=
  keyPath nestingLimit s

/-- Digits with single low lines between them. -/
def digitRun (isDigit : Char → Bool) : List Char → Option (List Char × List Char)
  | [] => none
  | c :: rest => if isDigit c then some (go [c] rest) else none
where
  go (done : List Char) : List Char → List Char × List Char
    | '_' :: c :: rest =>
      if isDigit c then go (c :: done) rest else (done.reverse, '_' :: c :: rest)
    | c :: rest => if isDigit c then go (c :: done) rest else (done.reverse, c :: rest)
    | [] => (done.reverse, [])

/-- An integer in another base, after its two characters of introduction. -/
def basedInteger (base : Nat) (s : List Char) : Option (Value × List Char) := do
  let (digits, rest) ← digitRun (fun c => (hexValue? c).any (· < base)) s
  let n := numberIn base digits
  guard (n < Nat.pow 2 63)
  return (.integer n, rest)

/-- The fraction and exponent after the whole part of a number, if there are any. -/
def binaryTail? (s : List Char) : Option (List Char) :=
  let exponent? (s : List Char) : Option (List Char) :=
    match s with
    | c :: rest =>
      if c = 'e' ∨ c = 'E' then
        let rest := match rest with
          | '+' :: rest | '-' :: rest => rest
          | rest => rest
        (digitRun Char.isDigit rest).map Prod.snd
      else none
    | [] => none
  match s with
  | '.' :: rest => do
    let (_, rest) ← digitRun Char.isDigit rest
    return (exponent? rest).getD rest
  | s => exponent? s

/-- Whether a decimal number is beyond the binary ones: its value is at least the midpoint after the
greatest. -/
def tooLarge (s : List Char) : Bool :=
  let plain := s.filter (· != '_')
  let mantissa := plain.takeWhile fun c => c != 'e' && c != 'E'
  let whole := mantissa.takeWhile (· != '.')
  let fraction := (mantissa.drop whole.length).drop 1
  let power := (plain.drop mantissa.length).drop 1
  let negative := power.head? = some '-'
  let places := numberIn 10 (power.filter Char.isDigit)
  let digits := numberIn 10 ((whole ++ fraction).filter Char.isDigit)
  let limit := (Nat.pow 2 54 - 1) * Nat.pow 2 970
  if digits = 0 then false
  else if negative then limit * Nat.pow 10 (fraction.length + min places 2000) ≤ digits
  else if 400 + fraction.length < places then true
  else limit * Nat.pow 10 fraction.length ≤ digits * Nat.pow 10 places

/-- A decimal integer or a binary number; no zero stands in front of other digits. -/
def decimal (s : List Char) : Option (Value × List Char) := do
  let (negative, unsigned) := match s with
    | '-' :: rest => (true, rest)
    | '+' :: rest => (false, rest)
    | rest => (false, rest)
  let (digits, rest) ←
    match unsigned with
    | '0' :: rest => some (['0'], rest)
    | s => digitRun Char.isDigit s
  match binaryTail? rest with
  | some after =>
    let written := unsigned.take (unsigned.length - after.length)
    guard (negative || !tooLarge written)
    return (.real, after)
  | none =>
    let n := numberIn 10 digits
    guard (if negative then n ≤ Nat.pow 2 63 else n < Nat.pow 2 63)
    return (.integer (if negative then -(n : Int) else n), rest)

/-- Infinity or no number, with or without a sign. -/
def specialReal (s : List Char) : Option (Value × List Char) :=
  let unsigned := match s with
    | '+' :: rest | '-' :: rest => rest
    | rest => rest
  ((expect "inf" unsigned).or (expect "nan" unsigned)).map (.real, ·)

def twoDigits (s : List Char) : Option (Nat × List Char) :=
  match s with
  | a :: b :: rest => if a.isDigit && b.isDigit then some (numberIn 10 [a, b], rest) else none
  | _ => none

def daysIn (year month : Nat) : Nat :=
  if month = 2 then
    if year % 4 = 0 ∧ (year % 100 ≠ 0 ∨ year % 400 = 0) then 29 else 28
  else if month = 4 ∨ month = 6 ∨ month = 9 ∨ month = 11 then 30 else 31

def calendarDate (s : List Char) : Option (List Char) := do
  let (century, rest) ← twoDigits s
  let (year, rest) ← twoDigits rest
  let (month, rest) ← twoDigits (← expect "-" rest)
  guard (1 ≤ month ∧ month ≤ 12)
  let (day, rest) ← twoDigits (← expect "-" rest)
  guard (1 ≤ day ∧ day ≤ daysIn (100 * century + year) month)
  return rest

def clockTime (s : List Char) : Option (List Char) := do
  let (hour, rest) ← twoDigits s
  let (minute, rest) ← twoDigits (← expect ":" rest)
  let (second, rest) ← twoDigits (← expect ":" rest)
  guard (hour < 24 ∧ minute < 60 ∧ second ≤ 60)
  match rest with
  | '.' :: fraction =>
    let digits := fraction.takeWhile Char.isDigit
    guard !digits.isEmpty
    return fraction.drop digits.length
  | rest => return rest

def zoneOffset (s : List Char) : Option (List Char) :=
  match s with
  | [] => some []
  | c :: rest =>
    if c = 'Z' ∨ c = 'z' then some rest
    else if c = '+' ∨ c = '-' then do
      let (hour, rest) ← twoDigits rest
      let (minute, rest) ← twoDigits (← expect ":" rest)
      guard (hour < 24 ∧ minute < 60)
      return rest
    else some (c :: rest)

/-- A date, a time, or both with or without an offset. -/
def readDate (s : List Char) : Option (Value × List Char) :=
  match calendarDate s with
  | some rest =>
    match rest with
    | c :: after =>
      if c = 'T' ∨ c = 't' then
        (clockTime after).bind fun rest => (zoneOffset rest).map (.date, ·)
      else if c = ' ' then
        match clockTime after with
        | some rest => (zoneOffset rest).map (.date, ·)
        | none => some (.date, rest)
      else some (.date, rest)
    | [] => some (.date, [])
  | none => (clockTime s).map (.date, ·)

/-- Whether a date or a time begins here: four digits and a hyphen, or two and a colon. -/
def looksLikeDate (s : List Char) : Bool :=
  match s with
  | a :: b :: ':' :: _ => a.isDigit && b.isDigit
  | a :: b :: c :: d :: '-' :: _ => a.isDigit && b.isDigit && c.isDigit && d.isDigit
  | _ => false

def readNumber (s : List Char) : Option (Value × List Char) :=
  match s with
  | '0' :: 'x' :: rest => basedInteger 16 rest
  | '0' :: 'o' :: rest => basedInteger 8 rest
  | '0' :: 'b' :: rest => basedInteger 2 rest
  | s => if looksLikeDate s then readDate s else (specialReal s).or (decimal s)

mutual

/-- A value in which arrays and tables lie one in another up to a given depth. -/
def readValue (depth : Nat) : Nat → List Char → Option (Value × List Char)
  | 0, _ => none
  | fuel + 1, s =>
    match s with
    | [] => none
    | '"' :: _ | '\'' :: _ => (readString s).map fun (text, rest) => (.string text, rest)
    | '[' :: rest => do
      guard (0 < depth)
      let (items, rest) ← readItems (depth - 1) fuel rest
      return (.array items, rest)
    | '\x7b' :: rest => do
      guard (0 < depth)
      match skipSpace rest with
      | '\x7d' :: rest => some (.table [], rest)
      | rest =>
        let (pairs, rest) ← readPairs (depth - 1) fuel rest
        return (← inlineTable? pairs, rest)
    | 't' :: rest => (expect "rue" rest).map (.boolean true, ·)
    | 'f' :: rest => (expect "alse" rest).map (.boolean false, ·)
    | s => readNumber s

/-- The items of an array up to its closing bracket; a comma may stand after the last one. -/
def readItems (depth : Nat) : Nat → List Char → Option (List Value × List Char)
  | 0, _ => none
  | fuel + 1, s =>
    match skipLines fuel s with
    | ']' :: rest => some ([], rest)
    | s => do
      let (item, rest) ← readValue depth fuel s
      match skipLines fuel rest with
      | ',' :: rest =>
        let (items, rest) ← readItems depth fuel rest
        return (item :: items, rest)
      | ']' :: rest => return ([item], rest)
      | _ => none

/-- The assignments of an inline table up to its closing brace, all on one line. -/
def readPairs (depth : Nat) : Nat → List Char → Option (List (List String × Value) × List Char)
  | 0, _ => none
  | fuel + 1, s => do
    let (path, rest) ← dottedKey s
    let (value, rest) ← readValue depth fuel (skipSpace (← expect "=" rest))
    match skipSpace rest with
    | ',' :: rest =>
      let (pairs, rest) ← readPairs depth fuel rest
      return ((path, value) :: pairs, rest)
    | '\x7d' :: rest => return ([(path, value)], rest)
    | _ => none

end

def readStatement (fuel : Nat) (s : List Char) : Option (Statement × List Char) :=
  match s with
  | '[' :: '[' :: rest => do
    let (path, rest) ← dottedKey rest
    return (.arrayHeader path, ← expect "]]" rest)
  | '[' :: rest => do
    let (path, rest) ← dottedKey rest
    return (.header path, ← expect "]" rest)
  | s => do
    let (path, rest) ← dottedKey s
    let (value, rest) ← readValue nestingLimit fuel (skipSpace (← expect "=" rest))
    return (.assign path value, rest)

/-- The statements of a text, one to a line. -/
def readStatements : Nat → List Char → Option (List Statement)
  | 0, _ => none
  | fuel + 1, s =>
    match skipLines fuel s with
    | [] => some []
    | s => do
      let (statement, rest) ← readStatement fuel s
      let rest ← lineEnd? rest
      return statement :: (← readStatements fuel rest)

/-- The table that a document writes; a byte order mark may stand in front. -/
def parse? (s : String) : Option (List (String × Value)) := do
  let chars := match s.toList with
    | '\ufeff' :: rest => rest
    | chars => chars
  build? (← readStatements (2 * chars.length + 2) chars)

end IssueFlow.Toml
