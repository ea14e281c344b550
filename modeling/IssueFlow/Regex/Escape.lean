import IssueFlow.CharClass.Property
import IssueFlow.Regex.Pattern
import IssueFlow.Text.Blank

/-!
# Flags and escapes

Flags change what the parts of a pattern mean. An escape is what follows a backslash: a literal, a
class or a condition on a place.
-/

namespace IssueFlow.Regex

open Text (hexNumber? numberIn char? hexValue?)

structure Flags where
  anyCase : Bool := false
  multiLine : Bool := false
  dotAll : Bool := false
  crlf : Bool := false
  /-- Classes and word edges go by Unicode rather than ASCII. -/
  unicode : Bool := true
  /-- Repetitions are lazy unless they are marked. -/
  lazyFirst : Bool := false
  /-- White space and comments in the pattern are skipped. -/
  spaced : Bool := false
  deriving Repr

namespace Flags

/-- Sets the flag of that letter. -/
def set? (flags : Flags) (on : Bool) : Char → Option Flags
  | 'i' => some { flags with anyCase := on }
  | 'm' => some { flags with multiLine := on }
  | 's' => some { flags with dotAll := on }
  | 'R' => some { flags with crlf := on }
  | 'u' => some { flags with unicode := on }
  | 'U' => some { flags with lazyFirst := on }
  | 'x' => some { flags with spaced := on }
  | _ => none

/-- Drops white space and comments, from inside a comment or from outside. -/
def dropSpaced (comment : Bool) : List Char → List Char
  | [] => []
  | c :: rest =>
    if comment then dropSpaced (c != '\n') rest
    else if c = '#' then dropSpaced true rest
    else if Text.isBlankChar c then dropSpaced false rest
    else c :: rest

/-- Drops white space and comments where the flags ask for it. -/
def skip (flags : Flags) (s : List Char) : List Char :=
  if flags.spaced then dropSpaced false s else s

theorem dropSpaced_length_le (comment : Bool) (s : List Char) :
    (dropSpaced comment s).length ≤ s.length := by
  fun_induction dropSpaced comment s <;> simp_all <;> omega

theorem skip_length_le (flags : Flags) (s : List Char) : (flags.skip s).length ≤ s.length := by
  unfold skip
  split
  · exact dropSpaced_length_le false s
  · exact Nat.le_refl _

/-- The characters in front that have a property, with what may be skipped after each of them. -/
def run (flags : Flags) (has : Char → Bool) : List Char → List Char × List Char
  | [] => ([], [])
  | c :: rest =>
    if has c then
      let (found, after) := flags.run has (flags.skip rest)
      (c :: found, after)
    else ([], c :: rest)
termination_by s => s.length
decreasing_by
  have := flags.skip_length_le rest
  simp only [List.length_cons]
  omega

/-- The class of the characters of words. -/
def word (flags : Flags) : CharClass :=
  if flags.unicode then .word else .asciiWord

/-- Closes a class under case where the flags ask for it. -/
def foldCase (flags : Flags) (set : CharClass) : CharClass :=
  if !flags.anyCase then set
  else set.foldCase (if flags.unicode then CharClass.orbits else CharClass.asciiOrbits)

/-- The complement of a class where it is asked for. Outside Unicode it would hold single bytes that
are no text. -/
def complementIf? (flags : Flags) (negated : Bool) (set : CharClass) : Option CharClass :=
  if negated && !flags.unicode then none else some (CharClass.complementIf negated set)

end Flags

/-- The letters of a flag group and the mark that ends it. A letter may stand once only, and a
minus sign needs a letter after it. -/
def readFlags (seen : List Char) (on dangling : Bool) (flags : Flags) :
    List Char → Option (Flags × Char × List Char)
  | [] => none
  | ')' :: rest => if dangling then none else some (flags, ')', rest)
  | ':' :: rest => if dangling then none else some (flags, ':', rest)
  | '-' :: rest => if on then readFlags seen false true flags rest else none
  | c :: rest => do
    guard !(seen.contains c)
    readFlags (c :: seen) on false (← flags.set? on c) rest

/-- What an escape stands for. -/
inductive Escape where
  | literal (c : Char)
  | set (s : CharClass)
  | look (l : Look)

def isMeta (c : Char) : Bool :=
  "\\.+*?()|[]\x7b\x7d^$#&-~".toList.contains c

/-- Any ASCII character but letters, digits and angle brackets may be escaped. -/
def isEscapable (c : Char) : Bool :=
  isMeta c || (c.toNat < 128 && !c.isAlphanum && c != '<' && c != '>')

def hexChar? (digits : List Char) : Option Char :=
  if digits.isEmpty then none else (hexNumber? digits).bind char?

/-- A number of hexadecimal digits, with what may be skipped between them. -/
def takeHex (flags : Flags) : Nat → List Char → Option (List Char × List Char)
  | 0, s => some ([], s)
  | n + 1, s =>
    match flags.skip s with
    | [] => none
    | c :: rest => do
      guard (hexValue? c).isSome
      let (digits, rest) ← takeHex flags n rest
      return (c :: digits, rest)

/-- The code point after `\x`, `\u` or `\U`: that many digits, or any number between braces. A code
point of two digits is a byte, which outside Unicode has to be ASCII. -/
def readHex (flags : Flags) (size : Nat) (s : List Char) : Option (Escape × List Char) :=
  match flags.skip s with
  | '\x7b' :: rest => do
    let (digits, rest) := flags.run (· != '\x7d') (flags.skip rest)
    guard !rest.isEmpty
    return (.literal (← hexChar? digits), rest.drop 1)
  | s => do
    let (digits, rest) ← takeHex flags size s
    let c ← hexChar? digits
    guard (flags.unicode || size != 2 || c.toNat < 128)
    return (.literal c, rest)

/-- The class of a property, given as a name or as a name and a value, and whether it is to be
complemented. -/
def namedProperty? (name : List Char) : Option (CharClass × Bool) :=
  match splitAt? ['!', '='] name, splitAt? [':'] name, splitAt? ['='] name with
  | some (kind, value), _, _ => (CharClass.propertyValue? kind value).map (·, true)
  | none, some (kind, value), _ | none, none, some (kind, value) =>
    (CharClass.propertyValue? kind value).map (·, false)
  | none, none, none => (CharClass.property? name).map (·, false)
where
  /-- What stands before a mark and after it. -/
  splitAt? (mark : List Char) : List Char → Option (List Char × List Char)
    | [] => none
    | c :: rest =>
      if mark.isPrefixOf (c :: rest) then some ([], (c :: rest).drop mark.length)
      else (splitAt? mark rest).map fun (before, after) => (c :: before, after)

/-- The class after `\p` or `\P`, named by a letter or between braces. There are none outside
Unicode. -/
def readProperty (flags : Flags) (negated : Bool) (s : List Char) :
    Option (Escape × List Char) := do
  guard flags.unicode
  let (name, rest) ← match flags.skip s with
    | [] => none
    | '\x7b' :: rest =>
      match flags.run (· != '\x7d') (flags.skip rest) with
      | (_, []) => none
      | (name, _ :: rest) => some (name, rest)
    | c :: rest => if c = '\\' then none else some ([c], rest)
  let (set, unequal) ← namedProperty? name
  return (.set (CharClass.complementIf (negated != unequal) (flags.foldCase set)), rest)

/-- The kinds of word edge that have a name. -/
def namedEdge? (word : CharClass) : String → Option Look
  | "start" => some (.wordStart word)
  | "end" => some (.wordEnd word)
  | "start-half" => some (.wordStartHalf word)
  | "end-half" => some (.wordEndHalf word)
  | _ => none

/-- The word edge after `\b`; braces that hold no name are left for the repetition that they are. -/
def readEdge (flags : Flags) (s : List Char) : Option (Escape × List Char) :=
  match s with
  | '\x7b' :: rest =>
    match flags.skip rest with
    | [] => none
    | c :: more =>
      let isNameChar (c : Char) : Bool := c.isAlpha || c == '-'
      if !isNameChar c then some (.look (.wordEdge flags.word), s)
      else
        match flags.run isNameChar (c :: more) with
        | (name, '\x7d' :: after) =>
          (namedEdge? flags.word (String.ofList name)).map fun l => (.look l, after)
        | _ => none
  | s => some (.look (.wordEdge flags.word), s)

/-- One of the three short classes, or its complement. -/
def shortClass (flags : Flags) (negated : Bool) (full ascii : CharClass) (rest : List Char) :
    Option (Escape × List Char) := do
  return (.set (← flags.complementIf? negated (if flags.unicode then full else ascii)), rest)

/-- What follows a backslash. -/
def readEscape (flags : Flags) : List Char → Option (Escape × List Char)
  | [] => none
  | c :: rest =>
    match c with
    | 'x' => readHex flags 2 rest
    | 'u' => readHex flags 4 rest
    | 'U' => readHex flags 8 rest
    | 'p' => readProperty flags false rest
    | 'P' => readProperty flags true rest
    | 'd' => shortClass flags false .digit .asciiDigit rest
    | 'D' => shortClass flags true .digit .asciiDigit rest
    | 's' => shortClass flags false .space .asciiSpace rest
    | 'S' => shortClass flags true .space .asciiSpace rest
    | 'w' => shortClass flags false .word .asciiWord rest
    | 'W' => shortClass flags true .word .asciiWord rest
    | 'a' => some (.literal (Char.ofNat 7), rest)
    | 'f' => some (.literal (Char.ofNat 12), rest)
    | 't' => some (.literal '\t', rest)
    | 'n' => some (.literal '\n', rest)
    | 'r' => some (.literal '\r', rest)
    | 'v' => some (.literal (Char.ofNat 11), rest)
    | 'A' => some (.look .textStart, rest)
    | 'z' => some (.look .textEnd, rest)
    | 'B' => some (.look (.notWordEdge flags.word), rest)
    | '<' => some (.look (.wordStart flags.word), rest)
    | '>' => some (.look (.wordEnd flags.word), rest)
    | 'b' => readEdge flags rest
    | c => if isEscapable c then some (.literal c, rest) else none

end IssueFlow.Regex
