import IssueFlow.CharClass.Age
import IssueFlow.CharClass.Script
import IssueFlow.CharClass.Segment

/-!
# Properties by name

Properties and their values are named in full or in short. Names are compared without regard to
case, blanks, hyphens and low lines.
-/

namespace IssueFlow.CharClass

/-- A name in the form in which it is compared: ASCII characters in lower case, without a leading
`is`. The name `isc` keeps it, which is no short name of the category `c`. -/
def plainName (s : List Char) : String :=
  let marked := (s.take 2).map Char.toLower == ['i', 's']
  let kept := ((if marked then s.drop 2 else s).filter fun c =>
    c.toNat < 128 && c != ' ' && c != '_' && c != '-').map Char.toLower
  String.ofList (if marked && kept == ['c'] then ['i', 's', 'c'] else kept)

/-- The class of a category, a script or an attribute. -/
def property? (name : List Char) : Option CharClass :=
  let name := plainName name
  (((Category.ofName? name).or (Script.ofName? name)).or (Attribute.ofName? name)).map Term.eval

/-- The class of the characters for which a property has a value. -/
def propertyValue? (name value : List Char) : Option CharClass :=
  let value := plainName value
  let term : Option Term := match plainName name with
    | "gc" | "generalcategory" => Category.ofName? value
    | "sc" | "script" => Script.ofName? value
    | "scx" | "scriptextensions" => Script.extensionOfName? value
    | "age" => Age.ofName? value
    | "gcb" | "graphemeclusterbreak" => Segment.characterBreak? value
    | "wb" | "wordbreak" => Segment.wordBreak? value
    | "sb" | "sentencebreak" => Segment.sentenceBreak? value
    | _ => none
  term.map Term.eval

def digit : CharClass := Category.decimalNumber.eval

def space : CharClass := Attribute.whiteSpace.eval

def word : CharClass := Attribute.word.eval

/-- The characters with which the name of a group begins. -/
def alphabetic : CharClass := Attribute.alphabetic.eval

def numeric : CharClass := Category.number.eval

def asciiDigit : CharClass := ⟨[(0x30, 0x39)]⟩

def asciiSpace : CharClass := ⟨[(9, 13), (0x20, 0x20)]⟩

def asciiWord : CharClass := ⟨[(0x30, 0x39), (0x41, 0x5a), (0x5f, 0x5f), (0x61, 0x7a)]⟩

/-- The classes of ASCII characters that have a name. -/
def asciiNamed? : String → Option CharClass
  | "alnum" => some ⟨[(0x30, 0x39), (0x41, 0x5a), (0x61, 0x7a)]⟩
  | "alpha" => some ⟨[(0x41, 0x5a), (0x61, 0x7a)]⟩
  | "ascii" => some ⟨[(0, 0x7f)]⟩
  | "blank" => some ⟨[(9, 9), (0x20, 0x20)]⟩
  | "cntrl" => some ⟨[(0, 0x1f), (0x7f, 0x7f)]⟩
  | "digit" => some asciiDigit
  | "graph" => some ⟨[(0x21, 0x7e)]⟩
  | "lower" => some ⟨[(0x61, 0x7a)]⟩
  | "print" => some ⟨[(0x20, 0x7e)]⟩
  | "punct" => some ⟨[(0x21, 0x2f), (0x3a, 0x40), (0x5b, 0x60), (0x7b, 0x7e)]⟩
  | "space" => some asciiSpace
  | "upper" => some ⟨[(0x41, 0x5a)]⟩
  | "word" => some asciiWord
  | "xdigit" => some ⟨[(0x30, 0x39), (0x41, 0x46), (0x61, 0x66)]⟩
  | _ => none

end IssueFlow.CharClass
