import IssueFlow.Enumeration
import IssueFlow.Ident
import IssueFlow.Json.Basic
import IssueFlow.Position
import IssueFlow.Timestamp

/-!
# Wire forms

The JSON form of a type: every value has one written form, and a reader takes that form and the
spellings that mean the same. A record is an object with a field for each part, unknown fields
being ignored, or an array of the parts in order.
-/

namespace IssueFlow

/-- The written form of a type and the forms that are read. -/
class Wire (α : Type) where
  encode : α → Json
  decode : Json → Option α

namespace Wire

instance : Wire Json := ⟨id, some⟩

instance : Wire String where
  encode := .string
  decode
    | .string s => some s
    | _ => none

instance : Wire Bool where
  encode := .bool
  decode
    | .bool b => some b
    | _ => none

instance {entity : Entity} : Wire (Ident entity) where
  encode id := .string id.text
  decode json := (Wire.decode json).map Ident.mk

/-- A time is written as in RFC 3339. -/
instance : Wire Timestamp where
  encode t := .string t.text
  decode json := (Wire.decode json).bind Timestamp.parse?

/-- An absent value is written as null. -/
instance {α : Type} [Wire α] : Wire (Option α) where
  encode
    | some a => Wire.encode a
    | none => .null
  decode
    | .null => some none
    | json => (Wire.decode json).map some

/-- Reads every item of a list. -/
def decodeAll {α : Type} [Wire α] : List Json → Option (List α)
  | [] => some []
  | item :: items => do return (← Wire.decode item) :: (← decodeAll items)

instance {α : Type} [Wire α] : Wire (List α) where
  encode items := .array (items.map Wire.encode)
  decode
    | .array items => decodeAll items
    | _ => none

def whole (n : Int) : Json := .number (.whole n)

/-- A whole number without sign has 64 bits. -/
instance : Wire Nat where
  encode n := whole n
  decode
    | .number (.whole (.ofNat n)) => if n < Nat.pow 2 64 then some n else none
    | _ => none

instance : Wire Position where
  encode p := whole p.value
  decode
    | .number (.whole n) => Position.ofInt? n
    | _ => none

/-- A bare tag is its name, or an object with the name as its only key and null as its value. In
content that was set aside an object without fields may stand for null. -/
def tag? (isSetAside : Bool) : Json → Option String
  | .string s => some s
  | .object [(s, .null)] => some s
  | .object [(s, .object [])] => if isSetAside then some s else none
  | _ => none

/-- The value of an enumeration that a bare tag names. -/
def named? {α : Type} [Enumeration α] (isSetAside : Bool) (json : Json) : Option α :=
  (tag? isSetAside json).bind Enumeration.ofName?

/-- The wire form of a named enumeration. -/
@[reducible] def enumeration {α : Type} [Enumeration α] : Wire α where
  encode a := .string (Enumeration.name a)
  decode := named? false

/-- The parts of a record: named in an object, or placed in an array. -/
inductive Parts where
  | named (fields : List (String × Json))
  | placed (items : List Json)

/-- The parts of a record of a given size. -/
def parts? (size : Nat) : Json → Option Parts
  | .object fields => some (.named fields)
  | .array items => if items.length ≤ size then some (.placed items) else none
  | _ => none

namespace Parts

/-- These parts, unless more are placed than a record of a given size has. -/
def upTo (parts : Parts) (size : Nat) : Option Parts :=
  match parts with
  | .named fields => some (.named fields)
  | .placed items => if items.length ≤ size then some (.placed items) else none

/-- A part, by its name or its place. -/
def find? (parts : Parts) (place : Nat) (name : String) : Option Json :=
  match parts with
  | .named fields => EntryList.find? name fields
  | .placed items => items[place]?

/-- A part that must be there. -/
def required {α : Type} [Wire α] (parts : Parts) (place : Nat) (name : String) : Option α :=
  (parts.find? place name).bind Wire.decode

/-- A part that may be absent where parts are named; null stands for an absent part. -/
def optional {α : Type} [Wire α] (parts : Parts) (place : Nat) (name : String) :
    Option (Option α) :=
  match parts, parts.find? place name with
  | .named _, none => some none
  | .placed _, none => none
  | _, some json => Wire.decode json

/-- A part that stands for a default when it is absent. -/
def withDefault {α : Type} [Wire α] (parts : Parts) (place : Nat) (name : String) (default : α) :
    Option α :=
  match parts.find? place name with
  | none => some default
  | some json => Wire.decode json

end Parts

/-- The content of a tagged value. Content is set aside when it is read before its tag. -/
structure Content where
  json? : Option Json
  isSetAside : Bool

/-- The tag of a value and its content, where both stand side by side under their keys. The keys of
an object come in ascending order. The value may have been set aside as a whole. An array holds the
name of the tag and then the content. -/
def tagged? (tagKey contentKey : String) (isSetAside : Bool) : Json → Option (String × Content)
  | .object fields => do
    let tag ← tag? isSetAside (← EntryList.find? tagKey fields)
    let content := EntryList.find? contentKey fields
    return (tag, ⟨content, isSetAside || decide (contentKey < tagKey)⟩)
  | .array [.string tag, content] => some (tag, ⟨some content, false⟩)
  | _ => none

namespace Content

/-- The content of a value without parts: absent or null. -/
def nothing (content : Content) : Option Unit :=
  match content.json? with
  | none | some .null => some ()
  | some _ => none

end Content

/-- A tag that stands among the parts of its value. In content that was set aside it may be written
by its number too. -/
def innerTag? (tags : List String) (isSetAside : Bool) : Json → Option String
  | .string tag => some tag
  | .number (.whole (.ofNat n)) => if isSetAside then tags[n]? else none
  | _ => none

/-- The tag of a value whose parts stand beside its tag, and those parts. -/
def taggedParts? (tagKey : String) (tags : List String) (isSetAside : Bool) :
    Json → Option (String × Parts)
  | .object fields => do
    let tag ← innerTag? tags isSetAside (← EntryList.find? tagKey fields)
    return (tag, .named (fields.filter fun field => field.1 != tagKey))
  | .array (tag :: items) => do return (← innerTag? tags isSetAside tag, .placed items)
  | _ => none

end Wire

end IssueFlow
