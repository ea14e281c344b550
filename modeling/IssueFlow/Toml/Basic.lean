/-!
# TOML documents

A document is a list of statements: table headers and assignments. Its tables are built by carrying
the statements out in order; a statement that defines a table or a key twice has no result.
-/

namespace IssueFlow.Toml

/-- A value on the right of an assignment. Dates and binary numbers are recognised, not kept. -/
inductive Value where
  | string (text : String)
  | integer (value : Int)
  | real
  | boolean (value : Bool)
  | date
  | array (items : List Value)
  | table (entries : List (String × Value))
  deriving Repr, Inhabited

inductive Statement where
  | header (path : List String)
  | arrayHeader (path : List String)
  | assign (path : List String) (value : Value)
  deriving Repr

/-- How a table came to be: by its own header, on the way to another header, or by a dotted key. -/
inductive Origin where
  | header
  | implied
  | dotted
  deriving DecidableEq, Repr

/-- What a key of a table that is being built holds. -/
inductive Node where
  | value (v : Value)
  | table (origin : Origin) (entries : List (String × Node))
  /-- The tables under an array header, the latest first. -/
  | tables (latest : List (String × Node)) (earlier : List (List (String × Node)))
  deriving Repr

abbrev Entries := List (String × Node)

namespace Entries

def get? (key : String) (entries : Entries) : Option Node :=
  (entries.find? (·.1 == key)).map Prod.snd

/-- Sets a key in its place, or at the end when it is new. -/
def set (key : String) (node : Node) : Entries → Entries
  | [] => [(key, node)]
  | (k, n) :: rest => if k = key then (key, node) :: rest else (k, n) :: set key node rest

/-- Changes the table at the end of a path of headers. Tables on the way come to be by implication;
an array of tables stands for its latest one. -/
def alterAt (change : Origin → Entries → Option (Origin × Entries)) :
    List String → Origin → Entries → Option (Origin × Entries)
  | [], origin, entries => change origin entries
  | key :: path, origin, entries =>
    match entries.get? key with
    | none => do
      let (o, inner) ← alterAt change path .implied []
      return (origin, entries.set key (.table o inner))
    | some (.value _) => none
    | some (.table o inner) => do
      let (o, inner) ← alterAt change path o inner
      return (origin, entries.set key (.table o inner))
    | some (.tables latest earlier) => do
      let (_, latest) ← alterAt change path .header latest
      return (origin, entries.set key (.tables latest earlier))

/-- Assigns along a dotted key. The tables on the way are those of other dotted keys. -/
def assign (value : Value) : List String → Entries → Option Entries
  | [], _ => none
  | [key], entries =>
    match entries.get? key with
    | none => some (entries.set key (.value value))
    | some _ => none
  | key :: path, entries =>
    match entries.get? key with
    | none => do return entries.set key (.table .dotted (← assign value path []))
    | some (.table .dotted inner) => do
      return entries.set key (.table .dotted (← assign value path inner))
    | some (.table .implied inner) => do
      guard (path.length ≠ 1)
      return entries.set key (.table .implied (← assign value path inner))
    | some (.tables latest earlier) => do
      guard (path.length ≠ 1)
      return entries.set key (.tables (← assign value path latest) earlier)
    | some _ => none

/-- Opens the table of a header: a new one, or one that was only implied so far. -/
def openTable (key : String) (entries : Entries) : Option Entries :=
  match entries.get? key with
  | none => some (entries.set key (.table .header []))
  | some (.table .implied inner) => some (entries.set key (.table .header inner))
  | some _ => none

/-- Opens one more table of an array. -/
def openArrayItem (key : String) (entries : Entries) : Option Entries :=
  match entries.get? key with
  | none => some (entries.set key (.tables [] []))
  | some (.tables latest earlier) => some (entries.set key (.tables [] (latest :: earlier)))
  | some _ => none

end Entries

mutual

/-- The value that a node has when the document is complete. -/
def Node.toValue : Node → Value
  | .value v => v
  | .table _ entries => .table (toValues entries)
  | .tables latest earlier => .array (toTables earlier ++ [.table (toValues latest)])

def toValues : List (String × Node) → List (String × Value)
  | [] => []
  | (key, node) :: rest => (key, node.toValue) :: toValues rest

/-- The tables of an array in the order of their headers; they stand latest first. -/
def toTables : List (List (String × Node)) → List Value
  | [] => []
  | entries :: rest => toTables rest ++ [.table (toValues entries)]

end

/-- A document under construction: its tables and the path of the header in force. -/
structure Document where
  entries : Entries
  current : List String

/-- Changes the tables at a path, keeping how they came to be. -/
def Document.alter (doc : Document) (path : List String) (change : Entries → Option Entries) :
    Option Entries :=
  (doc.entries.alterAt (fun origin entries => (change entries).map (origin, ·)) path .header).map
    Prod.snd

/-- Carries out one statement. -/
def Document.step (doc : Document) : Statement → Option Document
  | .header path => do
    let entries ← doc.alter path.dropLast (Entries.openTable (← path.getLast?))
    return ⟨entries, path⟩
  | .arrayHeader path => do
    let entries ← doc.alter path.dropLast (Entries.openArrayItem (← path.getLast?))
    return ⟨entries, path⟩
  | .assign path value => do
    let entries ← doc.alter doc.current (Entries.assign value path)
    return { doc with entries }

/-- The tables that the statements define. -/
def build? (statements : List Statement) : Option (List (String × Value)) :=
  (statements.foldlM Document.step ⟨[], []⟩).map fun doc => toValues doc.entries

/-- The table of the assignments inside braces. -/
def inlineTable? (pairs : List (List String × Value)) : Option Value :=
  (pairs.foldlM (fun entries (path, value) => Entries.assign value path entries)
    []).map fun entries => .table (toValues entries)

end IssueFlow.Toml
