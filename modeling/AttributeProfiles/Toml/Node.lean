import AttributeProfiles.Config.Document
import AttributeProfiles.Toml.Text

/-!
# TOML tables under construction

A table can be written in pieces, and how it came about decides what may still be added to it. A
table that has its own header or braces is closed to dotted keys. One that exists because a header
or a dotted key leads through it can be extended in the way it began. Nothing is defined twice.
-/

namespace AttributeProfiles.Toml

inductive Origin where
  | header
  | throughHeader
  | throughDots
deriving DecidableEq, Repr

/-- What a key stands for while a document is read. -/
inductive Node where
  | value (content : Document)
  | table (origin : Origin) (entries : List (String × Node))
  | tables (elements : List Node)

abbrev Entries := List (String × Node)

/-- Entries with what `name` stands for changed by `change`, which sees nothing if the name is new
and can refuse. A new name goes to the end. -/
def Entries.update? (name : String) (change : Option Node → Option Node) :
    Entries → Option Entries
  | [] => (change none).map fun node => [(name, node)]
  | e :: es =>
    if e.1 = name then (change (some e.2)).map fun node => (name, node) :: es
    else (update? name change es).map (e :: ·)

def updateLast? (change : Entries → Option Entries) (elements : List Node) :
    Option (List Node) :=
  match elements.getLast? with
  | some (.table origin entries) =>
    (change entries).map fun entries => elements.dropLast ++ [.table origin entries]
  | _ => none

/-- Entries with a value added under a dotted key. -/
def addDotted? (name : String) (content : Document) : List String → Entries → Option Entries
  | [], entries =>
    Entries.update? name (fun
      | none => some (.value content)
      | some _ => none) entries
  | segment :: path, entries =>
    Entries.update? segment (fun
      | none => (addDotted? name content path []).map (.table .throughDots)
      | some (.table origin inner) =>
        if origin = .header ∨ (path = [] ∧ origin ≠ .throughDots) then none
        else (addDotted? name content path inner).map (.table origin)
      | some (.tables elements) =>
        if path = [] then none
        else (updateLast? (addDotted? name content path) elements).map .tables
      | some (.value _) => none) entries

abbrev Pairs := List (Key × Document)

def addPairs? (entries : Entries) (pairs : Pairs) : Option Entries :=
  pairs.foldlM (fun entries (key, content) => addDotted? key.name content key.path entries) entries

/-- Entries with the table at the end of a header's path changed. -/
def throughHeader? (change : Entries → Option Entries) : List String → Entries → Option Entries
  | [], entries => change entries
  | segment :: path, entries =>
    Entries.update? segment (fun
      | none => (throughHeader? change path []).map (.table .throughHeader)
      | some (.table origin inner) => (throughHeader? change path inner).map (.table origin)
      | some (.tables elements) =>
        (updateLast? (throughHeader? change path) elements).map .tables
      | some (.value _) => none) entries

inductive Part where
  | table (key : Key) (pairs : Pairs)
  | element (key : Key) (pairs : Pairs)

/-- A document with one more part. A table that headers have led through before moves to the end as
it gets its own header. -/
def addPart? (entries : Entries) : Part → Option Entries
  | .table key pairs =>
    throughHeader? (fun siblings => do
      let begun ← match siblings.lookup key.name with
        | none => some []
        | some (.table .throughHeader inner) => some inner
        | some _ => none
      let inner ← addPairs? begun pairs
      some (siblings.filter (·.1 ≠ key.name) ++ [(key.name, .table .header inner)]))
      key.path entries
  | .element key pairs =>
    throughHeader? (Entries.update? key.name (fun
      | none => do some (.tables [.table .header (← addPairs? [] pairs)])
      | some (.tables elements) => do
        some (.tables (elements ++ [.table .header (← addPairs? [] pairs)]))
      | some _ => none)) key.path entries

namespace Node

mutual

def document : Node → Document
  | .value content => content
  | .table _ entries => .table (entriesDocument entries)
  | .tables elements => .list (elementsDocument elements)

def entriesDocument : List (String × Node) → List (String × Document)
  | [] => []
  | (name, node) :: entries => (name, document node) :: entriesDocument entries

def elementsDocument : List Node → List Document
  | [] => []
  | node :: nodes => document node :: elementsDocument nodes

end

end Node

end AttributeProfiles.Toml
