import AttributeProfiles.Config.Basic

/-!
# Documents

JSON and TOML configurations have one shape: tables, lists and texts. A document is what either
format says, as far as a configuration can use it; numbers and booleans are all alike. A record of
fields may be written as a table or as the list of its fields in order. Unknown fields are ignored,
a field given twice is an error. A date or time counts as a table that has none of the fields.
-/

namespace AttributeProfiles

inductive Document where
  | null
  | text (content : String)
  | list (items : List Document)
  | table (entries : List (String × Document))
  | moment
  | other
deriving Repr

namespace Document

/-- Whether a list may hold more items than the record that it stands for has fields. -/
inductive Surplus where
  | refused
  | ignored
deriving DecidableEq, Repr

/-- The field of this name: `some none` if there is none, and `none` if there are several. -/
def field? (entries : List (String × Document)) (name : String) : Option (Option Document) :=
  match entries.filter (·.1 = name) with
  | [] => some none
  | [e] => some (some e.2)
  | _ => none

def fields? (surplus : Surplus) (names : List String) : Document → Option (List (Option Document))
  | .table entries => names.mapM (field? entries)
  | .list items =>
    if surplus = .refused ∧ names.length < items.length then none
    else some ((List.range names.length).map fun i => items[i]?)
  | .moment => some (names.map fun _ => none)
  | _ => none

def char? : Document → Option Char
  | .text content =>
    match content.toList with
    | [c] => some c
    | _ => none
  | _ => none

def text? : Document → Option String
  | .text content => some content
  | _ => none

def names? : Document → Option (List String)
  | .list items => items.mapM text?
  | _ => none

def table? {α : Type} (value : Document → Option α) : Document → Option (Table α)
  | .table entries => do
    let read ← entries.mapM fun (name, d) => (value d).map (name, ·)
    some (.ofList read)
  | _ => none

def attributeTable? : Document → Option AttributeTable := table? (table? names?)

/-- A field with a default for its absence. -/
def fieldOr {α : Type} (default : α) (value : Document → Option α) : Option Document → Option α
  | none => some default
  | some d => value d

def options? (surplus : Surplus) (d : Document) : Option Options := do
  let [separator, multivalueSeparator, templateMarker] ←
    d.fields? surplus ["separator", "multivalue_separator", "template_marker"] | none
  let defaults : Options := {}
  some {
    separator := ← fieldOr defaults.separator char? separator
    multivalueSeparator := ← fieldOr defaults.multivalueSeparator char? multivalueSeparator
    templateMarker := ← fieldOr defaults.templateMarker char? templateMarker }

/-- A table of attributes, or `null` for its absence. -/
def optionalTable? : Document → Option (Option AttributeTable)
  | .null => some none
  | d => d.attributeTable?.map some

def config? (surplus : Surplus) (d : Document) : Option Config := do
  let [attributes, templateAttributes, options] ←
    d.fields? surplus ["attributes", "template_attributes", "options"] | none
  some {
    attributes := ← attributes.bind attributeTable?
    templateAttributes := ← fieldOr none optionalTable? templateAttributes
    options := ← fieldOr {} (options? surplus) options }

end Document

end AttributeProfiles
