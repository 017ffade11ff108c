import AttributeProfiles.Mapper.Basic
import AttributeProfiles.Nested
import AttributeProfiles.Template.Logging
import AttributeProfiles.Values

/-!
# From external to internal records

An internal attribute collects the values of all its external names, in the order of the names.
Attributes without values are left out. Template attributes come afterwards, in declaration order:
each sees the record as it then is. A template that fails gives no values, and an attribute whose
templates give none keeps the values that it has.
-/

namespace AttributeProfiles.Mapper

/-- The values that an external record holds under these names. -/
def collate (separator : Char) (names : List String) (external : ExternalRecord) : List String :=
  names.flatMap fun name =>
    (((NestedName.ofName separator name).find? external).map collected).getD []

def importAttribute (m : Mapper) (profile : String) (external : ExternalRecord) (record : Record)
    (entry : String × NameLists) : Eventful Record :=
  match entry.2.get? profile with
  | none => do
    Logged.log (.unmappedForImport entry.1 profile)
    pure record
  | some names =>
    match collate m.options.separator names external with
    | [] => do
      Logged.log (.noValueFound names)
      pure record
    | value :: values => do
      Logged.log (.attributeImported names entry.1 (value :: values))
      pure (record.insert entry.1 (value :: values))

/-- The record that the table of attributes alone makes of an external record. -/
def importPlain (m : Mapper) (profile : String) (external : ExternalRecord) : Eventful Record :=
  m.config.attributes.entries.foldlM (m.importAttribute profile external) .empty

def templateValues (separator : Char) (internal : String) (record : Record) (t : Template) :
    Eventful (List String) := do
  match ← t.renderValuesLogged record separator with
  | .ok values => pure values
  | .error cause => do
    Logged.log (.templateFailed internal t.source cause)
    pure []

def deriveAttribute (m : Mapper) (profile : String) (record : Record)
    (derived : DerivedAttribute) : Eventful Record :=
  match derived.templates.lookup profile with
  | none => pure record
  | some templates => do
    let values ← templates.mapM
      (templateValues m.options.multivalueSeparator derived.name record)
    if values.flatten ≠ [] then
      Logged.log (.derivedAttributeSet derived.name values.flatten)
      pure (record.insert derived.name values.flatten)
    else
      if (record.get? derived.name).isSome then
        Logged.log (.mappedValueKept derived.name)
      pure record

def deriveAll (m : Mapper) (profile : String) (record : Record) : Eventful Record :=
  m.derived.foldlM (m.deriveAttribute profile) record

def toInternal (m : Mapper) (profile : String) (external : ExternalRecord) : Eventful Record := do
  m.deriveAll profile (← m.importPlain profile external)

end AttributeProfiles.Mapper
