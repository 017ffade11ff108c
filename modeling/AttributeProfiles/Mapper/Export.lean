import AttributeProfiles.Mapper.Basic
import AttributeProfiles.Nested

/-!
# From internal to external records

An attribute goes under the first of its external names. Attributes are visited in the order of the
internal record; of two whose names begin with the same segment the later one replaces the earlier,
at the place of the earlier.
-/

namespace AttributeProfiles.Mapper

def exportName? (lists : NameLists) (profile : String) : Option String :=
  (lists.get? profile).bind List.head?

def exportAttribute (m : Mapper) (profile : String) (external : ExternalRecord)
    (entry : String × List String) : Eventful ExternalRecord :=
  match m.config.attributes.get? entry.1 with
  | none => do
    Logged.log (.unmappedAttribute entry.1)
    pure external
  | some lists =>
    match exportName? lists profile with
    | none => do
      Logged.log (.unmappedForExport entry.1 profile)
      pure external
    | some name => do
      Logged.log (.attributeExported name entry.1 entry.2)
      pure ((NestedName.ofName m.options.separator name).put (.texts entry.2) external)

def fromInternal (m : Mapper) (profile : String) (internal : Record) : Eventful ExternalRecord :=
  internal.entries.foldlM (m.exportAttribute profile) .empty

end AttributeProfiles.Mapper
