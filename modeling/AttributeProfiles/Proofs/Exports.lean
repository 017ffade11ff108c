import AttributeProfiles.Mapper.Export
import AttributeProfiles.Proofs.PlainImport

/-!
# What is exported

Every attribute of an internal record that has external names for a profile sets one member of the
external record: the one that the first segment of its first name designates. The external record is
the table of these members, the later ones winning.
-/

namespace AttributeProfiles.Mapper

variable (m : Mapper) (profile : String)

/-- The nested name under which an attribute is exported to a profile. -/
def exportTarget? (internal : String) : Option NestedName :=
  (m.externalNames profile internal).head?.map (NestedName.ofName m.options.separator)

def exportedMember? (entry : String × List String) : Option (String × Json.Value) :=
  (m.exportTarget? profile entry.1).map fun target =>
    (target.first, NestedName.wrap target.inner (.texts entry.2))

/-- The members that an internal record sets, in the order in which they are set. -/
def exportedMembers (internal : Record) : List (String × Json.Value) :=
  internal.entries.filterMap (m.exportedMember? profile)

theorem exportAttribute_value (external : ExternalRecord) (entry : String × List String) :
    (m.exportAttribute profile external entry).value =
      match m.exportedMember? profile entry with
      | some member => external.insert member.1 member.2
      | none => external := by
  unfold exportAttribute exportedMember? exportTarget? externalNames AttributeTable.list?
  cases h : m.config.attributes.get? entry.1 with
  | none => simp
  | some lists =>
    simp only [exportName?]
    cases hl : lists.get? profile with
    | none => simp [hl]
    | some names => cases names <;> simp [hl, NestedName.put]

theorem fromInternal_value (internal : Record) :
    (m.fromInternal profile internal).value = Table.ofList (m.exportedMembers profile internal) := by
  simp only [fromInternal, Logged.foldlM_value, exportAttribute_value, Table.ofList,
    exportedMembers, List.foldl_filterMap]
  congr 1
  funext external entry
  cases m.exportedMember? profile entry <;> rfl

theorem get?_fromInternal (internal : Record) (name : String) :
    (m.fromInternal profile internal).value.get? name =
      (m.exportedMembers profile internal).reverse.lookup name := by
  rw [fromInternal_value, Table.get?_ofList]

end AttributeProfiles.Mapper
