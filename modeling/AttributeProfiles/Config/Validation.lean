import AttributeProfiles.Config.Basic

/-!
# Validation

A valid configuration has no empty names in either table and three different option characters.
Empty lists of names are fine: they leave an attribute unmapped. The violation that is reported is
the first in the order of declaration, the options coming last.
-/

namespace AttributeProfiles

/-- The first empty entry in the lists of an attribute. -/
def NameLists.violation? (table : Section) (internal : String) (lists : NameLists) :
    Option Violation :=
  lists.entries.findSome? fun (profile, names) =>
    (names.findIdx? (· = "")).map (.emptyExternalName table internal profile)

def AttributeTable.violation? (table : Section) (t : AttributeTable) : Option Violation :=
  t.entries.findSome? fun (internal, lists) =>
    if internal = "" then some (.emptyInternalName table)
    else NameLists.violation? table internal lists

def Options.areDistinct (o : Options) : Bool :=
  o.separator ≠ o.multivalueSeparator ∧ o.separator ≠ o.templateMarker ∧
    o.multivalueSeparator ≠ o.templateMarker

def Options.violation? (o : Options) : Option Violation :=
  if o.areDistinct then none else some (.repeatedOption o)

def Config.violation? (c : Config) : Option Violation :=
  (AttributeTable.violation? .attributes c.attributes).or <|
    (AttributeTable.violation? .templateAttributes c.derived).or c.options.violation?

def Config.validate (c : Config) : Except ConfigError Unit :=
  match c.violation? with
  | none => .ok ()
  | some violation => .error (.invalidValue violation)

end AttributeProfiles
