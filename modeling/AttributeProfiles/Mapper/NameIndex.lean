import AttributeProfiles.Config.Basic
import AttributeProfiles.Event

/-!
# The index of external names

The index answers, for a profile and an external name, which internal attribute the name stands
for. Of several attributes that list a name for a profile the one declared last owns it, and each
change of owner is logged. A profile is in the index as soon as an attribute has a list for it, be it
empty.
-/

namespace AttributeProfiles

abbrev NameIndex := Table (Table String)

namespace NameIndex

def owners (index : NameIndex) (profile : String) : Table String :=
  (index.get? profile).getD .empty

def assign (internal profile : String) (index : NameIndex) (external : String) :
    Eventful NameIndex := do
  let owners := index.owners profile
  match owners.get? external with
  | some previous =>
    if previous ≠ internal then
      Logged.log (.nameTaken profile external previous internal)
  | none => pure ()
  pure (index.insert profile (owners.insert external internal))

/-- Make an attribute the owner of the external names that it has for a profile. -/
def assignList (internal : String) (index : NameIndex) (list : String × List String) :
    Eventful NameIndex :=
  list.2.foldlM (assign internal list.1) (index.insert list.1 (index.owners list.1))

def assignLists (index : NameIndex) (entry : String × NameLists) : Eventful NameIndex :=
  entry.2.entries.foldlM (assignList entry.1) index

def ofAttributes (t : AttributeTable) : Eventful NameIndex :=
  t.entries.foldlM assignLists .empty

def owner? (index : NameIndex) (profile external : String) : Option String :=
  (index.owners profile).get? external

end NameIndex

end AttributeProfiles
