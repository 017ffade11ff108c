import AttributeProfiles.Json.Printer
import AttributeProfiles.Nested
import AttributeProfiles.Record

/-!
# Records in JSON

Both kinds of records are JSON objects. Any object is an external record; an internal record is an
object of which every member is a list of texts.
-/

namespace AttributeProfiles

def ExternalRecord.ofValue? : Json.Value → Option ExternalRecord
  | .object members => some (.ofList members)
  | _ => none

def ExternalRecord.toValue (r : ExternalRecord) : Json.Value := .object r.entries

/-- The internal record that a value is, if it is an object of lists of texts. -/
def Record.ofValue? : Json.Value → Option Record
  | .object members => do
    let entries ← members.mapM fun (name, value) => value.texts?.map (name, ·)
    some (.ofList entries)
  | _ => none

def Record.toValue (r : Record) : Json.Value :=
  .object (r.entries.map fun (name, values) => (name, .texts values))

end AttributeProfiles
