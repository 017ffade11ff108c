import AttributeProfiles.Config.Document
import AttributeProfiles.Json.Tree
import AttributeProfiles.Json.Printer

/-!
# Configurations in JSON

A configuration is read from a JSON text and written as one. Parts of the text that a configuration
does not use have to follow the grammar and nothing more: an ignored number may be too large, an
ignored list nested too deep.
-/

namespace AttributeProfiles

namespace Json.Tree

mutual

/-- What a tree says as a document. A string that is no text, and an object with such a name, is as
useless as a number. -/
def document : Tree → Document
  | .null => .null
  | .boolean _ => .other
  | .number _ => .other
  | .text letters =>
    match textOfLetters? letters with
    | some content => .text content
    | none => .other
  | .list items => .list (documents items)
  | .object members =>
    match entries? members with
    | some entries => .table entries
    | none => .other

def documents : List Tree → List Document
  | [] => []
  | item :: items => document item :: documents items

/-- What the members of an object say, if all their names are texts. -/
def entries? : List (List Letter × Tree) → Option (List (String × Document))
  | [] => some []
  | (name, value) :: members =>
    match textOfLetters? name, entries? members with
    | some name, some entries => some ((name, document value) :: entries)
    | _, _ => none

end

end Json.Tree

namespace Config

def ofJson? (text : String) : Option Config :=
  (Json.Tree.read? text).bind fun tree => tree.document.config? .refused

def tableValue (t : AttributeTable) : Json.Value :=
  .object <| t.entries.map fun (internal, lists) =>
    (internal, .object <| lists.entries.map fun (profile, names) => (profile, .texts names))

def optionsValue (o : Options) : Json.Value :=
  .object [("separator", .text o.separator.toString),
    ("multivalue_separator", .text o.multivalueSeparator.toString),
    ("template_marker", .text o.templateMarker.toString)]

def toValue (c : Config) : Json.Value :=
  .object <| ("attributes", tableValue c.attributes) ::
    (c.templateAttributes.map fun t => ("template_attributes", tableValue t)).toList ++
    [("options", optionsValue c.options)]

def toJson (c : Config) : String := c.toValue.compact

end Config

end AttributeProfiles
