import AttributeProfiles.Json.Value

/-!
# Attribute values

The values of an attribute are texts. An external record may hold a list or a single scalar
instead, and its scalars may be numbers or booleans. Only the empty text counts as no value, and only
where it stands alone: `false` and `0` are values.
-/

namespace AttributeProfiles

def scalarText? : Json.Value → Option String
  | .text s => some s
  | .number n => some n.toText
  | .boolean true => some "true"
  | .boolean false => some "false"
  | .null | .list _ | .object _ => none

/-- The attribute values that an external value carries: the scalars of a list, or one scalar. -/
def collected : Json.Value → List String
  | .list items => items.filterMap scalarText?
  | .text s => if s = "" then [] else [s]
  | value => (scalarText? value).toList

@[simp] theorem collected_texts (values : List String) :
    collected (.texts values) = values := by
  induction values with
  | nil => rfl
  | cons v vs ih =>
    simp only [Json.Value.texts, collected, List.map_cons] at ih ⊢
    simp [scalarText?, ih]

end AttributeProfiles
