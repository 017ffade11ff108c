import AttributeProfiles.Json.Value
import AttributeProfiles.Text.Pieces

/-!
# Nested names

External records nest and internal records are flat. An external name such as
`address.street_address` names a member of a member: its segments lead from the record inwards, one
object each. Segments may be empty.
-/

namespace AttributeProfiles

/-- A record of one profile: its members in the order in which they were first set. -/
abbrev ExternalRecord := Table Json.Value

/-- The segments of an external name, of which there is at least one. -/
@[ext]
structure NestedName where
  first : String
  inner : List String
deriving DecidableEq, Repr

namespace NestedName

def ofName (separator : Char) (name : String) : NestedName :=
  match Text.split separator name with
  | [] => ⟨"", []⟩
  | first :: inner => ⟨first, inner⟩

/-- All segments, from the record inwards. -/
def segments (n : NestedName) : List String := n.first :: n.inner

@[simp] theorem segments_ofName (separator : Char) (name : String) :
    (ofName separator name).segments = Text.split separator name := by
  unfold ofName
  split
  next h => exact absurd h (Text.split_ne_nil separator name)
  next h => simp [segments, h]

theorem ofName_eq_iff {separator : Char} {name first : String} {inner : List String} :
    ofName separator name = ⟨first, inner⟩ ↔ Text.split separator name = first :: inner := by
  rw [← segments_ofName, segments, List.cons.injEq, NestedName.ext_iff]

/-- The member of a member to which segments lead from a value. -/
def descend? (value : Json.Value) (segments : List String) : Option Json.Value :=
  segments.foldlM Json.Value.member? value

/-- What a record holds under a name. Nothing, where a segment is absent or leads into something
that is no object. -/
def find? (n : NestedName) (record : ExternalRecord) : Option Json.Value :=
  (record.get? n.first).bind (descend? · n.inner)

/-- A value wrapped in an object for each segment, the last segment innermost. -/
def wrap (segments : List String) (value : Json.Value) : Json.Value :=
  segments.foldr (fun segment inner => .object [(segment, inner)]) value

/-- A record with a value put under a name. What it held under the first segment is replaced. -/
def put (n : NestedName) (value : Json.Value) (record : ExternalRecord) : ExternalRecord :=
  record.insert n.first (wrap n.inner value)

@[simp] theorem descend?_nil (value : Json.Value) : descend? value [] = some value := rfl

@[simp] theorem descend?_cons (value : Json.Value) (segment : String) (segments : List String) :
    descend? value (segment :: segments) =
      (value.member? segment).bind (descend? · segments) := by
  simp [descend?]

theorem descend?_append (value : Json.Value) (outer inner : List String) :
    descend? value (outer ++ inner) = (descend? value outer).bind (descend? · inner) := by
  simp [descend?, List.foldlM_append]

@[simp] theorem descend?_wrap (segments : List String) (value : Json.Value) :
    descend? (wrap segments value) segments = some value := by
  induction segments with
  | nil => rfl
  | cons segment segments ih =>
    rw [descend?_cons]
    simpa [wrap, Json.Value.member?] using ih

theorem find?_put (n : NestedName) (value : Json.Value) (record : ExternalRecord) :
    n.find? (n.put value record) = some value := by
  simp [find?, put]

end NestedName

end AttributeProfiles
