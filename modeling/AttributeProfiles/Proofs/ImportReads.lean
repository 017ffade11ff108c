import AttributeProfiles.Proofs.Loops
import AttributeProfiles.Proofs.RoundTrip

/-!
# What an import reads

Of an external record, an import reads what the names listed for the profile lead to and nothing
else. Two records with the same under every listed name are imported in the same way, down to what
is logged; what else they hold, and in which order, is never seen. The order of the members inside a
value that was found is not seen either.
-/

namespace AttributeProfiles

/-- Values that are the same up to the order of members. Numbers are the same when they are written
in the same way, so the two zeros of a double differ. -/
inductive Json.Value.Alike : Json.Value → Json.Value → Prop
  | refl (value : Json.Value) : Alike value value
  | list {xs ys : List Json.Value} (items : List.Forall₂ Alike xs ys) : Alike (.list xs) (.list ys)
  | object {xs ys : List (String × Json.Value)}
      (members : ∀ name, Option.Rel Alike (xs.lookup name) (ys.lookup name)) :
      Alike (.object xs) (.object ys)

/-- Results of two look-ups that are alike, or missing in both. -/
abbrev Json.Value.FoundAlike : Option Json.Value → Option Json.Value → Prop := Option.Rel Alike

namespace Json.Value

theorem FoundAlike.refl (found : Option Json.Value) : FoundAlike found found := by
  cases found with
  | none => exact .none
  | some value => exact .some (.refl value)

theorem FoundAlike.bind {found other : Option Json.Value} {f : Json.Value → Option Json.Value}
    (h : FoundAlike found other) (hf : ∀ v w, v.Alike w → FoundAlike (f v) (f w)) :
    FoundAlike (found.bind f) (other.bind f) := by
  cases h with
  | none => exact .none
  | some h => exact hf _ _ h

namespace Alike

variable {v w : Json.Value}

theorem scalarText?_eq (h : v.Alike w) : scalarText? v = scalarText? w := by
  cases h with
  | refl => rfl
  | list items => rfl
  | object members => rfl

theorem collected_eq (h : v.Alike w) : collected v = collected w := by
  cases h with
  | refl => rfl
  | object members => rfl
  | list items =>
    rw [collected, collected]
    induction items with
    | nil => rfl
    | cons hitem _ ih => rw [List.filterMap_cons, List.filterMap_cons, hitem.scalarText?_eq, ih]

theorem member? (h : v.Alike w) (name : String) :
    FoundAlike (v.member? name) (w.member? name) := by
  cases h with
  | refl => exact .refl _
  | list items => exact .none
  | object members => exact members name

theorem descend? (h : v.Alike w) (segments : List String) :
    FoundAlike (NestedName.descend? v segments) (NestedName.descend? w segments) := by
  induction segments generalizing v w with
  | nil => exact .some h
  | cons segment segments ih =>
    rw [NestedName.descend?_cons, NestedName.descend?_cons]
    apply FoundAlike.bind (h.member? segment)
    intro v w h
    exact ih h

end Alike

end Json.Value

namespace Mapper

open Json.Value (FoundAlike)

def lookUp (m : Mapper) (external : ExternalRecord) (name : String) : Option Json.Value :=
  (NestedName.ofName m.options.separator name).find? external

variable {m : Mapper} {profile : String} {x y : ExternalRecord}

theorem lookUp_of_get? {name : String}
    (h : FoundAlike (x.get? (m.firstSegment name)) (y.get? (m.firstSegment name))) :
    FoundAlike (m.lookUp x name) (m.lookUp y name) := by
  apply FoundAlike.bind h
  intro v w halike
  exact halike.descend? _

theorem valuesUnder_of_lookUp {name : String}
    (h : FoundAlike (m.lookUp x name) (m.lookUp y name)) :
    m.valuesUnder x name = m.valuesUnder y name := by
  change ((m.lookUp x name).map collected).getD [] = ((m.lookUp y name).map collected).getD []
  generalize m.lookUp x name = found at h ⊢
  generalize m.lookUp y name = other at h ⊢
  cases h with
  | none => rfl
  | some halike => rw [Option.map_some, Option.map_some, halike.collected_eq]

theorem importAttribute_of_lookUps {entry : String × NameLists}
    (h : ∀ name ∈ (entry.2.get? profile).getD [], FoundAlike (m.lookUp x name) (m.lookUp y name))
    (record : Record) :
    m.importAttribute profile x record entry = m.importAttribute profile y record entry := by
  unfold importAttribute
  cases hnames : entry.2.get? profile with
  | none => rfl
  | some names =>
    have hcollate : collate m.options.separator names x = collate m.options.separator names y := by
      apply List.flatMap_congr
      intro name hname
      apply valuesUnder_of_lookUp
      apply h
      rwa [hnames]
    simp only [hcollate]

theorem importPlain_of_lookUps
    (h : ∀ name ∈ m.listedNames profile, FoundAlike (m.lookUp x name) (m.lookUp y name)) :
    m.importPlain profile x = m.importPlain profile y := by
  apply Loops.foldlM_congr
  intro entry hentry record
  apply importAttribute_of_lookUps
  intro name hname
  exact h name (List.mem_flatMap.2 ⟨entry, hentry, hname⟩)

/-- Records in which all names listed for a profile lead to the same are imported in the same way.
So are records with the same members under the first segments of these names, whatever their other
members are and wherever they stand. -/
theorem toInternal_of_lookUps (m : Mapper) (profile : String) (x y : ExternalRecord) :
    ((∀ name ∈ m.listedNames profile, FoundAlike (m.lookUp x name) (m.lookUp y name)) →
      m.toInternal profile x = m.toInternal profile y) ∧
    ((∀ name ∈ m.listedNames profile,
        FoundAlike (x.get? (m.firstSegment name)) (y.get? (m.firstSegment name))) →
      m.toInternal profile x = m.toInternal profile y) := by
  have hlookUps (h : ∀ name ∈ m.listedNames profile,
      FoundAlike (m.lookUp x name) (m.lookUp y name)) :
      m.toInternal profile x = m.toInternal profile y := by
    rw [toInternal, toInternal, importPlain_of_lookUps h]
  refine ⟨hlookUps, fun h => hlookUps ?_⟩
  intro name hname
  exact lookUp_of_get? (h name hname)

def addressClaims : ExternalRecord :=
  contactClaims.insert "address"
    (.object [("street", .text "1 Elm Road"), ("city", .text "Bath")])

/-- The same claims in another order, with another city and with a member of which the address book
knows nothing. -/
def movedClaims : ExternalRecord :=
  .ofList [
    ("nickname", .text "ann"),
    ("address", .object [("city", .text "York"), ("street", .text "1 Elm Road")]),
    ("email", .texts ["ann@example.org"])]

theorem toInternal_of_lookUps_contacts :
    ((∀ name ∈ contacts.listedNames "openid",
        FoundAlike (contacts.lookUp addressClaims name) (contacts.lookUp movedClaims name)) ∧
      contacts.toInternal "openid" addressClaims = contacts.toInternal "openid" movedClaims) ∧
    ((∀ name ∈ contacts.listedNames "saml",
        FoundAlike (addressClaims.get? (contacts.firstSegment name))
          (movedClaims.get? (contacts.firstSegment name))) ∧
      contacts.toInternal "saml" addressClaims = contacts.toInternal "saml" movedClaims) := by
  have hopenid : contacts.listedNames "openid" = ["email", "address.street"] := by decide
  have hsaml : contacts.listedNames "saml" = ["email", "mail"] := by decide
  have hfound : ∀ name ∈ contacts.listedNames "openid",
      FoundAlike (contacts.lookUp addressClaims name) (contacts.lookUp movedClaims name) := by
    rw [hopenid]
    intro name hname
    rcases List.mem_pair.1 hname with rfl | rfl
    · exact FoundAlike.refl (some (.texts ["ann@example.org"]))
    · exact FoundAlike.refl (some (.text "1 Elm Road"))
  have hmembers : ∀ name ∈ contacts.listedNames "saml",
      FoundAlike (addressClaims.get? (contacts.firstSegment name))
        (movedClaims.get? (contacts.firstSegment name)) := by
    rw [hsaml]
    intro name hname
    rcases List.mem_pair.1 hname with rfl | rfl
    · exact FoundAlike.refl (some (.texts ["ann@example.org"]))
    · exact FoundAlike.refl none
  exact ⟨⟨hfound, (toInternal_of_lookUps contacts "openid" addressClaims movedClaims).1 hfound⟩,
    hmembers, (toInternal_of_lookUps contacts "saml" addressClaims movedClaims).2 hmembers⟩

end Mapper

end AttributeProfiles
