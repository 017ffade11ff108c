import AttributeProfiles.Proofs.NestedLookup
import AttributeProfiles.Proofs.PlainImport
import Mathlib.Data.List.Forall2

/-!
# What an attribute collects

What an attribute collects from an external record is told here without the functions that collect
it. Each external name leads to a value or to none. A list contributes the scalars among its items,
a scalar contributes itself, and nothing else contributes anything; an empty text is a value among
the items of a list but not alone. The attribute collects these contributions, one name after the
other: `collects_iff`.
-/

namespace AttributeProfiles

/-- What a value contributes as an item of a list. -/
inductive Json.Value.ContributesAsItem : Json.Value → List String → Prop
  | text (s : String) : ContributesAsItem (.text s) [s]
  | number (n : Json.Number) : ContributesAsItem (.number n) [n.toText]
  | isTrue : ContributesAsItem (.boolean true) ["true"]
  | isFalse : ContributesAsItem (.boolean false) ["false"]
  | null : ContributesAsItem .null []
  | list (items : List Json.Value) : ContributesAsItem (.list items) []
  | object (members : List (String × Json.Value)) : ContributesAsItem (.object members) []

/-- What a value contributes to an attribute that has it under an external name. -/
inductive Json.Value.Contributes : Json.Value → List String → Prop
  | list {items : List Json.Value} {lists : List (List String)}
      (h : List.Forall₂ ContributesAsItem items lists) : Contributes (.list items) lists.flatten
  | emptyText : Contributes (.text "") []
  | text {s : String} (h : s ≠ "") : Contributes (.text s) [s]
  | number (n : Json.Number) : Contributes (.number n) [n.toText]
  | isTrue : Contributes (.boolean true) ["true"]
  | isFalse : Contributes (.boolean false) ["false"]
  | null : Contributes .null []
  | object (members : List (String × Json.Value)) : Contributes (.object members) []

/-- What an external record contributes under a name: what the value contributes to which the
segments of the name lead, if they lead to one. -/
inductive ExternalRecord.Contributes (separator : Char) (external : ExternalRecord)
    (name : String) : List String → Prop
  | found {v : Json.Value} {values : List String}
      (h : (Json.Value.object external.entries).LeadsTo (Text.split separator name) v)
      (hvalues : v.Contributes values) : Contributes separator external name values
  | absent (h : ∀ v, ¬ (Json.Value.object external.entries).LeadsTo (Text.split separator name) v) :
      Contributes separator external name []

/-- An attribute collects what its external names contribute, in configured order. -/
def Mapper.Collects (m : Mapper) (profile : String) (external : ExternalRecord) (internal : String)
    (values : List String) : Prop :=
  ∃ lists, List.Forall₂ (ExternalRecord.Contributes m.options.separator external)
    (m.externalNames profile internal) lists ∧ lists.flatten = values

theorem exists_forall₂_flatten_iff {α β : Type} {R : α → List β → Prop} {f : α → List β}
    (h : ∀ a bs, R a bs ↔ f a = bs) {as : List α} {bs : List β} :
    (∃ lists, List.Forall₂ R as lists ∧ lists.flatten = bs) ↔ as.flatMap f = bs := by
  have hlists : ∀ lists, List.Forall₂ R as lists ↔ as.map f = lists := by
    intro lists
    rw [← List.forall₂_eq_eq_eq, List.forall₂_map_left_iff]
    exact ⟨.imp fun a bs => (h a bs).1, .imp fun a bs => (h a bs).2⟩
  simp only [hlists, exists_eq_left', List.flatMap_def]

namespace Json.Value

variable {v : Json.Value} {values : List String}

theorem contributesAsItem_iff : v.ContributesAsItem values ↔ (scalarText? v).toList = values := by
  constructor
  · rintro ⟨⟩ <;> rfl
  · rintro rfl
    cases v with
    | null => exact .null
    | boolean b =>
      cases b with
      | true => exact .isTrue
      | false => exact .isFalse
    | number n => exact .number n
    | text s => exact .text s
    | list items => exact .list items
    | object members => exact .object members

theorem contributes_list_iff {items : List Json.Value} :
    (Json.Value.list items).Contributes values ↔ items.filterMap scalarText? = values := by
  have hitems : (∃ lists, List.Forall₂ ContributesAsItem items lists ∧ lists.flatten = values) ↔
      items.flatMap (fun v => (scalarText? v).toList) = values :=
    exists_forall₂_flatten_iff (R := ContributesAsItem) fun _ _ => contributesAsItem_iff
  rw [List.filterMap_eq_flatMap_toList, ← hitems]
  constructor
  · rintro ⟨h⟩
    exact ⟨_, h, rfl⟩
  · rintro ⟨lists, h, rfl⟩
    exact .list h

/-- A value contributes what is collected from it. -/
theorem contributes_iff : v.Contributes values ↔ collected v = values := by
  constructor
  · intro h
    cases h with
    | list h => exact contributes_list_iff.1 (.list h)
    | text h => exact if_neg h
    | emptyText | number | isTrue | isFalse | null | object => rfl
  · rintro rfl
    cases v with
    | list items => exact contributes_list_iff.2 rfl
    | text s =>
      by_cases h : s = ""
      · rw [h]
        exact .emptyText
      · rw [collected, if_neg h]
        exact .text h
    | number n => exact .number n
    | boolean b =>
      cases b with
      | true => exact .isTrue
      | false => exact .isFalse
    | null => exact .null
    | object members => exact .object members

end Json.Value

theorem NestedName.find?_eq_some_iff {separator : Char} {name : String}
    {external : ExternalRecord} {v : Json.Value} :
    (ofName separator name).find? external = some v ↔
      (Json.Value.object external.entries).LeadsTo (Text.split separator name) v := by
  rw [← descend?_eq_some_iff, ← segments_ofName, segments, descend?_cons]
  rfl

namespace Mapper

variable {m : Mapper} {profile : String} {external : ExternalRecord} {values : List String}

theorem contributes_iff {name : String} :
    external.Contributes m.options.separator name values ↔
      m.valuesUnder external name = values := by
  constructor
  · rintro (⟨h, hvalues⟩ | h)
    · rw [valuesUnder, NestedName.find?_eq_some_iff.2 h]
      exact Json.Value.contributes_iff.1 hvalues
    · have hnone : (NestedName.ofName m.options.separator name).find? external = none :=
        Option.eq_none_iff_forall_ne_some.2 fun v hv => h v (NestedName.find?_eq_some_iff.1 hv)
      rw [valuesUnder, hnone]
      rfl
  · rintro rfl
    rw [valuesUnder]
    cases hfound : (NestedName.ofName m.options.separator name).find? external with
    | none =>
      refine .absent fun v h => ?_
      rw [NestedName.find?_eq_some_iff.2 h] at hfound
      cases hfound
    | some v =>
      exact .found (NestedName.find?_eq_some_iff.1 hfound) (Json.Value.contributes_iff.2 rfl)

/-- What an attribute collects is what is imported for it. -/
theorem collects_iff {internal : String} :
    m.Collects profile external internal values ↔
      m.importedValues profile external internal = values :=
  exists_forall₂_flatten_iff (R := external.Contributes m.options.separator)
    fun _ _ => contributes_iff

theorem exists_collects_of_importPlain (m : Mapper) (profile : String) (external : ExternalRecord)
    (internal : String) : ∃ values, m.Collects profile external internal values ∧
      (m.importPlain profile external).value.get? internal =
        if values = [] then none else some values :=
  ⟨_, collects_iff.2 rfl, m.get?_importPlain profile external internal⟩

theorem Collects.unique {internal : String} {others : List String}
    (h : m.Collects profile external internal values)
    (hothers : m.Collects profile external internal others) : values = others :=
  (collects_iff.1 h).symm.trans (collects_iff.1 hothers)

end Mapper

end AttributeProfiles
