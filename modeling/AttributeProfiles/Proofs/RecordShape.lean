import AttributeProfiles.Proofs.Contributions
import AttributeProfiles.Proofs.TemplatePhase

/-!
# What an import can give

An internal record that an import gives holds no empty lists and nothing but configured attributes.
Attributes without templates hold what their external names contribute; attributes with templates
hold template output, or what the table of attributes gave them.
-/

namespace AttributeProfiles.Mapper

variable (m : Mapper) (profile : String) (external : ExternalRecord)

theorem importedValues_ne_nil {internal : String} {values : List String}
    (h : (m.importPlain profile external).value.get? internal = some values) : values ≠ [] := by
  rw [get?_importPlain] at h
  split at h
  · cases h
  next hne =>
    cases h
    exact hne

theorem isSome_list?_of_importPlain {internal : String}
    (h : ((m.importPlain profile external).value.get? internal).isSome) :
    (m.config.attributes.list? profile internal).isSome := by
  rw [get?_importPlain] at h
  cases hl : m.config.attributes.list? profile internal with
  | none => simp [importedValues, externalNames, hl] at h
  | some names => rfl

theorem isSome_list?_of_templateEntries {internal : String}
    (h : m.config.templateEntries profile internal ≠ []) :
    (m.config.derived.list? profile internal).isSome := by
  cases hl : m.config.derived.list? profile internal with
  | none => simp [Config.templateEntries, hl] at h
  | some entries => rfl

theorem get?_toInternal_ne_nil {internal : String} {values : List String}
    (h : (m.toInternal profile external).value.get? internal = some values) : values ≠ [] := by
  rw [toInternal_value] at h
  rcases m.get?_deriveAll_or profile (m.importPlain profile external).value internal with
    hplain | ⟨output, houtput, hne, _⟩
  · rw [hplain] at h
    exact m.importedValues_ne_nil profile external h
  · rw [houtput, Option.some.injEq] at h
    exact h ▸ hne

theorem isSome_list?_of_toInternal {internal : String}
    (h : ((m.toInternal profile external).value.get? internal).isSome) :
    (m.config.attributes.list? profile internal).isSome ∨
      (m.config.derived.list? profile internal).isSome := by
  rw [toInternal_value] at h
  by_cases hentries : m.config.templateEntries profile internal = []
  · rw [m.get?_deriveAll_of_templateEntries_eq_nil profile _ hentries] at h
    exact .inl (m.isSome_list?_of_importPlain profile external h)
  · exact .inr (m.isSome_list?_of_templateEntries profile hentries)

/-- The shape and the frame of every record that an import gives. No list is empty, and nothing is
held but attributes that are configured for the profile. An attribute without templates holds what
it collects from its external names, and is absent if that is nothing. An attribute with templates
holds template output, or is as the table of attributes left it, which is what it collects as well.
No template takes an attribute away. -/
theorem toInternal_shape :
    (∀ a values, (m.toInternal profile external).value.get? a = some values → values ≠ []) ∧
    (∀ a, ((m.toInternal profile external).value.get? a).isSome →
      (m.config.attributes.list? profile a).isSome ∨
        (m.config.derived.list? profile a).isSome) ∧
    (∀ a, m.config.templateEntries profile a = [] →
      ∃ values, m.Collects profile external a values ∧
        (m.toInternal profile external).value.get? a =
          if values = [] then none else some values) ∧
    (∀ a, (m.config.derived.list? profile a).isSome →
      (∃ values, (m.toInternal profile external).value.get? a = some values ∧
        ∀ value ∈ values, IsTemplateOutput m.options.multivalueSeparator value) ∨
      (m.toInternal profile external).value.get? a =
        (m.importPlain profile external).value.get? a) ∧
    (∀ a, ∃ values, m.Collects profile external a values ∧
      (m.importPlain profile external).value.get? a =
        if values = [] then none else some values) ∧
    (∀ record, ∀ d ∈ m.derived, ∀ a, (record.get? a).isSome →
      ((m.deriveAttribute profile record d).value.get? a).isSome) := by
  refine ⟨fun a values h => m.get?_toInternal_ne_nil profile external h,
    fun a h => m.isSome_list?_of_toInternal profile external h, ?_, ?_,
    m.exists_collects_of_importPlain profile external, ?_⟩
  · intro a hentries
    rw [toInternal_value, m.get?_deriveAll_of_templateEntries_eq_nil profile _ hentries]
    exact m.exists_collects_of_importPlain profile external a
  · intro a _
    rw [toInternal_value]
    rcases m.get?_deriveAll_or profile (m.importPlain profile external).value a with
      hplain | ⟨values, hvalues, _, houtput⟩
    · exact .inr hplain
    · exact .inl ⟨values, hvalues, houtput⟩
  · intro record d _ a ha
    rw [deriveAttribute_value]
    exact Record.isSome_get?_supply d.name _ ha

/-- Claims of a contact with a value of every kind. -/
def mixedClaims : ExternalRecord := .ofList
  [("email", .list [.text "ann@example.org", .null, .number (.integer 5), .text "",
      .list [.text "bob"], .object [("name", .text "bob")]]),
    ("address", .object [("city", .null), ("street", .text "1 Elm Road")]),
    ("mail", .boolean false)]

theorem toInternal_shape_mixedClaims :
    contacts.Collects "saml" mixedClaims "mail" ["ann@example.org", "5", "", "false"] ∧
      (contacts.toInternal "saml" mixedClaims).value.get? "mail" =
        some ["ann@example.org", "5", "", "false"] ∧
      (contacts.toInternal "saml" mixedClaims).value.get? "phone" = none ∧
      (contacts.toInternal "openid" mixedClaims).value.get? "street" = some ["1 Elm Road"] ∧
      (contacts.toInternal "saml" mixedClaims).value.get? "domain" = some ["example.org"] ∧
      IsTemplateOutput ';' "example.org" := by
  have hemail : mixedClaims.Contributes '.' "email" ["ann@example.org", "5", ""] :=
    .found (.member rfl (.here _)) <| .list <| .cons (.text _) <| .cons .null <|
      .cons (.number _) <| .cons (.text _) <| .cons (.list _) <| .cons (.object _) .nil
  have hfalse : mixedClaims.Contributes '.' "mail" ["false"] :=
    .found (.member rfl (.here _)) .isFalse
  have helm : mixedClaims.Contributes '.' "address.street" ["1 Elm Road"] :=
    .found (.member rfl (.member rfl (.here _))) (.text (by decide))
  have hmail : contacts.Collects "saml" mixedClaims "mail" ["ann@example.org", "5", "", "false"] :=
    ⟨[_, _], .cons hemail (.cons hfalse .nil), rfl⟩
  have hstreet : contacts.Collects "openid" mixedClaims "street" ["1 Elm Road"] :=
    ⟨[_], .cons helm .nil, rfl⟩
  have hdomain : (contacts.toInternal "saml" mixedClaims).value.get? "domain" =
      some ["example.org"] := by
    decide
  have holds {profile a : String} {values : List String}
      (h : contacts.Collects profile mixedClaims a values)
      (hentries : contacts.config.templateEntries profile a = []) :
      (contacts.toInternal profile mixedClaims).value.get? a =
        if values = [] then none else some values := by
    obtain ⟨-, -, hcollected, -⟩ := contacts.toInternal_shape profile mixedClaims
    obtain ⟨others, hothers, hget⟩ := hcollected a hentries
    rwa [hothers.unique h] at hget
  refine ⟨hmail, holds hmail (by decide), holds ⟨[], .nil, rfl⟩ (by decide),
    holds hstreet (by decide), hdomain, ?_⟩
  obtain ⟨-, -, -, hderived, -⟩ := contacts.toInternal_shape "saml" mixedClaims
  rcases hderived "domain" (by decide) with ⟨values, hvalues, houtput⟩ | hplain
  · rw [hdomain, Option.some.injEq] at hvalues
    exact houtput _ (hvalues ▸ List.mem_singleton_self _)
  · rw [hdomain] at hplain
    exact absurd hplain (by decide)

end AttributeProfiles.Mapper
