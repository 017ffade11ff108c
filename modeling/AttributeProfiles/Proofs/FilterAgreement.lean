import AttributeProfiles.Proofs.NameOwners
import AttributeProfiles.Proofs.TemplatePhase
import Mathlib.Data.List.Nodup

/-!
# The filter and the import agree

The filter looks names up in the index, the import looks them up in an external record. Asked for
the names under which a record holds values, the filter gives attributes that an import of the
record sets. Where no name is shared by two attributes it gives all that the table of attributes
sets.
-/

namespace AttributeProfiles.Mapper

variable (m : Mapper) {profile : String} {external : ExternalRecord}

theorem mem_names_importPlain_iff {internal : String} :
    internal ∈ (m.importPlain profile external).value.names ↔
      ∃ name ∈ m.externalNames profile internal, m.valuesUnder external name ≠ [] := by
  rw [Record.mem_names_iff, get?_importPlain]
  constructor
  · intro h
    by_contra hnone
    push Not at hnone
    simp [(m.importedValues_eq_nil_iff profile external).2 hnone] at h
  · rintro ⟨name, hname, hvalues⟩
    have hne : m.importedValues profile external internal ≠ [] := fun h =>
      hvalues ((m.importedValues_eq_nil_iff profile external).1 h name hname)
    simp [hne]

/-- The names that a profile lists and that carry values in an external record. -/
def Carries (m : Mapper) (profile : String) (external : ExternalRecord) (name : String) : Prop :=
  name ∈ m.listedNames profile ∧ m.valuesUnder external name ≠ []

theorem mem_names_importPlain_of_filter {names : List String} {internal : String}
    (hnames : ∀ name ∈ names, m.Carries profile external name)
    (h : internal ∈ (m.filter profile names).value) :
    internal ∈ (m.importPlain profile external).value.names := by
  obtain ⟨name, hname, howner⟩ := m.mem_filter_iff.1 h
  exact m.mem_names_importPlain_iff.2
    ⟨name, m.mem_externalNames_of_owner? howner, (hnames name hname).2⟩

theorem mem_filter_of_importPlain {names : List String} {internal : String}
    (hnames : ∀ name, m.Carries profile external name → name ∈ names)
    (unshared : ∀ name a b, name ∈ m.externalNames profile a →
      name ∈ m.externalNames profile b → a = b)
    (h : internal ∈ (m.importPlain profile external).value.names) :
    internal ∈ (m.filter profile names).value := by
  obtain ⟨name, hname, hvalues⟩ := m.mem_names_importPlain_iff.1 h
  obtain ⟨owner, howner⟩ := m.exists_owner? hname
  obtain rfl : owner = internal :=
    unshared name owner internal (m.mem_externalNames_of_owner? howner) hname
  have hlisted : name ∈ m.listedNames profile := m.mem_listedNames_iff.2 ⟨owner, hname⟩
  exact m.mem_filter_iff.2 ⟨name, hnames name ⟨hlisted, hvalues⟩, howner⟩

theorem pairwise_filter (names : List String) :
    (m.filter profile names).value.Pairwise (· < ·) := by
  rw [filter_value]
  exact Names.pairwise_ascending _

/-- For the names that carry values, the filter gives attributes that the import sets, and all that
the table of attributes sets where no two attributes share a name. -/
theorem filter_agrees_with_toInternal {names : List String}
    (hnames : ∀ name, name ∈ names ↔ m.Carries profile external name) :
    (∀ internal ∈ (m.filter profile names).value,
      internal ∈ (m.toInternal profile external).value.names) ∧
    ((∀ name a b, name ∈ m.externalNames profile a → name ∈ m.externalNames profile b → a = b) →
      (m.filter profile names).value = (m.importPlain profile external).value.names) := by
  constructor
  · intro internal h
    have hplain := m.mem_names_importPlain_of_filter (fun name => (hnames name).1) h
    rw [Record.mem_names_iff] at hplain ⊢
    exact m.isSome_get?_deriveAll profile hplain
  · intro unshared
    have hplain := (m.importPlain profile external).value.pairwise_names
    have hperm : List.Perm (m.filter profile names).value
        (m.importPlain profile external).value.names := by
      refine (List.perm_ext_iff_of_nodup ((m.pairwise_filter names).imp String.ne_of_lt)
        (hplain.imp String.ne_of_lt)).2 fun internal => ⟨?_, ?_⟩
      · exact m.mem_names_importPlain_of_filter fun name => (hnames name).1
      · exact m.mem_filter_of_importPlain (fun name => (hnames name).2) unshared
    refine hperm.eq_of_pairwise (fun a b _ _ hab hba => ?_) (m.pairwise_filter names) hplain
    exact absurd (String.lt_trans hab hba) (String.lt_irrefl a)

theorem filter_agrees_with_toInternal_contacts :
    (∀ name, name ∈ ["email"] ↔ contacts.Carries "saml" contactClaims name) ∧
      (contacts.filter "saml" ["email"]).value = ["mail"] ∧
      "mail" ∈ (contacts.toInternal "saml" contactClaims).value.names ∧
      (contacts.importPlain "saml" contactClaims).value.names = ["mail"] := by
  have hnames : ∀ name, name ∈ ["email"] ↔ contacts.Carries "saml" contactClaims name := by
    intro name
    have hcarried : ["email"] = (contacts.listedNames "saml").filter fun name =>
        contacts.valuesUnder contactClaims name ≠ [] := by
      decide
    rw [hcarried, List.mem_filter, decide_eq_true_eq, Carries]
  have unshared : ∀ name a b, name ∈ contacts.externalNames "saml" a →
      name ∈ contacts.externalNames "saml" b → a = b := by
    have hentries : ∀ e ∈ contacts.config.attributes.entries,
        ∀ other ∈ contacts.config.attributes.entries,
          ∀ name ∈ (e.2.get? "saml").getD [], name ∈ (other.2.get? "saml").getD [] →
            e.1 = other.1 := by
      decide
    intro name a b ha hb
    obtain ⟨la, hla, hname⟩ := contacts.mem_externalNames_iff.1 ha
    obtain ⟨lb, hlb, hother⟩ := contacts.mem_externalNames_iff.1 hb
    exact hentries _ hla _ hlb name hname hother
  have hfilter : (contacts.filter "saml" ["email"]).value = ["mail"] := by decide
  obtain ⟨hset, hplain⟩ := contacts.filter_agrees_with_toInternal hnames
  refine ⟨hnames, hfilter, hset "mail" ?_, ?_⟩
  · rw [hfilter]
    exact List.mem_singleton_self "mail"
  · rw [← hplain unshared, hfilter]

end AttributeProfiles.Mapper
