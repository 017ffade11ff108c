import AttributeProfiles.Proofs.Exports
import AttributeProfiles.Proofs.FilterResult
import AttributeProfiles.Proofs.TemplatePhase
import Mathlib.Data.List.Perm.Basic

/-!
# The order in which attributes are declared

The table of attributes is declared in some order, but as far as translation is concerned it is a
map: what an attribute collects, and where it goes, depends on its own names alone. Only the owner
of a name depends on the order, and only where two attributes share the name.
-/

namespace AttributeProfiles

theorem Table.get?_eq_of_perm {α : Type} {s t : Table α} (h : s.entries.Perm t.entries) :
    s.get? = t.get? := by
  funext name
  apply Option.ext
  intro value
  rw [Table.get?_eq_some_iff, Table.get?_eq_some_iff, h.mem_iff]

namespace AttributeTable

/-- A table as a map, without the order of its attributes and of their profiles: what each
attribute lists for each profile, if the attribute is declared. -/
def asMap (t : AttributeTable) (internal : String) : Option (String → Option (List String)) :=
  (t.get? internal).map Table.get?

variable {s t : AttributeTable}

theorem list?_eq_asMap (t : AttributeTable) (profile internal : String) :
    t.list? profile internal = (t.asMap internal).bind (· profile) := by
  unfold list? asMap
  cases t.get? internal <;> rfl

theorem asMap_eq_of_perm {es : List (String × NameLists)} (hperm : s.entries.Perm es)
    (hlists : List.Forall₂ (fun e f => f.1 = e.1 ∧ e.2.entries.Perm f.2.entries) es t.entries) :
    s.asMap = t.asMap := by
  have distinct : (es.map Prod.fst).Nodup := (hperm.map Prod.fst).nodup_iff.1 s.distinct
  funext internal
  have hes : s.get? internal = es.lookup internal := by
    apply Option.ext
    intro lists
    rw [Table.get?_eq_some_iff, Entries.lookup_eq_some_iff distinct, hperm.mem_iff]
  unfold asMap
  rw [hes, Table.get?]
  rcases lookup_of_forall₂ (fun _ (lists others : NameLists) => lists.entries.Perm others.entries)
      hlists internal with ⟨hs, ht⟩ | ⟨lists, others, hs, ht, hsame⟩
  · rw [hs, ht]
  · rw [hs, ht, Option.map_some, Option.map_some, Table.get?_eq_of_perm hsame]

end AttributeTable

/-- Two configurations differ at most in the order in which they declare attributes and, for each
attribute, profiles. -/
structure Config.SameUpToOrder (c d : Config) : Prop where
  attributes : c.attributes.asMap = d.attributes.asMap
  templateAttributes : c.templateAttributes = d.templateAttributes
  options : c.options = d.options

namespace Mapper

variable {m n : Mapper} {profile : String}

/-- No external name is listed for a profile under two attributes. -/
def Unshared (m : Mapper) (profile : String) : Prop :=
  ∀ name a b, name ∈ m.externalNames profile a → name ∈ m.externalNames profile b → a = b

theorem unshared_iff : m.Unshared profile ↔
    ∀ e ∈ m.config.attributes.entries, ∀ f ∈ m.config.attributes.entries,
      ∀ name ∈ (e.2.get? profile).getD [], name ∈ (f.2.get? profile).getD [] → e.1 = f.1 := by
  constructor
  · intro unshared e he f hf name hname hother
    exact unshared name e.1 f.1 (m.mem_externalNames_iff.2 ⟨e.2, he, hname⟩)
      (m.mem_externalNames_iff.2 ⟨f.2, hf, hother⟩)
  · intro h name a b ha hb
    obtain ⟨lists, hlists, hname⟩ := m.mem_externalNames_iff.1 ha
    obtain ⟨others, hothers, hother⟩ := m.mem_externalNames_iff.1 hb
    exact h _ hlists _ hothers name hname hother

instance (m : Mapper) (profile : String) : Decidable (m.Unshared profile) :=
  decidable_of_iff _ unshared_iff.symm

theorem hasProfile_iff : m.HasProfile profile ↔
    ∃ a, (m.config.attributes.list? profile a).isSome := by
  rw [AttributeTable.exists_isSome_list?_iff, HasProfile]
  simp only [Table.mem_names_iff]

theorem Unshared.owner?_eq_some_iff (unshared : m.Unshared profile) {name a : String} :
    m.index.owner? profile name = some a ↔ name ∈ m.externalNames profile a := by
  constructor
  · exact m.mem_externalNames_of_owner?
  · intro hname
    obtain ⟨owner, howner⟩ := m.exists_owner? hname
    rw [howner, unshared name owner a (m.mem_externalNames_of_owner? howner) hname]

section

variable (same : m.config.SameUpToOrder n.config)

include same

theorem list?_of_sameUpToOrder (profile a : String) :
    m.config.attributes.list? profile a = n.config.attributes.list? profile a := by
  rw [AttributeTable.list?_eq_asMap, same.attributes, ← AttributeTable.list?_eq_asMap]

theorem externalNames_of_sameUpToOrder (profile a : String) :
    m.externalNames profile a = n.externalNames profile a := by
  rw [externalNames, externalNames, list?_of_sameUpToOrder same]

theorem derived_of_sameUpToOrder : m.derived = n.derived := by
  have hderived : m.config.derived = n.config.derived := by
    rw [Config.derived, Config.derived, same.templateAttributes]
  have hcompile : m.config.compile = n.config.compile := by
    rw [Config.compile, Config.compile, hderived, same.options]
  exact Except.ok.inj (m.compiled.symm.trans (hcompile.trans n.compiled))

theorem toInternal_of_sameUpToOrder (profile : String) (external : ExternalRecord) :
    (m.toInternal profile external).value = (n.toInternal profile external).value := by
  have hoptions : m.options = n.options := same.options
  have hplain : (m.importPlain profile external).value = (n.importPlain profile external).value :=
    importPlain_congr (by rw [hoptions]) (externalNames_of_sameUpToOrder same profile) external
  rw [toInternal_value, toInternal_value, hplain,
    deriveAll_congr (derived_of_sameUpToOrder same) hoptions]

theorem exportAttribute_of_sameUpToOrder (profile : String) :
    m.exportAttribute profile = n.exportAttribute profile := by
  have hoptions : m.options = n.options := same.options
  funext external e
  have hmap := congrFun same.attributes e.1
  unfold AttributeTable.asMap at hmap
  unfold exportAttribute
  cases hm : m.config.attributes.get? e.1 with
  | none =>
    rw [hm, Option.map_none, eq_comm, Option.map_eq_none_iff] at hmap
    rw [hmap]
  | some lists =>
    rw [hm, Option.map_some, eq_comm, Option.map_eq_some_iff] at hmap
    obtain ⟨others, hn, hlists⟩ := hmap
    have hname : exportName? others profile = exportName? lists profile := by
      rw [exportName?, exportName?, hlists]
    rw [hn]
    dsimp only
    rw [hname, hoptions]

theorem fromInternal_of_sameUpToOrder (profile : String) (r : Record) :
    m.fromInternal profile r = n.fromInternal profile r := by
  rw [fromInternal, fromInternal, exportAttribute_of_sameUpToOrder same]

theorem filter_of_sameUpToOrder (unshared : m.Unshared profile) (names : List String) :
    m.filter profile names = n.filter profile names := by
  have hunshared : n.Unshared profile := by
    intro name a b
    rw [← externalNames_of_sameUpToOrder same, ← externalNames_of_sameUpToOrder same]
    exact unshared name a b
  have howner : m.index.owner? profile = n.index.owner? profile := by
    funext name
    apply Option.ext
    intro a
    rw [unshared.owner?_eq_some_iff, hunshared.owner?_eq_some_iff,
      externalNames_of_sameUpToOrder same]
  have hprofile : m.HasProfile profile ↔ n.HasProfile profile := by
    simp only [hasProfile_iff, list?_of_sameUpToOrder same]
  exact filter_congr howner hprofile names

end

/-- The order in which attributes and their profiles are declared does not matter to imports and
exports, the order of exported members included. It does not matter to the filter either where no
two attributes share a name. -/
theorem results_of_sameUpToOrder {m n : Mapper} (same : m.config.SameUpToOrder n.config)
    (profile : String) :
    (∀ external, (m.toInternal profile external).value = (n.toInternal profile external).value) ∧
    (∀ r, m.fromInternal profile r = n.fromInternal profile r) ∧
    (m.Unshared profile → ∀ names, m.filter profile names = n.filter profile names) :=
  ⟨toInternal_of_sameUpToOrder same profile, fromInternal_of_sameUpToOrder same profile,
    filter_of_sameUpToOrder same⟩

end Mapper

/-- The address book with its attributes, and the profiles of its first attribute, declared the
other way round. -/
def Config.contactsReversed : Config where
  attributes := .ofList
    [("phone", .ofList [("saml", [])]),
      ("street", .ofList [("openid", ["address.street"])]),
      ("mail", .ofList [("openid", ["email"]), ("saml", ["email", "mail"])])]
  templateAttributes := Config.contacts.templateAttributes

namespace Mapper

def contactsReversed : Mapper where
  config := .contactsReversed
  index := (NameIndex.ofAttributes Config.contactsReversed.attributes).value
  derived := contacts.derived
  valid := by decide
  indexed := rfl
  compiled := by decide

theorem results_of_sameUpToOrder_contacts :
    contacts.config.SameUpToOrder contactsReversed.config ∧
      contacts.config.attributes.names = ["mail", "street", "phone"] ∧
      contactsReversed.config.attributes.names = ["phone", "street", "mail"] ∧
      contacts.Unshared "saml" ∧
      (contactsReversed.toInternal "saml" contactClaims).value.entries =
        [("domain", ["example.org"]), ("mail", ["ann@example.org"])] ∧
      (contactsReversed.fromInternal "openid" contact).value.entries.map Prod.fst = ["email"] ∧
      (contactsReversed.filter "saml" ["mail", "phone"]).value = ["mail"] := by
  have hattributes : contacts.config.attributes.asMap = contactsReversed.config.attributes.asMap :=
    AttributeTable.asMap_eq_of_perm (List.reverse_perm _).symm (by decide)
  have same : contacts.config.SameUpToOrder contactsReversed.config := ⟨hattributes, rfl, rfl⟩
  have unshared : contacts.Unshared "saml" := by decide
  obtain ⟨hto, -, hfilter⟩ := results_of_sameUpToOrder same "saml"
  obtain ⟨-, hfrom, -⟩ := results_of_sameUpToOrder same "openid"
  refine ⟨same, by decide, by decide, unshared, ?_, ?_, ?_⟩
  · rw [← hto]
    decide
  · rw [← hfrom]
    decide
  · rw [← hfilter unshared]
    decide

end Mapper

end AttributeProfiles
