import AttributeProfiles.Proofs.Exports
import AttributeProfiles.Proofs.FilterResult
import AttributeProfiles.Proofs.TemplatePhase

/-!
# Profiles are isolated from each other

All that a profile is answered with comes from what the two tables say about it: which attributes
have a list for it, in which order, and with which entries. What they say about other profiles, and
attributes that do not have the profile, make no difference.
-/

namespace AttributeProfiles

/-- What a table says about a profile: the attributes that have a list for it, in declaration
order, with their lists. -/
def AttributeTable.forProfile (t : AttributeTable) (profile : String) :
    List (String × List String) :=
  t.entries.filterMap fun e => (e.2.get? profile).map fun list => (e.1, list)

/-- The template attributes that have a list for a profile, in declaration order, with those of
their entries that are templates. -/
def Config.templateLists (c : Config) (profile : String) : List (String × List String) :=
  (c.derived.forProfile profile).map fun e =>
    (e.1, e.2.filter (c.options.templateMarker ∈ ·.toList))

/-- Two configurations have the same options and say the same about a profile. -/
structure Config.AgreeOn (c d : Config) (profile : String) : Prop where
  options : c.options = d.options
  attributes : c.attributes.forProfile profile = d.attributes.forProfile profile
  templates : c.templateLists profile = d.templateLists profile

namespace AttributeTable

variable (t : AttributeTable) (profile : String)

theorem mem_forProfile_iff {a : String} {list : List String} :
    (a, list) ∈ t.forProfile profile ↔ t.list? profile a = some list := by
  simp only [forProfile, list?, List.mem_filterMap, Option.map_eq_some_iff, Prod.mk.injEq,
    Option.bind_eq_some_iff, Table.get?_eq_some_iff]
  constructor
  · rintro ⟨⟨_, lists⟩, he, _, hlist, rfl, rfl⟩
    exact ⟨lists, he, hlist⟩
  · rintro ⟨lists, he, hlist⟩
    exact ⟨(a, lists), he, list, hlist, rfl, rfl⟩

theorem nodup_forProfile : ((t.forProfile profile).map Prod.fst).Nodup := by
  rw [List.Nodup, List.pairwise_map, forProfile, List.pairwise_filterMap]
  refine (List.pairwise_map.1 t.distinct).imp fun {e f} hne a ha b hb => ?_
  obtain ⟨_, _, rfl⟩ := Option.map_eq_some_iff.1 ha
  obtain ⟨_, _, rfl⟩ := Option.map_eq_some_iff.1 hb
  exact hne

theorem lookup_forProfile (a : String) :
    (t.forProfile profile).lookup a = t.list? profile a := by
  apply Option.ext
  intro list
  rw [Entries.lookup_eq_some_iff (t.nodup_forProfile profile), mem_forProfile_iff]

theorem forProfile_ne_nil_iff :
    t.forProfile profile ≠ [] ↔ ∃ e ∈ t.entries, (e.2.get? profile).isSome := by
  simp [forProfile, Option.isSome_iff_ne_none]

theorem find?_reverse_forProfile (name : String) :
    ((t.forProfile profile).reverse.find? (name ∈ ·.2)).map Prod.fst =
      (t.entries.reverse.find? fun e => name ∈ (e.2.get? profile).getD []).map Prod.fst := by
  rw [forProfile, ← List.filterMap_reverse]
  induction t.entries.reverse with
  | nil => rfl
  | cons e es ih =>
    cases hlist : e.2.get? profile with
    | none =>
      simp only [List.filterMap_cons, hlist, Option.map_none]
      rw [ih, List.find?_cons_of_neg (by simp [hlist])]
    | some list =>
      simp only [List.filterMap_cons, hlist, Option.map_some, List.find?_cons, Option.getD_some]
      by_cases hname : name ∈ list
      · simp [hname]
      · simpa [hname] using ih

end AttributeTable

namespace Mapper

variable {m n : Mapper} {profile : String}

theorem externalNames_eq_lookup (m : Mapper) (profile a : String) :
    m.externalNames profile a =
      ((m.config.attributes.forProfile profile).lookup a).getD [] := by
  rw [externalNames, AttributeTable.lookup_forProfile]

/-- The templates of the attributes that have a list for a profile, in declaration order. -/
def derivedFor (m : Mapper) (profile : String) : List (String × List Template) :=
  m.derived.filterMap fun d => (d.templates.lookup profile).map fun templates => (d.name, templates)

theorem deriveAll_eq_foldl (m : Mapper) (profile : String) (r : Record) :
    (m.deriveAll profile r).value =
      (m.derivedFor profile).foldl (fun r e => r.supply e.1 (e.2.flatMap fun t =>
        (t.renderValues r m.options.multivalueSeparator).toOption.getD [])) r := by
  rw [deriveAll_value, derivedFor, List.foldl_filterMap]
  congr 1
  funext r d
  rw [derivedValues, DerivedAttribute.templatesFor]
  cases d.templates.lookup profile with
  | none => exact Record.supply_nil r d.name
  | some templates => rfl

def CompilesTo (marker : Char) (e : String × List String) (d : String × List Template) : Prop :=
  d.1 = e.1 ∧ List.Forall₂ (fun entry t => Template.compile entry marker = .ok t) e.2 d.2

theorem forall₂_derivedFor (m : Mapper) (profile : String) :
    List.Forall₂ (CompilesTo m.config.options.templateMarker) (m.config.templateLists profile)
      (m.derivedFor profile) := by
  rw [Config.templateLists, AttributeTable.forProfile, List.map_filterMap]
  refine List.rel_filterMap (fun e d hed => ?_) m.derived_forall₂
  have hname := compileDerived_name hed
  rcases lookup_of_compileDerived hed profile with
    ⟨he, hd⟩ | ⟨entries, templates, he, hd, hcompiled⟩
  · rw [he, hd]
    exact .none
  · rw [he, hd]
    exact .some ⟨hname, compileEntries_eq_ok_iff.1 hcompiled⟩

theorem compilesTo_rightUnique (marker : Char) : Relator.RightUnique (CompilesTo marker) := by
  rintro e ⟨_, templates⟩ ⟨_, others⟩ ⟨rfl, htemplates⟩ ⟨rfl, hothers⟩
  rw [Prod.mk.injEq]
  exact ⟨rfl, Outcome.results_unique htemplates hothers⟩

section

variable (agree : m.config.AgreeOn n.config profile)

include agree

theorem externalNames_of_agreeOn (a : String) :
    m.externalNames profile a = n.externalNames profile a := by
  rw [externalNames_eq_lookup, externalNames_eq_lookup, agree.attributes]

theorem derivedFor_of_agreeOn : m.derivedFor profile = n.derivedFor profile := by
  have hm := m.forall₂_derivedFor profile
  have hn := n.forall₂_derivedFor profile
  rw [agree.templates, agree.options] at hm
  exact List.right_unique_forall₂' (compilesTo_rightUnique _) hm hn

theorem toInternal_of_agreeOn (external : ExternalRecord) :
    (m.toInternal profile external).value = (n.toInternal profile external).value := by
  have hplain : (m.importPlain profile external).value = (n.importPlain profile external).value :=
    importPlain_congr (by rw [options, options, agree.options])
      (externalNames_of_agreeOn agree) external
  rw [toInternal_value, toInternal_value, hplain, deriveAll_eq_foldl, deriveAll_eq_foldl,
    derivedFor_of_agreeOn agree, options, options, agree.options]

theorem fromInternal_of_agreeOn (r : Record) :
    (m.fromInternal profile r).value = (n.fromInternal profile r).value := by
  have hmember : m.exportedMember? profile = n.exportedMember? profile := by
    funext e
    rw [exportedMember?, exportedMember?, exportTarget?, exportTarget?,
      externalNames_of_agreeOn agree, options, options, agree.options]
  rw [fromInternal_value, fromInternal_value, exportedMembers, exportedMembers, hmember]

theorem filter_of_agreeOn (names : List String) :
    m.filter profile names = n.filter profile names := by
  have howner : m.index.owner? profile = n.index.owner? profile := by
    funext name
    rw [owner?_index, owner?_index, ← AttributeTable.find?_reverse_forProfile,
      ← AttributeTable.find?_reverse_forProfile, agree.attributes]
  have hprofile : m.HasProfile profile ↔ n.HasProfile profile := by
    rw [HasProfile, HasProfile, ← AttributeTable.forProfile_ne_nil_iff,
      ← AttributeTable.forProfile_ne_nil_iff, agree.attributes]
  exact filter_congr howner hprofile names

end

/-- What a profile is answered with does not depend on what a configuration says about other
profiles, nor on attributes that do not have the profile. -/
theorem results_of_agreeOn {m n : Mapper} {profile : String}
    (agree : m.config.AgreeOn n.config profile) :
    (∀ external, (m.toInternal profile external).value = (n.toInternal profile external).value) ∧
    (∀ r, (m.fromInternal profile r).value = (n.fromInternal profile r).value) ∧
    (∀ names, m.filter profile names = n.filter profile names) :=
  ⟨toInternal_of_agreeOn agree, fromInternal_of_agreeOn agree, filter_of_agreeOn agree⟩

end Mapper

/-- A configuration that says the same about one profile of the address book and differs
everywhere else. -/
def Config.contactsElsewhere : Config where
  attributes := .ofList
    [("fax", .ofList [("openid", ["fax"])]),
      ("mail", .ofList [("ldap", ["mail"]), ("saml", ["email", "mail"])]),
      ("phone", .ofList [("saml", []), ("openid", ["phone"])])]
  templateAttributes := some <| .ofList
    [("card", .ofList [("openid", ["$\x7bfax\x7d"])]),
      ("domain", .ofList [("saml", ["$\x7bmail[0] | scope\x7d"])])]

namespace Mapper

def contactsElsewhere : Mapper where
  config := .contactsElsewhere
  index := (NameIndex.ofAttributes Config.contactsElsewhere.attributes).value
  derived := [⟨"card", [("openid", [⟨"$\x7bfax\x7d", [.placeholder (.variable "fax")]⟩])]⟩,
    ⟨"domain", [("saml", [⟨"$\x7bmail[0] | scope\x7d",
      [.placeholder (.call "scope" (.index (.variable "mail") 0))]⟩])]⟩]
  valid := by decide
  indexed := rfl
  compiled := by decide

theorem results_of_agreeOn_contacts :
    contacts.config.AgreeOn contactsElsewhere.config "saml" ∧
      ¬ contacts.config.AgreeOn contactsElsewhere.config "openid" ∧
      (contactsElsewhere.toInternal "saml" contactClaims).value.entries =
        [("domain", ["example.org"]), ("mail", ["ann@example.org"])] ∧
      (contactsElsewhere.fromInternal "saml" contact).value.entries.map Prod.fst = ["email"] ∧
      (contactsElsewhere.filter "saml" ["mail", "fax"]).value = ["mail"] := by
  have agree : contacts.config.AgreeOn contactsElsewhere.config "saml" :=
    ⟨rfl, by decide, by decide⟩
  have differ : ¬ contacts.config.AgreeOn contactsElsewhere.config "openid" := by
    intro h
    exact absurd h.attributes (by decide)
  obtain ⟨hto, hfrom, hfilter⟩ := results_of_agreeOn agree
  refine ⟨agree, differ, ?_, ?_, ?_⟩
  · rw [← hto]
    decide
  · rw [← hfrom]
    decide
  · rw [← hfilter]
    decide

end Mapper

end AttributeProfiles
