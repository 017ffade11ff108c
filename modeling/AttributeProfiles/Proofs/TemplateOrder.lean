import AttributeProfiles.Proofs.Loops
import AttributeProfiles.Proofs.Template.Variables
import AttributeProfiles.Proofs.TemplatePhase
import Mathlib.Data.List.Perm.Basic

/-!
# The order of template attributes

A template attribute reads the record at the variables of its templates and sets one attribute. Two
of them that do not mention each other can therefore be resolved in either order, and the order of
declaration matters only between attributes that depend on each other.
-/

namespace AttributeProfiles

namespace Mapper

variable (m : Mapper) (profile : String)

/-- A template of an attribute for a profile mentions another attribute as a variable. -/
def Mentions (a b : String) : Prop :=
  ∃ d ∈ m.derived, d.name = a ∧ ∃ t ∈ d.templatesFor profile, b ∈ t.variableNames

/-- One of two template attributes mentions the other. -/
def Dependent (a b : String) : Prop := m.Mentions profile a b ∨ m.Mentions profile b a

variable {m profile}

theorem derivedValues_congr {r s : Record} {d : DerivedAttribute}
    (h : ∀ t ∈ d.templatesFor profile, ∀ name ∈ t.variableNames, r.get? name = s.get? name) :
    m.derivedValues profile r d = m.derivedValues profile s d := by
  apply List.flatMap_congr
  intro t ht
  rw [Template.renderValues_congr _ (h t ht)]

/-- Setting an attribute that the templates of another do not mention leaves their values alone. -/
theorem derivedValues_supply {d : DerivedAttribute} (hd : d ∈ m.derived) {name : String}
    (h : ¬ m.Mentions profile d.name name) (r : Record) (values : List String) :
    m.derivedValues profile (r.supply name values) d = m.derivedValues profile r d := by
  refine derivedValues_congr fun t ht n hn => ?_
  have hne : n ≠ name := by
    rintro rfl
    exact h ⟨d, hd, rfl, t, ht, hn⟩
  exact Record.get?_supply_of_ne hne

/-- Independent template attributes can be resolved in either order. -/
theorem deriveAttribute_comm {d e : DerivedAttribute} (hd : d ∈ m.derived) (he : e ∈ m.derived)
    (hne : d.name ≠ e.name) (h : ¬ m.Dependent profile d.name e.name) (r : Record) :
    (m.deriveAttribute profile (m.deriveAttribute profile r e).value d).value =
      (m.deriveAttribute profile (m.deriveAttribute profile r d).value e).value := by
  obtain ⟨hde, hed⟩ := not_or.1 h
  simp only [deriveAttribute_value]
  rw [derivedValues_supply hd hde, derivedValues_supply he hed, Record.supply_comm r hne]

theorem derived_names : m.derived.map DerivedAttribute.name = m.config.derived.names := by
  have hnames : List.Forall₂ (fun d e => d = e) (m.derived.map DerivedAttribute.name)
      m.config.derived.names := by
    rw [List.forall₂_map_left_iff, Table.names, List.forall₂_map_right_iff]
    exact derived_forall₂.flip.imp fun _ _ h => compileDerived_name h
  exact List.forall₂_eq_eq_eq ▸ hnames

theorem nodup_derived_names : (m.derived.map DerivedAttribute.name).Nodup := by
  rw [derived_names]
  exact m.config.derived.distinct

theorem eq_of_name_eq {d e : DerivedAttribute} (hd : d ∈ m.derived) (he : e ∈ m.derived)
    (h : d.name = e.name) : d = e :=
  List.inj_on_of_nodup_map nodup_derived_names hd he h

variable {n : Mapper}

theorem derived_perm (hoptions : m.config.options = n.config.options)
    (hentries : m.config.derived.entries.Perm n.config.derived.entries) :
    m.derived.Perm n.derived := by
  have hcompiled := n.derived_forall₂
  rw [← hoptions] at hcompiled
  obtain ⟨ds, hds, hperm⟩ := List.perm_comp_forall₂ hentries hcompiled
  rwa [Outcome.results_unique m.derived_forall₂ hds]

/-- Where two template attributes follow each other by name, they do so themselves. -/
theorem sublist_derived_of_names {d e : DerivedAttribute} (hd : d ∈ m.derived) (he : e ∈ m.derived)
    (h : [d.name, e.name].Sublist m.config.derived.names) : [d, e].Sublist m.derived := by
  rw [← derived_names] at h
  obtain ⟨pair, hpair, hnames⟩ := List.sublist_map_iff.1 h
  obtain ⟨d', rest, rfl, hd', hrest⟩ := List.map_eq_cons_iff.1 hnames.symm
  obtain ⟨e', _, rfl, he', hnil⟩ := List.map_eq_cons_iff.1 hrest
  obtain rfl := List.map_eq_nil_iff.1 hnil
  have hmem := hpair.subset
  obtain rfl := eq_of_name_eq (hmem (by simp)) hd hd'
  obtain rfl := eq_of_name_eq (hmem (by simp)) he he'
  exact hpair

theorem deriveAll_reordered (hoptions : m.config.options = n.config.options)
    (hentries : m.config.derived.entries.Perm n.config.derived.entries)
    (order : ∀ a b, m.Dependent profile a b →
      ([a, b].Sublist m.config.derived.names ↔ [a, b].Sublist n.config.derived.names))
    (r : Record) : (m.deriveAll profile r).value = (n.deriveAll profile r).value := by
  have hperm := derived_perm hoptions hentries
  have hstep : ∀ r d, (n.deriveAttribute profile r d).value =
      (m.deriveAttribute profile r d).value := by
    intro r d
    simp only [deriveAttribute_value, derivedValues, options, hoptions]
  have hcomm : ∀ d ∈ m.derived, ∀ e ∈ m.derived, d ≠ e → ¬ m.Dependent profile d.name e.name →
      ∀ r, (m.deriveAttribute profile (m.deriveAttribute profile r e).value d).value =
        (m.deriveAttribute profile (m.deriveAttribute profile r d).value e).value := by
    intro d hd e he hne hindependent r
    exact deriveAttribute_comm hd he (fun h => hne (eq_of_name_eq hd he h)) hindependent r
  have horder : ∀ d e, m.Dependent profile d.name e.name → [d, e].Sublist m.derived →
      [d, e].Sublist n.derived := by
    intro d e hdependent hpair
    have hd := hpair.subset List.mem_cons_self
    have he := hpair.subset (List.mem_cons_of_mem d List.mem_cons_self)
    have hnames := hpair.map DerivedAttribute.name
    rw [derived_names] at hnames
    exact sublist_derived_of_names (hperm.subset hd) (hperm.subset he)
      ((order _ _ hdependent).1 hnames)
  simp only [deriveAll, Logged.foldlM_value, hstep]
  exact Loops.foldl_eq_of_reordered hcomm hperm nodup_derived_names.of_map horder r

/-- Two configurations that differ only in the order of their template attributes import alike, if
template attributes that depend on each other come in the same relative order. -/
theorem toInternal_reordered {m n : Mapper} {profile : String}
    (hattributes : m.config.attributes = n.config.attributes)
    (hoptions : m.config.options = n.config.options)
    (hentries : m.config.derived.entries.Perm n.config.derived.entries)
    (order : ∀ a b, m.Dependent profile a b →
      ([a, b].Sublist m.config.derived.names ↔ [a, b].Sublist n.config.derived.names))
    (external : ExternalRecord) :
    (m.toInternal profile external).value = (n.toInternal profile external).value := by
  have hplain : (m.importPlain profile external).value = (n.importPlain profile external).value :=
    importPlain_congr (by rw [options, options, hoptions])
      (fun internal => by rw [externalNames, externalNames, hattributes]) external
  rw [toInternal_value, toInternal_value, hplain, deriveAll_reordered hoptions hentries order]

end Mapper

/-- The address book with a domain, a home that is made from it, and a label. -/
def Config.directory : Config where
  attributes := Config.contacts.attributes
  templateAttributes := some <| .ofList
    [("domain", .ofList [("saml", ["$\x7bmail[0] | scope\x7d"])]),
      ("home", .ofList [("saml", ["$\x7bdomain\x7d/$\x7bmail[0]\x7d"])]),
      ("label", .ofList [("saml", ["$\x7bphone\x7d", "<$\x7bmail\x7d>"])])]

/-- The same with the label first. -/
def Config.directoryByLabel : Config where
  attributes := Config.contacts.attributes
  templateAttributes := some <| .ofList
    [("label", .ofList [("saml", ["$\x7bphone\x7d", "<$\x7bmail\x7d>"])]),
      ("domain", .ofList [("saml", ["$\x7bmail[0] | scope\x7d"])]),
      ("home", .ofList [("saml", ["$\x7bdomain\x7d/$\x7bmail[0]\x7d"])])]

namespace DerivedAttribute

def domain : DerivedAttribute := ⟨"domain", [("saml", [⟨"$\x7bmail[0] | scope\x7d",
  [.placeholder (.call "scope" (.index (.variable "mail") 0))]⟩])]⟩

def home : DerivedAttribute := ⟨"home", [("saml", [⟨"$\x7bdomain\x7d/$\x7bmail[0]\x7d",
  [.placeholder (.variable "domain"), .text "/", .placeholder (.index (.variable "mail") 0)]⟩])]⟩

def label : DerivedAttribute := ⟨"label", [("saml", [
  ⟨"$\x7bphone\x7d", [.placeholder (.variable "phone")]⟩,
  ⟨"<$\x7bmail\x7d>", [.text "<", .placeholder (.variable "mail"), .text ">"]⟩])]⟩

end DerivedAttribute

namespace Mapper

def directory : Mapper where
  config := .directory
  index := (NameIndex.ofAttributes Config.directory.attributes).value
  derived := [.domain, .home, .label]
  valid := by decide
  indexed := rfl
  compiled := by decide

def directoryByLabel : Mapper where
  config := .directoryByLabel
  index := (NameIndex.ofAttributes Config.directoryByLabel.attributes).value
  derived := [.label, .domain, .home]
  valid := by decide
  indexed := rfl
  compiled := by decide

theorem toInternal_reordered_directory :
    directory.config.derived.names = ["domain", "home", "label"] ∧
      directoryByLabel.config.derived.names = ["label", "domain", "home"] ∧
      directory.Dependent "saml" "domain" "home" ∧
      (directoryByLabel.toInternal "saml" contactClaims).value =
        (directory.toInternal "saml" contactClaims).value ∧
      (directory.toInternal "saml" contactClaims).value.entries =
        [("domain", ["example.org"]), ("home", ["example.org/ann@example.org"]),
          ("label", ["<ann@example.org>"]), ("mail", ["ann@example.org"])] := by
  have hentries : directory.config.derived.entries.Perm directoryByLabel.config.derived.entries := by
    decide
  have hmentioned : ∀ d ∈ directory.derived, ∀ t ∈ d.templatesFor "saml",
      ∀ name ∈ t.variableNames,
        ([d.name, name].Sublist directory.config.derived.names ↔
          [d.name, name].Sublist directoryByLabel.config.derived.names) ∧
        ([name, d.name].Sublist directory.config.derived.names ↔
          [name, d.name].Sublist directoryByLabel.config.derived.names) := by
    decide
  have order : ∀ a b, directory.Dependent "saml" a b →
      ([a, b].Sublist directory.config.derived.names ↔
        [a, b].Sublist directoryByLabel.config.derived.names) := by
    rintro a b (⟨d, hd, rfl, t, ht, hb⟩ | ⟨d, hd, rfl, t, ht, ha⟩)
    · exact (hmentioned d hd t ht b hb).1
    · exact (hmentioned d hd t ht a ha).2
  have hdependent : directory.Dependent "saml" "domain" "home" := by
    refine .inr ⟨.home, by decide, rfl, ?_⟩
    decide
  have hattributes : directory.config.attributes = directoryByLabel.config.attributes := rfl
  have hoptions : directory.config.options = directoryByLabel.config.options := rfl
  have heq := toInternal_reordered hattributes hoptions hentries order contactClaims
  have hvalue : (directory.toInternal "saml" contactClaims).value.entries =
      [("domain", ["example.org"]), ("home", ["example.org/ann@example.org"]),
        ("label", ["<ann@example.org>"]), ("mail", ["ann@example.org"])] := by
    decide
  exact ⟨rfl, rfl, hdependent, heq.symm, hvalue⟩

end Mapper

end AttributeProfiles
