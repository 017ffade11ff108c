import AttributeProfiles.Proofs.Outcomes
import AttributeProfiles.Proofs.PlainImport

/-!
# The templates of a mapper

A mapper keeps its template attributes compiled. Entry by entry they are what the configuration
declares: `compiled_templateEntries` ties the templates of an attribute for a profile to the entries
that hold the marker.
-/

namespace AttributeProfiles

/-- The entries of a template attribute for a profile that are templates: those with the marker. -/
def Config.templateEntries (c : Config) (profile internal : String) : List String :=
  ((c.derived.list? profile internal).getD []).filter (c.options.templateMarker ∈ ·.toList)

theorem Config.templateEntries_eq_nil {c : Config} {profile : String}
    (h : ∀ e ∈ c.derived.entries, e.2.get? profile = none) (internal : String) :
    c.templateEntries profile internal = [] := by
  unfold templateEntries AttributeTable.list?
  cases hl : c.derived.get? internal with
  | none => rfl
  | some lists =>
    have hnone := h (internal, lists) (Table.get?_eq_some_iff.1 hl)
    simp [hnone]

/-- The templates of an attribute for a profile, none where it has no list for it. -/
def DerivedAttribute.templatesFor (d : DerivedAttribute) (profile : String) : List Template :=
  (d.templates.lookup profile).getD []

theorem compileEntries_eq_ok_iff {marker : Char} {internal profile : String}
    {entries : List String} {templates : List Template} :
    compileEntries marker internal profile entries = .ok templates ↔
      List.Forall₂ (fun entry t => Template.compile entry marker = .ok t)
        (entries.filter (marker ∈ ·.toList)) templates := by
  have hentries : (entries.zipIdx.filter fun e => decide (marker ∈ e.1.toList)).map Prod.fst =
      entries.filter (marker ∈ ·.toList) := by
    conv => rhs; rw [← List.zipIdx_map_fst 0 entries]
    rw [List.filter_map]
    rfl
  unfold compileEntries
  rw [Outcome.mapM_eq_ok_iff, ← hentries, List.forall₂_map_left_iff]
  constructor
  · intro h
    refine h.imp fun e t het => ?_
    cases hc : Template.compile e.1 marker with
    | error cause => simp [hc] at het
    | ok compiled => simpa [hc] using het
  · intro h
    refine h.imp fun e t het => ?_
    simp [het]

theorem lookup_of_forall₂ {α β : Type} (r : String → α → β → Prop) {es : List (String × α)}
    {ds : List (String × β)} (h : List.Forall₂ (fun e d => d.1 = e.1 ∧ r e.1 e.2 d.2) es ds)
    (name : String) :
    (es.lookup name = none ∧ ds.lookup name = none) ∨
      ∃ a b, es.lookup name = some a ∧ ds.lookup name = some b ∧ r name a b := by
  induction h with
  | nil => simp
  | @cons e d es ds hed _ ih =>
    obtain ⟨hname, hr⟩ := hed
    rw [Entries.lookup_cons, Entries.lookup_cons, hname]
    by_cases hn : name = e.1
    · right
      exact ⟨e.2, d.2, by simp [hn], by simp [hn], by rw [hn]; exact hr⟩
    · simpa [hn] using ih

theorem lookup_of_compileDerived {marker : Char} {internal : String} {lists : NameLists}
    {d : DerivedAttribute} (h : compileDerived marker internal lists = .ok d) (profile : String) :
    (lists.get? profile = none ∧ d.templates.lookup profile = none) ∨
      ∃ entries templates, lists.get? profile = some entries ∧
        d.templates.lookup profile = some templates ∧
        compileEntries marker internal profile entries = .ok templates := by
  obtain ⟨templates, htemplates, hd⟩ := Outcome.bind_eq_ok_iff.1 h
  cases hd
  refine lookup_of_forall₂ (fun profile entries templates =>
    compileEntries marker internal profile entries = .ok templates) ?_ profile
  refine (Outcome.mapM_eq_ok_iff.1 htemplates).imp fun e d hed => ?_
  obtain ⟨compiled, hcompiled, hpair⟩ := Outcome.bind_eq_ok_iff.1 hed
  cases hpair
  exact ⟨rfl, hcompiled⟩

theorem compileDerived_name {marker : Char} {internal : String} {lists : NameLists}
    {d : DerivedAttribute} (h : compileDerived marker internal lists = .ok d) :
    d.name = internal := by
  obtain ⟨_, _, hd⟩ := Outcome.bind_eq_ok_iff.1 h
  cases hd
  rfl

theorem compileDerived_eq_ok {marker : Char} {internal : String} {lists : NameLists}
    {d : DerivedAttribute} (h : compileDerived marker internal lists = .ok d) :
    d.name = internal ∧ ∀ profile,
      List.Forall₂ (fun entry t => Template.compile entry marker = .ok t)
        (((lists.get? profile).getD []).filter (marker ∈ ·.toList)) (d.templatesFor profile) := by
  refine ⟨compileDerived_name h, fun profile => ?_⟩
  unfold DerivedAttribute.templatesFor
  rcases lookup_of_compileDerived h profile with
    ⟨he, hd⟩ | ⟨entries, compiled, he, hd, hcompiled⟩
  · rw [he, hd]
    exact .nil
  · rw [he, hd]
    exact compileEntries_eq_ok_iff.1 hcompiled

namespace Mapper

variable {m : Mapper}

theorem derived_forall₂ : List.Forall₂ (fun e d =>
    compileDerived m.config.options.templateMarker e.1 e.2 = .ok d)
      m.config.derived.entries m.derived :=
  Outcome.mapM_eq_ok_iff.1 m.compiled

theorem compiled_templateEntries {d : DerivedAttribute} (hd : d ∈ m.derived) (profile : String) :
    List.Forall₂
      (fun entry t => Template.compile entry m.config.options.templateMarker = .ok t)
      (m.config.templateEntries profile d.name) (d.templatesFor profile) := by
  obtain ⟨e, he, hcompiled⟩ := Outcome.exists_of_mem_right derived_forall₂ hd
  obtain ⟨hname, htemplates⟩ := compileDerived_eq_ok hcompiled
  have hlists : m.config.derived.get? d.name = some e.2 := by
    rw [hname]
    exact Table.get?_eq_some_iff.2 he
  simpa [Config.templateEntries, AttributeTable.list?, hlists] using htemplates profile

theorem templatesFor_eq_nil {d : DerivedAttribute} (hd : d ∈ m.derived) {profile : String}
    (h : m.config.templateEntries profile d.name = []) : d.templatesFor profile = [] := by
  have hcompiled := compiled_templateEntries hd profile
  rw [h] at hcompiled
  exact List.forall₂_nil_left_iff.1 hcompiled

end Mapper

/-- An address book for two profiles, on which results about mappers are instantiated. -/
def Config.contacts : Config where
  attributes := .ofList
    [("mail", .ofList [("saml", ["email", "mail"]), ("openid", ["email"])]),
      ("street", .ofList [("openid", ["address.street"])]),
      ("phone", .ofList [("saml", [])])]
  templateAttributes := some <| .ofList
    [("domain", .ofList [("saml", ["$\x7bmail[0] | scope\x7d", "none"])])]

def Mapper.contacts : Mapper where
  config := .contacts
  index := (NameIndex.ofAttributes Config.contacts.attributes).value
  derived := [⟨"domain", [("saml", [⟨"$\x7bmail[0] | scope\x7d",
    [.placeholder (.call "scope" (.index (.variable "mail") 0))]⟩])]⟩]
  valid := by decide
  indexed := rfl
  compiled := by decide

def Mapper.contact : Record :=
  (Record.empty.insert "mail" ["ann@example.org", ""]).insert "phone" ["555"]

/-- What is known of the same contact elsewhere. -/
def Mapper.contactClaims : ExternalRecord :=
  Table.empty.insert "email" (.texts ["ann@example.org"])

end AttributeProfiles
