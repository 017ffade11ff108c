import AttributeProfiles.Proofs.Building
import AttributeProfiles.Proofs.TemplateOrder

/-!
# Templates that fail

A template that fails gives no values, and nothing else comes of it. So entries that fail can be
taken out of their lists: the configuration is still accepted, and at every turn of the template
phase the record is the same.
-/

namespace AttributeProfiles

/-- A list without what stands at the chosen places. -/
def dropPlaces (chosen : Nat → Bool) (entries : List String) : List String :=
  (entries.zipIdx.filter fun e => !chosen e.2).map Prod.fst

theorem dropPlaces_sublist (chosen : Nat → Bool) (entries : List String) :
    (dropPlaces chosen entries).Sublist entries := by
  have h := (List.filter_sublist (p := fun e => !chosen e.2) (l := entries.zipIdx)).map Prod.fst
  rwa [List.zipIdx_map_fst] at h

theorem flatMap_dropPlaces {chosen : Nat → Bool} {entries : List String} {f : String → List String}
    (h : ∀ place entry, chosen place = true → entries[place]? = some entry → f entry = []) :
    (dropPlaces chosen entries).flatMap f = entries.flatMap f := by
  have hkept : (entries.zipIdx.filter fun e => !chosen e.2).flatMap (fun e => f e.1) =
      entries.zipIdx.flatMap fun e => f e.1 := by
    apply Loops.flatMap_filter_eq
    rintro ⟨entry, place⟩ hmem hdropped
    exact h place entry (by simpa using hdropped) (List.mk_mem_zipIdx_iff_getElem?.1 hmem)
  have hall : entries.flatMap f = entries.zipIdx.flatMap fun e => f e.1 := by
    conv => lhs; rw [← List.zipIdx_map_fst 0 entries]
    exact List.flatMap_map _ _ _
  rw [dropPlaces, List.flatMap_map, hkept, hall]

namespace Table

variable {α β : Type}

def mapNamed (f : String → α → β) (t : Table α) : Table β where
  entries := t.entries.map fun e => (e.1, f e.1 e.2)
  distinct := by
    rw [List.map_map]
    exact t.distinct

@[simp] theorem names_mapNamed (f : String → α → β) (t : Table α) :
    (t.mapNamed f).names = t.names := by
  simp [names, mapNamed]

@[simp] theorem get?_mapNamed (f : String → α → β) (t : Table α) (name : String) :
    (t.mapNamed f).get? name = (t.get? name).map (f name) := by
  apply Option.ext
  intro value
  rw [get?_eq_some_iff, Option.map_eq_some_iff]
  simp only [mapNamed, List.mem_map, Prod.mk.injEq, Prod.exists, get?_eq_some_iff]
  constructor
  · rintro ⟨_, a, ha, rfl, hvalue⟩
    exact ⟨a, ha, hvalue⟩
  · rintro ⟨a, ha, hvalue⟩
    exact ⟨name, a, ha, rfl, hvalue⟩

end Table

namespace AttributeTable

/-- A table without the entries that a profile has at the chosen places of its lists. -/
def withoutEntries (t : AttributeTable) (profile : String) (chosen : String → Nat → Bool) :
    AttributeTable :=
  t.mapNamed fun internal lists => lists.mapNamed fun p entries =>
    if p = profile then dropPlaces (chosen internal) entries else entries

theorem list?_withoutEntries (t : AttributeTable) (profile : String) (chosen : String → Nat → Bool)
    (internal : String) :
    (t.withoutEntries profile chosen).list? profile internal =
      (t.list? profile internal).map (dropPlaces (chosen internal)) := by
  unfold list? withoutEntries
  rw [Table.get?_mapNamed]
  cases t.get? internal with
  | none => rfl
  | some lists => simp

theorem exists_sublist_of_withoutEntries {t : AttributeTable} {profile : String}
    {chosen : String → Nat → Bool} {e : String × NameLists} {l : String × List String}
    (he : e ∈ (t.withoutEntries profile chosen).entries) (hl : l ∈ e.2.entries) :
    ∃ f ∈ t.entries, ∃ k ∈ f.2.entries, l.2.Sublist k.2 := by
  obtain ⟨f, hf, rfl⟩ := List.mem_map.1 he
  obtain ⟨k, hk, rfl⟩ := List.mem_map.1 hl
  refine ⟨f, hf, k, hk, ?_⟩
  dsimp only
  split
  · exact dropPlaces_sublist _ _
  · exact List.Sublist.refl _

end AttributeTable

namespace Config

variable (c : Config) (profile : String) (chosen : String → Nat → Bool)

def withoutEntries : Config :=
  { c with templateAttributes := c.templateAttributes.map (·.withoutEntries profile chosen) }

theorem derived_withoutEntries :
    (c.withoutEntries profile chosen).derived = c.derived.withoutEntries profile chosen := by
  unfold derived withoutEntries
  cases c.templateAttributes <;> rfl

variable {c}

theorem violation?_withoutEntries (valid : c.violation? = none) :
    (c.withoutEntries profile chosen).violation? = none := by
  rw [violation?_eq_none_iff] at valid ⊢
  obtain ⟨hattributes, hderived, hoptions⟩ := valid
  refine ⟨hattributes, ?_, hoptions⟩
  rw [AttributeTable.violation?_eq_none_iff] at hderived ⊢
  rw [derived_withoutEntries]
  intro e he
  obtain ⟨f, hf, rfl⟩ := List.mem_map.1 he
  refine ⟨(hderived f hf).1, fun l hl hempty => ?_⟩
  obtain ⟨g, hg, k, hk, hsub⟩ := AttributeTable.exists_sublist_of_withoutEntries he hl
  exact (hderived g hg).2 k hk (hsub.subset hempty)

theorem exists_compile_withoutEntries (h : ∃ ds, c.compile = .ok ds) :
    ∃ ds, (c.withoutEntries profile chosen).compile = .ok ds := by
  rw [exists_compile_iff] at h ⊢
  rw [derived_withoutEntries]
  intro e he l hl entry hentry hmarker
  obtain ⟨f, hf, k, hk, hsub⟩ := AttributeTable.exists_sublist_of_withoutEntries he hl
  exact h f hf k hk entry (hsub.subset hentry) hmarker

/-- The values that an entry of a template list gives against a record: those of a template that
renders, and none otherwise. -/
def entryValues (c : Config) (r : Record) (entry : String) : List String :=
  if c.options.templateMarker ∈ entry.toList then
    match Template.compile entry c.options.templateMarker with
    | .ok t => (t.renderValues r c.options.multivalueSeparator).toOption.getD []
    | .error _ => []
  else []

end Config

namespace Mapper

variable {m : Mapper} {profile : String} {external : ExternalRecord}

theorem derivedValues_eq_flatMap {d : DerivedAttribute} (hd : d ∈ m.derived) (r : Record) :
    m.derivedValues profile r d =
      ((m.config.derived.list? profile d.name).getD []).flatMap (m.config.entryValues r) := by
  have hentries : (m.config.templateEntries profile d.name).flatMap (m.config.entryValues r) =
      ((m.config.derived.list? profile d.name).getD []).flatMap (m.config.entryValues r) := by
    apply Loops.flatMap_filter_eq
    intro entry _ hmarker
    exact if_neg (by simpa using hmarker)
  rw [← hentries, derivedValues]
  have hmarked : ∀ entry ∈ m.config.templateEntries profile d.name,
      m.config.options.templateMarker ∈ entry.toList := by
    intro entry hentry
    simpa using (List.mem_filter.1 hentry).2
  have hcompiled := (List.forall₂_and_left _ _).2 ⟨hmarked, compiled_templateEntries hd profile⟩
  symm
  apply Outcome.flatMap_eq_of_forall₂
  refine hcompiled.imp fun entry t h => ?_
  obtain ⟨hmarker, ht⟩ := h
  rw [Config.entryValues, if_pos hmarker, ht]
  rfl

/-- The record after the first `turn` template attributes. The next one sees this record. -/
def recordAt (m : Mapper) (profile : String) (external : ExternalRecord) (turn : Nat) : Record :=
  ((m.derived.take turn).foldlM (m.deriveAttribute profile)
    (m.importPlain profile external).value).value

/-- The entry of a template attribute at a place of its list is a template that returns an error
against the record that the attribute sees when its turn comes. -/
def FailsAt (m : Mapper) (profile : String) (external : ExternalRecord) (internal : String)
    (place : Nat) : Prop :=
  ∃ turn d entry t cause, m.derived[turn]? = some d ∧ d.name = internal ∧
    ((m.config.derived.list? profile internal).getD [])[place]? = some entry ∧
    m.config.options.templateMarker ∈ entry.toList ∧
    Template.compile entry m.config.options.templateMarker = .ok t ∧
    t.renderValues (m.recordAt profile external turn) m.config.options.multivalueSeparator =
      .error cause

theorem recordAt_zero : m.recordAt profile external 0 = (m.importPlain profile external).value :=
  rfl

theorem recordAt_succ (turn : Nat) : m.recordAt profile external (turn + 1) =
    match m.derived[turn]? with
    | some d => (m.recordAt profile external turn).supply d.name
        (m.derivedValues profile (m.recordAt profile external turn) d)
    | none => m.recordAt profile external turn := by
  simp only [recordAt, Logged.foldlM_value, List.take_add_one, List.foldl_append]
  cases m.derived[turn]? with
  | none => rfl
  | some d => exact m.deriveAttribute_value profile _ d

theorem toInternal_eq_recordAt :
    (m.toInternal profile external).value = m.recordAt profile external m.derived.length := by
  rw [toInternal_value, deriveAll, recordAt, List.take_length]

theorem turn_unique {i j : Nat} {d e : DerivedAttribute} (hi : m.derived[i]? = some d)
    (hj : m.derived[j]? = some e) (h : d.name = e.name) : i = j := by
  have hlt : i < (m.derived.map DerivedAttribute.name).length := by
    rw [List.length_map]
    exact (List.getElem?_eq_some_iff.1 hi).1
  apply (List.getElem?_inj hlt nodup_derived_names).1
  rw [List.getElem?_map, List.getElem?_map, hi, hj, Option.map_some, Option.map_some, h]

theorem FailsAt.entryValues_eq_nil {turn place : Nat} {d : DerivedAttribute} {entry : String}
    (h : m.FailsAt profile external d.name place) (hturn : m.derived[turn]? = some d)
    (hentry : ((m.config.derived.list? profile d.name).getD [])[place]? = some entry) :
    m.config.entryValues (m.recordAt profile external turn) entry = [] := by
  obtain ⟨failingTurn, e, failing, t, cause, hfailingTurn, hname, hfailing, hmarker, hcompile,
    herror⟩ := h
  obtain rfl := turn_unique hfailingTurn hturn hname
  obtain rfl := Option.some.inj (hfailing.symm.trans hentry)
  rw [Config.entryValues, if_pos hmarker, hcompile]
  dsimp only
  rw [herror]
  rfl

section

variable {n : Mapper} {chosen : String → Nat → Bool}
variable (failing : ∀ a place, chosen a place = true → m.FailsAt profile external a place)
variable (without : n.config = m.config.withoutEntries profile chosen)

include without

theorem derived_names_withoutEntries :
    n.derived.map DerivedAttribute.name = m.derived.map DerivedAttribute.name := by
  rw [derived_names, derived_names, without, Config.derived_withoutEntries,
    AttributeTable.withoutEntries, Table.names_mapNamed]

theorem recordAt_zero_withoutEntries :
    n.recordAt profile external 0 = m.recordAt profile external 0 := by
  have hoptions : n.options = m.options := by
    rw [options, options, without]
    rfl
  rw [recordAt_zero, recordAt_zero]
  refine importPlain_congr (by rw [hoptions]) (fun internal => ?_) external
  rw [externalNames, externalNames, without]
  rfl

include failing

/-- At its turn, a template attribute gives the same values without the entries that fail. -/
theorem derivedValues_withoutEntries {turn : Nat} {d e : DerivedAttribute}
    (hd : m.derived[turn]? = some d) (he : n.derived[turn]? = some e) (hname : e.name = d.name) :
    n.derivedValues profile (m.recordAt profile external turn) e =
      m.derivedValues profile (m.recordAt profile external turn) d := by
  have hvalues : n.config.entryValues = m.config.entryValues := by
    rw [without]
    rfl
  have hlist : (n.config.derived.list? profile d.name).getD [] =
      dropPlaces (chosen d.name) ((m.config.derived.list? profile d.name).getD []) := by
    rw [without, Config.derived_withoutEntries, AttributeTable.list?_withoutEntries]
    cases m.config.derived.list? profile d.name <;> rfl
  rw [derivedValues_eq_flatMap (List.mem_of_getElem? hd),
    derivedValues_eq_flatMap (List.mem_of_getElem? he), hname, hvalues, hlist]
  apply flatMap_dropPlaces
  intro place entry hchosen hentry
  exact (failing d.name place hchosen).entryValues_eq_nil hd hentry

/-- Without the entries that fail, every template attribute sees the same record at its turn. -/
theorem recordAt_withoutEntries (turn : Nat) :
    n.recordAt profile external turn = m.recordAt profile external turn := by
  induction turn with
  | zero => exact recordAt_zero_withoutEntries without
  | succ turn ih =>
    have hnames : (n.derived[turn]?).map DerivedAttribute.name =
        (m.derived[turn]?).map DerivedAttribute.name := by
      rw [← List.getElem?_map, ← List.getElem?_map, derived_names_withoutEntries without]
    rw [recordAt_succ, recordAt_succ, ih]
    cases hd : m.derived[turn]? with
    | none =>
      rw [hd, Option.map_none, Option.map_eq_none_iff] at hnames
      rw [hnames]
    | some d =>
      rw [hd, Option.map_some, Option.map_eq_some_iff] at hnames
      obtain ⟨e, he, hname⟩ := hnames
      rw [he]
      dsimp only
      rw [hname, derivedValues_withoutEntries failing without hd he hname]

end

/-- Entries that fail in an import can be left out: the configuration without them has a mapper, the
same template attributes come at the same turns, each sees the same record, and the import gives the
same record. -/
theorem toInternal_withoutFailures (m : Mapper) (profile : String) (external : ExternalRecord)
    {chosen : String → Nat → Bool}
    (failing : ∀ a place, chosen a place = true → m.FailsAt profile external a place) :
    ∃ n, (build (m.config.withoutEntries profile chosen)).value = .ok n ∧
      n.derived.map DerivedAttribute.name = m.derived.map DerivedAttribute.name ∧
      (∀ turn, n.recordAt profile external turn = m.recordAt profile external turn) ∧
      (n.toInternal profile external).value = (m.toInternal profile external).value := by
  have valid := Config.violation?_withoutEntries profile chosen m.valid
  have compiles := Config.exists_compile_withoutEntries profile chosen ⟨m.derived, m.compiled⟩
  obtain ⟨n, hbuild⟩ := exists_build valid compiles
  have without := config_of_build hbuild
  have hnames := derived_names_withoutEntries without
  have hlength : n.derived.length = m.derived.length := by
    simpa using congrArg List.length hnames
  refine ⟨n, hbuild, hnames, recordAt_withoutEntries failing without, ?_⟩
  rw [toInternal_eq_recordAt, toInternal_eq_recordAt, hlength,
    recordAt_withoutEntries failing without]

/-- The first entry of the label fails on a contact without a phone. -/
theorem toInternal_withoutFailures_directory :
    directoryByLabel.FailsAt "saml" contactClaims "label" 0 ∧
      ∃ n, (build (directoryByLabel.config.withoutEntries "saml" fun a place =>
          a = "label" && place = 0)).value = .ok n ∧
        n.config.templateEntries "saml" "label" = ["<$\x7bmail\x7d>"] ∧
        (n.toInternal "saml" contactClaims).value.entries =
          [("domain", ["example.org"]), ("home", ["example.org/ann@example.org"]),
            ("label", ["<ann@example.org>"]), ("mail", ["ann@example.org"])] := by
  have hfails : directoryByLabel.FailsAt "saml" contactClaims "label" 0 := by
    refine ⟨0, .label, "$\x7bphone\x7d", ⟨"$\x7bphone\x7d", [.placeholder (.variable "phone")]⟩,
      .undefinedVariable "phone", ?_⟩
    decide
  have failing : ∀ a place, (a = "label" && place = 0) = true →
      directoryByLabel.FailsAt "saml" contactClaims a place := by
    intro a place h
    obtain ⟨rfl, rfl⟩ : a = "label" ∧ place = 0 := by simpa using h
    exact hfails
  obtain ⟨n, hbuild, -, -, hrecord⟩ :=
    toInternal_withoutFailures directoryByLabel "saml" contactClaims failing
  refine ⟨hfails, n, hbuild, ?_, ?_⟩
  · rw [config_of_build hbuild]
    decide
  · rw [hrecord]
    decide

end Mapper

end AttributeProfiles
