import AttributeProfiles.Proofs.Exports
import AttributeProfiles.Proofs.TemplatePhase
import Mathlib.Data.List.Nodup
import Mathlib.Data.List.Pairwise

/-!
# Exporting a record and importing it again

A profile is aligned when no two of the names listed for it begin with the same segment. Then no
member of an exported record is replaced by another one, and every listed name leads to the
attribute that lists it or to nothing. So an import finds exactly the values that were exported.
-/

namespace AttributeProfiles.Mapper

def firstSegment (m : Mapper) (name : String) : String :=
  (NestedName.ofName m.options.separator name).first

/-- No two occurrences of external names for a profile begin with the same segment. -/
def Aligned (m : Mapper) (profile : String) : Prop :=
  ((m.listedNames profile).map m.firstSegment).Nodup

instance (m : Mapper) (profile : String) : Decidable (m.Aligned profile) :=
  inferInstanceAs (Decidable (List.Nodup _))

variable {m : Mapper} {profile : String}

theorem aligned_iff : m.Aligned profile ↔
    (∀ e ∈ m.config.attributes.entries,
      (((e.2.get? profile).getD []).map m.firstSegment).Nodup) ∧
    m.config.attributes.entries.Pairwise (Function.onFun List.Disjoint fun e =>
      ((e.2.get? profile).getD []).map m.firstSegment) := by
  rw [Aligned, listedNames, List.map_flatMap, List.nodup_flatMap]

theorem Aligned.attribute_unique (aligned : m.Aligned profile) {a b name other : String}
    (hname : name ∈ m.externalNames profile a) (hother : other ∈ m.externalNames profile b)
    (hfirst : m.firstSegment name = m.firstSegment other) : a = b := by
  obtain ⟨la, ha, hname⟩ := m.mem_externalNames_iff.1 hname
  obtain ⟨lb, hb, hother⟩ := m.mem_externalNames_iff.1 hother
  by_contra hne
  have hentries : (a, la) ≠ (b, lb) := fun h => hne (congrArg Prod.fst h)
  have hsymm : Std.Symm (Function.onFun List.Disjoint fun e : String × NameLists =>
      ((e.2.get? profile).getD []).map m.firstSegment) := ⟨fun _ _ h _ hx hy => h hy hx⟩
  have hdisjoint := (aligned_iff.1 aligned).2.forall ha hb hentries
  exact hdisjoint (List.mem_map_of_mem hname) (hfirst ▸ List.mem_map_of_mem hother)

theorem Aligned.name_unique (aligned : m.Aligned profile) {a name other : String}
    (hname : name ∈ m.externalNames profile a) (hother : other ∈ m.externalNames profile a)
    (hfirst : m.firstSegment name = m.firstSegment other) : name = other := by
  obtain ⟨la, ha, hname⟩ := m.mem_externalNames_iff.1 hname
  obtain ⟨lb, hb, hother⟩ := m.mem_externalNames_iff.1 hother
  have hlists : la = lb :=
    Option.some.inj ((Table.get?_eq_some_iff.2 ha).symm.trans (Table.get?_eq_some_iff.2 hb))
  subst hlists
  exact List.inj_on_of_nodup_map ((aligned_iff.1 aligned).1 _ ha) hname hother hfirst

theorem Aligned.nodup_externalNames (aligned : m.Aligned profile) (a : String) :
    (m.externalNames profile a).Nodup := by
  unfold externalNames AttributeTable.list?
  cases hl : m.config.attributes.get? a with
  | none => simp
  | some lists =>
    have hmem := Table.get?_eq_some_iff.1 hl
    exact ((aligned_iff.1 aligned).1 _ hmem).of_map

theorem mem_exportedMembers_iff {r : Record} {segment : String} {value : Json.Value} :
    (segment, value) ∈ m.exportedMembers profile r ↔
      ∃ a values name, r.get? a = some values ∧ (m.externalNames profile a).head? = some name ∧
        m.firstSegment name = segment ∧
        NestedName.wrap (NestedName.ofName m.options.separator name).inner (.texts values) =
          value := by
  unfold exportedMembers exportedMember? exportTarget?
  simp only [List.mem_filterMap, Option.map_map, Option.map_eq_some_iff, Function.comp_apply,
    Prod.mk.injEq, Prod.exists, Record.get?_eq_some_iff, firstSegment]
  constructor
  · rintro ⟨a, values, ha, name, hname, hsegment, hvalue⟩
    exact ⟨a, values, name, ha, hname, hsegment, hvalue⟩
  · rintro ⟨a, values, name, ha, hname, hsegment, hvalue⟩
    exact ⟨a, values, ha, name, hname, hsegment, hvalue⟩

theorem Aligned.nodup_exportedMembers (aligned : m.Aligned profile) (r : Record) :
    ((m.exportedMembers profile r).map Prod.fst).Nodup := by
  have hnames : (m.exportedMembers profile r).map Prod.fst =
      r.names.filterMap fun a => (m.externalNames profile a).head?.map m.firstSegment := by
    unfold exportedMembers Record.names
    rw [List.map_filterMap, List.filterMap_map]
    congr 1
    funext e
    simp only [Function.comp_apply, exportedMember?, exportTarget?, Option.map_map]
    rfl
  rw [hnames]
  refine List.Nodup.filterMap ?_ r.nodup_names
  intro a b segment ha hb
  obtain ⟨name, hname, rfl⟩ := Option.map_eq_some_iff.1 ha
  obtain ⟨other, hother, hfirst⟩ := Option.map_eq_some_iff.1 hb
  exact aligned.attribute_unique (List.mem_of_mem_head? hname) (List.mem_of_mem_head? hother)
    hfirst.symm

/-- Under the first segment of a listed name stands what was exported under that name: the values of
its attribute if it is the first name of the attribute, and nothing otherwise. -/
theorem Aligned.get?_fromInternal (aligned : m.Aligned profile) (r : Record) {a name : String}
    (hname : name ∈ m.externalNames profile a) :
    (m.fromInternal profile r).value.get? (m.firstSegment name) =
      if (m.externalNames profile a).head? = some name then
        (r.get? a).map fun values =>
          NestedName.wrap (NestedName.ofName m.options.separator name).inner (.texts values)
      else none := by
  have hdistinct : ((m.exportedMembers profile r).reverse.map Prod.fst).Nodup := by
    rw [List.map_reverse, List.nodup_reverse]
    exact aligned.nodup_exportedMembers r
  apply Option.ext
  intro value
  rw [Mapper.get?_fromInternal, Entries.lookup_eq_some_iff hdistinct, List.mem_reverse,
    mem_exportedMembers_iff]
  constructor
  · rintro ⟨b, values, other, hb, hhead, hfirst, rfl⟩
    have hother := List.mem_of_mem_head? hhead
    obtain rfl : b = a := aligned.attribute_unique hother hname hfirst
    obtain rfl : other = name := aligned.name_unique hother hname hfirst
    rw [if_pos hhead, hb]
    rfl
  · intro h
    split at h
    next hhead =>
      obtain ⟨values, hvalues, rfl⟩ := Option.map_eq_some_iff.1 h
      exact ⟨a, values, name, hvalues, hhead, rfl, rfl⟩
    · cases h

theorem Aligned.valuesUnder_fromInternal (aligned : m.Aligned profile) (r : Record)
    {a name : String} (hname : name ∈ m.externalNames profile a) :
    m.valuesUnder (m.fromInternal profile r).value name =
      if (m.externalNames profile a).head? = some name then (r.get? a).getD [] else [] := by
  have hfind : (NestedName.ofName m.options.separator name).find?
      (m.fromInternal profile r).value =
        if (m.externalNames profile a).head? = some name then
          (r.get? a).map Json.Value.texts
        else none := by
    have hmember := aligned.get?_fromInternal r hname
    rw [firstSegment] at hmember
    rw [NestedName.find?, hmember]
    split
    · cases r.get? a <;> simp
    · rfl
  rw [valuesUnder, hfind]
  split
  · cases r.get? a <;> simp
  · rfl

theorem Aligned.importedValues_fromInternal (aligned : m.Aligned profile) (r : Record)
    (a : String) :
    m.importedValues profile (m.fromInternal profile r).value a =
      if m.externalNames profile a = [] then [] else (r.get? a).getD [] := by
  have hnodup := aligned.nodup_externalNames a
  have hvalues := fun name (h : name ∈ m.externalNames profile a) =>
    aligned.valuesUnder_fromInternal r h
  unfold importedValues
  cases hnames : m.externalNames profile a with
  | nil => simp
  | cons first others =>
    rw [hnames] at hnodup hvalues
    have hothers : others.flatMap (m.valuesUnder (m.fromInternal profile r).value) = [] := by
      rw [List.flatMap_eq_nil_iff]
      intro name hname
      have hne : first ≠ name := fun h => (List.nodup_cons.1 hnodup).1 (h ▸ hname)
      rw [hvalues name (List.mem_cons_of_mem _ hname)]
      simp [hne]
    rw [List.flatMap_cons, hothers, hvalues first List.mem_cons_self]
    simp

/-- The part of an internal record that a profile carries: the attributes with external names and
with values. -/
def carried (m : Mapper) (profile : String) (r : Record) : Record :=
  r.restrict fun e => m.externalNames profile e.1 ≠ [] ∧ e.2 ≠ []

/-- The table of attributes makes of an exported record the part that the profile carries. -/
theorem Aligned.importPlain_fromInternal (aligned : m.Aligned profile) (r : Record) :
    (m.importPlain profile (m.fromInternal profile r).value).value = m.carried profile r := by
  apply Record.ext_get?
  intro a
  rw [get?_importPlain, aligned.importedValues_fromInternal, carried, Record.get?_restrict]
  cases hr : r.get? a with
  | none => simp
  | some values =>
    by_cases hnames : m.externalNames profile a = []
    · simp [hnames]
    · by_cases hvalues : values = [] <;> simp [hnames, hvalues, Option.filter]

/-- Exporting a record to an aligned profile and importing the result resolves the templates on the
part of the record that the profile carries. Where the profile has no templates, that part comes
back as it was. -/
theorem toInternal_fromInternal (aligned : m.Aligned profile) (r : Record) :
    (m.toInternal profile (m.fromInternal profile r).value).value =
        (m.deriveAll profile (m.carried profile r)).value ∧
      ((∀ a, m.config.templateEntries profile a = []) →
        (m.toInternal profile (m.fromInternal profile r).value).value = m.carried profile r) := by
  have hphases : (m.toInternal profile (m.fromInternal profile r).value).value =
      (m.deriveAll profile (m.carried profile r)).value := by
    rw [toInternal_value, aligned.importPlain_fromInternal]
  refine ⟨hphases, fun hnone => ?_⟩
  rw [hphases]
  apply Record.ext_get?
  intro a
  exact m.get?_deriveAll_of_templateEntries_eq_nil profile _ (hnone a)

theorem toInternal_fromInternal_contacts :
    contacts.Aligned "saml" ∧ contacts.Aligned "openid" ∧
      (contacts.toInternal "saml" (contacts.fromInternal "saml" contact).value).value.entries =
        [("domain", ["example.org"]), ("mail", ["ann@example.org", ""])] ∧
      (contacts.toInternal "openid" (contacts.fromInternal "openid" contact).value).value.entries =
        [("mail", ["ann@example.org", ""])] := by
  have saml : contacts.Aligned "saml" := by decide
  have openid : contacts.Aligned "openid" := by decide
  have hnone : ∀ a, contacts.config.templateEntries "openid" a = [] :=
    Config.templateEntries_eq_nil (by decide)
  refine ⟨saml, openid, ?_, ?_⟩
  · rw [(toInternal_fromInternal saml contact).1]
    decide
  · rw [(toInternal_fromInternal openid contact).2 hnone]
    decide

end AttributeProfiles.Mapper
