import AttributeProfiles.Mapper.Import
import AttributeProfiles.Proofs.Records

/-!
# What the table of attributes imports

Before any template is looked at, an internal attribute holds the values of its external names, one
name after the other, and is absent where there are none. `get?_importPlain` says so for the whole
run over the table.
-/

namespace AttributeProfiles

/-- The entries that an attribute has for a profile in a table, if it is configured there. -/
def AttributeTable.list? (t : AttributeTable) (profile internal : String) :
    Option (List String) :=
  (t.get? internal).bind (·.get? profile)

theorem AttributeTable.exists_isSome_list?_iff {t : AttributeTable} {profile : String} :
    (∃ a, (t.list? profile a).isSome) ↔ ∃ e ∈ t.entries, profile ∈ e.2.names := by
  constructor
  · rintro ⟨a, hlist⟩
    obtain ⟨list, hlist⟩ := Option.isSome_iff_exists.1 hlist
    obtain ⟨lists, hlists, hlist⟩ := Option.bind_eq_some_iff.1 hlist
    exact ⟨(a, lists), Table.get?_eq_some_iff.1 hlists,
      Table.mem_names_iff.2 (Option.isSome_iff_exists.2 ⟨list, hlist⟩)⟩
  · rintro ⟨⟨a, lists⟩, he, hlist⟩
    refine ⟨a, ?_⟩
    rw [list?, Table.get?_eq_some_iff.2 he, Option.bind_some]
    exact Table.mem_names_iff.1 hlist

namespace Mapper

/-- The external names of an attribute for a profile, in configured order. -/
def externalNames (m : Mapper) (profile internal : String) : List String :=
  (m.config.attributes.list? profile internal).getD []

/-- All occurrences of external names for a profile, over all internal attributes. -/
def listedNames (m : Mapper) (profile : String) : List String :=
  m.config.attributes.entries.flatMap fun e => (e.2.get? profile).getD []

def valuesUnder (m : Mapper) (external : ExternalRecord) (name : String) : List String :=
  (((NestedName.ofName m.options.separator name).find? external).map collected).getD []

def importedValues (m : Mapper) (profile : String) (external : ExternalRecord)
    (internal : String) : List String :=
  (m.externalNames profile internal).flatMap (m.valuesUnder external)

variable (m : Mapper) (profile : String) (external : ExternalRecord)

theorem mem_externalNames_iff {profile internal name : String} :
    name ∈ m.externalNames profile internal ↔
      ∃ lists, (internal, lists) ∈ m.config.attributes.entries ∧
        name ∈ (lists.get? profile).getD [] := by
  unfold externalNames AttributeTable.list?
  constructor
  · intro h
    cases hl : m.config.attributes.get? internal with
    | none => simp [hl] at h
    | some lists => exact ⟨lists, Table.get?_eq_some_iff.1 hl, by simpa [hl] using h⟩
  · rintro ⟨lists, hl, h⟩
    simpa [Table.get?_eq_some_iff.2 hl] using h

theorem mem_listedNames_iff {profile name : String} :
    name ∈ m.listedNames profile ↔ ∃ internal, name ∈ m.externalNames profile internal := by
  rw [listedNames, List.mem_flatMap]
  constructor
  · rintro ⟨⟨internal, lists⟩, hmem, hname⟩
    exact ⟨internal, m.mem_externalNames_iff.2 ⟨lists, hmem, hname⟩⟩
  · rintro ⟨internal, hname⟩
    obtain ⟨lists, hmem, hname⟩ := m.mem_externalNames_iff.1 hname
    exact ⟨(internal, lists), hmem, hname⟩

theorem importedValues_eq_nil_iff {internal : String} :
    m.importedValues profile external internal = [] ↔
      ∀ name ∈ m.externalNames profile internal, m.valuesUnder external name = [] :=
  List.flatMap_eq_nil_iff

theorem importAttribute_value (record : Record) (entry : String × NameLists) :
    (m.importAttribute profile external record entry).value =
      record.supply entry.1
        (((entry.2.get? profile).getD []).flatMap (m.valuesUnder external)) := by
  unfold importAttribute
  split
  next h => simp [h]
  next names h =>
    have hc : collate m.options.separator names external =
        names.flatMap (m.valuesUnder external) := rfl
    rw [h, Option.getD_some, ← hc]
    cases collate m.options.separator names external with
    | nil => simp
    | cons value values => simp [Record.supply]

/-- The plain record holds exactly the values that each attribute collects. -/
theorem get?_importPlain (internal : String) :
    (m.importPlain profile external).value.get? internal =
      if m.importedValues profile external internal = [] then none
      else some (m.importedValues profile external internal) := by
  have hvalues : ((m.config.attributes.entries.lookup internal).map fun lists =>
      ((lists.get? profile).getD []).flatMap (m.valuesUnder external)).getD [] =
        m.importedValues profile external internal := by
    unfold importedValues externalNames AttributeTable.list? Table.get?
    cases m.config.attributes.entries.lookup internal <;> simp
  simp only [importPlain, Logged.foldlM_value, importAttribute_value]
  rw [Record.get?_foldl_supply (fun lists : NameLists =>
    ((lists.get? profile).getD []).flatMap (m.valuesUnder external)) m.config.attributes.distinct,
    hvalues, Record.get?_empty]

theorem importPlain_congr {m n : Mapper} {profile : String}
    (hseparator : m.options.separator = n.options.separator)
    (hnames : ∀ internal, m.externalNames profile internal = n.externalNames profile internal)
    (external : ExternalRecord) :
    (m.importPlain profile external).value = (n.importPlain profile external).value := by
  apply Record.ext_get?
  intro internal
  have hunder : m.valuesUnder external = n.valuesUnder external := by
    funext name
    rw [valuesUnder, valuesUnder, hseparator]
  have hvalues : m.importedValues profile external internal =
      n.importedValues profile external internal := by
    rw [importedValues, importedValues, hnames, hunder]
  rw [get?_importPlain, get?_importPlain, hvalues]

end Mapper

end AttributeProfiles
