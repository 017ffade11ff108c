import AttributeProfiles.Proofs.Building
import AttributeProfiles.Proofs.Loops

/-!
# The first fault of a configuration

What a configuration has to keep can be listed, one requirement for each name, for each entry of a
list, for the options and for each template, in the order in which they are looked at. A mapper is
built when all of them are met, and otherwise the error is that of the first one that is not. The
templates come last, so a template that does not compile never hides an empty name or equal options.
-/

namespace AttributeProfiles

/-- Something that a configuration has to keep, and the place where it has to. -/
inductive Requirement where
  | attributeNamed (table : Section) (internal : String)
  | entryNamed (table : Section) (internal profile : String) (index : Nat) (entry : String)
  | optionsDiffer (options : Options)
  | entryCompiles (marker : Char) (internal profile : String) (index : Nat) (entry : String)

namespace Requirement

def IsMet : Requirement → Prop
  | .attributeNamed _ internal => internal ≠ ""
  | .entryNamed _ _ _ _ entry => entry ≠ ""
  | .optionsDiffer o =>
    o.separator ≠ o.multivalueSeparator ∧ o.separator ≠ o.templateMarker ∧
      o.multivalueSeparator ≠ o.templateMarker
  | .entryCompiles marker _ _ _ entry =>
    marker ∈ entry.toList → ∃ t, Template.compile entry marker = .ok t

/-- The part of a configuration file that a requirement is about. -/
def field : Requirement → String
  | .attributeNamed table _ => table.name
  | .entryNamed table internal profile index _ =>
    table.name ++ "." ++ internal ++ "." ++ profile ++ "[" ++ index.repr ++ "]"
  | .optionsDiffer _ => "options"
  | .entryCompiles _ internal profile index _ =>
    "template_attributes" ++ "." ++ internal ++ "." ++ profile ++ "[" ++ index.repr ++ "]"

def fault? : Requirement → Option ConfigError
  | .attributeNamed table internal =>
    if internal = "" then some (.invalidValue (.emptyInternalName table)) else none
  | .entryNamed table internal profile index entry =>
    if entry = "" then some (.invalidValue (.emptyExternalName table internal profile index))
    else none
  | .optionsDiffer o => if o.areDistinct then none else some (.invalidValue (.repeatedOption o))
  | .entryCompiles marker internal profile index entry =>
    if marker ∈ entry.toList then
      (Outcome.failure? (Template.compile entry marker)).map
        (.invalidTemplate internal profile index)
    else none

theorem fault?_eq_none_iff {r : Requirement} : r.fault? = none ↔ r.IsMet := by
  cases r with
  | attributeNamed table internal => simp [fault?, IsMet]
  | entryNamed table internal profile index entry => simp [fault?, IsMet]
  | optionsDiffer o => simp [fault?, IsMet, Options.areDistinct]
  | entryCompiles marker internal profile index entry =>
    rw [fault?, IsMet, ← Outcome.failure?_eq_none_iff]
    split
    next hmarker => simp [hmarker]
    next hmarker => simp [hmarker]

instance : DecidablePred IsMet := fun _ => decidable_of_iff _ fault?_eq_none_iff

end Requirement

def ConfigError.field? : ConfigError → Option String
  | .invalidValue violation => some violation.field
  | .invalidTemplate internal profile index _ =>
    some (entryPlace .templateAttributes internal profile index)
  | .fileNotFound _ | .unreadable _ | .notAConfiguration _ => none

theorem Requirement.field?_of_fault? {r : Requirement} {cause : ConfigError}
    (h : r.fault? = some cause) : cause.field? = some r.field := by
  cases r with
  | attributeNamed table internal =>
    obtain ⟨-, hcause⟩ := Option.ite_none_right_eq_some.1 h
    cases hcause
    rfl
  | entryNamed table internal profile index entry =>
    obtain ⟨-, hcause⟩ := Option.ite_none_right_eq_some.1 h
    cases hcause
    rfl
  | optionsDiffer o =>
    obtain ⟨-, hcause⟩ := Option.ite_none_left_eq_some.1 h
    cases hcause
    rfl
  | entryCompiles marker internal profile index entry =>
    obtain ⟨-, h⟩ := Option.ite_none_right_eq_some.1 h
    obtain ⟨_, -, rfl⟩ := Option.map_eq_some_iff.1 h
    rfl

/-- Something for each entry of the lists of an attribute, in the order of the profiles and then of
the entries. -/
def NameLists.mapEntries {α : Type} (f : String → Nat → String → α) (lists : NameLists) : List α :=
  lists.entries.flatMap fun (profile, entries) =>
    entries.zipIdx.map fun (entry, index) => f profile index entry

/-- What is required of the names of a table: for each attribute of its own name, then of the
entries of its lists. -/
def AttributeTable.nameRequirements (table : Section) (t : AttributeTable) : List Requirement :=
  t.entries.flatMap fun (internal, lists) =>
    .attributeNamed table internal :: lists.mapEntries (.entryNamed table internal)

def AttributeTable.templateRequirements (marker : Char) (t : AttributeTable) : List Requirement :=
  t.entries.flatMap fun (internal, lists) => lists.mapEntries (.entryCompiles marker internal)

/-- All that is required of a configuration, in the order in which it is looked at. -/
def Config.requirements (c : Config) : List Requirement :=
  c.attributes.nameRequirements .attributes ++
    (c.derived.nameRequirements .templateAttributes ++
      (.optionsDiffer c.options :: c.derived.templateRequirements c.options.templateMarker))

theorem NameLists.findSome?_mapEntries {α β : Type} (f : String → Nat → String → α)
    (g : α → Option β) (lists : NameLists) :
    (lists.mapEntries f).findSome? g = lists.entries.findSome? fun l =>
      l.2.zipIdx.findSome? fun e => g (f l.1 e.2 e.1) := by
  rw [mapEntries, Loops.findSome?_flatMap]
  congr 1
  funext l
  exact List.findSome?_map

theorem NameLists.findSome?_entryNamed (table : Section) (internal : String) (lists : NameLists) :
    (lists.mapEntries (.entryNamed table internal)).findSome? Requirement.fault? =
      (lists.violation? table internal).map .invalidValue := by
  rw [findSome?_mapEntries, violation?, List.map_findSome?]
  congr 1
  funext ⟨profile, entries⟩
  rw [Function.comp_apply]
  dsimp only
  rw [List.findIdx?_eq_findSome?_zipIdx, List.map_findSome?, List.map_findSome?]
  congr 1
  funext e
  by_cases hempty : e.1 = "" <;> simp [Requirement.fault?, hempty]

theorem AttributeTable.findSome?_nameRequirements (table : Section) (t : AttributeTable) :
    (t.nameRequirements table).findSome? Requirement.fault? =
      (t.violation? table).map .invalidValue := by
  rw [nameRequirements, Loops.findSome?_flatMap, violation?, List.map_findSome?]
  congr 1
  funext e
  rw [List.findSome?_cons, NameLists.findSome?_entryNamed, Function.comp_apply]
  by_cases hempty : e.1 = "" <;> simp [Requirement.fault?, hempty]

theorem NameLists.findSome?_entryCompiles (marker : Char) (internal : String) (lists : NameLists) :
    (lists.mapEntries (.entryCompiles marker internal)).findSome? Requirement.fault? =
      Outcome.failure? (compileDerived marker internal lists) := by
  rw [findSome?_mapEntries, compileDerived, Outcome.failure?_bind_ok, Outcome.failure?_mapM]
  congr 1
  funext l
  rw [Outcome.failure?_bind_ok, compileEntries, Outcome.failure?_mapM, Loops.findSome?_filter]
  congr 1
  funext e
  by_cases hmarker : marker ∈ e.1.toList
  · cases hcompile : Template.compile e.1 marker <;>
      simp [Requirement.fault?, Outcome.failure?, hmarker, hcompile]
  · simp [Requirement.fault?, hmarker]

theorem Config.findSome?_templateRequirements (c : Config) :
    (c.derived.templateRequirements c.options.templateMarker).findSome? Requirement.fault? =
      Outcome.failure? c.compile := by
  rw [AttributeTable.templateRequirements, Loops.findSome?_flatMap, compile, Outcome.failure?_mapM]
  congr 1
  funext e
  exact NameLists.findSome?_entryCompiles c.options.templateMarker e.1 e.2

/-- A configuration of which a mapper can be made: no name in either table is empty, the option
characters differ from each other, and each entry of a template attribute with the marker is a
template. -/
structure Config.IsAcceptable (c : Config) : Prop where
  attributes_named : ∀ e ∈ c.attributes.entries, e.1 ≠ "" ∧ ∀ l ∈ e.2.entries, "" ∉ l.2
  derived_named : ∀ e ∈ c.derived.entries, e.1 ≠ "" ∧ ∀ l ∈ e.2.entries, "" ∉ l.2
  separator_ne_multivalueSeparator : c.options.separator ≠ c.options.multivalueSeparator
  separator_ne_templateMarker : c.options.separator ≠ c.options.templateMarker
  multivalueSeparator_ne_templateMarker :
    c.options.multivalueSeparator ≠ c.options.templateMarker
  templates_compile : ∀ e ∈ c.derived.entries, ∀ l ∈ e.2.entries, ∀ entry ∈ l.2,
    c.options.templateMarker ∈ entry.toList →
      ∃ t, Template.compile entry c.options.templateMarker = .ok t

theorem Config.isAcceptable_iff {c : Config} :
    c.IsAcceptable ↔ c.violation? = none ∧ ∃ ds, c.compile = .ok ds := by
  rw [violation?_eq_none_iff, exists_compile_iff, AttributeTable.violation?_eq_none_iff,
    AttributeTable.violation?_eq_none_iff, Options.areDistinct, decide_eq_true_eq]
  constructor
  · rintro ⟨hattributes, hderived, hsm, hst, hmt, hcompile⟩
    exact ⟨⟨hattributes, hderived, hsm, hst, hmt⟩, hcompile⟩
  · rintro ⟨⟨hattributes, hderived, hsm, hst, hmt⟩, hcompile⟩
    exact ⟨hattributes, hderived, hsm, hst, hmt, hcompile⟩

namespace Mapper

theorem exists_build_iff {c : Config} : (∃ m, (build c).value = .ok m) ↔ c.IsAcceptable := by
  rw [Config.isAcceptable_iff]
  constructor
  · rintro ⟨m, hbuild⟩
    obtain rfl := config_of_build hbuild
    exact ⟨m.valid, m.derived, m.compiled⟩
  · rintro ⟨hvalid, hcompile⟩
    exact exists_build hvalid hcompile

theorem failure?_build (c : Config) : Outcome.failure? (build c).value =
    (c.violation?.map .invalidValue).or (Outcome.failure? c.compile) := by
  unfold build
  split
  next violation h =>
    rw [h]
    rfl
  next h =>
    rw [Logged.bind_value]
    split
    next cause hcompile =>
      rw [h, hcompile]
      rfl
    next ds hcompile =>
      show none = _
      rw [h, hcompile]
      rfl

/-- Building fails with the first fault of the requirements. -/
theorem failure?_build_eq_findSome? (c : Config) :
    Outcome.failure? (build c).value = c.requirements.findSome? Requirement.fault? := by
  rw [failure?_build, Config.requirements, List.findSome?_append, List.findSome?_append,
    List.findSome?_cons, AttributeTable.findSome?_nameRequirements,
    AttributeTable.findSome?_nameRequirements, Config.findSome?_templateRequirements,
    Config.violation?]
  cases AttributeTable.violation? .attributes c.attributes with
  | some violation => rfl
  | none =>
    cases AttributeTable.violation? .templateAttributes c.derived with
    | some violation => rfl
    | none =>
      rw [Requirement.fault?, Options.violation?]
      split <;> rfl

def scopeTemplates (entries : List String) : Config where
  attributes := .empty
  templateAttributes := some (.ofList [("domain", .ofList [("saml", entries)])])

-- Entries that are no templates count, and an empty entry is reported before an earlier template.
example : (Outcome.failure? (build (scopeTemplates ["plain", "$\x7b"])).value).bind
    ConfigError.field? = some "template_attributes.domain.saml[1]" := by decide

example : (Outcome.failure? (build (scopeTemplates ["plain", "$\x7b", ""])).value).bind
    ConfigError.field? = some "template_attributes.domain.saml[2]" := by decide

/-- A mapper is built from the acceptable configurations and no others. The error of any other is
that of its first requirement that is not met, and names the place of that requirement. -/
theorem build_reports_first_fault (c : Config) :
    ((∃ m, (build c).value = .ok m) ↔ c.IsAcceptable) ∧
      ∀ cause, (build c).value = .error cause ↔
        ∃ before r after, c.requirements = before ++ r :: after ∧ (∀ q ∈ before, q.IsMet) ∧
          r.fault? = some cause ∧ cause.field? = some r.field := by
  refine ⟨exists_build_iff, fun cause => ?_⟩
  rw [← Outcome.failure?_eq_some_iff, failure?_build_eq_findSome?, List.findSome?_eq_some_iff]
  simp only [Requirement.fault?_eq_none_iff]
  constructor
  · rintro ⟨before, r, after, hsplit, hfault, hmet⟩
    exact ⟨before, r, after, hsplit, hmet, hfault, r.field?_of_fault? hfault⟩
  · rintro ⟨before, r, after, hsplit, hmet, hfault, -⟩
    exact ⟨before, r, after, hsplit, hfault, hmet⟩

end Mapper

end AttributeProfiles
