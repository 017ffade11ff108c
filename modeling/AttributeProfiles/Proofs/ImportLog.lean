import AttributeProfiles.Proofs.Logs
import AttributeProfiles.Proofs.Template.Compilation
import AttributeProfiles.Proofs.TemplatePhase

/-!
# What the log of an import tells

The log of an import can be taken for the import: whoever sets each attribute that the log shows as
set, in the order of the events, ends with the record that the import gives. The log tells first what
became of every internal attribute, one event each, and then what came of the templates of the
profile, one outcome each.
-/

namespace AttributeProfiles

namespace Event

/-- The attribute and the values that an event shows, if it tells that an attribute was set. -/
def shown? (e : Event) : Option (String × List String) :=
  if e.message = "backend attribute mapped" ∨ e.message = "template attribute rendered" then
    match e.fields.lookup "internal", e.fields.lookup "values" with
    | some (.text internal), some (.names values) => some (internal, values)
    | _, _ => none
  else none

def TellsOutcome (e : Event) : Prop :=
  e.message ∈ ["rendered template", "template produced no value"]

def OfTemplates (e : Event) : Prop :=
  e.message ∈ ["rendered template", "template produced no value", "template attribute rendered",
    "templates empty, keeping mapped value"]

instance (e : Event) : Decidable e.TellsOutcome := inferInstanceAs (Decidable (_ ∈ _))

/-- The outcome of a template of an attribute: it was rendered, or it produced no value. -/
inductive IsOutcomeOf : String × String → Event → Prop
  | rendered (internal source output : String) :
      IsOutcomeOf (internal, source) (.templateRendered source output)
  | failed (internal source : String) (cause : Template.Error) :
      IsOutcomeOf (internal, source) (.templateFailed internal source cause)

theorem TellsOutcome.ofTemplates {e : Event} (h : e.TellsOutcome) : e.OfTemplates :=
  List.mem_append_left ["template attribute rendered", "templates empty, keeping mapped value"] h

theorem IsOutcomeOf.tellsOutcome {t : String × String} {e : Event} (h : IsOutcomeOf t e) :
    e.TellsOutcome := by
  cases h <;> simp [TellsOutcome, message]

end Event

/-- A record after an event, with the attribute set that the event shows. -/
def Record.told (r : Record) (e : Event) : Record :=
  match e.shown? with
  | some (internal, values) => r.insert internal values
  | none => r

theorem Record.foldl_told_eq_self {events : List Event} (h : ∀ e ∈ events, e.shown? = none)
    (r : Record) : events.foldl told r = r := by
  induction events with
  | nil => rfl
  | cons e es ih =>
    rw [List.foldl_cons, told, h e List.mem_cons_self]
    exact ih fun f hf => h f (List.mem_cons_of_mem e hf)

/-- The templates of a profile, in declaration order: for each its attribute and its source. -/
def Config.templateSources (c : Config) (profile : String) : List (String × String) :=
  c.derived.entries.flatMap fun e =>
    (((e.2.get? profile).getD []).filter (c.options.templateMarker ∈ ·.toList)).map
      fun source => (e.1, source)

namespace Mapper

variable (m : Mapper) (profile : String) (external : ExternalRecord)

/-- An event tells what became of an internal attribute: it has no list for the profile, its names
carry no values, or it got the values that they carry. -/
inductive TellsImport : String × NameLists → Event → Prop
  | unmapped {internal : String} {lists : NameLists} (absent : lists.get? profile = none) :
      TellsImport (internal, lists) (.unmappedForImport internal profile)
  | noValue {internal : String} {lists : NameLists} {names : List String}
      (listed : lists.get? profile = some names)
      (empty : names.flatMap (m.valuesUnder external) = []) :
      TellsImport (internal, lists) (.noValueFound names)
  | imported {internal : String} {lists : NameLists} {names values : List String}
      (listed : lists.get? profile = some names)
      (carried : names.flatMap (m.valuesUnder external) = values) (nonempty : values ≠ []) :
      TellsImport (internal, lists) (.attributeImported names internal values)

theorem exists_importAttribute_events (record : Record) (entry : String × NameLists) :
    ∃ e, (m.importAttribute profile external record entry).events = [e] ∧
      m.TellsImport profile external entry e := by
  unfold importAttribute
  split
  next hlist => exact ⟨_, rfl, .unmapped hlist⟩
  next names hlist =>
    split
    next hvalues => exact ⟨_, rfl, .noValue hlist hvalues⟩
    next hvalues => exact ⟨_, rfl, .imported hlist hvalues (List.cons_ne_nil _ _)⟩

theorem TellsImport.not_ofTemplates {m : Mapper} {profile : String} {external : ExternalRecord}
    {entry : String × NameLists} {e : Event} (h : m.TellsImport profile external entry e) :
    ¬ e.OfTemplates := by
  cases h <;> simp [Event.OfTemplates, Event.message]

theorem forall₂_importPlain_events :
    List.Forall₂ (m.TellsImport profile external) m.config.attributes.entries
      (m.importPlain profile external).events := by
  have step : ∀ record entry, List.Forall₂ (m.TellsImport profile external) [entry]
      ((m.importAttribute profile external record entry).events.filter fun _ => true) := by
    intro record entry
    obtain ⟨e, he, htells⟩ := m.exists_importAttribute_events profile external record entry
    rw [he]
    exact .cons htells .nil
  simpa [importPlain] using
    Logged.forall₂_events_foldlM step m.config.attributes.entries .empty

theorem foldl_told_importAttribute (record : Record) (entry : String × NameLists) :
    (m.importAttribute profile external record entry).events.foldl Record.told record =
      (m.importAttribute profile external record entry).value := by
  unfold importAttribute
  split
  · rfl
  · split <;> rfl

def templateOutcome (separator : Char) (internal : String) (record : Record) (t : Template) :
    Event :=
  match t.render record separator with
  | .ok output => .templateRendered t.source output
  | .error cause => .templateFailed internal t.source cause

theorem isOutcomeOf_templateOutcome (separator : Char) (internal : String) (record : Record)
    (t : Template) :
    Event.IsOutcomeOf (internal, t.source) (templateOutcome separator internal record t) := by
  unfold templateOutcome
  split
  · exact .rendered _ _ _
  · exact .failed _ _ _

theorem templateValues_events (separator : Char) (internal : String) (record : Record)
    (t : Template) :
    (templateValues separator internal record t).events =
      [templateOutcome separator internal record t] := by
  unfold templateValues templateOutcome
  rw [Logged.bind_events, Template.renderValuesLogged_value, Template.renderValuesLogged,
    Logged.map_events, Template.renderLogged, Template.renderValues]
  cases t.render record separator <;> rfl

theorem shown?_templateOutcome (separator : Char) (internal : String) (record : Record)
    (t : Template) : (templateOutcome separator internal record t).shown? = none := by
  unfold templateOutcome
  split <;> rfl

/-- What a template attribute logs about itself: that it was set, or that it keeps the values that it
had. -/
def conclusion (record : Record) (d : DerivedAttribute) : List Event :=
  if m.derivedValues profile record d ≠ [] then
    [.derivedAttributeSet d.name (m.derivedValues profile record d)]
  else if (d.templates.lookup profile).isSome ∧ (record.get? d.name).isSome then
    [.mappedValueKept d.name]
  else []

theorem foldl_told_conclusion (record : Record) (d : DerivedAttribute) :
    (m.conclusion profile record d).foldl Record.told record =
      record.supply d.name (m.derivedValues profile record d) := by
  unfold conclusion Record.supply
  by_cases hvalues : m.derivedValues profile record d = []
  · rw [if_neg (not_not.2 hvalues), if_pos hvalues]
    split <;> rfl
  · rw [if_pos hvalues, if_neg hvalues]
    rfl

theorem ofTemplates_of_mem_conclusion {record : Record} {d : DerivedAttribute} {e : Event}
    (h : e ∈ m.conclusion profile record d) : e.OfTemplates ∧ ¬ e.TellsOutcome := by
  unfold conclusion at h
  split at h
  · rw [List.mem_singleton.1 h]
    simp [Event.OfTemplates, Event.TellsOutcome, Event.message]
  · split at h
    · rw [List.mem_singleton.1 h]
      simp [Event.OfTemplates, Event.TellsOutcome, Event.message]
    · cases h

def templateOutcomes (record : Record) (d : DerivedAttribute) : List Event :=
  (d.templatesFor profile).map (templateOutcome m.options.multivalueSeparator d.name record)

theorem forall₂_templateOutcomes (record : Record) (d : DerivedAttribute) :
    List.Forall₂ Event.IsOutcomeOf ((d.templatesFor profile).map fun t => (d.name, t.source))
      (m.templateOutcomes profile record d) := by
  rw [templateOutcomes, List.forall₂_map_left_iff, List.forall₂_map_right_iff, List.forall₂_same]
  exact fun t _ => isOutcomeOf_templateOutcome _ d.name record t

theorem tellsOutcome_of_mem_templateOutcomes {record : Record} {d : DerivedAttribute} {e : Event}
    (h : e ∈ m.templateOutcomes profile record d) : e.TellsOutcome := by
  obtain ⟨t, -, houtcome⟩ :=
    Outcome.exists_of_mem_right (m.forall₂_templateOutcomes profile record d) h
  exact houtcome.tellsOutcome

theorem deriveAttribute_events (record : Record) (d : DerivedAttribute) :
    (m.deriveAttribute profile record d).events =
      m.templateOutcomes profile record d ++ m.conclusion profile record d := by
  unfold deriveAttribute templateOutcomes conclusion
  cases h : d.templates.lookup profile with
  | none => simp [derivedValues, DerivedAttribute.templatesFor, h]
  | some templates =>
    have houtcomes : (templates.mapM
        (templateValues m.options.multivalueSeparator d.name record)).events =
          templates.map (templateOutcome m.options.multivalueSeparator d.name record) := by
      simp only [Logged.mapM_events, templateValues_events]
      exact List.flatMap_pure_eq_map _ _
    rw [Logged.bind_events, houtcomes, m.flatten_templateValues profile h,
      DerivedAttribute.templatesFor, h, Option.getD_some]
    congr 1
    split
    · rfl
    · by_cases hkept : (record.get? d.name).isSome <;> simp [hkept]

theorem foldl_told_deriveAttribute (record : Record) (d : DerivedAttribute) :
    (m.deriveAttribute profile record d).events.foldl Record.told record =
      (m.deriveAttribute profile record d).value := by
  have houtcomes : ∀ e ∈ m.templateOutcomes profile record d, e.shown? = none := by
    intro e he
    obtain ⟨t, -, rfl⟩ := List.mem_map.1 he
    exact shown?_templateOutcome _ _ _ t
  rw [deriveAttribute_events, List.foldl_append, Record.foldl_told_eq_self houtcomes,
    foldl_told_conclusion, deriveAttribute_value]

theorem ofTemplates_of_mem_deriveAttribute (record : Record) (d : DerivedAttribute) :
    ∀ e ∈ (m.deriveAttribute profile record d).events, e.OfTemplates := by
  intro e he
  rw [deriveAttribute_events, List.mem_append] at he
  rcases he with houtcome | hconclusion
  · exact (m.tellsOutcome_of_mem_templateOutcomes profile houtcome).ofTemplates
  · exact (m.ofTemplates_of_mem_conclusion profile hconclusion).1

theorem forall₂_outcomes_deriveAttribute (record : Record) (d : DerivedAttribute) :
    List.Forall₂ Event.IsOutcomeOf ((d.templatesFor profile).map fun t => (d.name, t.source))
      ((m.deriveAttribute profile record d).events.filter (·.TellsOutcome)) := by
  have houtcomes : (m.templateOutcomes profile record d).filter (·.TellsOutcome) =
      m.templateOutcomes profile record d := by
    rw [List.filter_eq_self]
    intro e he
    exact decide_eq_true (m.tellsOutcome_of_mem_templateOutcomes profile he)
  have hconclusion : (m.conclusion profile record d).filter (·.TellsOutcome) = [] := by
    rw [List.filter_eq_nil_iff]
    intro e he
    simpa using (m.ofTemplates_of_mem_conclusion profile he).2
  rw [deriveAttribute_events, List.filter_append, houtcomes, hconclusion, List.append_nil]
  exact m.forall₂_templateOutcomes profile record d

theorem templateSources_eq :
    m.config.templateSources profile =
      m.derived.flatMap fun d => (d.templatesFor profile).map fun t => (d.name, t.source) := by
  refine Outcome.flatMap_eq_of_forall₂ (m.derived_forall₂.imp fun e d hed => ?_)
  obtain ⟨hname, hcompiled⟩ := compileDerived_eq_ok hed
  rw [← List.forall₂_eq_eq_eq, List.forall₂_map_left_iff, List.forall₂_map_right_iff]
  refine (hcompiled profile).imp fun source t ht => ?_
  rw [hname, Template.source_of_compile ht]

theorem foldl_told_toInternal :
    (m.toInternal profile external).events.foldl Record.told .empty =
      (m.toInternal profile external).value := by
  rw [toInternal, Logged.bind_events, List.foldl_append, importPlain,
    Logged.foldl_events_foldlM (m.foldl_told_importAttribute profile external), ← importPlain,
    deriveAll, Logged.foldl_events_foldlM (m.foldl_told_deriveAttribute profile), ← deriveAll,
    Logged.bind_value]

/-- The log of an import leads to the record that the import gives. It begins with one event for each
internal attribute, in declaration order; all other events are about templates. For each template of
the profile it tells one outcome, in declaration order. -/
theorem toInternal_log (m : Mapper) (profile : String) (external : ExternalRecord) :
    (m.toInternal profile external).events.foldl Record.told .empty =
      (m.toInternal profile external).value ∧
    (∃ attributes templates, (m.toInternal profile external).events = attributes ++ templates ∧
      List.Forall₂ (m.TellsImport profile external) m.config.attributes.entries attributes ∧
      (∀ e ∈ attributes, ¬ e.OfTemplates) ∧ ∀ e ∈ templates, e.OfTemplates) ∧
    List.Forall₂ Event.IsOutcomeOf (m.config.templateSources profile)
      ((m.toInternal profile external).events.filter (·.TellsOutcome)) := by
  have hplain := m.forall₂_importPlain_events profile external
  have hattributes : ∀ e ∈ (m.importPlain profile external).events, ¬ e.OfTemplates := by
    intro e he
    obtain ⟨entry, -, htells⟩ := Outcome.exists_of_mem_right hplain he
    exact htells.not_ofTemplates
  have hnone : (m.importPlain profile external).events.filter (·.TellsOutcome) = [] := by
    rw [List.filter_eq_nil_iff]
    intro e he
    simpa using mt Event.TellsOutcome.ofTemplates (hattributes e he)
  refine ⟨m.foldl_told_toInternal profile external,
    ⟨_, _, rfl, hplain, hattributes, ?_⟩, ?_⟩
  · exact Logged.forall_mem_events_foldlM (m.ofTemplates_of_mem_deriveAttribute profile) _ _
  · rw [templateSources_eq, toInternal, Logged.bind_events, List.filter_append, hnone,
      List.nil_append]
    exact Logged.forall₂_events_foldlM (m.forall₂_outcomes_deriveAttribute profile) _ _

end Mapper

end AttributeProfiles
