import AttributeProfiles.Proofs.CompiledTemplates
import AttributeProfiles.Proofs.Pieces
import AttributeProfiles.Proofs.Template.RenderedOutput

/-!
# What the template phase does to a record

The template phase goes through the template attributes in declaration order and supplies each with
the values that its templates give against the record as it then is. Whatever every such step
keeps, the phase keeps: `deriveAll_induction`. From it follow the frame of the phase, that it takes
no name away, and the shape of the values that it sets.
-/

namespace AttributeProfiles

/-- What the values of a template are like: not empty, within the limit on output, and without the
separator at which output is cut. -/
def IsTemplateOutput (separator : Char) (value : String) : Prop :=
  value ≠ "" ∧ value.utf8ByteSize ≤ Template.maxRenderedBytes ∧ separator ∉ value.toList

namespace Template

theorem isTemplateOutput_of_mem_outputValues {separator : Char} {output value : String}
    (hsize : output.utf8ByteSize ≤ maxRenderedBytes) (h : value ∈ outputValues separator output) :
    IsTemplateOutput separator value := by
  obtain ⟨hpiece, hne⟩ := List.mem_filter.1 h
  refine ⟨by simpa using hne, ?_, Text.not_mem_of_mem_split hpiece⟩
  exact Nat.le_trans (Text.utf8ByteSize_le_of_mem_split hpiece) hsize

theorem isTemplateOutput_of_mem_renderValues {t : Template} {bindings : Record}
    {separator : Char} {values : List String} {value : String}
    (h : t.renderValues bindings separator = .ok values) (hv : value ∈ values) :
    IsTemplateOutput separator value := by
  unfold renderValues at h
  cases hr : t.render bindings separator with
  | error cause => simp [hr, Except.map] at h
  | ok output =>
    simp only [hr, Except.map, Except.ok.injEq] at h
    subst h
    exact isTemplateOutput_of_mem_outputValues (utf8ByteSize_render_le hr) hv

end Template

namespace Mapper

variable (m : Mapper) (profile : String)

/-- The values that the templates of an attribute give together, against this record. Templates
that fail give none. -/
def derivedValues (record : Record) (d : DerivedAttribute) : List String :=
  (d.templatesFor profile).flatMap fun t =>
    (t.renderValues record m.options.multivalueSeparator).toOption.getD []

theorem templateValues_value (separator : Char) (internal : String) (record : Record)
    (t : Template) :
    (templateValues separator internal record t).value =
      (t.renderValues record separator).toOption.getD [] := by
  unfold templateValues
  rw [Logged.bind_value, Template.renderValuesLogged_value]
  cases t.renderValues record separator <;> rfl

theorem flatten_templateValues {d : DerivedAttribute} {templates : List Template}
    (h : d.templates.lookup profile = some templates) (record : Record) :
    (templates.mapM (templateValues m.options.multivalueSeparator d.name record)).value.flatten =
      m.derivedValues profile record d := by
  rw [Logged.mapM_value, derivedValues, DerivedAttribute.templatesFor, h, Option.getD_some,
    List.flatMap_def]
  simp only [templateValues_value]

theorem deriveAttribute_value (record : Record) (d : DerivedAttribute) :
    (m.deriveAttribute profile record d).value =
      record.supply d.name (m.derivedValues profile record d) := by
  unfold deriveAttribute
  cases h : d.templates.lookup profile with
  | none => simp [derivedValues, DerivedAttribute.templatesFor, h]
  | some templates =>
    rw [Logged.bind_value, m.flatten_templateValues profile h]
    split
    next hne => simp [Record.supply, hne]
    next hnil =>
      rw [Record.supply, if_pos (not_not.1 hnil)]
      split <;> rfl

theorem deriveAll_value (record : Record) :
    (m.deriveAll profile record).value =
      m.derived.foldl (fun r d => r.supply d.name (m.derivedValues profile r d)) record := by
  simp only [deriveAll, Logged.foldlM_value, deriveAttribute_value]

theorem toInternal_value (external : ExternalRecord) :
    (m.toInternal profile external).value =
      (m.deriveAll profile (m.importPlain profile external).value).value := rfl

theorem deriveAll_congr {m n : Mapper} (hderived : m.derived = n.derived)
    (hoptions : m.options = n.options) (profile : String) (record : Record) :
    m.deriveAll profile record = n.deriveAll profile record := by
  have hstep : m.deriveAttribute profile = n.deriveAttribute profile := by
    funext record d
    rw [deriveAttribute, deriveAttribute, hoptions]
  rw [deriveAll, deriveAll, hstep, hderived]

/-- What every step of the template phase keeps, the phase keeps. -/
theorem deriveAll_induction (motive : Record → Prop) {record : Record} (base : motive record)
    (step : ∀ r, motive r → ∀ d ∈ m.derived,
      motive (r.supply d.name (m.derivedValues profile r d))) :
    motive (m.deriveAll profile record).value := by
  rw [deriveAll_value]
  exact List.foldlRecOn _ _ base step

theorem derivedValues_eq_nil {record : Record} {d : DerivedAttribute} (hd : d ∈ m.derived)
    (h : m.config.templateEntries profile d.name = []) :
    m.derivedValues profile record d = [] := by
  rw [derivedValues, templatesFor_eq_nil hd h, List.flatMap_nil]

theorem isTemplateOutput_of_mem_derivedValues {record : Record} {d : DerivedAttribute}
    {value : String} (h : value ∈ m.derivedValues profile record d) :
    IsTemplateOutput m.options.multivalueSeparator value := by
  obtain ⟨t, _, hv⟩ := List.mem_flatMap.1 h
  cases hr : t.renderValues record m.options.multivalueSeparator with
  | error cause => simp [hr, Except.toOption] at hv
  | ok values =>
    rw [hr] at hv
    exact Template.isTemplateOutput_of_mem_renderValues hr hv

theorem isSome_get?_deriveAll {record : Record} {internal : String}
    (h : (record.get? internal).isSome) :
    ((m.deriveAll profile record).value.get? internal).isSome :=
  m.deriveAll_induction profile (fun r => (r.get? internal).isSome) h fun _ hr d _ =>
    Record.isSome_get?_supply d.name _ hr

theorem get?_deriveAll_of_templateEntries_eq_nil (record : Record) {internal : String}
    (h : m.config.templateEntries profile internal = []) :
    (m.deriveAll profile record).value.get? internal = record.get? internal := by
  refine m.deriveAll_induction profile (fun r => r.get? internal = record.get? internal) rfl
    fun r hr d hd => ?_
  by_cases hname : internal = d.name
  · rw [m.derivedValues_eq_nil profile hd (hname ▸ h), Record.supply_nil, hr]
  · rw [Record.get?_supply_of_ne hname, hr]

/-- Under a name, the template phase leaves what was there or sets a list of template outputs. -/
theorem get?_deriveAll_or (record : Record) (internal : String) :
    (m.deriveAll profile record).value.get? internal = record.get? internal ∨
      ∃ values, (m.deriveAll profile record).value.get? internal = some values ∧
        values ≠ [] ∧ ∀ value ∈ values, IsTemplateOutput m.options.multivalueSeparator value := by
  refine m.deriveAll_induction profile (fun r => r.get? internal = record.get? internal ∨
    ∃ values, r.get? internal = some values ∧ values ≠ [] ∧
      ∀ value ∈ values, IsTemplateOutput m.options.multivalueSeparator value) (.inl rfl)
    fun r hr d _ => ?_
  rw [Record.get?_supply]
  split
  next h =>
    exact .inr ⟨_, rfl, h.2, fun _ hv => m.isTemplateOutput_of_mem_derivedValues profile hv⟩
  · exact hr

end Mapper

end AttributeProfiles
