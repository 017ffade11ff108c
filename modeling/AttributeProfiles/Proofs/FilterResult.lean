import AttributeProfiles.Proofs.ByteOrder
import AttributeProfiles.Proofs.FilterAgreement
import Mathlib.Data.List.Sort

/-!
# What the filter gives

The filter resolves a name to the attribute that was declared last among those that list the name.
It gives these attributes in the order of their bytes, each once, so only the set of the names
matters. A profile that no attribute has is warned of; nothing else is.
-/

namespace AttributeProfiles

def Eventful.warnings {α : Type} (x : Eventful α) : List Event :=
  x.events.filter fun e => e.level = .warn

namespace Mapper

variable (m : Mapper) (profile : String)

/-- An attribute lists a name for a profile, and no attribute declared after it does. -/
def LastListing (name internal : String) : Prop :=
  ∃ before lists after, m.config.attributes.entries = before ++ (internal, lists) :: after ∧
    name ∈ (lists.get? profile).getD [] ∧ ∀ e ∈ after, name ∉ (e.2.get? profile).getD []

/-- Some attribute has a list for a profile, be it empty. -/
def HasProfile : Prop := ∃ e ∈ m.config.attributes.entries, (e.2.get? profile).isSome

variable {m profile}

theorem owner?_eq_some_iff {name internal : String} :
    m.index.owner? profile name = some internal ↔ m.LastListing profile name internal := by
  rw [owner?_index, Option.map_eq_some_iff]
  simp only [List.find?_eq_some_iff_append, decide_eq_true_eq, Bool.not_eq_true',
    decide_eq_false_iff_not]
  constructor
  · rintro ⟨⟨_, lists⟩, ⟨hname, after, before, hentries, hafter⟩, rfl⟩
    refine ⟨before.reverse, lists, after.reverse, ?_, hname, fun e he => ?_⟩
    · simpa using congrArg List.reverse hentries
    · exact hafter e (List.mem_reverse.1 he)
  · rintro ⟨before, lists, after, hentries, hname, hafter⟩
    refine ⟨(internal, lists), ⟨hname, after.reverse, before.reverse, ?_, fun e he => ?_⟩, rfl⟩
    · simpa using congrArg List.reverse hentries
    · exact hafter e (List.mem_reverse.1 he)

theorem isSome_get?_index_iff : (m.index.get? profile).isSome ↔ m.HasProfile profile := by
  rw [← Table.mem_names_iff, mem_names_index_iff]
  simp only [HasProfile, Table.mem_names_iff]

theorem filter_of_not_hasProfile (h : ¬ m.HasProfile profile) (names : List String) :
    m.filter profile names = ⟨[], [.unknownProfile profile]⟩ := by
  have hnone : m.index.get? profile = none := by
    rwa [← isSome_get?_index_iff, Option.not_isSome_iff_eq_none] at h
  unfold filter
  split
  next hsome => simp [hnone] at hsome
  · rfl

theorem filter_events_of_hasProfile (h : m.HasProfile profile) (names : List String) :
    (m.filter profile names).events = [] := by
  have hsome := isSome_get?_index_iff.2 h
  unfold filter
  split
  · rfl
  next hnone => simp [hnone] at hsome

theorem filter_congr {n : Mapper} (howner : m.index.owner? profile = n.index.owner? profile)
    (hprofile : m.HasProfile profile ↔ n.HasProfile profile) (names : List String) :
    m.filter profile names = n.filter profile names := by
  by_cases h : m.HasProfile profile
  · have hvalue : (m.filter profile names).value = (n.filter profile names).value := by
      rw [filter_value, filter_value, howner]
    have hevents : (m.filter profile names).events = (n.filter profile names).events := by
      rw [filter_events_of_hasProfile h, filter_events_of_hasProfile (hprofile.1 h)]
    exact congrArg₂ Logged.mk hvalue hevents
  · rw [filter_of_not_hasProfile h, filter_of_not_hasProfile (mt hprofile.2 h)]

theorem filter_value_congr {names others : List String} (h : ∀ name, name ∈ others ↔ name ∈ names) :
    (m.filter profile others).value = (m.filter profile names).value := by
  have hmem : ∀ internal, internal ∈ (m.filter profile others).value ↔
      internal ∈ (m.filter profile names).value := by
    intro internal
    simp only [mem_filter_iff, h]
  exact List.Pairwise.eq_of_mem_iff (m.pairwise_filter others) (m.pairwise_filter names) hmem

/-- The filter gives, in ascending order, the attributes that are the last to list one of the names.
It depends on the set of the names only and gives the union of what it gives for parts of them. It
warns, once, of a profile that no attribute has, and gives nothing for it. -/
theorem filter_lists_last_declared (m : Mapper) (profile : String) (names : List String) :
    (m.filter profile names).value.Pairwise (fun a b => Text.bytes a < Text.bytes b) ∧
    (∀ a, a ∈ (m.filter profile names).value ↔ ∃ name ∈ names, m.LastListing profile name a) ∧
    (∀ others, (∀ name, name ∈ others ↔ name ∈ names) →
      (m.filter profile others).value = (m.filter profile names).value) ∧
    (∀ others a, a ∈ (m.filter profile (names ++ others)).value ↔
      a ∈ (m.filter profile names).value ∨ a ∈ (m.filter profile others).value) ∧
    (¬ m.HasProfile profile → (m.filter profile names).value = [] ∧
      (m.filter profile names).warnings = [.unknownProfile profile]) ∧
    (m.HasProfile profile → (m.filter profile names).warnings = []) := by
  refine ⟨?_, fun a => ?_, fun others => filter_value_congr, fun others a => ?_, fun h => ?_,
    fun h => ?_⟩
  · exact (m.pairwise_filter names).imp Text.bytes_lt_of_lt
  · simp only [mem_filter_iff, owner?_eq_some_iff]
  · simp only [mem_filter_iff, List.mem_append, or_and_right, exists_or]
  · rw [filter_of_not_hasProfile h]
    exact ⟨rfl, rfl⟩
  · rw [Eventful.warnings, filter_events_of_hasProfile h, List.filter_nil]

end Mapper

end AttributeProfiles
