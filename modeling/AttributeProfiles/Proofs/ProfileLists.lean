import AttributeProfiles.Proofs.DeclarationOrder
import AttributeProfiles.Proofs.RecordShape
import Mathlib.Data.List.Perm.Subperm

/-!
# The lists of profiles

A mapper lists the profiles that its index has, and its configuration lists the profiles that either
table mentions. The lists are complete: a profile that the configuration does not list has nothing to
translate, and a profile that only the configuration lists has nothing but templates.
-/

namespace AttributeProfiles

/-- What is listed in strict order is listed there too, and in the same order, if it is among what is
listed in strict order there. -/
theorem Names.sublist_of_subset {xs ys : List String} (hxs : xs.Pairwise (· < ·))
    (hys : ys.Pairwise (· < ·)) (h : xs ⊆ ys) : xs.Sublist ys := by
  have nodup : xs.Nodup := hxs.imp String.ne_of_lt
  exact List.sublist_of_subperm_of_pairwise (List.subperm_of_subset nodup h) hxs hys

theorem Config.mem_profiles_iff {c : Config} {profile : String} : profile ∈ c.profiles ↔
    (∃ a, (c.attributes.list? profile a).isSome) ∨ ∃ a, (c.derived.list? profile a).isSome := by
  rw [profiles, Names.mem_ascending, List.flatMap_append, List.mem_append, List.mem_flatMap,
    List.mem_flatMap, AttributeTable.exists_isSome_list?_iff,
    AttributeTable.exists_isSome_list?_iff]

namespace Mapper

variable {m : Mapper} {profile : String}

theorem mem_profiles_iff : profile ∈ m.profiles ↔ m.HasProfile profile := by
  rw [profiles, (Names.perm_sort _).mem_iff, Table.mem_names_iff, isSome_get?_index_iff]

theorem pairwise_profiles (m : Mapper) : m.profiles.Pairwise (· < ·) :=
  Names.pairwise_lt_sort m.index.distinct

theorem profiles_subset : m.profiles ⊆ m.config.profiles := by
  intro profile h
  rw [mem_profiles_iff, hasProfile_iff] at h
  exact Config.mem_profiles_iff.2 (.inl h)

theorem externalNames_of_not_hasProfile (h : ¬ m.HasProfile profile) (a : String) :
    m.externalNames profile a = [] := by
  rw [hasProfile_iff, not_exists] at h
  rw [externalNames, Option.not_isSome_iff_eq_none.1 (h a), Option.getD_none]

theorem fromInternal_of_not_hasProfile (h : ¬ m.HasProfile profile) (r : Record) :
    (m.fromInternal profile r).value = .empty := by
  have hmembers : m.exportedMembers profile r = [] := by
    rw [exportedMembers, List.filterMap_eq_nil_iff]
    intro e _
    rw [exportedMember?, exportTarget?, externalNames_of_not_hasProfile h]
    rfl
  rw [fromInternal_value, hmembers]
  rfl

theorem isSome_list?_of_not_hasProfile (h : ¬ m.HasProfile profile) {external : ExternalRecord}
    {a : String} (ha : a ∈ (m.toInternal profile external).value.names) :
    (m.config.derived.list? profile a).isSome := by
  rcases m.isSome_list?_of_toInternal profile external (Record.mem_names_iff.1 ha) with
    hattributes | hderived
  · exact absurd (hasProfile_iff.2 ⟨a, hattributes⟩) h
  · exact hderived

theorem toInternal_of_not_mem_profiles (h : profile ∉ m.config.profiles)
    (external : ExternalRecord) : (m.toInternal profile external).value = .empty := by
  have hprofile : ¬ m.HasProfile profile := fun hp => h (profiles_subset (mem_profiles_iff.2 hp))
  apply Record.ext_get?
  intro a
  rw [Record.get?_empty, ← Option.not_isSome_iff_eq_none, ← Record.mem_names_iff]
  intro ha
  exact h (Config.mem_profiles_iff.2 (.inr ⟨a, isSome_list?_of_not_hasProfile hprofile ha⟩))

/-- The profiles of a mapper and those of its configuration are listed in the order of their bytes,
each once, the former among the latter. A profile that the configuration does not list is answered
with nothing. A profile that the configuration lists and the mapper does not exports nothing, owns no
names, and imports nothing but template attributes. -/
theorem profile_lists_complete (m : Mapper) :
    m.profiles.Pairwise (fun p q => Text.bytes p < Text.bytes q) ∧
    m.config.profiles.Pairwise (fun p q => Text.bytes p < Text.bytes q) ∧
    m.profiles.Sublist m.config.profiles ∧
    (∀ profile, profile ∉ m.config.profiles →
      (∀ external, (m.toInternal profile external).value = .empty) ∧
      (∀ r, (m.fromInternal profile r).value = .empty) ∧
      ∀ names, (m.filter profile names).value = []) ∧
    (∀ profile, profile ∈ m.config.profiles → profile ∉ m.profiles →
      (∀ r, (m.fromInternal profile r).value = .empty) ∧
      (∀ names, (m.filter profile names).value = []) ∧
      ∀ external, ∀ a ∈ (m.toInternal profile external).value.names,
        a ∈ m.config.derived.names) := by
  have hfilter : ∀ profile, ¬ m.HasProfile profile → ∀ names,
      (m.filter profile names).value = [] := by
    intro profile h names
    rw [filter_of_not_hasProfile h]
  refine ⟨?_, ?_, ?_, fun profile h => ?_, fun profile _ h => ?_⟩
  · exact m.pairwise_profiles.imp Text.bytes_lt_of_lt
  · exact (Names.pairwise_ascending _).imp Text.bytes_lt_of_lt
  · exact Names.sublist_of_subset m.pairwise_profiles (Names.pairwise_ascending _)
      profiles_subset
  · have hprofile : ¬ m.HasProfile profile := fun hp => h (profiles_subset (mem_profiles_iff.2 hp))
    exact ⟨toInternal_of_not_mem_profiles h, fromInternal_of_not_hasProfile hprofile,
      hfilter profile hprofile⟩
  · have hprofile : ¬ m.HasProfile profile := mt mem_profiles_iff.2 h
    refine ⟨fromInternal_of_not_hasProfile hprofile, hfilter profile hprofile, ?_⟩
    intro external a ha
    obtain ⟨list, hlist⟩ :=
      Option.isSome_iff_exists.1 (isSome_list?_of_not_hasProfile hprofile ha)
    obtain ⟨lists, hlists, -⟩ := Option.bind_eq_some_iff.1 hlist
    exact Table.mem_names_iff.2 (Option.isSome_iff_exists.2 ⟨lists, hlists⟩)

end Mapper

end AttributeProfiles
