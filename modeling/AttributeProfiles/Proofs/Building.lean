import AttributeProfiles.Proofs.CompiledTemplates

/-!
# Which configurations have a mapper

A mapper is built from a configuration that keeps the rules and whose templates compile. Both are
conditions on single entries: no name is empty, the option characters differ, and each entry with
the marker is a template.
-/

namespace AttributeProfiles

theorem NameLists.violation?_eq_none_iff (table : Section) (internal : String)
    (lists : NameLists) :
    lists.violation? table internal = none ↔ ∀ l ∈ lists.entries, "" ∉ l.2 := by
  unfold violation?
  rw [List.findSome?_eq_none_iff]
  refine forall₂_congr fun l _ => ?_
  rw [Option.map_eq_none_iff, List.findIdx?_eq_none_iff]
  simp only [decide_eq_false_iff_not]
  exact ⟨fun h hempty => h "" hempty rfl, fun h name hname hempty => h (hempty ▸ hname)⟩

theorem AttributeTable.violation?_eq_none_iff {table : Section} {t : AttributeTable} :
    violation? table t = none ↔ ∀ e ∈ t.entries, e.1 ≠ "" ∧ ∀ l ∈ e.2.entries, "" ∉ l.2 := by
  unfold violation?
  rw [List.findSome?_eq_none_iff]
  refine forall₂_congr fun e _ => ?_
  rw [← NameLists.violation?_eq_none_iff table e.1]
  by_cases h : e.1 = "" <;> simp [h]

theorem Config.violation?_eq_none_iff {c : Config} : c.violation? = none ↔
    AttributeTable.violation? .attributes c.attributes = none ∧
      AttributeTable.violation? .templateAttributes c.derived = none ∧
      c.options.areDistinct = true := by
  unfold violation? Options.violation?
  simp

theorem Config.exists_compile_iff {c : Config} : (∃ ds, c.compile = .ok ds) ↔
    ∀ e ∈ c.derived.entries, ∀ l ∈ e.2.entries, ∀ entry ∈ l.2,
      c.options.templateMarker ∈ entry.toList →
        ∃ t, Template.compile entry c.options.templateMarker = .ok t := by
  unfold compile
  rw [Outcome.exists_mapM_iff]
  refine forall₂_congr fun e _ => ?_
  unfold compileDerived
  rw [Outcome.exists_bind_pure_iff, Outcome.exists_mapM_iff]
  refine forall₂_congr fun l _ => ?_
  rw [Outcome.exists_bind_pure_iff]
  simp only [compileEntries_eq_ok_iff, Outcome.exists_forall₂_iff, List.mem_filter,
    decide_eq_true_eq, and_imp]

namespace Mapper

theorem exists_build {c : Config} (valid : c.violation? = none)
    (compiles : ∃ ds, c.compile = .ok ds) :
    ∃ n, (build c).value = .ok n := by
  obtain ⟨ds, compiled⟩ := compiles
  unfold build
  split
  next h => simp [valid] at h
  · rw [Logged.bind_value]
    split
    next h => simp [compiled] at h
    · exact ⟨_, rfl⟩

theorem config_of_build {c : Config} {n : Mapper} (h : (build c).value = .ok n) : n.config = c := by
  unfold build at h
  split at h
  · cases h
  · rw [Logged.bind_value] at h
    split at h
    · cases h
    · cases h
      rfl

theorem eq_of_config_eq {m n : Mapper} (h : m.config = n.config) : m = n := by
  obtain ⟨c, index, derived, _, indexed, compiled⟩ := m
  obtain ⟨_, index', derived', _, indexed', compiled'⟩ := n
  obtain rfl : c = _ := h
  obtain rfl : index = index' := indexed.symm.trans indexed'
  obtain rfl : derived = derived' := Except.ok.inj (compiled.symm.trans compiled')
  rfl

/-- Every mapper is the one that its configuration builds. -/
theorem build_config (m : Mapper) : (build m.config).value = .ok m := by
  obtain ⟨n, hbuild⟩ := exists_build m.valid ⟨m.derived, m.compiled⟩
  rw [hbuild, eq_of_config_eq (config_of_build hbuild)]

end Mapper

end AttributeProfiles
