import AttributeProfiles.Mapper.Basic
import AttributeProfiles.Proofs.Loops
import AttributeProfiles.Proofs.PlainImport

/-!
# Who owns an external name

The index is filled by three nested loops that overwrite what they find. After each of them the
owner of a name is known: after one name, after one list, after all lists of an attribute, and at
the end, where the owner is the last declared attribute that lists the name. Likewise for the
profiles that the index has, which do not depend on whether a list has names.
-/

namespace AttributeProfiles

namespace NameIndex

theorem owners_insert (index : NameIndex) (profile other : String) (names : Table String) :
    NameIndex.owners (index.insert profile names) other =
      if other = profile then names else index.owners other := by
  unfold owners
  rw [Table.get?_insert]
  split <;> rfl

theorem assign_value (internal profile : String) (index : NameIndex) (external : String) :
    (assign internal profile index external).value =
      index.insert profile ((index.owners profile).insert external internal) := by
  unfold assign
  dsimp only
  split
  · split <;> rfl
  · rfl

theorem owner?_assign (index : NameIndex) (internal profile external p n : String) :
    (assign internal profile index external).value.owner? p n =
      if p = profile ∧ n = external then some internal else index.owner? p n := by
  unfold owner?
  rw [assign_value, owners_insert]
  by_cases hp : p = profile <;> simp [hp]

theorem owner?_foldl_assign (internal profile p n : String) (names : List String)
    (index : NameIndex) :
    NameIndex.owner? (names.foldl (fun i e => (assign internal profile i e).value) index) p n =
      if p = profile ∧ n ∈ names then some internal else index.owner? p n := by
  induction names generalizing index with
  | nil => simp
  | cons name names ih =>
    rw [List.foldl_cons, ih, owner?_assign]
    by_cases hp : p = profile <;> by_cases hn : n = name <;> simp [hp, hn]

theorem owner?_insert_owners (index : NameIndex) (profile p n : String) :
    NameIndex.owner? (index.insert profile (index.owners profile)) p n = index.owner? p n := by
  unfold owner?
  rw [owners_insert]
  split
  next h => rw [h]
  · rfl

theorem owner?_assignList (internal : String) (index : NameIndex) (list : String × List String)
    (p n : String) :
    (assignList internal index list).value.owner? p n =
      if p = list.1 ∧ n ∈ list.2 then some internal else index.owner? p n := by
  rw [assignList, Logged.foldlM_value, owner?_foldl_assign, owner?_insert_owners]

theorem owner?_foldl_assignList (internal p n : String) {lists : List (String × List String)}
    (distinct : (lists.map Prod.fst).Nodup) (index : NameIndex) :
    NameIndex.owner? (lists.foldl (fun i l => (assignList internal i l).value) index) p n =
      if n ∈ (lists.lookup p).getD [] then some internal else index.owner? p n := by
  induction lists generalizing index with
  | nil => simp
  | cons list lists ih =>
    obtain ⟨hhead, htail⟩ := List.nodup_cons.1 distinct
    rw [List.foldl_cons, ih htail, owner?_assignList, Entries.lookup_cons]
    by_cases hp : p = list.1
    · have habsent : lists.lookup p = none := by
        rw [hp]
        exact Entries.lookup_eq_none_iff.2 hhead
      simp [hp ▸ habsent, hp]
    · simp [hp]

theorem owner?_assignLists (index : NameIndex) (entry : String × NameLists) (p n : String) :
    (assignLists index entry).value.owner? p n =
      if n ∈ (entry.2.get? p).getD [] then some entry.1 else index.owner? p n := by
  rw [assignLists, Logged.foldlM_value, owner?_foldl_assignList _ _ _ entry.2.distinct, Table.get?]

theorem owner?_foldl_assignLists (p n : String) (entries : List (String × NameLists))
    (index : NameIndex) :
    NameIndex.owner? (entries.foldl (fun i e => (assignLists i e).value) index) p n =
      ((entries.reverse.find? fun e => n ∈ (e.2.get? p).getD []).map Prod.fst).or
        (index.owner? p n) := by
  induction entries generalizing index with
  | nil => simp
  | cons e es ih =>
    rw [List.foldl_cons, ih, owner?_assignLists, List.reverse_cons, List.find?_append]
    by_cases hn : n ∈ (e.2.get? p).getD [] <;>
      cases es.reverse.find? (fun e => decide (n ∈ (e.2.get? p).getD [])) <;> simp [hn]

/-- The owner of a name is the last declared attribute that lists it. -/
theorem owner?_ofAttributes (t : AttributeTable) (p n : String) :
    (ofAttributes t).value.owner? p n =
      (t.entries.reverse.find? fun e => n ∈ (e.2.get? p).getD []).map Prod.fst := by
  have hempty : NameIndex.owner? Table.empty p n = none := rfl
  rw [ofAttributes, Logged.foldlM_value, owner?_foldl_assignLists, hempty, Option.or_none]

theorem mem_names_assignList (internal : String) (list : String × List String)
    (index : NameIndex) (p : String) :
    p ∈ (assignList internal index list).value.names ↔ p = list.1 ∨ p ∈ index.names := by
  have hname : ∀ (index : NameIndex) external,
      p ∈ (assign internal list.1 index external).value.names ↔ p = list.1 ∨ p ∈ index.names := by
    intro index external
    rw [assign_value, Table.mem_names_insert]
  rw [assignList, Logged.foldlM_value, Loops.foldl_iff (p ∈ Table.names ·) hname,
    Table.mem_names_insert]
  exact ⟨fun h => h.elim (fun ⟨_, _, hp⟩ => .inl hp) id, .inr⟩

theorem mem_names_assignLists (index : NameIndex) (entry : String × NameLists) (p : String) :
    p ∈ (assignLists index entry).value.names ↔ p ∈ entry.2.names ∨ p ∈ index.names := by
  rw [assignLists, Logged.foldlM_value, Loops.foldl_iff (p ∈ Table.names ·)
    fun index list => mem_names_assignList entry.1 list index p]
  simp only [Table.names, List.mem_map, eq_comm]

/-- The index has the profiles for which some attribute has a list, be it empty. -/
theorem mem_names_ofAttributes (t : AttributeTable) (p : String) :
    p ∈ (ofAttributes t).value.names ↔ ∃ e ∈ t.entries, p ∈ e.2.names := by
  rw [ofAttributes, Logged.foldlM_value, Loops.foldl_iff (p ∈ Table.names ·)
    fun index entry => mem_names_assignLists index entry p]
  simp [Table.names, Table.empty]

end NameIndex

namespace Mapper

variable (m : Mapper) {profile : String}

theorem mem_names_index_iff :
    profile ∈ m.index.names ↔ ∃ e ∈ m.config.attributes.entries, profile ∈ e.2.names := by
  rw [← m.indexed, NameIndex.mem_names_ofAttributes]

theorem owner?_index (name : String) :
    m.index.owner? profile name =
      (m.config.attributes.entries.reverse.find? fun e =>
        name ∈ (e.2.get? profile).getD []).map Prod.fst := by
  rw [← m.indexed, NameIndex.owner?_ofAttributes]

theorem mem_externalNames_of_owner? {name internal : String}
    (h : m.index.owner? profile name = some internal) :
    name ∈ m.externalNames profile internal := by
  rw [owner?_index] at h
  obtain ⟨e, he, rfl⟩ := Option.map_eq_some_iff.1 h
  have hmem := List.mem_reverse.1 (List.mem_of_find?_eq_some he)
  have hlisted : name ∈ (e.2.get? profile).getD [] := by simpa using List.find?_some he
  exact m.mem_externalNames_iff.2 ⟨e.2, hmem, hlisted⟩

theorem exists_owner? {name internal : String} (h : name ∈ m.externalNames profile internal) :
    ∃ owner, m.index.owner? profile name = some owner := by
  obtain ⟨lists, hlists, hname⟩ := m.mem_externalNames_iff.1 h
  rw [← Option.isSome_iff_exists, owner?_index, Option.isSome_map, List.find?_isSome]
  exact ⟨_, List.mem_reverse.2 hlists, by simpa using hname⟩

theorem filter_value (names : List String) :
    (m.filter profile names).value =
      Names.ascending (names.filterMap (m.index.owner? profile)) := by
  unfold filter
  split
  next owners h =>
    have howners : NameIndex.owner? m.index profile = owners.get? := by
      funext name
      simp [NameIndex.owner?, NameIndex.owners, h]
    rw [howners]
    rfl
  next h =>
    have hnone : NameIndex.owner? m.index profile = fun _ => none := by
      funext name
      simp [NameIndex.owner?, NameIndex.owners, h]
    rw [hnone, List.filterMap_eq_nil_iff.2 fun _ _ => rfl]
    rfl

theorem mem_filter_iff {names : List String} {internal : String} :
    internal ∈ (m.filter profile names).value ↔
      ∃ name ∈ names, m.index.owner? profile name = some internal := by
  rw [filter_value, Names.mem_ascending, List.mem_filterMap]

end Mapper

end AttributeProfiles
