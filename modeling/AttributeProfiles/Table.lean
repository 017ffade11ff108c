import AttributeProfiles.Entries

/-!
# Tables

A table gives distinct names a value each and keeps them in the order of their declaration. Setting
a name that the table already has replaces its value and leaves the name where it stands.
-/

namespace AttributeProfiles

/-- Names in declaration order, each declared once, with their values. -/
structure Table (α : Type) where
  entries : List (String × α)
  distinct : (entries.map Prod.fst).Nodup := by simp

namespace Table

variable {α : Type}

def empty : Table α := ⟨[], by simp⟩

instance : Inhabited (Table α) := ⟨empty⟩

instance [DecidableEq α] : DecidableEq (Table α) := fun s t =>
  decidable_of_iff (s.entries = t.entries) (by cases s; cases t; simp)

def get? (t : Table α) (name : String) : Option α := t.entries.lookup name

def names (t : Table α) : List String := t.entries.map Prod.fst

def size (t : Table α) : Nat := t.entries.length

/-- Entries with `name` set to `value`: where it stands, or else at the end. -/
def setEntry (name : String) (value : α) : List (String × α) → List (String × α)
  | [] => [(name, value)]
  | e :: es => if e.1 = name then (name, value) :: es else e :: setEntry name value es

theorem names_setEntry (name : String) (value : α) (es : List (String × α)) :
    (setEntry name value es).map Prod.fst =
      if name ∈ es.map Prod.fst then es.map Prod.fst else es.map Prod.fst ++ [name] := by
  induction es with
  | nil => simp [setEntry]
  | cons e es ih =>
    unfold setEntry
    by_cases h : e.1 = name
    · simp [h]
    · by_cases hm : name ∈ es.map Prod.fst <;>
        simp only [hm, if_true, if_false] at ih <;>
        simp_all [Ne.symm h]

theorem nodup_setEntry (name : String) (value : α) {es : List (String × α)}
    (h : (es.map Prod.fst).Nodup) : ((setEntry name value es).map Prod.fst).Nodup := by
  rw [names_setEntry]
  split
  · exact h
  next hm => exact List.nodup_append.2 ⟨h, by simp, fun a ha b hb => by
      rintro rfl
      exact hm (List.mem_singleton.1 hb ▸ ha)⟩

theorem lookup_setEntry (name other : String) (value : α) (es : List (String × α)) :
    (setEntry name value es).lookup other =
      if other = name then some value else es.lookup other := by
  induction es with
  | nil => simp [setEntry, Entries.lookup_cons]
  | cons e es ih =>
    unfold setEntry
    by_cases h : e.1 = name
    · by_cases ho : other = name <;> simp [Entries.lookup_cons, h, ho]
    · by_cases ho : other = e.1
      · simp [Entries.lookup_cons, h, ho]
      · simp [Entries.lookup_cons, h, ho, ih]

def insert (t : Table α) (name : String) (value : α) : Table α :=
  ⟨setEntry name value t.entries, nodup_setEntry name value t.distinct⟩

/-- The table that holds these entries; of two with one name, the later value at the earlier
place. -/
def ofList (entries : List (String × α)) : Table α :=
  entries.foldl (fun t e => t.insert e.1 e.2) empty

@[simp] theorem get?_empty (name : String) : (empty : Table α).get? name = none := rfl

@[simp] theorem get?_insert (t : Table α) (name other : String) (value : α) :
    (t.insert name value).get? other = if other = name then some value else t.get? other :=
  lookup_setEntry name other value t.entries

theorem names_insert (t : Table α) (name : String) (value : α) :
    (t.insert name value).names = if name ∈ t.names then t.names else t.names ++ [name] :=
  names_setEntry name value t.entries

theorem mem_names_insert {t : Table α} {name other : String} {value : α} :
    other ∈ (t.insert name value).names ↔ other = name ∨ other ∈ t.names := by
  rw [names_insert]
  by_cases h : name ∈ t.names
  · rw [if_pos h]
    exact ⟨.inr, fun ho => ho.elim (fun heq => heq ▸ h) id⟩
  · rw [if_neg h, List.mem_append, List.mem_singleton, or_comm]

theorem mem_names_iff {t : Table α} {name : String} : name ∈ t.names ↔ (t.get? name).isSome :=
  Entries.lookup_isSome_iff.symm

theorem get?_eq_some_iff {t : Table α} {name : String} {value : α} :
    t.get? name = some value ↔ (name, value) ∈ t.entries :=
  Entries.lookup_eq_some_iff t.distinct

theorem get?_foldl_insert (entries : List (String × α)) (t : Table α) (name : String) :
    (entries.foldl (fun t e => t.insert e.1 e.2) t).get? name =
      (entries.reverse.lookup name).or (t.get? name) := by
  induction entries generalizing t with
  | nil => simp
  | cons e es ih =>
    rw [List.foldl_cons, ih, get?_insert, List.reverse_cons, List.lookup_append,
      Entries.lookup_cons, Option.or_assoc]
    by_cases h : name = e.1 <;> simp [h]

/-- Of several entries with one name the last one holds. -/
theorem get?_ofList (entries : List (String × α)) (name : String) :
    (ofList entries).get? name = entries.reverse.lookup name := by
  simp [ofList, get?_foldl_insert]

@[ext] theorem ext_entries {s t : Table α} (h : s.entries = t.entries) : s = t := by
  cases s
  cases t
  simpa using h

theorem setEntry_of_not_mem {name : String} (value : α) {es : List (String × α)}
    (h : name ∉ es.map Prod.fst) : setEntry name value es = es ++ [(name, value)] := by
  induction es with
  | nil => rfl
  | cons e es ih =>
    obtain ⟨hhead, htail⟩ := not_or.1 (mt List.mem_cons.2 h)
    rw [setEntry, if_neg (Ne.symm hhead), ih htail, List.cons_append]

theorem entries_foldl_insert (es : List (String × α)) (t : Table α)
    (distinct : ((t.entries ++ es).map Prod.fst).Nodup) :
    (es.foldl (fun t e => t.insert e.1 e.2) t).entries = t.entries ++ es := by
  induction es generalizing t with
  | nil => simp
  | cons e es ih =>
    have hnew : e.1 ∉ t.entries.map Prod.fst := by
      rw [List.map_append] at distinct
      intro hmem
      exact (List.nodup_append.1 distinct).2.2 _ hmem _ List.mem_cons_self rfl
    have hentries : (t.insert e.1 e.2).entries = t.entries ++ [e] := setEntry_of_not_mem e.2 hnew
    rw [List.foldl_cons, ih _ (by simpa [hentries] using distinct), hentries]
    simp

theorem entries_ofList {es : List (String × α)} (distinct : (es.map Prod.fst).Nodup) :
    (ofList es).entries = es :=
  entries_foldl_insert es empty distinct

@[simp] theorem ofList_entries (t : Table α) : ofList t.entries = t :=
  ext_entries (entries_ofList t.distinct)

end Table

end AttributeProfiles
