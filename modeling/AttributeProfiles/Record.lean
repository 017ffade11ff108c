import AttributeProfiles.Entries

/-!
# Internal records

An internal record gives each of its attributes a list of values. Attributes stand in ascending
order of their names, by code point, so a record is determined by what it holds and not by the
order in which it was filled.
-/

namespace AttributeProfiles

/-- A flat record: attribute names in strictly ascending order, each with its values. -/
structure Record where
  entries : List (String × List String)
  ascending : entries.Pairwise (fun a b => a.1 < b.1) := by simp

namespace Record

def empty : Record := ⟨[], .nil⟩

instance : Inhabited Record := ⟨empty⟩

def get? (r : Record) (name : String) : Option (List String) := r.entries.lookup name

def names (r : Record) : List String := r.entries.map Prod.fst

/-- Entries with `name` set to `values`, at its place in the order. -/
def insertEntry (name : String) (values : List String) :
    List (String × List String) → List (String × List String)
  | [] => [(name, values)]
  | e :: es =>
    if name < e.1 then (name, values) :: e :: es
    else if e.1 < name then e :: insertEntry name values es
    else (name, values) :: es

theorem forall_mem_insertEntry {p : String → Prop} {name : String} {values : List String}
    {es : List (String × List String)} (hn : p name) (hes : ∀ e ∈ es, p e.1) :
    ∀ e ∈ insertEntry name values es, p e.1 := by
  induction es with
  | nil => simpa [insertEntry] using hn
  | cons e es ih =>
    have htail : ∀ f ∈ es, p f.1 := fun f hf => hes f (List.mem_cons_of_mem _ hf)
    have hhead : p e.1 := hes e List.mem_cons_self
    unfold insertEntry
    split
    · intro f hf
      rcases List.mem_cons.1 hf with rfl | hf
      · exact hn
      · exact hes f hf
    · split
      · intro f hf
        rcases List.mem_cons.1 hf with rfl | hf
        · exact hhead
        · exact ih htail f hf
      · intro f hf
        rcases List.mem_cons.1 hf with rfl | hf
        · exact hn
        · exact htail f hf

theorem ascending_insertEntry (name : String) (values : List String)
    {es : List (String × List String)} (h : es.Pairwise (fun a b => a.1 < b.1)) :
    (insertEntry name values es).Pairwise (fun a b => a.1 < b.1) := by
  induction es with
  | nil => simp [insertEntry]
  | cons e es ih =>
    obtain ⟨hhead, htail⟩ := List.pairwise_cons.1 h
    unfold insertEntry
    split
    next hlt =>
      refine List.pairwise_cons.2 ⟨fun f hf => ?_, h⟩
      rcases List.mem_cons.1 hf with rfl | hf
      · exact hlt
      · exact String.lt_trans hlt (hhead f hf)
    next hnlt =>
      split
      next hgt =>
        exact List.pairwise_cons.2
          ⟨forall_mem_insertEntry (p := fun n => e.1 < n) hgt hhead, ih htail⟩
      next hngt =>
        have heq : e.1 = name := String.le_antisymm hnlt hngt
        exact List.pairwise_cons.2 ⟨fun f hf => heq ▸ hhead f hf, htail⟩

/-- The record with an attribute set to these values, whether or not it was there. -/
def insert (r : Record) (name : String) (values : List String) : Record :=
  ⟨insertEntry name values r.entries, ascending_insertEntry name values r.ascending⟩

/-- The record that holds these entries, the later ones winning. -/
def ofList (entries : List (String × List String)) : Record :=
  entries.foldl (fun r e => r.insert e.1 e.2) empty

@[simp] theorem get?_empty (name : String) : empty.get? name = none := rfl

theorem lookup_insertEntry (name other : String) (values : List String)
    (es : List (String × List String)) :
    (insertEntry name values es).lookup other =
      if other = name then some values else es.lookup other := by
  induction es with
  | nil => simp [insertEntry, Entries.lookup_cons]
  | cons e es ih =>
    unfold insertEntry
    split
    next => simp [Entries.lookup_cons]
    next hnlt =>
      split
      next hgt =>
        have hne : e.1 ≠ name := String.ne_of_lt hgt
        by_cases ho : other = e.1
        · simp [Entries.lookup_cons, ho, hne]
        · simp [Entries.lookup_cons, ho, ih]
      next hngt =>
        have heq : e.1 = name := String.le_antisymm hnlt hngt
        by_cases ho : other = name <;> simp [Entries.lookup_cons, heq, ho]

@[simp] theorem get?_insert (r : Record) (name other : String) (values : List String) :
    (r.insert name values).get? other = if other = name then some values else r.get? other :=
  lookup_insertEntry name other values r.entries

theorem mem_names_iff {r : Record} {name : String} : name ∈ r.names ↔ (r.get? name).isSome :=
  Entries.lookup_isSome_iff.symm

theorem pairwise_names (r : Record) : r.names.Pairwise (· < ·) := List.pairwise_map.2 r.ascending

theorem nodup_names (r : Record) : r.names.Nodup := r.pairwise_names.imp String.ne_of_lt

theorem get?_eq_some_iff {r : Record} {name : String} {values : List String} :
    r.get? name = some values ↔ (name, values) ∈ r.entries :=
  Entries.lookup_eq_some_iff r.nodup_names

theorem lookup_eq_none_of_lt {name : String} {es : List (String × List String)}
    (h : ∀ e ∈ es, name < e.1) : es.lookup name = none := by
  rw [Entries.lookup_eq_none_iff]
  intro hm
  obtain ⟨e, he, rfl⟩ := List.mem_map.1 hm
  exact String.lt_irrefl _ (h e he)

theorem lookup_eq_none_of_lt_head {name : String} {e : String × List String}
    {es : List (String × List String)} (hlt : name < e.1)
    (h : (e :: es).Pairwise (fun a b => a.1 < b.1)) : (e :: es).lookup name = none := by
  apply lookup_eq_none_of_lt
  intro f hf
  rcases List.mem_cons.1 hf with rfl | hf
  · exact hlt
  · exact String.lt_trans hlt ((List.pairwise_cons.1 h).1 f hf)

theorem eq_of_lookup_eq {es fs : List (String × List String)}
    (hes : es.Pairwise (fun a b => a.1 < b.1)) (hfs : fs.Pairwise (fun a b => a.1 < b.1))
    (h : ∀ name, es.lookup name = fs.lookup name) : es = fs := by
  induction es generalizing fs with
  | nil =>
    cases fs with
    | nil => rfl
    | cons f fs =>
      have hf := h f.1
      simp [Entries.lookup_cons] at hf
  | cons e es ih =>
    cases fs with
    | nil =>
      have he := h e.1
      simp [Entries.lookup_cons] at he
    | cons f fs =>
      have he := h e.1
      have hf := h f.1
      have heq : e.1 = f.1 := by
        apply String.le_antisymm
        · intro hlt
          rw [lookup_eq_none_of_lt_head hlt hes] at hf
          simp [Entries.lookup_cons] at hf
        · intro hlt
          rw [lookup_eq_none_of_lt_head hlt hfs] at he
          simp [Entries.lookup_cons] at he
      have hval : e.2 = f.2 := by simpa [Entries.lookup_cons, heq] using he
      have htail : es = fs := by
        obtain ⟨hbefore, hes⟩ := List.pairwise_cons.1 hes
        obtain ⟨hbefore', hfs⟩ := List.pairwise_cons.1 hfs
        refine ih hes hfs fun name => ?_
        by_cases hn : name = e.1
        · rw [hn, lookup_eq_none_of_lt hbefore, heq, lookup_eq_none_of_lt hbefore']
        · simpa [Entries.lookup_cons, hn, heq ▸ hn] using h name
      rw [htail, Prod.ext heq hval]

theorem ext_get? {r s : Record} (h : ∀ name, r.get? name = s.get? name) : r = s := by
  cases r with
  | mk es hes =>
    cases s with
    | mk fs hfs =>
      have : es = fs := eq_of_lookup_eq hes hfs h
      subst this
      rfl

theorem get?_foldl_insert (entries : List (String × List String)) (r : Record) (name : String) :
    (entries.foldl (fun r e => r.insert e.1 e.2) r).get? name =
      (entries.reverse.lookup name).or (r.get? name) := by
  induction entries generalizing r with
  | nil => simp
  | cons e es ih =>
    rw [List.foldl_cons, ih, get?_insert, List.reverse_cons, List.lookup_append,
      Entries.lookup_cons, Option.or_assoc]
    by_cases h : name = e.1 <;> simp [h]

@[simp] theorem ofList_entries (r : Record) : ofList r.entries = r := by
  have distinct : (r.entries.reverse.map Prod.fst).Nodup := by
    rw [List.map_reverse]
    exact List.pairwise_reverse.2 (r.nodup_names.imp Ne.symm)
  apply ext_get?
  intro name
  apply Option.ext
  intro values
  rw [ofList, get?_foldl_insert, get?_empty, Option.or_none,
    Entries.lookup_eq_some_iff distinct, List.mem_reverse, get?_eq_some_iff]

end Record

end AttributeProfiles
