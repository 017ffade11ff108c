import AttributeProfiles.Record

/-!
# Filling and restricting records

Both phases of an import go through a list of attributes and set those that have values. The steps
of such a run have one shape, `Record.supply`, and what a run leaves under a name follows from what
its steps do.
-/

namespace AttributeProfiles.Record

/-- The record with an attribute set to these values, unless there are none. -/
def supply (r : Record) (name : String) (values : List String) : Record :=
  if values = [] then r else r.insert name values

@[simp] theorem supply_nil (r : Record) (name : String) : r.supply name [] = r := by
  simp [supply]

theorem get?_supply (r : Record) (name other : String) (values : List String) :
    (r.supply name values).get? other =
      if other = name ∧ values ≠ [] then some values else r.get? other := by
  by_cases h : values = [] <;> simp [supply, h]

theorem get?_supply_of_ne {r : Record} {name other : String} {values : List String}
    (h : other ≠ name) : (r.supply name values).get? other = r.get? other := by
  simp [get?_supply, h]

theorem isSome_get?_supply {r : Record} {other : String} (name : String) (values : List String)
    (h : (r.get? other).isSome) : ((r.supply name values).get? other).isSome := by
  rw [get?_supply]
  split
  · rfl
  · exact h

theorem supply_comm (r : Record) {name other : String} (hne : name ≠ other)
    (values others : List String) :
    (r.supply name values).supply other others = (r.supply other others).supply name values := by
  apply ext_get?
  intro n
  by_cases hn : n = name
  · subst hn
    rw [get?_supply_of_ne hne, get?_supply, get?_supply, get?_supply_of_ne hne]
  · rw [get?_supply, get?_supply_of_ne hn, get?_supply_of_ne hn, get?_supply]

/-- Under a name, a run over distinct names leaves what the entry of that name supplies, or else
what was there before. -/
theorem get?_foldl_supply {α : Type} (f : α → List String) {es : List (String × α)}
    (distinct : (es.map Prod.fst).Nodup) (r : Record) (name : String) :
    (es.foldl (fun r e => r.supply e.1 (f e.2)) r).get? name =
      if ((es.lookup name).map f).getD [] = [] then r.get? name
      else some (((es.lookup name).map f).getD []) := by
  induction es generalizing r with
  | nil => simp
  | cons e es ih =>
    obtain ⟨hhead, htail⟩ := List.nodup_cons.1 distinct
    rw [List.foldl_cons, ih htail]
    by_cases hn : name = e.1
    · subst hn
      have habsent : es.lookup e.1 = none := Entries.lookup_eq_none_iff.2 hhead
      by_cases hv : f e.2 = [] <;> simp [Entries.lookup_cons, habsent, hv, get?_supply]
    · rw [get?_supply_of_ne hn]
      simp [Entries.lookup_cons, hn]

def restrict (r : Record) (keep : String × List String → Bool) : Record :=
  ⟨r.entries.filter keep, r.ascending.filter keep⟩

theorem get?_restrict (r : Record) (keep : String × List String → Bool) (name : String) :
    (r.restrict keep).get? name = (r.get? name).filter fun values => keep (name, values) := by
  apply Option.ext
  intro values
  rw [get?_eq_some_iff, Option.filter_eq_some_iff, get?_eq_some_iff]
  exact List.mem_filter

end AttributeProfiles.Record
