/-!
# Entries

Tables and records are lists of entries: a name and what it stands for. This module says how a name
is looked up in such a list; the containers built on it add an order and keep names distinct.
-/

namespace AttributeProfiles.Entries

variable {α : Type}

theorem lookup_cons (name : String) (e : String × α) (es : List (String × α)) :
    (e :: es).lookup name = if name = e.1 then some e.2 else es.lookup name := by
  obtain ⟨n, a⟩ := e
  rw [List.lookup_cons]
  by_cases h : name = n
  · simp [h]
  · simp [h, beq_false_of_ne h]

theorem lookup_isSome_iff {name : String} {es : List (String × α)} :
    (es.lookup name).isSome ↔ name ∈ es.map Prod.fst := by
  induction es with
  | nil => simp
  | cons e es ih =>
    rw [lookup_cons]
    by_cases h : name = e.1 <;> simp [h, ih]

theorem lookup_eq_none_iff {name : String} {es : List (String × α)} :
    es.lookup name = none ↔ name ∉ es.map Prod.fst := by
  rw [← lookup_isSome_iff]
  cases es.lookup name <;> simp

theorem lookup_eq_some_iff {name : String} {a : α} {es : List (String × α)}
    (distinct : (es.map Prod.fst).Nodup) : es.lookup name = some a ↔ (name, a) ∈ es := by
  induction es with
  | nil => simp
  | cons e es ih =>
    obtain ⟨hhead, htail⟩ := List.nodup_cons.1 distinct
    rw [lookup_cons]
    by_cases h : name = e.1
    · subst h
      have hnot : (e.1, a) ∉ es := fun hm => hhead (List.mem_map.2 ⟨_, hm, rfl⟩)
      simp [hnot, Prod.ext_iff, eq_comm]
    · simp [h, ih htail, Prod.ext_iff]

end AttributeProfiles.Entries
